/- Module: Revice/General/Cell
   digest: Histories of one memory cell: the last write, and reads that return it. -/

import Mathlib.Tactic.Common

set_option autoImplicit false
set_option relaxedAutoImplicit false

namespace Revice.General

structure CellEvent (ι β : Type*) where
  cell : ι
  value : β
  write : Bool

section Cell

variable {ι β : Type*} [DecidableEq ι] (i : ι)

/-- What a history leaves in a cell that holds `b` at its beginning. -/
def lastWritten (b : β) (events : List (CellEvent ι β)) : β :=
  events.foldl (fun b e => if e.cell = i ∧ e.write = true then e.value else b) b

def Coherent : β → List (CellEvent ι β) → Prop
  | _, [] => True
  | b, e :: events =>
    (e.cell = i → e.write = false → e.value = b) ∧ Coherent (lastWritten i b [e]) events

theorem lastWritten_append (b : β) (first later : List (CellEvent ι β)) :
    lastWritten i b (first ++ later) = lastWritten i (lastWritten i b first) later :=
  List.foldl_append

private theorem coherent_append (b : β) (first later : List (CellEvent ι β)) :
    Coherent i b (first ++ later) ↔
      Coherent i b first ∧ Coherent i (lastWritten i b first) later := by
  induction first generalizing b with
  | nil => simp [Coherent, lastWritten]
  | cons e first ih =>
    have step : lastWritten i b (e :: first) = lastWritten i (lastWritten i b [e]) first := rfl
    rw [List.cons_append, Coherent, Coherent, ih, step, and_assoc]

theorem Coherent.read {b : β} {before after : List (CellEvent ι β)} {e : CellEvent ι β}
    (coherent : Coherent i b (before ++ e :: after)) (here : e.cell = i) (read : e.write = false) :
    e.value = lastWritten i b before :=
  ((coherent_append i b before (e :: after)).mp coherent).2.1 here read

end Cell

end Revice.General

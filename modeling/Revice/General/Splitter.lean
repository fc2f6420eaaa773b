/- Module: Revice/General/Splitter
   digest: Cutting a symbol stream into delimited messages, from any state of the reader. -/

import Revice.General.Machine

/-!
A reader of a stream keeps at most one open message. A start symbol opens a new
one and drops what was open, a stop symbol completes it, an aborting symbol
drops it, and a transparent symbol is not seen at all. Whatever the reader was
in the middle of, a run of delimited messages comes out as exactly these.
-/

set_option autoImplicit false
set_option relaxedAutoImplicit false

namespace Revice.General

inductive Role
  | start | data | stop | transparent | abort
  deriving DecidableEq

variable {β : Type*}

def splitter (role : β → Role) : Machine (Option (List β)) β (List β) where
  step opened b :=
    match role b, opened with
    | .transparent, opened => (opened, [])
    | .start, _ => (some [b], [])
    | .data, some message => (some (message ++ [b]), [])
    | .stop, some message => (none, [message ++ [b]])
    | .data, none => (none, [])
    | .stop, none => (none, [])
    | .abort, _ => (none, [])
  enabled := fun _ _ => True

/-- One start symbol, data symbols, one stop symbol. -/
structure Delimited (role : β → Role) (message : List β) : Prop where
  shape : ∃ first body last, message = first :: (body ++ [last]) ∧ role first = .start ∧
    (∀ b ∈ body, role b = .data) ∧ role last = .stop

namespace splitter

variable {role : β → Role}

private theorem step_transparent {b : β} (quiet : role b = .transparent)
    (opened : Option (List β)) :
    (splitter role).step opened b = (opened, []) := by
  simp only [splitter, quiet]

private theorem step_start {b : β} (starts : role b = .start) (opened : Option (List β)) :
    (splitter role).step opened b = (some [b], []) := by
  simp only [splitter, starts]

private theorem step_data {b : β} (inside : role b = .data) (message : List β) :
    (splitter role).step (some message) b = (some (message ++ [b]), []) := by
  simp only [splitter, inside]

private theorem step_stop {b : β} (stops : role b = .stop) (message : List β) :
    (splitter role).step (some message) b = (none, [message ++ [b]]) := by
  simp only [splitter, stops]

private theorem body_run {body : List β} (inside : ∀ b ∈ body, role b = .data) (message : List β) :
    (splitter role).exec (some message) body = some (message ++ body) ∧
      (splitter role).emitted (some message) body = [] := by
  induction body generalizing message with
  | nil => simp
  | cons b body ih =>
    obtain ⟨first, rest⟩ := List.forall_mem_cons.mp inside
    rw [Machine.exec_cons, Machine.emitted_cons, step_data first]
    obtain ⟨state, silent⟩ := ih rest (message ++ [b])
    exact ⟨state.trans (by rw [List.append_assoc]; rfl), silent⟩

private theorem message_run {message : List β} (delimited : Delimited role message)
    (opened : Option (List β)) :
    (splitter role).exec opened message = none ∧
      (splitter role).emitted opened message = [message] := by
  obtain ⟨first, body, last, rfl, starts, inside, stops⟩ := delimited.shape
  obtain ⟨state, silent⟩ := body_run inside [first]
  rw [Machine.exec_cons, Machine.emitted_cons, step_start starts, Machine.exec_append,
    Machine.emitted_append, state, silent, Machine.exec_cons, Machine.emitted_cons,
    step_stop stops]
  exact ⟨rfl, rfl⟩

/-- A run of delimited messages comes out as exactly these, from any state. -/
theorem messages_run {messages : List (List β)}
    (delimited : ∀ message ∈ messages, Delimited role message) (opened : Option (List β)) :
    (splitter role).emitted opened messages.flatten = messages := by
  induction messages generalizing opened with
  | nil => rfl
  | cons message messages ih =>
    obtain ⟨first, rest⟩ := List.forall_mem_cons.mp delimited
    obtain ⟨state, whole⟩ := message_run first opened
    rw [List.flatten_cons, Machine.emitted_append, whole, state, ih rest]
    rfl

theorem emitted_transparent (opened : Option (List β)) (stream : List β) :
    (splitter role).emitted opened stream =
      (splitter role).emitted opened (stream.filter fun b => role b ≠ .transparent) := by
  induction stream generalizing opened with
  | nil => rfl
  | cons b stream ih =>
    by_cases quiet : role b = .transparent
    · rw [List.filter_cons_of_neg (by simp [quiet]), Machine.emitted_cons,
        step_transparent quiet]
      exact ih opened
    · rw [List.filter_cons_of_pos (by simp [quiet]), Machine.emitted_cons, Machine.emitted_cons,
        ih]

end splitter

end Revice.General

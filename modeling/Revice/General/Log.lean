/- Module: Revice/General/Log
   digest: Programs that append to a log, and the rules for what they log. -/

import Mathlib.Tactic.Common

set_option autoImplicit false
set_option relaxedAutoImplicit false

namespace Revice.General

/-- A program with a result whose only effect is to log events. -/
abbrev Logged (ε α : Type) := StateM (List ε) α

variable {ε α β : Type}

def note (e : ε) : Logged ε Unit := modify (· ++ [e])

def Logged.events (program : Logged ε α) : List ε := (program.run []).2

/-- From every log on, the program returns `a` and appends `events`. -/
def Logs (program : Logged ε α) (a : α) (events : List ε) : Prop :=
  ∀ log, program.run log = (a, log ++ events)

theorem Logs.events_eq {program : Logged ε α} {a : α} {events : List ε}
    (logs : Logs program a events) : program.events = events := by
  rw [Logged.events, logs []]
  rfl

private theorem logs_pure (a : α) : Logs (pure a : Logged ε α) a [] := by
  intro log
  rw [List.append_nil]
  rfl

theorem logs_note (e : ε) : Logs (note e) () [e] := by
  intro log
  rfl

theorem Logs.bind {program : Logged ε α} {next : α → Logged ε β} {a : α} {b : β}
    {events later : List ε} (first : Logs program a events) (second : Logs (next a) b later) :
    Logs (program >>= next) b (events ++ later) := by
  intro log
  rw [StateT.run_bind, first log]
  change (next a).run _ = _
  rw [second, List.append_assoc]

theorem logs_forM {rounds : List α} {body : α → Logged ε Unit} {events : α → List ε}
    (each : ∀ a ∈ rounds, Logs (body a) () (events a)) :
    Logs (rounds.forM body) () (rounds.flatMap events) := by
  induction rounds with
  | nil => exact logs_pure ()
  | cons a rounds ih =>
    rw [List.forM_eq_forM, List.forM_cons, List.flatMap_cons]
    have rest := ih fun b member => each b (List.mem_cons_of_mem a member)
    exact (each a List.mem_cons_self).bind rest

end Revice.General

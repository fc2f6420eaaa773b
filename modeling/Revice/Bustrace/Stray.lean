/- Module: Revice/Bustrace/Stray
   source: libs/bustrace/src/bustrace_core.c, libs/bustrace/include/revice_bustrace.h
   digest: When the running sum of the deltas survives cycles that go back. -/

import Revice.Bustrace.Reader

set_option autoImplicit false
set_option relaxedAutoImplicit false

namespace Revice.Bustrace

open Revice.General

def fedRecords (cyclesPerSec : U64) (accesses : List Access) : List Record :=
  (bustraceMachine.emitted (reviceBustraceBegin cyclesPerSec true).1 accesses).map readRecord

def deltaSum (records : List Record) : Nat := (records.map fun r => r.cycleDelta.toNat).sum

/-- No forward step, the first one counted from `start`, overflows a record's delta. -/
def ForwardFits (start : Nat) (accesses : List Access) : Prop :=
  (start :: accesses.map fun a => a.cycle.toNat).IsChain fun previous cycle =>
    cycle - previous ≤ 0xffffffff

instance (start : Nat) (accesses : List Access) : Decidable (ForwardFits start accesses) :=
  inferInstanceAs (Decidable (List.IsChain _ _))

def NeverBack (accesses : List Access) : Prop :=
  (accesses.map fun a => a.cycle.toNat).IsChain (· ≤ ·)

/-- All backwards steps together. -/
private def lostCycles : Nat → List Access → Nat
  | _, [] => 0
  | previous, a :: as => previous - a.cycle.toNat + lostCycles a.cycle.toNat as

private theorem readRecord_recordChunks (lastCycle : U64) (accesses : List Access) :
    (recordChunks lastCycle accesses).map readRecord = recordsOf lastCycle accesses := by
  induction accesses generalizing lastCycle with
  | nil => rfl
  | cons a as ih =>
    rw [recordChunks, List.map_cons, ih, readRecord_recordBytes]
    rfl

private theorem fedRecords_eq (cyclesPerSec : U64) (accesses : List Access) :
    fedRecords cyclesPerSec accesses = recordsOf 0 accesses := by
  have run := @run_access (reviceBustraceBegin cyclesPerSec true).1 rfl rfl accesses
  rw [fedRecords, run.1]
  exact readRecord_recordChunks 0 accesses

private theorem take_recordsOf (lastCycle : U64) (accesses later : List Access) :
    (recordsOf lastCycle (accesses ++ later)).take accesses.length =
      recordsOf lastCycle accesses := by
  induction accesses generalizing lastCycle with
  | nil => rfl
  | cons a as ih => simp [recordsOf, ih]

private theorem deltaSum_recordsOf (lastCycle : U64) {before : List Access} {a : Access}
    (fit : ForwardFits lastCycle.toNat (before ++ [a])) :
    lastCycle.toNat + deltaSum (recordsOf lastCycle (before ++ [a])) =
      a.cycle.toNat + lostCycles lastCycle.toNat (before ++ [a]) := by
  induction before generalizing lastCycle with
  | nil =>
    have step : a.cycle.toNat - lastCycle.toNat ≤ 0xffffffff := (List.isChain_cons_cons.mp fit).1
    simp only [List.nil_append, recordsOf, deltaSum, List.map_cons, List.map_nil, List.sum_cons,
      List.sum_nil, recordOf, cycleDelta_toNat, lostCycles]
    split <;> omega
  | cons b bs ih =>
    have step : b.cycle.toNat - lastCycle.toNat ≤ 0xffffffff := (List.isChain_cons_cons.mp fit).1
    have later := ih b.cycle (List.isChain_cons_cons.mp fit).2
    simp only [List.cons_append, recordsOf, deltaSum, List.map_cons, List.sum_cons, recordOf,
      cycleDelta_toNat, lostCycles] at later ⊢
    split <;> omega

private theorem lostCycles_eq_zero_iff (previous : Nat) (accesses : List Access) :
    lostCycles previous accesses = 0 ↔
      (previous :: accesses.map fun a => a.cycle.toNat).IsChain (· ≤ ·) := by
  induction accesses generalizing previous with
  | nil => simp [lostCycles]
  | cons a as ih =>
    rw [lostCycles, List.map_cons, List.isChain_cons_cons, ← ih]
    omega

private theorem ForwardFits.of_append {start : Nat} {accesses later : List Access}
    (fit : ForwardFits start (accesses ++ later)) : ForwardFits start accesses := by
  rw [ForwardFits, List.map_append, ← List.cons_append] at fit
  exact fit.left_of_append

private theorem lostCycles_highest {before : List Access} {a : Access}
    (highest : ∀ b ∈ before, b.cycle.toNat ≤ a.cycle.toNat) :
    lostCycles 0 (before ++ [a]) = 0 ↔ NeverBack before := by
  rw [lostCycles_eq_zero_iff, List.map_append, List.map_singleton, ← List.cons_append,
    List.isChain_append]
  constructor
  · rintro ⟨chain, -, -⟩
    exact chain.tail
  · intro never
    refine ⟨?_, List.isChain_singleton _, ?_⟩
    · refine List.isChain_cons.mpr ⟨fun first _ => Nat.zero_le first, never⟩
    · intro last atEnd cycle atStart
      obtain rfl : a.cycle.toNat = cycle := by simpa using atStart
      have member := List.mem_of_mem_getLast? atEnd
      rcases List.mem_cons.mp member with rfl | fed
      · exact Nat.zero_le _
      · obtain ⟨b, earlier, rfl⟩ := List.mem_map.mp fed
        exact highest b earlier

/-- At a cycle that no earlier one exceeds, the running sum is the absolute cycle exactly if no
backwards step came before it: the guard leaves the stray cycle behind as the next baseline. -/
theorem running_sum_highest (cyclesPerSec : U64) (accesses before after : List Access) (a : Access)
    (fit : ForwardFits 0 accesses) (fed : accesses = before ++ a :: after)
    (highest : ∀ b ∈ before, b.cycle.toNat ≤ a.cycle.toNat) :
    deltaSum ((fedRecords cyclesPerSec accesses).take (before.length + 1)) = a.cycle.toNat ↔
      NeverBack before := by
  have split : accesses = (before ++ [a]) ++ after := by rw [fed, List.append_assoc]; rfl
  have seen : (fedRecords cyclesPerSec accesses).take (before.length + 1) =
      recordsOf 0 (before ++ [a]) := by
    have taken := take_recordsOf 0 (before ++ [a]) after
    rw [List.length_append, List.length_singleton] at taken
    rw [fedRecords_eq, split, taken]
  have sum : 0 + deltaSum (recordsOf 0 (before ++ [a])) =
      a.cycle.toNat + lostCycles 0 (before ++ [a]) :=
    deltaSum_recordsOf 0 (split ▸ fit : ForwardFits 0 _).of_append
  rw [seen, ← lostCycles_highest highest]
  omega

theorem running_sum_highest_25 :
    deltaSum
        ((fedRecords 985248 [⟨10, 0, 0, 0, 0⟩, ⟨25, 1, 2, 3, 4⟩, ⟨25, 5, 6, 7, 8⟩]).take 2) = 25 ↔
      NeverBack [⟨10, 0, 0, 0, 0⟩] := by
  exact running_sum_highest 985248 _ [⟨10, 0, 0, 0, 0⟩] [⟨25, 5, 6, 7, 8⟩] ⟨25, 1, 2, 3, 4⟩
    (by decide) rfl (by decide)

/-- After 100, 50, 100 the sum of the deltas stands at 150. -/
theorem stray_shifts : ¬ ∀ (cyclesPerSec : U64) (accesses before after : List Access) (a : Access),
    ForwardFits 0 accesses → accesses = before ++ a :: after →
      (∀ b ∈ before, b.cycle.toNat ≤ a.cycle.toNat) →
        deltaSum ((fedRecords cyclesPerSec accesses).take (before.length + 1)) = a.cycle.toNat := by
  intro claim
  have shifted := claim 985248 [⟨100, 0, 0, 0, 0⟩, ⟨50, 0, 0, 0, 0⟩, ⟨100, 0, 0, 0, 0⟩]
    [⟨100, 0, 0, 0, 0⟩, ⟨50, 0, 0, 0, 0⟩] [] ⟨100, 0, 0, 0, 0⟩ (by decide) rfl (by decide)
  revert shifted
  decide +kernel

end Revice.Bustrace

/- Module: Revice/Keymatrix/Held
   source: libs/keymatrix/src/keymatrix_core.c
   digest: When the tracked keys are really down in the live matrix. -/

import Revice.Keymatrix.Matrix

set_option autoImplicit false
set_option relaxedAutoImplicit false

namespace Revice.Keymatrix

open Revice.General

/-- Every key of the active injection has its bit set in the live matrix. -/
def TrackedHeld (sys : KmSys) : Prop :=
  ∀ cell, Tracked sys.km cell → sys.env.matrix cell = true

/-- The operation does not leave a tracked place poked or SET to 0. -/
def SparesTracked (sys : KmSys) (tick : KmTick) : Prop :=
  ∀ cell, Tracked sys.km cell → tick.op.rawWrite cell ≠ some false

private theorem trackedHeld_init : TrackedHeld kmSysInit := by
  rintro cell ⟨active, _⟩
  cases active

variable {sys : KmSys} {tick : KmTick}

private theorem trackedHeld_step (held : TrackedHeld sys) :
    TrackedHeld (kmStep sys tick).1 ↔ SparesTracked sys tick := by
  by_cases raw : ∃ writes, tick.op.action = .raw writes
  · obtain ⟨writes, action⟩ := raw
    constructor
    · intro after cell tracked cleared
      have set := after cell ((tracked_raw action).mpr tracked)
      rw [matrix_raw action, cleared] at set
      cases set
    · intro spares cell tracked
      have before := (tracked_raw action).mp tracked
      rw [matrix_raw action]
      cases wrote : tick.op.rawWrite cell with
      | none => exact held cell before
      | some value =>
        cases value with
        | true => rfl
        | false => exact absurd wrote (spares cell before)
  · have plain : ∀ writes, tick.op.action ≠ .raw writes := by
      intro writes action
      exact raw ⟨writes, action⟩
    constructor
    · intro _ cell _ cleared
      rw [rawWrite_plain plain] at cleared
      cases cleared
    · intro _ cell tracked
      exact tracked_step plain (held cell) tracked

/-- Tracked keys are really held in every state of a run exactly when no poke or
SET leaves a place at 0 that is tracked at the time. -/
theorem tracked_keys_held (ticks : List KmTick) :
    (∀ before, before <+: ticks → TrackedHeld (kmRun before)) ↔
      ∀ before tick, before ++ [tick] <+: ticks → SparesTracked (kmRun before) tick :=
  kmMachine.exec_prefix_iff (fun _ _ held => trackedHeld_step held) trackedHeld_init ticks

def tapThenClear : List KmTick :=
  [⟨0, 19656, .binmonTap [0, 60, 0, 1, 2, 2]⟩, ⟨1, 19656, .binmonSet [1, 2, 2, 0]⟩]

/-- The key is tracked and up, and the next scan of its row still counts as observed. -/
theorem tracked_key_not_held :
    let sys := kmRun tapThenClear
    sys.km.active = true ∧ sys.km.keys.map KmKey.cell = [(2, 2)] ∧
      sys.env.matrix (2, 2) = false ∧
      (kmStep sys ⟨2, 19656, .paRead 0xfb⟩).1.km.lastReason = .observed ∧ ¬TrackedHeld sys := by
  intro sys
  refine ⟨by decide, by decide, by decide, by decide, ?_⟩
  intro held
  have set := held (2, 2) ⟨by decide, by decide⟩
  revert set
  decide

end Revice.Keymatrix

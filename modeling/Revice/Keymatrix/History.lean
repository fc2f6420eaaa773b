/- Module: Revice/Keymatrix/History
   digest: What an injection keeps from its start, and what its end leaves behind. -/

import Revice.Keymatrix.Matrix
import Revice.Keymatrix.Observe

set_option autoImplicit false
set_option relaxedAutoImplicit false

namespace Revice.Keymatrix

open Revice.General

def KmOp.isHook (op : KmOp) : Bool :=
  match op.action with
  | .scan _ _ => true
  | _ => false

def KmOp.isAlarm (op : KmOp) : Bool :=
  match op.action with
  | .fire => true
  | _ => false

theorem isAlarm_iff {op : KmOp} : op.isAlarm = true ↔ op.action = .fire := by
  rw [KmOp.isAlarm]
  cases op.action <;> simp

/-- A hook call that samples a tracked key by the hook's own test. -/
def samplesAt (sys : KmSys) (tick : KmTick) : Bool :=
  match tick.op.action with
  | .scan port mask => scanSamples port.coord sys.km.keys mask
  | _ => false

theorem scan_of_samples {sys : KmSys} {tick : KmTick} (samples : samplesAt sys tick = true) :
    ∃ port mask, tick.op.action = .scan port mask := by
  rw [samplesAt] at samples
  cases action : tick.op.action with
  | scan port mask => exact ⟨port, mask, rfl⟩
  | _ => simp [action] at samples

/-- The reads and the pending reason after an operation that keeps the injection. -/
structure Continues (sys : KmSys) (tick : KmTick) (next : KmCore) : Prop where
  active : sys.km.active = true
  mode : next.mode = sys.km.mode
  timeoutClk : next.timeoutClk = sys.km.timeoutClk
  pressClk : next.pressClk = sys.km.pressClk
  total : next.cia1ReadsTotal = sys.km.cia1ReadsTotal + if tick.op.isHook then 1 else 0
  sampling : next.cia1ReadsSampling =
    sys.km.cia1ReadsSampling + if samplesAt sys tick then 1 else 0
  lastReason : next.lastReason =
    if sys.km.mode = .tapObserved ∧ sys.km.lastReason = .none ∧ samplesAt sys tick then .observed
    else sys.km.lastReason

variable {sys : KmSys} {tick : KmTick}

theorem Continues.quiet (tick : KmTick) (active : sys.km.active = true)
    (plain : ∀ port mask, tick.op.action ≠ .scan port mask) (keys : List KmKey) :
    Continues sys tick { sys.km with keys := keys } := by
  have hook : tick.op.isHook = false := by
    rw [KmOp.isHook]
    split
    · rename_i scan
      exact absurd scan (plain _ _)
    · rfl
  have missed : samplesAt sys tick = false := by
    rw [← Bool.not_eq_true]
    intro samples
    obtain ⟨port, mask, scan⟩ := scan_of_samples samples
    exact plain port mask scan
  exact ⟨active, rfl, rfl, rfl, by simp [hook], by simp [missed], by simp [missed]⟩

theorem Continues.scan (active : sys.km.active = true) {port : CiaPort} {mask : U8}
    (action : tick.op.action = .scan port mask) (host : KmHost) :
    Continues sys tick (kmScan port.coord host mask sys.km).1 := by
  have hook : tick.op.isHook = true := by simp [KmOp.isHook, action]
  cases sampled : scanSamples port.coord sys.km.keys mask with
  | false =>
    have missed : samplesAt sys tick = false := by simp [samplesAt, action, sampled]
    rw [kmScan_missed active sampled]
    exact ⟨active, rfl, rfl, rfl, by simp [hook], by simp [missed], by simp [missed]⟩
  | true =>
    have counted : samplesAt sys tick = true := by simp [samplesAt, action, sampled]
    by_cases first : sys.km.mode = .tapObserved ∧ sys.km.lastReason = .none
    · rw [kmScan_first active sampled first]
      exact ⟨active, rfl, rfl, rfl, by simp [hook], by simp [counted], by simp [counted, first]⟩
    · rw [kmScan_later active sampled first]
      refine ⟨active, rfl, rfl, rfl, by simp [hook], by simp [counted], ?_⟩
      rw [if_neg fun both => first ⟨both.1, both.2.1⟩]

theorem continues_step (plain : tick.op.starts = false)
    (active : (kmStep sys tick).1.km.active = true) :
    Continues sys tick (kmStep sys tick).1.km := by
  rw [kmStep_eq] at active ⊢
  cases action : tick.op.action with
  | none =>
    rw [action] at active
    have before : sys.km.active = true := active
    exact Continues.quiet tick before (by simp [action]) sys.km.keys
  | start injection => simp [KmOp.starts, action] at plain
  | releaseAll =>
    rw [action] at active
    simp [KmSys.act, KmAction.perform, active_released] at active
  | releaseListed listed =>
    rw [action] at active
    simp only [KmSys.act, KmAction.perform] at active ⊢
    by_cases ends : sys.km.active = true ∧ survivingKeys sys.km.keys listed = []
    · rw [releaseListed_ends ends.1 ends.2] at active
      cases active
    · rw [releaseListed_survives (by simpa [or_iff_not_imp_left] using ends)] at active ⊢
      cases before : sys.km.active with
      | false =>
        simp only [before, Bool.false_eq_true, if_false] at active
      | true =>
        simpa [before] using Continues.quiet tick before (by simp [action])
          (survivingKeys sys.km.keys listed)
  | raw writes =>
    rw [action] at active
    have before : sys.km.active = true := active
    exact Continues.quiet tick before (by simp [action]) sys.km.keys
  | scan port mask =>
    rw [action] at active
    simp only [KmSys.act, KmAction.perform] at active ⊢
    cases before : sys.km.active with
    | false =>
      rw [kmScan_idle before] at active
      simp [before] at active
    | true => exact Continues.scan before action _
  | fire =>
    rw [action] at active
    simp [KmSys.act, KmAction.perform, kmCoreOnAlarm, active_released] at active

theorem started_step (sys : KmSys) {injection : Injection}
    (action : tick.op.action = .start injection) :
    ∃ timeoutClk, (kmStep sys tick).1.km =
        (kmReleaseNow (sys.env.host tick.now tick.cyclesPerFrame) .manual sys.km).1.started
          injection tick.now timeoutClk ∧
      ∀ frames ∈ injection.frames,
        timeoutClk = deadline (sys.env.host tick.now tick.cyclesPerFrame) frames := by
  rw [kmStep_eq, action]
  simp only [KmSys.act, KmAction.perform, kmStart_eq]
  cases frames : injection.frames with
  | none => exact ⟨_, rfl, by simp⟩
  | some n => exact ⟨_, rfl, by simp⟩

/-- What the last report says about an injection that has just ended. -/
structure Reports (sys : KmSys) (tick : KmTick) (last : KmLast) : Prop where
  valid : last.valid = true
  reason : last.reason = if sys.km.lastReason ≠ .none then sys.km.lastReason
    else if tick.op.isAlarm then .timeout else .manual
  mode : last.mode = sys.km.mode
  total : last.cia1ReadsTotal = sys.km.cia1ReadsTotal
  sampling : last.cia1ReadsSampling = sys.km.cia1ReadsSampling
  framesHeld : last.framesHeld =
    framesHeld (sys.env.host tick.now tick.cyclesPerFrame) sys.km.pressClk

theorem Reports.manual (plain : tick.op.isAlarm = false) (keys : List KmKey) :
    Reports sys tick (endReport (sys.env.host tick.now tick.cyclesPerFrame) .manual
      { sys.km with keys := keys }) :=
  ⟨rfl, by simp [endReport, plain], rfl, rfl, rfl, rfl⟩

theorem last_started (km : KmCore) (injection : Injection) (now timeoutClk : U64) :
    (km.started injection now timeoutClk).last = km.last := rfl

theorem ends_step (ends : Ends sys tick) : Reports sys tick (kmStep sys tick).1.km.last := by
  obtain ⟨active, finishes⟩ := ends
  have step := kmStep_eq sys tick
  cases action : tick.op.action with
  | start injection =>
    obtain ⟨timeoutClk, started, _⟩ := started_step sys action
    rw [started, last_started, releaseNow_active active]
    exact Reports.manual (by simp [KmOp.isAlarm, action]) sys.km.keys
  | releaseAll =>
    rw [step, action]
    simp only [KmSys.act, KmAction.perform, releaseNow_active active]
    exact Reports.manual (by simp [KmOp.isAlarm, action]) sys.km.keys
  | releaseListed listed =>
    rw [step, action]
    simp only [KmSys.act, KmAction.perform]
    by_cases none_left : survivingKeys sys.km.keys listed = []
    · rw [releaseListed_ends active none_left]
      exact Reports.manual (by simp [KmOp.isAlarm, action]) []
    · -- with a survivor the injection goes on
      rw [step, action] at finishes
      simp [KmOp.starts, action, KmSys.act, KmAction.perform,
        releaseListed_survives (Or.inr none_left), active] at finishes
  | fire =>
    rw [step, action]
    simp only [KmSys.act, KmAction.perform, kmCoreOnAlarm, releaseNow_active active]
    refine ⟨rfl, ?_, rfl, rfl, rfl, rfl⟩
    simp only [KmCore.ended, endReport, KmOp.isAlarm, action, if_true]
    split <;> rfl
  | none =>
    rw [step, action] at finishes
    simp [KmOp.starts, action, KmSys.act, KmAction.perform, active] at finishes
  | raw writes =>
    rw [step, action] at finishes
    simp [KmOp.starts, action, KmSys.act, KmAction.perform, active] at finishes
  | scan port mask =>
    obtain ⟨_, _, _, frame, _⟩ := kmScan_frame port.coord
      (sys.env.host tick.now tick.cyclesPerFrame) mask sys.km
    rw [step, action] at finishes
    simp [KmOp.starts, action, KmSys.act, KmAction.perform, frame, active] at finishes

theorem idle_step (plain : tick.op.starts = false) (idle : sys.km.active = false) :
    (kmStep sys tick).1.km = sys.km := by
  rw [kmStep_eq]
  cases action : tick.op.action with
  | start injection => simp [KmOp.starts, action] at plain
  | releaseListed listed =>
    simp [KmSys.act, KmAction.perform, releaseListed_survives (Or.inl idle), idle]
  | scan port mask => simp [KmSys.act, KmAction.perform, kmScan_idle idle]
  | releaseAll => simp [KmSys.act, KmAction.perform, releaseNow_idle idle]
  | fire => simp [KmSys.act, KmAction.perform, kmCoreOnAlarm, releaseNow_idle idle]
  | _ => rfl

end Revice.Keymatrix

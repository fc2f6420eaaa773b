/- Module: Revice/Keymatrix/Clock
   source: libs/keymatrix/src/keymatrix_core.c, libs/keymatrix/include/revice_keymatrix.h
   digest: Under the host's rule of time no tap is held too long or let go too early. -/

import Revice.Keymatrix.Timeout

set_option autoImplicit false
set_option relaxedAutoImplicit false

namespace Revice.Keymatrix

open Revice.General

structure KmTimed where
  sys : KmSys
  clock : U64

/-- The clock can have this reading now: it never goes back, and it does not pass
the clock of an armed alarm. -/
def KmTimed.Allows (s : KmTimed) (now : U64) : Prop :=
  s.clock.toNat ≤ now.toNat ∧ ∀ clk ∈ s.sys.env.alarm, now.toNat ≤ clk.toNat

/-- The host's rule of time: the alarm callback runs when the alarm is armed and
due, everything else at a clock that is allowed, and no deadline overflows. -/
structure KmTimed.Enabled (s : KmTimed) (tick : KmTick) : Prop where
  forwards : s.clock.toNat ≤ tick.now.toNat
  due : tick.op.isAlarm = true → ∃ clk ∈ s.sys.env.alarm, clk.toNat ≤ tick.now.toNat
  intime : tick.op.isAlarm = false → ∀ clk ∈ s.sys.env.alarm, tick.now.toNat ≤ clk.toNat
  fits : ∀ injection, tick.op.action = .start injection → ∀ frames ∈ injection.frames,
    tick.now.toNat + frames.toNat * tick.frameLength.toNat < 2 ^ 64

def kmTimedMachine : Machine KmTimed KmTick HostCall where
  step s tick := (⟨(kmStep s.sys tick).1, tick.now⟩, (kmStep s.sys tick).2)
  enabled := KmTimed.Enabled

def kmTimedRun (boot : U64) (ticks : List KmTick) : KmTimed :=
  kmTimedMachine.exec ⟨kmSysInit, boot⟩ ticks

def KmTimedLegal (boot : U64) (ticks : List KmTick) : Prop :=
  kmTimedMachine.Legal ⟨kmSysInit, boot⟩ ticks

private theorem timedRun_snoc (boot : U64) (ticks : List KmTick) (tick : KmTick) :
    kmTimedRun boot (ticks ++ [tick]) =
      ⟨(kmStep (kmTimedRun boot ticks).sys tick).1, tick.now⟩ :=
  kmTimedMachine.exec_snoc _ _ _

private theorem timedRun_sys (boot : U64) (ticks : List KmTick) :
    (kmTimedRun boot ticks).sys = kmRun ticks := by
  induction ticks using List.reverseRecOn with
  | nil => rfl
  | append_singleton ticks tick ih => rw [timedRun_snoc, kmRun_snoc, ih]

private theorem legal_fits {boot : U64} {ticks : List KmTick} (legal : KmTimedLegal boot ticks)
    {start : KmTick} (member : start ∈ ticks) {injection : Injection}
    (action : start.op.action = .start injection) {frames : Int}
    (framed : injection.frames = some frames) :
    start.now.toNat + frames.toNat * start.frameLength.toNat < 2 ^ 64 := by
  obtain ⟨before, _, enabled⟩ := kmTimedMachine.enabled_of_mem legal member
  exact KmTimed.Enabled.fits enabled injection action frames framed

variable {sys : KmSys} {tick : KmTick}

/-- The read that an observed tap waits for. -/
def FirstSample (sys : KmSys) (tick : KmTick) : Prop :=
  sys.km.mode = .tapObserved ∧ sys.km.lastReason = .none ∧ samplesAt sys tick = true

instance : Decidable (FirstSample sys tick) := by
  unfold FirstSample
  infer_instance

private theorem not_firstSample (plain : ∀ port mask, tick.op.action ≠ .scan port mask) :
    ¬FirstSample sys tick := by
  rintro ⟨_, _, sampled⟩
  obtain ⟨port, mask, scan⟩ := scan_of_samples sampled
  exact plain port mask scan

private theorem alarm_step (plain : tick.op.starts = false)
    (active : (kmStep sys tick).1.km.active = true) :
    (kmStep sys tick).1.env.alarm =
      if FirstSample sys tick then some (tick.now + 1) else sys.env.alarm := by
  rw [kmStep_eq] at active ⊢
  cases action : tick.op.action with
  | none =>
    rw [if_neg (not_firstSample (by simp [action]))]
    rfl
  | start injection => simp [KmOp.starts, action] at plain
  | releaseAll =>
    rw [action] at active
    simp [KmSys.act, KmAction.perform, active_released] at active
  | releaseListed listed =>
    rw [if_neg (not_firstSample (by simp [action]))]
    rw [action] at active
    simp only [KmSys.act, KmAction.perform] at active ⊢
    by_cases ends : sys.km.active = true ∧ survivingKeys sys.km.keys listed = []
    · rw [releaseListed_ends ends.1 ends.2] at active
      cases active
    · rw [releaseListed_survives (by simpa [or_iff_not_imp_left] using ends), run_applyBits]
  | raw writes =>
    rw [if_neg (not_firstSample (by simp [action]))]
    simp only [KmSys.act, KmAction.perform, run_writes]
  | scan port mask =>
    rw [action] at active
    simp only [KmSys.act, KmAction.perform] at active ⊢
    cases before : sys.km.active with
    | false =>
      rw [kmScan_idle before] at active
      simp [before] at active
    | true =>
      cases sampled : scanSamples port.coord sys.km.keys mask with
      | false =>
        have missed : ¬FirstSample sys tick := by simp [FirstSample, samplesAt, action, sampled]
        rw [kmScan_missed before sampled, if_neg missed]
        rfl
      | true =>
        by_cases first : sys.km.mode = .tapObserved ∧ sys.km.lastReason = .none
        · have counts : FirstSample sys tick := by
            simp [FirstSample, samplesAt, action, sampled, first]
          rw [kmScan_first before sampled first, if_pos counts]
          rfl
        · have later : ¬FirstSample sys tick := fun both => first ⟨both.1, both.2.1⟩
          rw [kmScan_later before sampled first, if_neg later]
          rfl
  | fire =>
    rw [action] at active
    simp [KmSys.act, KmAction.perform, kmCoreOnAlarm, active_released] at active

private theorem lastReason_step (plain : tick.op.starts = false)
    (active : (kmStep sys tick).1.km.active = true) :
    (kmStep sys tick).1.km.lastReason =
      if FirstSample sys tick then .observed else sys.km.lastReason := by
  rw [(continues_step plain active).lastReason]
  by_cases first : FirstSample sys tick
  · rw [if_pos first]
    exact if_pos first
  · rw [if_neg first]
    exact if_neg first

/-- The tap has been sampled, and its alarm is the cycle after a clock not beyond `t`. -/
def SampledBy (sys : KmSys) (t : U64) : Prop :=
  sys.km.lastReason = .observed ∧ ∃ u : U64, u.toNat ≤ t.toNat ∧ sys.env.alarm = some (u + 1)

private theorem toNat_next_le (u : U64) : (u + 1).toNat ≤ u.toNat + 1 := by
  rw [BitVec.toNat_add]
  exact Nat.mod_le _ _

theorem SampledBy.step {t : U64} (sampled : SampledBy sys t) (plain : tick.op.starts = false)
    (active : (kmStep sys tick).1.km.active = true) : SampledBy (kmStep sys tick).1 t := by
  have later : ¬FirstSample sys tick := by
    rintro ⟨_, fresh, _⟩
    rw [sampled.1] at fresh
    cases fresh
  refine ⟨?_, ?_⟩
  · rw [lastReason_step plain active, if_neg later]
    exact sampled.1
  · rw [alarm_step plain active, if_neg later]
    exact sampled.2

private theorem SampledBy.of_sample (inv : KmInvariant sys) (observed : sys.km.mode = .tapObserved)
    (samples : samplesAt sys tick = true) (plain : tick.op.starts = false)
    (active : (kmStep sys tick).1.km.active = true)
    (earlier : sys.km.lastReason = .observed → SampledBy sys tick.now) :
    SampledBy (kmStep sys tick).1 tick.now := by
  rcases inv.reason with fresh | pending
  · have first : FirstSample sys tick := ⟨observed, fresh, samples⟩
    refine ⟨?_, tick.now, Nat.le_refl _, ?_⟩
    · rw [lastReason_step plain active, if_pos first]
    · rw [alarm_step plain active, if_pos first]
  · exact (earlier pending).step plain active

theorem SampledBy.run {t : U64} (sampled : SampledBy sys t) {ticks : List KmTick}
    (plain : ∀ tick ∈ ticks, tick.op.starts = false)
    (active : (kmMachine.exec sys ticks).km.active = true) :
    SampledBy (kmMachine.exec sys ticks) t := by
  induction ticks using List.reverseRecOn with
  | nil => exact sampled
  | append_singleton ticks tick ih =>
    rw [Machine.exec_snoc] at active ⊢
    have here := plain tick (by simp)
    have before := (continues_step here active).active
    have sofar := ih (fun other member => plain other (List.mem_append_left _ member)) before
    exact sofar.step here active

/-- The clocks of the core, the alarm and the host in every timed run. -/
private structure TimedInv (s : KmTimed) : Prop where
  core : KmInvariant s.sys
  sampled : s.sys.km.lastReason = .observed →
    SampledBy s.sys s.clock ∧ SampledBy s.sys s.sys.km.timeoutClk

private theorem unsampled_alarm (inv : KmInvariant sys) (active : sys.km.active = true)
    (tap : sys.km.mode.isTap) (unsampled : sys.km.lastReason = .none) :
    sys.env.alarm = some sys.km.timeoutClk := by
  obtain ⟨clk, armed⟩ := Option.isSome_iff_exists.mp (inv.armed.mpr ⟨active, tap⟩)
  rw [armed, inv.deadline unsampled clk armed]

theorem SampledBy.mono {t later : U64} (sampled : SampledBy sys t)
    (order : t.toNat ≤ later.toNat) : SampledBy sys later := by
  obtain ⟨reason, u, past, alarm⟩ := sampled
  exact ⟨reason, u, Nat.le_trans past order, alarm⟩

private theorem timedInv_step {s : KmTimed} (inv : TimedInv s) (enabled : s.Enabled tick) :
    TimedInv ⟨(kmStep s.sys tick).1, tick.now⟩ := by
  have core : KmInvariant (kmStep s.sys tick).1 := by
    rw [kmStep_eq]
    exact inv.core.act _ _ _
  refine ⟨core, ?_⟩
  intro observed
  have active := (core.observed observed).1
  cases starts : tick.op.starts with
  | true =>
    -- a start forgets the reason
    obtain ⟨injection, action⟩ := starts_iff.mp starts
    obtain ⟨timeoutClk, started, _⟩ := started_step s.sys action
    simp only [started] at observed
    cases observed
  | false =>
    have continues := continues_step starts active
    change SampledBy _ tick.now ∧ SampledBy _ (kmStep s.sys tick).1.km.timeoutClk
    rw [continues.timeoutClk]
    rcases inv.core.reason with fresh | pending
    · by_cases first : FirstSample s.sys tick
      · have now := SampledBy.of_sample inv.core first.1 first.2.2 starts active (by simp [fresh])
        obtain ⟨port, mask, action⟩ := scan_of_samples first.2.2
        have scan : tick.op.isAlarm = false := by simp [KmOp.isAlarm, action]
        -- the sample came before the timeout, which was armed
        have armed := unsampled_alarm inv.core continues.active (Or.inl first.1) fresh
        exact ⟨now, now.mono (enabled.intime scan _ armed)⟩
      · change (kmStep s.sys tick).1.km.lastReason = .observed at observed
        rw [lastReason_step starts active, if_neg first, fresh] at observed
        cases observed
    · obtain ⟨byClock, byTimeout⟩ := inv.sampled pending
      have stepped := byClock.step starts active
      exact ⟨stepped.mono enabled.forwards, byTimeout.step starts active⟩

private theorem timedRun_inv {boot : U64} {ticks : List KmTick} (legal : KmTimedLegal boot ticks) :
    TimedInv (kmTimedRun boot ticks) := by
  apply kmTimedMachine.exec_invariant (fun s tick inv enabled => timedInv_step inv enabled) ?_ legal
  refine ⟨KmInvariant.init, ?_⟩
  intro observed
  cases observed

theorem SampledBy.bound {s : KmTimed} {t now : U64} (sampled : SampledBy s.sys t)
    (allowed : s.Allows now) : now.toNat ≤ t.toNat + 1 := by
  obtain ⟨_, u, past, alarm⟩ := sampled
  have before := allowed.2 _ alarm
  have next := toNat_next_le u
  omega

private theorem tap_bound {s : KmTimed} (inv : TimedInv s) (active : s.sys.km.active = true)
    (tap : s.sys.km.mode.isTap) {now : U64} (allowed : s.Allows now) :
    now.toNat ≤ s.sys.km.timeoutClk.toNat + 1 := by
  rcases inv.core.reason with fresh | pending
  · have armed := unsampled_alarm inv.core active tap fresh
    have before := allowed.2 _ armed
    omega
  · exact (inv.sampled pending).2.bound allowed

private theorem sampled_bound {boot : U64} {before after : List KmTick} {sample : KmTick}
    (legal : KmTimedLegal boot (before ++ sample :: after))
    (observed : (kmRun before).km.mode = .tapObserved)
    (samples : samplesAt (kmRun before) sample = true)
    (plain : ∀ tick ∈ after, tick.op.starts = false)
    (active : (kmRun (before ++ sample :: after)).km.active = true) {now : U64}
    (allowed : (kmTimedRun boot (before ++ sample :: after)).Allows now) :
    now.toNat ≤ sample.now.toNat + 1 := by
  have legalParts := (kmTimedMachine.legal_append _ _ _).mp legal
  have inv : TimedInv (kmTimedRun boot before) := timedRun_inv legalParts.1
  have enabled : (kmTimedRun boot before).Enabled sample := legalParts.2.1
  have run : kmRun (before ++ sample :: after) =
      kmMachine.exec (kmStep (kmRun before) sample).1 after := by
    rw [kmRun_append]
    rfl
  have sampleActive : (kmStep (kmRun before) sample).1.km.active = true := by
    by_contra idle
    rw [run, idle_run (by simpa using idle) plain] at active
    exact idle active
  obtain ⟨port, mask, scan⟩ := scan_of_samples samples
  have sampleStarts : sample.op.starts = false := by simp [KmOp.starts, scan]
  have earlier : (kmRun before).km.lastReason = .observed →
      SampledBy (kmRun before) sample.now := by
    intro pending
    rw [← timedRun_sys boot before] at pending ⊢
    exact (inv.sampled pending).1.mono enabled.forwards
  have core : KmInvariant (kmRun before) := kmRun_invariant before
  have sampled := SampledBy.of_sample core observed samples sampleStarts sampleActive earlier
  rw [run] at active
  have still := sampled.run plain active
  rw [← run, ← timedRun_sys boot] at still
  exact still.bound allowed

private theorem unsampled_of_timeout (core : KmInvariant sys) (active : sys.km.active = true)
    (fires : tick.op.action = .fire)
    (timedOut : sys.km.mode = .tapFixed ∨
      (sys.km.mode = .tapObserved ∧ (kmStep sys tick).1.km.last.reason = .timeout)) :
    sys.km.lastReason = .none := by
  rcases core.reason with fresh | pending
  · exact fresh
  · rcases timedOut with fixed | ⟨_, timedOut⟩
    · have observed := (core.observed pending).2
      rw [fixed] at observed
      cases observed
    · -- the report of a sampled tap says so
      have stopped : (kmStep sys tick).1.km.active = false := by
        rw [kmStep_eq, fires]
        exact active_released _ _
      have reports := ends_step ⟨active, Or.inr stopped⟩
      rw [reports.reason, pending] at timedOut
      cases timedOut

private theorem timeout_not_early {boot : U64} {ticks : List KmTick} {fire : KmTick}
    (legal : KmTimedLegal boot (ticks ++ [fire])) (callback : fire.op.isAlarm = true)
    (unsampled : (kmRun ticks).km.mode = .tapFixed ∨
      ((kmRun ticks).km.mode = .tapObserved ∧
        (kmStep (kmRun ticks) fire).1.km.last.reason = .timeout)) :
    ∃ start injection frames, lastStart ticks = some (start, injection) ∧
      injection.frames = some frames ∧ (kmRun ticks).km.pressClk = start.now ∧
      start.now.toNat + frames.toNat * start.frameLength.toNat ≤ fire.now.toNat := by
  obtain ⟨legalTicks, enabled⟩ := (kmTimedMachine.legal_snoc _ _ _).mp legal
  have core : KmInvariant (kmRun ticks) := kmRun_invariant ticks
  have due : ∃ clk ∈ (kmRun ticks).env.alarm, clk.toNat ≤ fire.now.toNat := by
    rw [← timedRun_sys boot ticks]
    exact KmTimed.Enabled.due enabled callback
  obtain ⟨clk, armed, late⟩ := due
  have isSome : (kmRun ticks).env.alarm.isSome := by
    rw [Option.mem_def.mp armed]
    rfl
  obtain ⟨active, tap⟩ := core.armed.mp isSome
  have fresh := unsampled_of_timeout core active (isAlarm_iff.mp callback) unsampled
  obtain ⟨start, injection, last, ⟨member, action⟩, mode, pressed, timeout⟩ := active_start active
  have framed : ∃ frames, injection.frames = some frames := by
    apply Option.ne_none_iff_exists'.mp
    intro sticky
    have press := injection.ok.framed.mp sticky
    rw [mode, press] at tap
    revert tap
    decide
  obtain ⟨frames, framed⟩ := framed
  refine ⟨start, injection, frames, last, framed, pressed, ?_⟩
  have same : clk = start.deadline frames := by
    rw [core.deadline fresh clk armed, timeout frames framed]
  have fits := legal_fits legalTicks member action framed
  rw [same, deadline_toNat (injection.ok.frames_pos frames framed) fits] at late
  exact late

/-- A tap is never held too long nor released early. In every run that keeps to
the rule of time an active tap has not passed the cycle after its timeout, a
sampled one not the cycle after the sample, and the callback ends a tap of fixed
length, or an observed one for its timeout, only when all its frames have passed. -/
theorem tap_held_in_time {boot : U64} {ticks : List KmTick} (legal : KmTimedLegal boot ticks) :
    (∀ now, (kmTimedRun boot ticks).Allows now → (kmRun ticks).km.active = true →
        (kmRun ticks).km.mode.isTap →
        now.toNat ≤ (kmRun ticks).km.timeoutClk.toNat + 1) ∧
      (∀ before sample after, ticks = before ++ sample :: after →
        (kmRun before).km.mode = .tapObserved → samplesAt (kmRun before) sample = true →
        (∀ tick ∈ after, tick.op.starts = false) → (kmRun ticks).km.active = true →
        ∀ now, (kmTimedRun boot ticks).Allows now → now.toNat ≤ sample.now.toNat + 1) ∧
      ∀ before fire after, ticks = before ++ fire :: after → fire.op = .onAlarm →
        (kmRun before).km.mode = .tapFixed ∨
          ((kmRun before).km.mode = .tapObserved ∧
            (kmRun (before ++ [fire])).km.last.reason = .timeout) →
        ∃ start injection frames, lastStart before = some (start, injection) ∧
          injection.frames = some frames ∧ (kmRun before).km.pressClk = start.now ∧
          start.now.toNat + frames.toNat * start.frameLength.toNat ≤ fire.now.toNat := by
  refine ⟨?_, ?_, ?_⟩
  · intro now allowed active tap
    rw [← timedRun_sys boot ticks] at active tap ⊢
    exact tap_bound (timedRun_inv legal) active tap allowed
  · rintro before sample after rfl observed samples plain active now allowed
    exact sampled_bound legal observed samples plain active allowed
  · rintro before fire after rfl callback unsampled
    have reached : before ++ fire :: after = (before ++ [fire]) ++ after := by simp
    rw [reached] at legal
    have legalFire := ((kmTimedMachine.legal_append _ _ _).mp legal).1
    rw [kmRun_snoc] at unsampled
    exact timeout_not_early legalFire (by rw [callback]; rfl) unsampled

def tapThenScan : List KmTick :=
  [⟨100, 19656, .binmonTap [0, 60, 0, 1, 1, 7]⟩, ⟨200, 19656, .pbRead 0x00⟩]

private theorem tapThenScan_legal : KmTimedLegal 0 tapThenScan := by
  refine ⟨⟨by decide, ?_, ?_, ?_⟩, ⟨by decide, ?_, ?_, ?_⟩, trivial⟩
  · intro callback
    cases callback
  · intro _ clk armed
    cases armed
  · intro injection _ frames framed
    have inside := injection.ok.frames_pos frames framed
    change 100 + frames.toNat * 19656 < 2 ^ 64
    omega
  · intro callback
    cases callback
  · intro _ clk armed
    cases armed
    decide
  · intro injection action
    cases action

theorem tap_held_in_time_scan :
    (kmRun tapThenScan).km.active = true ∧
      ∀ now, (kmTimedRun 0 tapThenScan).Allows now → now.toNat ≤ 201 := by
  have active : (kmRun tapThenScan).km.active = true := by decide
  refine ⟨active, ?_⟩
  intro now allowed
  exact (tap_held_in_time tapThenScan_legal).2.1 [⟨100, 19656, .binmonTap [0, 60, 0, 1, 1, 7]⟩]
    ⟨200, 19656, .pbRead 0x00⟩ [] rfl (by decide) (by decide) (by simp) active now allowed

end Revice.Keymatrix

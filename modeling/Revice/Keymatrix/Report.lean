/- Module: Revice/Keymatrix/Report
   source: libs/keymatrix/src/keymatrix_core.c, README.md
   digest: The release report and the GET response, over whole runs. -/

import Revice.Keymatrix.History

set_option autoImplicit false
set_option relaxedAutoImplicit false

namespace Revice.Keymatrix

open Revice.General

def hookCalls (ticks : List KmTick) : Nat := ticks.countP fun tick => tick.op.isHook

/-- The sampling hook calls of a run, each tested on the keys tracked at its time. -/
def samplingCalls : KmSys → List KmTick → Nat
  | _, [] => 0
  | sys, tick :: ticks =>
    (if samplesAt sys tick then 1 else 0) + samplingCalls (kmStep sys tick).1 ticks

theorem samplingCalls_snoc (sys : KmSys) (ticks : List KmTick) (tick : KmTick) :
    samplingCalls sys (ticks ++ [tick]) = samplingCalls sys ticks +
      if samplesAt (kmMachine.exec sys ticks) tick then 1 else 0 := by
  induction ticks generalizing sys with
  | nil => exact Nat.add_comm _ _
  | cons head ticks ih =>
    simp only [List.cons_append, samplingCalls, ih, Nat.add_assoc]
    rfl

/-- The reason an injection has pending after some sampling reads. -/
def pendingReason (mode : KmMode) (samples : Nat) : KmReleaseReason :=
  if mode = .tapObserved ∧ 0 < samples then .observed else .none

theorem ite_pendingReason (mode : KmMode) (samples : Nat) (reason : KmReleaseReason) :
    (if pendingReason mode samples ≠ .none then pendingReason mode samples else reason) =
      if mode = .tapObserved ∧ 0 < samples then .observed else reason := by
  rw [pendingReason]
  by_cases observed : mode = .tapObserved ∧ 0 < samples
  · rw [if_pos observed, if_pos (by decide), if_pos observed]
  · rw [if_neg observed, if_neg (by decide), if_neg observed]

/-- The counters of a core, some operations after the start of its injection. -/
structure Counts (injection : Injection) (begun : KmSys) (ticks : List KmTick) (km : KmCore) :
    Prop where
  mode : km.mode = injection.mode
  pressClk : km.pressClk = begun.km.pressClk
  timeoutClk : km.timeoutClk = begun.km.timeoutClk
  total : km.cia1ReadsTotal = BitVec.ofNat 32 (hookCalls ticks)
  sampling : km.cia1ReadsSampling = BitVec.ofNat 32 (samplingCalls begun ticks)
  lastReason : km.lastReason = pendingReason injection.mode (samplingCalls begun ticks)

private theorem counts_run {injection : Injection} {begun : KmSys}
    (fresh : Counts injection begun [] begun.km) {ticks : List KmTick}
    (plain : ∀ tick ∈ ticks, tick.op.starts = false)
    (active : (kmMachine.exec begun ticks).km.active = true) :
    Counts injection begun ticks (kmMachine.exec begun ticks).km := by
  induction ticks using List.reverseRecOn with
  | nil => exact fresh
  | append_singleton ticks tick ih =>
    rw [Machine.exec_snoc] at active ⊢
    have continues := continues_step (plain tick (by simp)) active
    have before := ih (fun t member => plain t (List.mem_append_left _ member)) continues.active
    refine ⟨continues.mode.trans before.mode, continues.pressClk.trans before.pressClk,
      continues.timeoutClk.trans before.timeoutClk, ?_, ?_, ?_⟩
    · refine continues.total.trans ?_
      rw [before.total, hookCalls, hookCalls, List.countP_append, BitVec.ofNat_add]
      cases hook : tick.op.isHook <;> simp [hook]
    · refine continues.sampling.trans ?_
      rw [before.sampling, samplingCalls_snoc, BitVec.ofNat_add]
      cases samplesAt (kmMachine.exec begun ticks) tick <;> rfl
    · refine continues.lastReason.trans ?_
      rw [before.lastReason, before.mode, samplingCalls_snoc]
      cases samplesAt (kmMachine.exec begun ticks) tick with
      | false => simp
      | true =>
        by_cases observed : injection.mode = .tapObserved
        · simp [pendingReason, observed]
        · simp [pendingReason, observed]

theorem idle_run {sys : KmSys} (idle : sys.km.active = false) {ticks : List KmTick}
    (plain : ∀ tick ∈ ticks, tick.op.starts = false) :
    (kmMachine.exec sys ticks).km = sys.km := by
  induction ticks using List.reverseRecOn with
  | nil => rfl
  | append_singleton ticks tick ih =>
    have before := ih fun t member => plain t (List.mem_append_left _ member)
    rw [Machine.exec_snoc, ← before]
    exact idle_step (plain tick (by simp)) (by rw [before]; exact idle)

private theorem counts_started (sys : KmSys) {tick : KmTick} {injection : Injection}
    (action : tick.op.action = .start injection) :
    Counts injection (kmStep sys tick).1 [] (kmStep sys tick).1.km := by
  obtain ⟨timeoutClk, started, _⟩ := started_step sys action
  refine ⟨?_, rfl, rfl, ?_, ?_, ?_⟩ <;> rw [started] <;> try rfl
  simp [KmCore.started, pendingReason, samplingCalls]

theorem clampFrames_toNat (f : U64) : (clampFrames f).toNat = min 65535 f.toNat := by
  rw [clampFrames]
  split
  · rename_i big
    have above : 65535 < f.toNat := big
    simp
    omega
  · rename_i small
    have below : ¬65535 < f.toNat := small
    rw [BitVec.toNat_setWidth]
    omega

private theorem framesHeld_toNat (host : KmHost) (pressClk : U64) :
    (framesHeld host pressClk).toNat =
      if 0 < host.cyclesPerFrame.toInt ∧ pressClk.toNat ≤ host.now.toNat then
        min 65535 ((host.now.toNat - pressClk.toNat) / host.cyclesPerFrame.toNat)
      else 0 := by
  rw [framesHeld]
  by_cases known : 0 < host.cyclesPerFrame.toInt ∧ pressClk.toNat ≤ host.now.toNat
  · have forwards : pressClk ≤ host.now := known.2
    simp [known, forwards, clampFrames_toNat, BitVec.toNat_sub_of_le forwards]
  · have unknown : ¬(0 < host.cyclesPerFrame.toInt ∧ pressClk ≤ host.now) := known
    simp [known, unknown]

theorem getResponse_report (host : KmHost) (km : KmCore) :
    (getResponse host km).drop 12 = getReport km ++ leBytes 2 (framesLeft host km) := by
  rw [getResponse, List.append_assoc, List.append_assoc, ← List.append_assoc]
  exact List.drop_left' (by simp)

theorem binmonGet_ok (host : KmHost) (km : KmCore) (out : List U8) {outLength : U32}
    (room : kmBinmonGetResponseSize ≤ outLength.toNat) :
    kmCoreBinmonGet host km ⟨some out, some outLength⟩ =
      (0, ⟨some (getResponse host km ++ out.drop kmBinmonGetResponseSize), some 24⟩) := by
  simp only [kmCoreBinmonGet]
  rw [if_neg (Nat.not_lt.mpr room)]
  rfl

private theorem get_last (host : KmHost) {km : KmCore} (idle : km.active = false)
    (valid : km.last.valid = true) (tail : List U8) :
    ((getResponse host km ++ tail).drop 12).take 9 =
      leBytes 4 km.last.cia1ReadsTotal ++ leBytes 4 km.last.cia1ReadsSampling ++
        [km.last.reason.code] := by
  have long : 12 ≤ (getResponse host km).length := by
    simp [getResponse]
    omega
  rw [List.drop_append_of_le_length long, getResponse_report, getReport, idle, valid]
  rfl

private theorem get_repeats_report {sys : KmSys} (idle : sys.km.active = false)
    (valid : sys.km.last.valid = true) {after : List KmTick}
    (plain : ∀ tick ∈ after, tick.op.starts = false) (host : KmHost) (out : List U8)
    {outLength : U32} (room : kmBinmonGetResponseSize ≤ outLength.toNat) :
    ∃ response, kmCoreBinmonGet host (kmMachine.exec sys after).km ⟨some out, some outLength⟩ =
        (0, ⟨some response, some 24⟩) ∧
      (response.drop 12).take 9 = leBytes 4 sys.km.last.cia1ReadsTotal ++
        leBytes 4 sys.km.last.cia1ReadsSampling ++ [sys.km.last.reason.code] := by
  rw [idle_run idle plain]
  exact ⟨_, binmonGet_ok host sys.km out room, get_last host idle valid _⟩

theorem kmRun_held (before mid : List KmTick) (start : KmTick) :
    kmRun (before ++ start :: mid) = kmMachine.exec (kmRun (before ++ [start])) mid := by
  rw [← kmRun_append, List.append_assoc]
  rfl

theorem counts_held (before : List KmTick) {mid : List KmTick} {start : KmTick}
    {injection : Injection} (action : start.op.action = .start injection)
    (plain : ∀ tick ∈ mid, tick.op.starts = false)
    (active : (kmRun (before ++ start :: mid)).km.active = true) :
    Counts injection (kmRun (before ++ [start])) mid (kmRun (before ++ start :: mid)).km := by
  have fresh : Counts injection (kmRun (before ++ [start])) [] (kmRun (before ++ [start])).km := by
    rw [kmRun_snoc]
    exact counts_started (kmRun before) action
  rw [kmRun_held before mid start] at active ⊢
  exact counts_run fresh plain active

/-- The report that an injection leaves behind, from what was counted while it was held. -/
structure ReleaseReport (injection : Injection) (begun : KmSys) (mid : List KmTick)
    (start fin : KmTick) (last : KmLast) : Prop where
  valid : last.valid = true
  reason : last.reason =
    if injection.mode = .tapObserved ∧ 0 < samplingCalls begun mid then .observed
    else if fin.op.isAlarm then .timeout else .manual
  mode : last.mode = injection.mode
  total : last.cia1ReadsTotal = BitVec.ofNat 32 (hookCalls mid)
  sampling : last.cia1ReadsSampling = BitVec.ofNat 32 (samplingCalls begun mid)
  framesHeld : last.framesHeld.toNat =
    if 0 < fin.cyclesPerFrame.toInt ∧ start.now.toNat ≤ fin.now.toNat then
      min 65535 ((fin.now.toNat - start.now.toNat) / fin.cyclesPerFrame.toNat)
    else 0

/-- The release report is exact: when an injection ends, the last report tells
how it was started, what was read in between and how it ended, and GET repeats
the counters and the reason until the next start. -/
theorem release_report_exact (before mid : List KmTick) (start fin : KmTick)
    (injection : Injection) (action : start.op.action = .start injection)
    (plain : ∀ tick ∈ mid, tick.op.starts = false)
    (ends : Ends (kmRun (before ++ start :: mid)) fin) :
    let ended := kmRun (before ++ start :: mid ++ [fin])
    ReleaseReport injection (kmRun (before ++ [start])) mid start fin ended.km.last ∧
      (fin.op.starts = false → ∀ after, (∀ tick ∈ after, tick.op.starts = false) →
        ∀ now cpf out (outLength : U32), 24 ≤ outLength.toNat →
          let sys := kmRun (before ++ start :: mid ++ fin :: after)
          ∃ response, kmCoreBinmonGet (sys.env.host now cpf) sys.km
              ⟨some out, some outLength⟩ = (0, ⟨some response, some 24⟩) ∧
            (response.drop 12).take 9 =
              leBytes 4 ended.km.last.cia1ReadsTotal ++
                leBytes 4 ended.km.last.cia1ReadsSampling ++ [ended.km.last.reason.code]) := by
  intro ended
  have counts := counts_held before action plain ends.1
  have pressed : (kmRun (before ++ [start])).km.pressClk = start.now := by
    obtain ⟨timeoutClk, started, _⟩ := started_step (kmRun before) action
    rw [kmRun_snoc, started]
    rfl
  set begun := kmRun (before ++ [start])
  have endedStep : ended = (kmStep (kmRun (before ++ start :: mid)) fin).1 := kmRun_snoc _ _
  have reports := ends_step ends
  rw [← endedStep] at reports
  constructor
  · refine ⟨reports.valid, ?_, reports.mode.trans counts.mode, reports.total.trans counts.total,
      reports.sampling.trans counts.sampling, ?_⟩
    · rw [reports.reason, counts.lastReason, ite_pendingReason]
    · rw [reports.framesHeld, framesHeld_toNat, counts.pressClk, pressed]
      rfl
  · intro plainFin after plainAfter now cpf out outLength room sys
    have idle : ended.km.active = false := by
      rw [endedStep]
      exact ends.2.resolve_left (by simp [plainFin])
    have run : sys = kmMachine.exec ended after := by
      have split : before ++ start :: mid ++ fin :: after =
          (before ++ start :: mid ++ [fin]) ++ after := by simp
      change kmRun (before ++ start :: mid ++ fin :: after) = _
      rw [split, kmRun_append]
    rw [run]
    exact get_repeats_report idle reports.valid plainAfter _ out room

theorem release_report_exact_tap :
    let tap : KmTick := ⟨100, 19656, .binmonTap [0, 60, 0, 1, 1, 2]⟩
    let read : KmTick := ⟨200, 19656, .pbRead 0x00⟩
    let fire : KmTick := ⟨201, 19656, .onAlarm⟩
    ∃ injection, ReleaseReport injection (kmRun [tap]) [read] tap fire
      (kmRun [tap, read, fire]).km.last := by
  intro tap read fire
  have action : ∃ injection, tap.op.action = .start injection := ⟨_, rfl⟩
  obtain ⟨injection, action⟩ := action
  have ends : Ends (kmRun ([] ++ tap :: [read])) fire :=
    ⟨by decide, Or.inr (by decide)⟩
  exact ⟨injection, (release_report_exact [] [read] tap fire injection action (by decide) ends).1⟩

end Revice.Keymatrix

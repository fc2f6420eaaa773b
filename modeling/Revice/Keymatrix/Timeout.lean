/- Module: Revice/Keymatrix/Timeout
   source: libs/keymatrix/src/keymatrix_core.c, README.md
   digest: The frames until timeout that GET answers with, against the history of starts. -/

import Revice.Keymatrix.Report

set_option autoImplicit false
set_option relaxedAutoImplicit false

namespace Revice.Keymatrix

open Revice.General

def lastStart (ticks : List KmTick) : Option (KmTick × Injection) :=
  ticks.foldl (fun last tick =>
    match tick.op.action with
    | .start injection => some (tick, injection)
    | _ => last) none

/-- The frames until the active tap times out, rounded down and saturated; zero
when no tap is active or its deadline has passed. -/
def framesUntilTimeout (ticks : List KmTick) (now cpf : U64) : Nat :=
  if (kmRun ticks).km.active then
    match lastStart ticks with
    | some (start, injection) =>
      match injection.frames with
      | some frames =>
        let deadline := start.now.toNat + frames.toNat * cpf.toNat
        if now.toNat < deadline then min 65535 ((deadline - now.toNat) / cpf.toNat) else 0
      | none => 0
    | none => 0
  else 0

/-- No accepted tap of the run has a deadline beyond the 64-bit clock. -/
def DeadlinesFit (ticks : List KmTick) (cpf : U64) : Prop :=
  ∀ tick ∈ ticks, ∀ injection, tick.op.action = .start injection →
    ∀ frames ∈ injection.frames, tick.now.toNat + frames.toNat * cpf.toNat < 2 ^ 64

private theorem lastStart_plain (ticks : List KmTick) {tick : KmTick}
    (plain : tick.op.starts = false) :
    lastStart (ticks ++ [tick]) = lastStart ticks := by
  rw [lastStart, List.foldl_append]
  cases action : tick.op.action with
  | start injection => simp [KmOp.starts, action] at plain
  | _ => simp [action, lastStart]

private theorem lastStart_start (ticks : List KmTick) {tick : KmTick} {injection : Injection}
    (action : tick.op.action = .start injection) :
    lastStart (ticks ++ [tick]) = some (tick, injection) := by
  rw [lastStart, List.foldl_append]
  simp [action]

/-- The frame length that a start reckons with: a length that is not positive counts as PAL. -/
def KmTick.frameLength (tick : KmTick) : U64 :=
  if tick.cyclesPerFrame.toInt ≤ 0 then 19656#64 else tick.cyclesPerFrame

def KmTick.deadline (tick : KmTick) (frames : Int) : U64 :=
  tick.now + BitVec.ofInt 64 frames * tick.frameLength

theorem deadline_toNat {tick : KmTick} {frames : Int} (inside : 1 ≤ frames ∧ frames ≤ 65535)
    (fits : tick.now.toNat + frames.toNat * tick.frameLength.toNat < 2 ^ 64) :
    (tick.deadline frames).toNat =
      tick.now.toNat + frames.toNat * tick.frameLength.toNat := by
  have count : (BitVec.ofInt 64 frames).toNat = frames.toNat := by
    rw [BitVec.toNat_ofInt]
    omega
  have product : frames.toNat * tick.frameLength.toNat < 2 ^ 64 := by omega
  rw [KmTick.deadline, BitVec.toNat_add, BitVec.toNat_mul, count, Nat.mod_eq_of_lt product]
  exact Nat.mod_eq_of_lt fits

theorem active_start {ticks : List KmTick} (active : (kmRun ticks).km.active = true) :
    ∃ start injection, lastStart ticks = some (start, injection) ∧
      (start ∈ ticks ∧ start.op.action = .start injection) ∧
      (kmRun ticks).km.mode = injection.mode ∧ (kmRun ticks).km.pressClk = start.now ∧
      ∀ frames ∈ injection.frames, (kmRun ticks).km.timeoutClk = start.deadline frames := by
  induction ticks using List.reverseRecOn with
  | nil => cases active
  | append_singleton ticks tick ih =>
    rw [kmRun_snoc] at active ⊢
    cases starts : tick.op.starts with
    | true =>
      obtain ⟨injection, action⟩ := starts_iff.mp starts
      obtain ⟨timeoutClk, started, timeout⟩ := started_step (kmRun ticks) action
      refine ⟨tick, injection, lastStart_start ticks action, ⟨by simp, action⟩, ?_, ?_, ?_⟩
      · rw [started]
        rfl
      · rw [started]
        rfl
      · intro frames member
        rw [started]
        exact timeout frames member
    | false =>
      have continues := continues_step starts active
      obtain ⟨start, injection, last, ⟨member, action⟩, mode, pressed, timeout⟩ :=
        ih continues.active
      refine ⟨start, injection, (lastStart_plain ticks starts).trans last,
        ⟨List.mem_append_left _ member, action⟩, continues.mode.trans mode,
        continues.pressClk.trans pressed, ?_⟩
      rw [continues.timeoutClk]
      exact timeout

private theorem active_history {ticks : List KmTick} {cpf : U64} (positive : 0 < cpf.toInt)
    (constant : ∀ tick ∈ ticks, tick.cyclesPerFrame = cpf) (fits : DeadlinesFit ticks cpf)
    (active : (kmRun ticks).km.active = true) :
    ∃ start injection, lastStart ticks = some (start, injection) ∧
      (kmRun ticks).km.mode = injection.mode ∧
      ∀ frames ∈ injection.frames, (kmRun ticks).km.timeoutClk.toNat =
        start.now.toNat + frames.toNat * cpf.toNat := by
  obtain ⟨start, injection, last, ⟨member, action⟩, mode, _, timeout⟩ := active_start active
  have length : start.frameLength = cpf := by
    rw [KmTick.frameLength, constant start member]
    exact if_neg (Int.not_le.mpr positive)
  refine ⟨start, injection, last, mode, ?_⟩
  intro frames framed
  have bound := fits start member injection action frames framed
  rw [← length] at bound ⊢
  rw [timeout frames framed]
  exact deadline_toNat (injection.ok.frames_pos frames framed) bound

theorem framesLeft_toNat (env : KmEnv) (km : KmCore) (now : U64) {cpf : U64}
    (positive : 0 < cpf.toInt) :
    (framesLeft (env.host now cpf) km).toNat =
      if km.active = true ∧ now.toNat < km.timeoutClk.toNat then
        min 65535 ((km.timeoutClk.toNat - now.toNat) / cpf.toNat)
      else 0 := by
  rw [framesLeft]
  by_cases ahead : km.active = true ∧ now.toNat < km.timeoutClk.toNat
  · have later : now < km.timeoutClk := ahead.2
    have order : now ≤ km.timeoutClk := Nat.le_of_lt ahead.2
    simp [ahead, later, positive, clampFrames_toNat, BitVec.toNat_sub_of_le order]
  · rw [if_neg ahead, if_neg (by simpa [BitVec.lt_def] using ahead)]
    rfl

private theorem get_framesLeft (host : KmHost) (km : KmCore) (tail : List U8) :
    ((getResponse host km ++ tail).drop 22).take 2 = leBytes 2 (framesLeft host km) := by
  have length : (getReport km).length = 10 := by
    rw [getReport]
    split
    · rfl
    · split <;> rfl
  have long : 22 ≤ (getResponse host km).length := by
    simp [getResponse, length]
  have parts : (getResponse host km).drop 22 = leBytes 2 (framesLeft host km) := by
    rw [getResponse]
    exact List.drop_left' (by simp [length])
  rw [List.drop_append_of_le_length long, parts]
  rfl

private theorem leBytes_inj {x y : U16} : leBytes 2 x = leBytes 2 y ↔ x = y := by
  constructor
  · intro same
    have read := congrArg (ofLeBytes 16) same
    rwa [ofLeBytes_leBytes (by decide), ofLeBytes_leBytes (by decide)] at read
  · intro same
    rw [same]

private theorem framesUntilTimeout_le (ticks : List KmTick) (now cpf : U64) :
    framesUntilTimeout ticks now cpf ≤ 65535 := by
  simp only [framesUntilTimeout]
  repeat' split
  all_goals first | exact Nat.min_le_left _ _ | exact Nat.zero_le _

private theorem clamped_zero_iff {now timeoutClk cpf : Nat} (positive : 0 < cpf) :
    (if now < timeoutClk then min 65535 ((timeoutClk - now) / cpf) else 0) = 0 ↔
      ¬now + cpf ≤ timeoutClk := by
  have short : (timeoutClk - now) / cpf = 0 ↔ timeoutClk - now < cpf := by
    rw [Nat.div_eq_zero_iff]
    omega
  split
  · rw [Nat.min_eq_zero_iff, short]
    omega
  · omega

/-- The stored timeout gives the right count except for a sticky press with a stale one. -/
private theorem framesLeft_iff {ticks : List KmTick} {cpf : U64} (positive : 0 < cpf.toInt)
    (constant : ∀ tick ∈ ticks, tick.cyclesPerFrame = cpf) (fits : DeadlinesFit ticks cpf)
    (env : KmEnv) (now : U64) :
    (framesLeft (env.host now cpf) (kmRun ticks).km).toNat = framesUntilTimeout ticks now cpf ↔
      ¬((kmRun ticks).km.active = true ∧ (kmRun ticks).km.mode = .pressSticky ∧
        now.toNat + cpf.toNat ≤ (kmRun ticks).km.timeoutClk.toNat) := by
  rw [framesLeft_toNat env _ now positive, framesUntilTimeout]
  cases active : (kmRun ticks).km.active with
  | false => simp
  | true =>
    obtain ⟨start, injection, last, mode, timeout⟩ :=
      active_history positive constant fits active
    simp only [last, mode, true_and, if_true]
    have sticky := injection.ok.framed
    cases frames : injection.frames with
    | none =>
      have length : 0 < cpf.toNat := by
        have bound := cpf.isLt
        rw [BitVec.toInt_eq_toNat_cond] at positive
        split at positive <;> omega
      simp only [sticky.mp frames, true_and]
      exact clamped_zero_iff length
    | some n =>
      have tap : injection.mode ≠ .pressSticky := by
        intro press
        rw [sticky.mpr press] at frames
        cases frames
      rw [timeout n frames]
      simp [tap]

/-- GET tells the frames until the active tap times out, except while a sticky
press is held and the timeout of an earlier tap lies at least a frame ahead. -/
theorem frames_until_timeout (ticks : List KmTick) (cpf : U64) (positive : 0 < cpf.toInt)
    (constant : ∀ tick ∈ ticks, tick.cyclesPerFrame = cpf) (fits : DeadlinesFit ticks cpf)
    (now : U64) (out : List U8) (outLength : U32) (room : 24 ≤ outLength.toNat) :
    let sys := kmRun ticks
    ∃ response, kmCoreBinmonGet (sys.env.host now cpf) sys.km ⟨some out, some outLength⟩ =
        (0, ⟨some response, some 24⟩) ∧
      ((response.drop 22).take 2 =
          leBytes 2 (BitVec.ofNat 16 (framesUntilTimeout ticks now cpf)) ↔
        ¬(sys.km.active = true ∧ sys.km.mode = .pressSticky ∧
          now.toNat + cpf.toNat ≤ sys.km.timeoutClk.toNat)) := by
  intro sys
  refine ⟨_, binmonGet_ok _ _ _ room, ?_⟩
  have small := framesUntilTimeout_le ticks now cpf
  rw [get_framesLeft, leBytes_inj, ← framesLeft_iff positive constant fits sys.env now,
    ← BitVec.toNat_inj, BitVec.toNat_ofNat, Nat.mod_eq_of_lt (by omega)]

def tapThenPress : List KmTick :=
  [⟨0, 19656, .binmonTap [1, 0, 1, 1, 1, 2]⟩,
    ⟨1, 19656, .press (some ⟨str "a", by decide⟩)⟩]

/-- GET answers 255 frames for a sticky press, which has no timeout. -/
theorem sticky_press_shows_timeout :
    framesUntilTimeout tapThenPress 2 19656 = 0 ∧
      (((kmCoreBinmonGet ((kmRun tapThenPress).env.host 2 19656) (kmRun tapThenPress).km
        ⟨some (List.replicate 24 0), some 24⟩).2.out.getD []).drop 22).take 2 = [255, 0] := by
  decide +kernel

theorem frames_until_timeout_tap :
    let sys := kmRun [⟨0, 19656, .binmonTap [1, 0, 1, 1, 1, 2]⟩]
    ∃ response, kmCoreBinmonGet (sys.env.host 2 19656) sys.km
        ⟨some (List.replicate 24 0), some 24⟩ = (0, ⟨some response, some 24⟩) ∧
      ((response.drop 22).take 2 = leBytes 2 (BitVec.ofNat 16 (framesUntilTimeout
          [⟨0, 19656, .binmonTap [1, 0, 1, 1, 1, 2]⟩] 2 19656)) ↔
        ¬(sys.km.active = true ∧ sys.km.mode = .pressSticky ∧
          (2 : U64).toNat + (19656 : U64).toNat ≤ sys.km.timeoutClk.toNat)) := by
  refine frames_until_timeout [⟨0, 19656, .binmonTap [1, 0, 1, 1, 1, 2]⟩] 19656 (by decide)
    (by simp) ?_ 2 (List.replicate 24 0) 24 (by decide)
  intro tick member injection _ frames framed
  have inside := injection.ok.frames_pos frames framed
  rw [List.mem_singleton.mp member]
  change 0 + frames.toNat * 19656 < 2 ^ 64
  omega

end Revice.Keymatrix

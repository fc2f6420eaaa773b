/- Module: Revice/Keymatrix/Named
   source: libs/keymatrix/src/keymatrix_core.c
   digest: When the last report names the keys of the injection that ended. -/

import Revice.Keymatrix.Report

set_option autoImplicit false
set_option relaxedAutoImplicit false

namespace Revice.Keymatrix

open Revice.General

/-- The last report names the keys that were tracked before the ending operation, and GET
gives their count until the next start. -/
structure NamesKeys (sys : KmSys) (fin : KmTick) : Prop where
  some_key : 1 ≤ (kmStep sys fin).1.km.last.keys.length
  keys : (kmStep sys fin).1.km.last.keys = sys.km.keys
  get : fin.op.starts = false → ∀ after, (∀ tick ∈ after, tick.op.starts = false) →
    ∀ now cpf out (outLength : U32), 24 ≤ outLength.toNat →
      let later := kmMachine.exec (kmStep sys fin).1 after
      ∃ response, kmCoreBinmonGet (later.env.host now cpf) later.km ⟨some out, some outLength⟩ =
          (0, ⟨some response, some 24⟩) ∧
        (response.getD 21 0).toNat = sys.km.keys.length

variable {sys : KmSys} {tick : KmTick}

theorem last_keys_listed (ends : Ends sys tick) {listed : List KmKey}
    (action : tick.op.action = .releaseListed listed) :
    (kmStep sys tick).1.km.last.keys = [] := by
  obtain ⟨active, finishes⟩ := ends
  rw [kmStep_eq, action] at finishes ⊢
  simp only [KmSys.act, KmAction.perform] at finishes ⊢
  by_cases none_left : survivingKeys sys.km.keys listed = []
  · rw [releaseListed_ends active none_left]
    rfl
  · simp [KmOp.starts, action, releaseListed_survives (Or.inr none_left), active] at finishes

theorem last_keys (ends : Ends sys tick)
    (plain : ∀ listed, tick.op.action ≠ .releaseListed listed) :
    (kmStep sys tick).1.km.last.keys = sys.km.keys := by
  obtain ⟨active, finishes⟩ := ends
  cases action : tick.op.action with
  | start injection =>
    obtain ⟨timeoutClk, started, _⟩ := started_step sys action
    rw [started, last_started, releaseNow_active active]
    rfl
  | releaseListed listed => exact absurd action (plain listed)
  | releaseAll =>
    rw [kmStep_eq, action]
    simp only [KmSys.act, KmAction.perform, releaseNow_active active]
    rfl
  | fire =>
    rw [kmStep_eq, action]
    simp only [KmSys.act, KmAction.perform, kmCoreOnAlarm, releaseNow_active active]
    rfl
  | none =>
    rw [kmStep_eq, action] at finishes
    simp [KmOp.starts, action, KmSys.act, KmAction.perform, active] at finishes
  | raw writes =>
    rw [kmStep_eq, action] at finishes
    simp [KmOp.starts, action, KmSys.act, KmAction.perform, active] at finishes
  | scan port mask =>
    obtain ⟨_, _, _, frame, _⟩ := kmScan_frame port.coord
      (sys.env.host tick.now tick.cyclesPerFrame) mask sys.km
    rw [kmStep_eq, action] at finishes
    simp [KmOp.starts, action, KmSys.act, KmAction.perform, frame, active] at finishes

/-- An ending operation is a release of listed keys exactly if it is a release that was
given some text. -/
private theorem ends_listed_iff (ends : Ends sys tick) :
    (∃ listed, tick.op.action = .releaseListed listed) ↔
      ∃ args, tick.op = .release args ∧ givenArgs args ≠ none := by
  have starting : ∀ (request : Option Injection) (listed : List KmKey),
      startAction request ≠ .releaseListed listed := by
    intro request listed
    cases request <;> simp [startAction]
  constructor
  · rintro ⟨listed, action⟩
    cases op : tick.op with
    | release args =>
      refine ⟨args, rfl, ?_⟩
      intro absent
      simp [op, KmOp.action, absent] at action
    | tap args => exact absurd action (by rw [op]; exact starting _ _)
    | press args => exact absurd action (by rw [op]; exact starting _ _)
    | binmonTap body => exact absurd action (by rw [op]; exact starting _ _)
    | poke args =>
      rw [op, KmOp.action] at action
      split at action <;> cases action
    | binmonSet body =>
      rw [op, KmOp.action] at action
      split at action <;> cases action
    | _ =>
      rw [op] at action
      cases action
  · rintro ⟨args, op, given⟩
    obtain ⟨active, finishes⟩ := ends
    obtain ⟨present, some_args⟩ := Option.ne_none_iff_exists'.mp given
    cases keys : argKeys args with
    | some parsed => exact ⟨parsed.1, by simp [op, KmOp.action, some_args, keys]⟩
    | none =>
      -- rejected arguments end nothing
      have action : tick.op.action = .none := by simp [op, KmOp.action, some_args, keys]
      rw [kmStep_eq, action] at finishes
      simp [KmOp.starts, action, KmSys.act, KmAction.perform, active] at finishes

private theorem get_count (host : KmHost) {km : KmCore} (idle : km.active = false)
    (valid : km.last.valid = true) (tail : List U8) :
    (getResponse host km ++ tail).getD 21 0 = BitVec.ofNat 8 km.last.keys.length := by
  have report : ((getResponse host km ++ tail).drop 12).getD 9 0 =
      BitVec.ofNat 8 km.last.keys.length := by
    have long : 12 ≤ (getResponse host km).length := by
      simp [getResponse]
      omega
    rw [List.drop_append_of_le_length long, getResponse_report, getReport, idle, valid]
    rfl
  rw [List.getD_eq_getElem?_getD, List.getElem?_drop] at report
  rw [List.getD_eq_getElem?_getD]
  exact report

/-- The report names the keys exactly if the injection was not ended by a release of listed
keys. -/
theorem last_names_keys (before : List KmTick) (fin : KmTick) (ends : Ends (kmRun before) fin) :
    NamesKeys (kmRun before) fin ↔ ∀ args, fin.op = .release args → givenArgs args = none := by
  have held := (kmRun_invariant before).held ends.1
  constructor
  · intro names args op
    by_contra given
    obtain ⟨listed, action⟩ := (ends_listed_iff ends).mpr ⟨args, op, given⟩
    have positive := names.some_key
    rw [last_keys_listed ends action] at positive
    exact absurd positive (by decide)
  · intro condition
    have plain : ∀ listed, fin.op.action ≠ .releaseListed listed := by
      intro listed action
      obtain ⟨args, op, given⟩ := (ends_listed_iff ends).mp ⟨listed, action⟩
      exact given (condition args op)
    have keys := last_keys ends plain
    have reports := ends_step ends
    refine ⟨keys ▸ held.1, keys, ?_⟩
    intro plainFin after plainAfter now cpf out outLength room later
    have idle : (kmStep (kmRun before) fin).1.km.active = false :=
      ends.2.resolve_left (by simp [plainFin])
    have same : later.km = (kmStep (kmRun before) fin).1.km := idle_run idle plainAfter
    rw [same]
    refine ⟨_, binmonGet_ok _ _ out room, ?_⟩
    rw [get_count _ idle reports.valid, keys, BitVec.toNat_ofNat]
    have few : (kmRun before).km.keys.length ≤ 16 := held.2.1
    omega

theorem last_names_keys_alarm :
    NamesKeys (kmRun [⟨100, 19656, .binmonTap [0, 60, 0, 1, 1, 2]⟩]) ⟨200, 19656, .onAlarm⟩ ↔
      ∀ args, KmOp.onAlarm = .release args → givenArgs args = none :=
  last_names_keys [⟨100, 19656, .binmonTap [0, 60, 0, 1, 1, 2]⟩] ⟨200, 19656, .onAlarm⟩
    ⟨by decide, Or.inr (by decide)⟩

/-- The release of the one pressed key leaves a report without keys. -/
theorem release_forgets_keys : ¬ ∀ (before : List KmTick) (fin : KmTick),
    KmLegal (before ++ [fin]) → Ends (kmRun before) fin → NamesKeys (kmRun before) fin := by
  intro claim
  have ends : Ends (kmRun [⟨100, 19656, .press (some ⟨str "a", by decide⟩)⟩])
      ⟨200, 19656, .release (some ⟨str "a", by decide⟩)⟩ := ⟨by decide, Or.inr (by decide)⟩
  have legal : KmLegal [⟨100, 19656, .press (some ⟨str "a", by decide⟩)⟩,
      ⟨200, 19656, .release (some ⟨str "a", by decide⟩)⟩] := by
    refine ⟨?_, ?_, trivial⟩
    · intro alarm
      cases alarm
    · intro alarm
      cases alarm
  have positive := (claim _ _ legal ends).some_key
  revert positive
  decide

end Revice.Keymatrix

/- Module: Revice/Keymatrix/Response
   source: README.md, libs/keymatrix/src/keymatrix_core.c
   digest: A GET response, read by its documented offsets, shows what the run has done. -/

import Revice.General.Cell
import Revice.Keymatrix.Story

set_option autoImplicit false
set_option relaxedAutoImplicit false

namespace Revice.Keymatrix

open Revice.General

/-- A GET response by the documented fields. -/
structure GetReport where
  keyarr : List U8
  customKeys : U8
  padding : List U8
  cia1ReadsTotal : U32
  cia1ReadsSampling : U32
  releaseReason : U8
  nKeys : U8
  framesUntilTimeout : U16
  deriving DecidableEq

def decodeGet (body : List U8) : Option GetReport :=
  if body.length = 24 then
    some
      { keyarr := body.take 8
        customKeys := body.getD 8 0
        padding := (body.drop 9).take 3
        cia1ReadsTotal := ofLeBytes 32 ((body.drop 12).take 4)
        cia1ReadsSampling := ofLeBytes 32 ((body.drop 16).take 4)
        releaseReason := body.getD 20 0
        nKeys := body.getD 21 0
        framesUntilTimeout := ofLeBytes 16 ((body.drop 22).take 2) }
  else none

def KmCustom.bit : KmCustom → Nat
  | .restore1 => 0
  | .restore2 => 1
  | .caps => 2
  | .col4080 => 3

def HostCall.eventAt (cell : Int × Int) : HostCall → Option (CellEvent (Int × Int) Bool)
  | .setKeyarrAny row col value => some ⟨(row, col), value, true⟩
  | .clearKeymatrix => if 0 ≤ cell.1 then some ⟨cell, false, true⟩ else none
  | .setAlarm _ => none
  | .cancelAlarm => none
  | .emit _ => none

/-- What the calls so far have left at a place. -/
def leftAt (calls : List HostCall) (cell : Int × Int) : Bool :=
  lastWritten cell false (calls.filterMap (HostCall.eventAt cell))

section Matrix

private theorem apply_matrix (env : KmEnv) (call : HostCall) (cell : Int × Int) :
    (env.apply call).matrix cell =
      lastWritten cell (env.matrix cell) (call.eventAt cell).toList := by
  cases call with
  | setKeyarrAny row col value =>
    by_cases here : (row, col) = cell
    · subst here
      simp [KmEnv.apply, HostCall.eventAt, lastWritten]
    · simp [KmEnv.apply, HostCall.eventAt, lastWritten, here, Ne.symm here]
  | clearKeymatrix =>
    by_cases matrix : 0 ≤ cell.1 <;>
      simp [KmEnv.apply, HostCall.eventAt, lastWritten, matrix]
  | setAlarm clk => rfl
  | cancelAlarm => rfl
  | emit text => rfl

private theorem run_matrix (env : KmEnv) (calls : List HostCall) (cell : Int × Int) :
    (env.run calls).matrix cell =
      lastWritten cell (env.matrix cell) (calls.filterMap (HostCall.eventAt cell)) := by
  induction calls generalizing env with
  | nil => rfl
  | cons call calls ih =>
    have split : (call :: calls).filterMap (HostCall.eventAt cell) =
        (call.eventAt cell).toList ++ calls.filterMap (HostCall.eventAt cell) := by
      cases event : call.eventAt cell with
      | none => rw [List.filterMap_cons_none event]; rfl
      | some e => rw [List.filterMap_cons_some event]; rfl
    rw [split, lastWritten_append, ← apply_matrix]
    exact ih _

private theorem kmRun_matrix (ticks : List KmTick) (cell : Int × Int) :
    (kmRun ticks).env.matrix cell = leftAt (kmMachine.emitted kmSysInit ticks) cell := by
  induction ticks using List.reverseRecOn with
  | nil => rfl
  | append_singleton ticks tick ih =>
    rw [kmRun_snoc, kmMachine.emitted_snoc, leftAt, List.filterMap_append, lastWritten_append,
      ← leftAt, ← ih]
    exact run_matrix _ _ cell

end Matrix

section Lists

/-- Both lists of keys, of the active injection and of the report, have a property. -/
def KmCore.Lists (P : List KmKey → Prop) (km : KmCore) : Prop := P km.keys ∧ P km.last.keys

variable {P : List KmKey → Prop} (empty : P [])
  (fewer : ∀ keys listed, P keys → P (survivingKeys keys listed)) {km : KmCore}

include empty

private theorem lists_released (lists : km.Lists P) (host : KmHost) (reason : KmReleaseReason) :
    (kmReleaseNow host reason km).1.Lists P := by
  unfold kmReleaseNow
  split
  · exact ⟨empty, lists.1⟩
  · exact lists

private theorem lists_start (lists : km.Lists P) (host : KmHost) {injection : Injection}
    (pressed : P injection.keys) :
    ((KmAction.start injection).perform host km).1.Lists P := by
  have ended := lists_released empty lists host .manual
  rw [KmAction.perform, kmStart_eq]
  cases injection.frames with
  | none => exact ⟨pressed, ended.2⟩
  | some frames => exact ⟨pressed, ended.2⟩

include fewer

private theorem lists_releaseListed (lists : km.Lists P) (host : KmHost) (listed : List KmKey) :
    (kmReleaseListed host listed km).1.Lists P := by
  have surviving : KmCore.Lists P { km with keys := survivingKeys km.keys listed } :=
    ⟨fewer km.keys listed lists.1, lists.2⟩
  simp only [kmReleaseListed]
  split
  · split
    · exact lists_released empty surviving host .manual
    · exact surviving
  · exact lists

private theorem lists_perform (lists : km.Lists P) (host : KmHost) {action : KmAction}
    (pressed : ∀ injection, action = .start injection → P injection.keys) :
    (action.perform host km).1.Lists P := by
  cases action with
  | none => exact lists
  | start injection => exact lists_start empty lists host (pressed injection rfl)
  | releaseAll => exact lists_released empty lists host .manual
  | releaseListed listed => exact lists_releaseListed empty fewer lists host listed
  | raw writes => exact lists
  | scan port mask =>
    obtain ⟨total, sampling, reason, core, _⟩ := kmScan_frame port.coord host mask km
    rw [KmAction.perform, core]
    exact lists
  | fire => exact lists_released empty lists host _

theorem lists_run (pressed : ∀ (op : KmOp) (injection : Injection),
    op.action = .start injection → P injection.keys) (ticks : List KmTick) :
    (kmRun ticks).km.Lists P := by
  induction ticks using List.reverseRecOn with
  | nil => exact ⟨empty, empty⟩
  | append_singleton ticks tick ih =>
    rw [kmRun_snoc, kmStep_eq]
    exact lists_perform empty fewer ih _ (pressed tick.op)

end Lists

section Counts

/-- No more keys are listed than the arrays hold. -/
def KmCore.Few (km : KmCore) : Prop :=
  km.keys.length ≤ kmMaxKeys ∧ km.last.keys.length ≤ kmMaxKeys

variable {km : KmCore}

theorem kmRun_few (ticks : List KmTick) : (kmRun ticks).km.Few := by
  have fewer : ∀ keys listed : List KmKey, keys.length ≤ kmMaxKeys →
      (survivingKeys keys listed).length ≤ kmMaxKeys :=
    fun keys listed few => (List.length_filter_le _ keys).trans few
  exact lists_run (Nat.zero_le _) fewer (fun _ injection _ => injection.ok.few_keys) ticks

private theorem few_shown (few : km.Few) : km.shown.keys.length ≤ kmMaxKeys := by
  rw [KmCore.shown]
  split
  · exact few.1
  · split
    · exact few.2
    · exact Nat.zero_le _

private theorem getReport_shown (km : KmCore) :
    getReport km = leBytes 4 km.shown.cia1ReadsTotal ++ leBytes 4 km.shown.cia1ReadsSampling ++
      [km.shown.reason.code, BitVec.ofNat 8 km.shown.keys.length] := by
  rw [getReport, KmCore.shown]
  split
  · rfl
  · split <;> rfl

end Counts

section Kept

/-- The operation neither starts an injection nor lets go of keys on request. -/
def KmOp.keepsKeys (op : KmOp) : Bool :=
  match op.action with
  | .start _ | .releaseAll | .releaseListed _ => false
  | .none | .raw _ | .scan _ _ | .fire => true

variable {sys : KmSys} {tick : KmTick}

private theorem shown_keys_step (keeps : tick.op.keepsKeys = true) :
    (kmStep sys tick).1.km.shown.keys = sys.km.shown.keys := by
  rw [KmOp.keepsKeys] at keeps
  cases active : sys.km.active with
  | false =>
    have plain : tick.op.starts = false := by
      rw [KmOp.starts]
      split <;> simp_all
    rw [idle_step plain active]
  | true =>
    have before : sys.km.shown.keys = sys.km.keys := by rw [KmCore.shown, if_pos active]
    rw [kmStep_eq]
    cases action : tick.op.action with
    | none => rfl
    | raw writes => rfl
    | scan port mask =>
      obtain ⟨total, sampling, reason, core, _⟩ := kmScan_frame port.coord
        (sys.env.host tick.now tick.cyclesPerFrame) mask sys.km
      rw [before, KmSys.act, KmAction.perform, core, KmCore.shown, if_pos active]
    | fire =>
      rw [before, KmSys.act, KmAction.perform, kmCoreOnAlarm, releaseNow_active active]
      rfl
    | start injection => simp [action] at keeps
    | releaseAll => simp [action] at keeps
    | releaseListed listed => simp [action] at keeps

theorem shown_keys_run {ticks : List KmTick} (keep : ∀ tick ∈ ticks, tick.op.keepsKeys = true) :
    (kmMachine.exec sys ticks).km.shown.keys = sys.km.shown.keys := by
  induction ticks using List.reverseRecOn with
  | nil => rfl
  | append_singleton ticks tick ih =>
    rw [Machine.exec_snoc]
    exact (shown_keys_step (keep tick (by simp))).trans
      (ih fun t member => keep t (List.mem_append_left _ member))

theorem shown_keys_started (sys : KmSys) {injection : Injection}
    (action : tick.op.action = .start injection) :
    (kmStep sys tick).1.km.shown.keys = injection.keys := by
  obtain ⟨timeoutClk, started, _⟩ := started_step sys action
  rw [started]
  rfl

end Kept

section Response

variable (host : KmHost) (km : KmCore)

def getReportOf : GetReport where
  keyarr := (List.range 8).map fun i => (host.getKeyarr i &&& 0xff#32).setWidth 8
  customKeys := customBits host
  padding := [0, 0, 0]
  cia1ReadsTotal := km.shown.cia1ReadsTotal
  cia1ReadsSampling := km.shown.cia1ReadsSampling
  releaseReason := km.shown.reason.code
  nKeys := BitVec.ofNat 8 km.shown.keys.length
  framesUntilTimeout := framesLeft host km

private theorem length_getResponse : (getResponse host km).length = 24 := by
  simp [getResponse, getReport_shown]

theorem decode_getResponse : decodeGet (getResponse host km) = some (getReportOf host km) := by
  have long : ∀ x : U32, ofLeBytes 32 (leBytes 4 x) = x := ofLeBytes_leBytes (by decide)
  have word : ∀ x : U16, ofLeBytes 16 (leBytes 2 x) = x := ofLeBytes_leBytes (by decide)
  have total : ((getResponse host km).drop 12).take 4 = leBytes 4 km.shown.cia1ReadsTotal := by
    rw [getResponse_report, getReport_shown]
    rfl
  have sampling : ((getResponse host km).drop 16).take 4 =
      leBytes 4 km.shown.cia1ReadsSampling := by
    rw [show 16 = 12 + 4 from rfl, ← List.drop_drop, getResponse_report, getReport_shown]
    rfl
  have last : ((getResponse host km).drop 20) = [km.shown.reason.code,
      BitVec.ofNat 8 km.shown.keys.length] ++ leBytes 2 (framesLeft host km) := by
    rw [show 20 = 12 + 8 from rfl, ← List.drop_drop, getResponse_report, getReport_shown]
    rfl
  have frames : ((getResponse host km).drop 22).take 2 = leBytes 2 (framesLeft host km) := by
    rw [show 22 = 20 + 2 from rfl, ← List.drop_drop, last]
    rfl
  have reason : (getResponse host km).getD 20 0 = km.shown.reason.code := by
    have first := congrArg (fun rest => rest.getD 0 0) last
    simpa [List.getD_eq_getElem?_getD] using first
  have count : (getResponse host km).getD 21 0 = BitVec.ofNat 8 km.shown.keys.length := by
    have second := congrArg (fun rest => rest.getD 1 0) last
    simpa [List.getD_eq_getElem?_getD] using second
  rw [decodeGet, if_pos (length_getResponse host km), total, sampling, frames, reason, count, long,
    long, word]
  rfl

private theorem nibble_bits : ∀ a b c d : Bool,
    let bits := (if a then 1#8 <<< 0 else 0) ||| (if b then 1#8 <<< 1 else 0) |||
      (if c then 1#8 <<< 2 else 0) ||| (if d then 1#8 <<< 3 else 0)
    bits.getLsbD 0 = a ∧ bits.getLsbD 1 = b ∧ bits.getLsbD 2 = c ∧ bits.getLsbD 3 = d ∧
      bits.toNat < 16 := by
  decide

theorem getLsbD_customBits (key : KmCustom) :
    (customBits host).getLsbD key.bit = host.customKeyGet key := by
  have bits := nibble_bits (host.customKeyGet .restore1) (host.customKeyGet .restore2)
    (host.customKeyGet .caps) (host.customKeyGet .col4080)
  cases key with
  | restore1 => exact bits.1
  | restore2 => exact bits.2.1
  | caps => exact bits.2.2.1
  | col4080 => exact bits.2.2.2.1

private theorem customBits_lt : (customBits host).toNat < 16 :=
  (nibble_bits _ _ _ _).2.2.2.2

theorem getLsbD_row (env : KmEnv) (now cpf : U64) {row col : Nat} (rows : row < 8)
    (cols : col < 8) :
    ((getReportOf (env.host now cpf) km).keyarr.getD row 0).getLsbD col =
      env.matrix (row, col) := by
  have byte : (getReportOf (env.host now cpf) km).keyarr.getD row 0 =
      (env.keyarr row &&& 0xff#32).setWidth 8 := by
    rw [getReportOf, List.getD_eq_getElem?_getD, List.getElem?_map, List.getElem?_range rows]
    rfl
  have ones : ∀ c < 8, (0xff#32).getLsbD c = true := by decide
  have mask := ones col cols
  rw [byte, BitVec.getLsbD_setWidth, BitVec.getLsbD_and, mask, getLsbD_keyarr_col env row cols]
  simp [cols]

end Response

theorem getReportOf_count (ticks : List KmTick) (host : KmHost) :
    (getReportOf host (kmRun ticks).km).nKeys.toNat = (kmRun ticks).km.shown.keys.length := by
  have few := few_shown (kmRun_few ticks)
  rw [getReportOf, BitVec.toNat_ofNat]
  exact Nat.mod_eq_of_lt (Nat.lt_of_le_of_lt few (by decide))

/-- What a response says of the last injection of the run: the reads while it was held, how it
ended, its keys that no listed release has named, and for a tap that is still held the frames
until its deadline. Of the frames of a sticky press nothing is said. -/
structure ReportTold (episode : Option Episode) (now cpf : U64) (r : GetReport) : Prop where
  total : r.cia1ReadsTotal = (toldOf episode).cia1ReadsTotal
  sampling : r.cia1ReadsSampling = (toldOf episode).cia1ReadsSampling
  reason : r.releaseReason = (toldOf episode).reason.code
  count : r.nKeys.toNat = (toldOf episode).keys.length
  past : (∀ e ∈ episode, e.fin ≠ none) → r.framesUntilTimeout = 0
  held : ∀ e ∈ episode, e.fin = none → ∀ frames ∈ e.injection.frames, 0 < cpf.toInt →
    e.deadline frames < 2 ^ 64 →
      r.framesUntilTimeout.toNat = framesTo (e.deadline frames) now.toNat cpf.toNat

/-- What a response says of a run, and of the calls that the host has had in it. -/
structure GetTruth (ticks : List KmTick) (calls : List HostCall) (now cpf : U64)
    (r : GetReport) : Prop where
  rows : r.keyarr.length = 8
  matrix : ∀ row col : Nat, row < 8 → col < 8 →
    (r.keyarr.getD row 0).getLsbD col = leftAt calls (row, col)
  custom : ∀ key : KmCustom, r.customKeys.getLsbD key.bit = leftAt calls key.cell
  spare : r.customKeys.toNat < 16 ∧ r.padding = [0, 0, 0]
  episode : ∃ episode, LastEpisode ticks episode
  told : ∀ episode, LastEpisode ticks episode → ReportTold episode now cpf r

theorem GetTruth.count {ticks : List KmTick} {calls : List HostCall} {now cpf : U64}
    {r : GetReport} (truth : GetTruth ticks calls now cpf r) :
    r.nKeys.toNat = (kmRun ticks).km.shown.keys.length := by
  obtain ⟨episode, last⟩ := truth.episode
  rw [(truth.told episode last).count, shown_told last]

private theorem getReportOf_told {ticks : List KmTick} {episode : Option Episode}
    (last : LastEpisode ticks episode) (now cpf : U64) :
    ReportTold episode now cpf
      (getReportOf ((kmRun ticks).env.host now cpf) (kmRun ticks).km) := by
  have shown := shown_told last
  refine ⟨congrArg ShownInjection.cia1ReadsTotal shown,
    congrArg ShownInjection.cia1ReadsSampling shown,
    congrArg (fun told => told.reason.code) shown, ?_, ?_, ?_⟩
  · rw [getReportOf_count, shown]
  · intro past
    exact framesLeft_idle _ (idle_of_last last past)
  · rintro e member held frames framed positive fits
    obtain rfl := Option.mem_def.mp member
    obtain ⟨active, stored⟩ := timeoutClk_held last held framed fits
    rw [getReportOf, framesLeft_toNat _ _ now positive, stored, framesTo]
    simp only [active, true_and]

theorem getReportOf_truth (ticks : List KmTick) (now cpf : U64) :
    GetTruth ticks (kmMachine.emitted kmSysInit ticks) now cpf
      (getReportOf ((kmRun ticks).env.host now cpf) (kmRun ticks).km) := by
  refine ⟨rfl, ?_, ?_, ⟨customBits_lt _, rfl⟩, last_episode ticks,
    fun _ last => getReportOf_told last now cpf⟩
  · intro row col rows cols
    rw [getLsbD_row _ _ now cpf rows cols]
    exact kmRun_matrix ticks _
  · intro key
    exact (getLsbD_customBits _ key).trans (kmRun_matrix ticks _)

/-- GET tells the truth in every reachable state: it fills the first 24 bytes of a large enough
buffer and no others, and a client that reads them by the documented offsets finds at every
place of the matrix, and for every custom key, the last value that any operation has written
there, and of the last injection what the operations of the run have made of it. -/
theorem get_truthful (ticks : List KmTick) (now cpf : U64) (out : List U8) {outLength : U32}
    (room : 24 ≤ outLength.toNat) (holds : outLength.toNat ≤ out.length) :
    let sys := kmRun ticks
    ∃ response r,
      kmCoreBinmonGet (sys.env.host now cpf) sys.km ⟨some out, some outLength⟩ =
          (0, ⟨some response, some 24⟩) ∧
        response.length = out.length ∧ response.drop 24 = out.drop 24 ∧
        decodeGet (response.take 24) = some r ∧
        GetTruth ticks (kmMachine.emitted kmSysInit ticks) now cpf r := by
  intro sys
  have size := length_getResponse (sys.env.host now cpf) sys.km
  refine ⟨_, getReportOf (sys.env.host now cpf) sys.km,
    binmonGet_ok (sys.env.host now cpf) sys.km out room, ?_, ?_, ?_,
    getReportOf_truth ticks now cpf⟩
  · rw [List.length_append, List.length_drop, size, kmBinmonGetResponseSize]
    omega
  · exact List.drop_left' size
  · rw [List.take_left' size]
    exact decode_getResponse _ _

def heldA : List KmTick := [⟨10, 19656, .binmonTap [0, 60, 0, 1, 1, 2]⟩]

theorem get_truthful_held :
    let sys := kmRun heldA
    let out := List.replicate 30 0xff#8
    ∃ response r,
      kmCoreBinmonGet (sys.env.host 20 19656) sys.km ⟨some out, some 30⟩ =
          (0, ⟨some response, some 24⟩) ∧
        response.length = out.length ∧ response.drop 24 = out.drop 24 ∧
        decodeGet (response.take 24) = some r ∧
        GetTruth heldA (kmMachine.emitted kmSysInit heldA) 20 19656 r :=
  get_truthful heldA 20 19656 (List.replicate 30 0xff#8) (by decide) (by decide)

end Revice.Keymatrix

/- Module: Revice/Binmon/Replies
   source: integration/vice/patches (03, 06), libs/keymatrix/src/keymatrix_core.c
   digest: Every command gets one reply of its own, which tells what the command has come to. -/

import Revice.Binmon.Session

set_option autoImplicit false
set_option relaxedAutoImplicit false

namespace Revice.Binmon

open Revice.General
open Revice.Driveattach (MonCall MonErr)
open Revice.Keymatrix (HostCall KmCore KmHost KmTick MonKmOp Adapted GetTruth Vice decodeGet)
open Revice.Screen (C64 decodeScreen screenState)

def BinmonOut.requestId : BinmonOut → Option U32
  | .mon (.monitorBinaryError _ requestId) => some requestId
  | .mon (.monitorBinaryResponse _ _ _ requestId _) => some requestId
  | .mon (.fileSystemDetachDisk _ _) => none
  | .mon (.fileSystemAttachDisk _ _ _) => none
  | .host _ => none

def BinmonOut.hostCall : BinmonOut → Option HostCall
  | .mon _ => none
  | .host call => some call

def BinmonOp.requestId {α : Type} : BinmonOp α → Option U32
  | .command tick => some tick.command.requestId
  | .keymatrix _ => none
  | .c64screenInit => none
  | .machine _ => none

def BinaryTick.keymatrixOp (α : Type) (tick : BinaryTick) : Option (MonKmOp α) :=
  if tick.type = monCmdKeymatrixSet then
    some (.entry ⟨tick.now, tick.cyclesPerFrame, .binmonSet tick.content⟩)
  else if tick.type = monCmdKeymatrixTap then
    some (.entry ⟨tick.now, tick.cyclesPerFrame, .binmonTap tick.content⟩)
  else if tick.type = monCmdKeymatrixGet then
    some (.entry ⟨tick.now, tick.cyclesPerFrame, .binmonGet ⟨some tick.keymatrixBuf, some 24⟩⟩)
  else none

def BinmonOp.keymatrixOp {α : Type} : BinmonOp α → Option (MonKmOp α)
  | .command tick => tick.keymatrixOp α
  | .keymatrix op => some op
  | .c64screenInit => none
  | .machine _ => none

def BinmonOp.kmTick {α : Type} (op : BinmonOp α) : Option KmTick :=
  op.keymatrixOp.bind MonKmOp.tick?

/-- The handler's test of a SET body: it is long enough for its count of triples. -/
def SetFits (content : List U8) : Prop :=
  1 ≤ content.length ∧ 1 + (content.getD 0 0).toNat * 3 ≤ content.length

/-- The handler's test of a TAP body: it is long enough for its count of pairs, and the count is
from 1 to 16. The mode byte and the frame count are not tested. -/
def TapFits (content : List U8) : Prop :=
  4 ≤ content.length ∧ 4 + (content.getD 3 0).toNat * 2 ≤ content.length ∧
    1 ≤ (content.getD 3 0).toNat ∧ (content.getD 3 0).toNat ≤ 16

section Answer

variable {ε α : Type} [Vice ε α]

/-- A command whose body fits is answered with an empty body after its effect on the host; one
whose body does not fit with an error, and it has no effect. -/
def AcceptedIff (fits : Prop) (s : BinmonSys ε α) (tick : BinaryTick) (t : BinmonSys ε α)
    (out : List BinmonOut) : Prop :=
  (fits → ∃ calls : List HostCall, out = calls.map BinmonOut.host ++
      [.mon (.monitorBinaryResponse 0 tick.type .ok tick.command.requestId none)]) ∧
    (¬fits → t.km.view = s.km.view ∧
      out = [.mon (.monitorBinaryError .cmdInvalidLength tick.command.requestId)])

/-- The answers to the commands, where `ticks` are the operations of the keymatrix core so far
and `calls` is what its host has been told. A GET and a SCREEN_GET are answered whatever their
bodies hold; the state a SCREEN_GET shows is the one the screen core packs. -/
structure Answered (s : BinmonSys ε α) (ticks : List KmTick) (calls : List HostCall)
    (tick : BinaryTick) (t : BinmonSys ε α) (out : List BinmonOut) : Prop where
  set : tick.type = monCmdKeymatrixSet → AcceptedIff (SetFits tick.content) s tick t out
  tap : tick.type = monCmdKeymatrixTap → AcceptedIff (TapFits tick.content) s tick t out
  get : tick.type = monCmdKeymatrixGet → t.km.view = s.km.view ∧
    ∃ body r, out = [.mon (.monitorBinaryResponse 24 tick.type .ok tick.command.requestId
        (some body))] ∧
      decodeGet body = some r ∧ GetTruth ticks calls tick.now tick.cyclesPerFrame r
  screen : tick.type = monCmdScreenGet → t = s ∧
    (s.screen.sProvider = none →
      out = [.mon (.monitorBinaryError .cmdFailure tick.command.requestId)]) ∧
    (s.screen.sProvider ≠ none →
      ∃ body, out = [.mon (.monitorBinaryResponse 4072 tick.type .ok tick.command.requestId
          (some body))] ∧
        decodeScreen body = some (screenState s.c64.inputs))
  drive : tick.type = monCmdDriveAttach → t = s ∧
    out = (tick.command.outcome.calls tick.fileSystemAttachDisk tick.command.requestId).map
      BinmonOut.mon

end Answer

section Step

variable {ε α : Type} [Vice ε α] (s : BinmonSys ε α) (tick : BinaryTick)

private theorem requestId_hosts (calls : List HostCall) :
    (calls.map BinmonOut.host).filterMap BinmonOut.requestId = [] := by
  rw [List.filterMap_map, List.filterMap_eq_nil_iff]
  intro call _
  rfl

private theorem hostCall_hosts (calls : List HostCall) :
    (calls.map BinmonOut.host).filterMap BinmonOut.hostCall = calls := by
  rw [List.filterMap_map]
  exact List.filterMap_some

private theorem drive_outputs :
    ((tick.command.outcome.calls tick.fileSystemAttachDisk tick.command.requestId).map
        BinmonOut.mon).filterMap BinmonOut.requestId = [tick.command.requestId] ∧
      ((tick.command.outcome.calls tick.fileSystemAttachDisk tick.command.requestId).map
        BinmonOut.mon).filterMap BinmonOut.hostCall = [] := by
  cases tick.command.outcome with
  | rejected err => exact ⟨rfl, rfl⟩
  | detach unit drive => exact ⟨rfl, rfl⟩
  | attach unit drive path =>
    rw [Driveattach.DriveOutcome.calls]
    split <;> exact ⟨rfl, rfl⟩

omit [Vice ε α] in
private theorem done_outputs (type : U8) (done : Int × Keymatrix.MonKm ε α × List HostCall) :
    (keymatrixDone s tick type done).2.filterMap BinmonOut.requestId = [tick.command.requestId] ∧
      (keymatrixDone s tick type done).2.filterMap BinmonOut.hostCall = done.2.2 := by
  rw [keymatrixDone, List.filterMap_append, List.filterMap_append, requestId_hosts,
    hostCall_hosts]
  split <;> exact ⟨rfl, List.append_nil _⟩

private theorem process_set (here : tick.type = monCmdKeymatrixSet) :
    monitorBinaryProcessCommand s tick = monitorBinaryProcessKeymatrixSet s tick := by
  rw [monitorBinaryProcessCommand, if_pos here]

private theorem process_tap (here : tick.type = monCmdKeymatrixTap) :
    monitorBinaryProcessCommand s tick = monitorBinaryProcessKeymatrixTap s tick := by
  rw [monitorBinaryProcessCommand, here, if_neg (by decide), if_pos rfl]

private theorem process_get (here : tick.type = monCmdKeymatrixGet) :
    monitorBinaryProcessCommand s tick = monitorBinaryProcessKeymatrixGet s tick := by
  rw [monitorBinaryProcessCommand, here, if_neg (by decide), if_neg (by decide), if_pos rfl]

private theorem process_screen (here : tick.type = monCmdScreenGet) :
    monitorBinaryProcessCommand s tick = monitorBinaryProcessScreenGet s tick := by
  rw [monitorBinaryProcessCommand, here, if_neg (by decide), if_neg (by decide),
    if_neg (by decide), if_pos rfl]

private theorem process_drive (here : tick.type = monCmdDriveAttach) :
    monitorBinaryProcessCommand s tick = (s, (tick.command.outcome.calls
      tick.fileSystemAttachDisk tick.command.requestId).map BinmonOut.mon) := by
  rw [monitorBinaryProcessCommand, here, if_neg (by decide), if_neg (by decide),
    if_neg (by decide), if_neg (by decide), if_pos rfl, monitorBinaryProcessDriveAttach,
    Driveattach.routed_calls]

private theorem command_step (ours : tick.Ours) :
    (monitorBinaryProcessCommand s tick).2.filterMap BinmonOut.requestId =
        [tick.command.requestId] ∧
      match tick.keymatrixOp α with
      | none => (monitorBinaryProcessCommand s tick).1.km = s.km ∧
          (monitorBinaryProcessCommand s tick).2.filterMap BinmonOut.hostCall = []
      | some op => Keymatrix.monKmMachine.step s.km op =
          ((monitorBinaryProcessCommand s tick).1.km,
            (monitorBinaryProcessCommand s tick).2.filterMap BinmonOut.hostCall) := by
  rcases ours with here | here | here | here | here
  · obtain ⟨id, hosts⟩ := done_outputs s tick monCmdKeymatrixSet
      (Keymatrix.monKeymatrixBinmonSet tick.now tick.cyclesPerFrame tick.content s.km)
    rw [process_set s tick here, BinaryTick.keymatrixOp, if_pos here]
    exact ⟨id, congrArg _ hosts.symm⟩
  · obtain ⟨id, hosts⟩ := done_outputs s tick monCmdKeymatrixTap
      (Keymatrix.monKeymatrixBinmonTap tick.now tick.cyclesPerFrame tick.content s.km)
    rw [process_tap s tick here, BinaryTick.keymatrixOp, here, if_neg (by decide), if_pos rfl]
    exact ⟨id, congrArg _ hosts.symm⟩
  · rw [process_get s tick here, BinaryTick.keymatrixOp, here, if_neg (by decide),
      if_neg (by decide), if_pos rfl, monitorBinaryProcessKeymatrixGet]
    split <;> exact ⟨rfl, rfl⟩
  · rw [process_screen s tick here, BinaryTick.keymatrixOp, here, if_neg (by decide),
      if_neg (by decide), if_neg (by decide), monitorBinaryProcessScreenGet]
    split <;> exact ⟨rfl, rfl, rfl⟩
  · obtain ⟨id, hosts⟩ := drive_outputs tick
    rw [process_drive s tick here, BinaryTick.keymatrixOp, here, if_neg (by decide),
      if_neg (by decide), if_neg (by decide)]
    exact ⟨id, rfl, hosts⟩

end Step

section Answers

private theorem setTriples_iff (content : List U8) :
    Keymatrix.setTriples content = none ↔ ¬SetFits content := by
  simp only [Keymatrix.setTriples, SetFits]
  split
  · simp only [true_iff]
    omega
  · split
    · simp only [true_iff]
      omega
    · simp only [reduceCtorEq, false_iff, not_not]
      omega

theorem tapBody_iff (content : List U8) :
    Keymatrix.tapBody content = none ↔ ¬TapFits content := by
  simp only [Keymatrix.tapBody, TapFits]
  split
  · simp only [true_iff]
    omega
  · split
    · simp only [true_iff]
      omega
    · split
      · rename_i count
        simp only [Bool.or_eq_true, decide_eq_true_eq, Keymatrix.kmMaxKeys] at count
        simp only [true_iff]
        omega
      · rename_i count
        simp only [Bool.or_eq_true, decide_eq_true_eq, Keymatrix.kmMaxKeys] at count
        simp only [reduceCtorEq, false_iff, not_not]
        omega

/-- The core takes a body that fits, and does nothing with another one. -/
private structure TakesIff (fits : Prop) (core : KmHost → KmCore → Int × KmCore × List HostCall) :
    Prop where
  taken : fits → ∀ host km, (core host km).1 = 0
  refused : ¬fits → ∀ host km, (core host km).1 ≠ 0 ∧ (core host km).2 = (km, [])

private theorem set_takes (content : List U8) :
    TakesIff (SetFits content) fun _ km => Keymatrix.kmCoreBinmonSet km content := by
  constructor
  · intro fits host km
    cases read : Keymatrix.setTriples content with
    | none => exact absurd fits ((setTriples_iff _).mp read)
    | some triples => simp only [Keymatrix.kmCoreBinmonSet, read]
  · intro long host km
    simp only [Keymatrix.kmCoreBinmonSet, (setTriples_iff _).mpr long]
    exact ⟨by decide, trivial⟩

private theorem tap_takes (content : List U8) :
    TakesIff (TapFits content) fun host km => Keymatrix.kmCoreBinmonTap host km content := by
  constructor
  · intro fits host km
    cases read : Keymatrix.tapBody content with
    | none => exact absurd fits ((tapBody_iff _).mp read)
    | some body => simp only [Keymatrix.kmCoreBinmonTap, read]
  · intro long host km
    simp only [Keymatrix.kmCoreBinmonTap, (tapBody_iff _).mpr long]
    exact ⟨by decide, trivial⟩

variable {ε α : Type} [Vice ε α] {s : BinmonSys ε α} {tick : BinaryTick}

variable (formed : s.km.WellFormed)

include formed

private theorem core_answer {fits : Prop} {core : KmHost → KmCore → Int × KmCore × List HostCall}
    (takes : TakesIff fits core) :
    let done := ((core (s.km.kmxEnsure.host tick.now tick.cyclesPerFrame) s.km.kmxEnsure.kmx).1,
      s.km.kmxEnsure.enter tick.now tick.cyclesPerFrame fun host km => (core host km).2)
    AcceptedIff fits s tick (keymatrixDone s tick tick.type done).1
      (keymatrixDone s tick tick.type done).2 := by
  intro done
  constructor
  · intro ok
    refine ⟨done.2.2, ?_⟩
    rw [keymatrixDone, if_neg (not_not.mpr (takes.taken ok _ _))]
  · intro bad
    have steps := Keymatrix.MonKm.steps_ensured formed tick.now tick.cyclesPerFrame
      fun host km => (core host km).2
    have code : done.1 ≠ 0 := (takes.refused bad _ _).1
    have silent : done.2.2 = [] := congrArg Prod.snd (takes.refused bad _ _).2
    rw [(takes.refused bad _ _).2] at steps
    refine ⟨steps.view, ?_⟩
    rw [keymatrixDone, if_pos code, silent]
    rfl

private theorem set_answer (here : tick.type = monCmdKeymatrixSet) :
    AcceptedIff (SetFits tick.content) s tick (monitorBinaryProcessCommand s tick).1
      (monitorBinaryProcessCommand s tick).2 := by
  rw [process_set s tick here, monitorBinaryProcessKeymatrixSet, ← here]
  exact core_answer formed (set_takes tick.content)

private theorem tap_answer (here : tick.type = monCmdKeymatrixTap) :
    AcceptedIff (TapFits tick.content) s tick (monitorBinaryProcessCommand s tick).1
      (monitorBinaryProcessCommand s tick).2 := by
  rw [process_tap s tick here, monitorBinaryProcessKeymatrixTap, ← here]
  exact core_answer formed (tap_takes tick.content)

theorem get_answer (here : tick.type = monCmdKeymatrixGet) {ticks : List KmTick}
    (view : s.km.view = Keymatrix.kmRun ticks) :
    (monitorBinaryProcessCommand s tick).1.km.view = s.km.view ∧
      ∃ body r, (monitorBinaryProcessCommand s tick).2 =
          [.mon (.monitorBinaryResponse 24 tick.type .ok tick.command.requestId (some body))] ∧
        decodeGet body = some r ∧
        GetTruth ticks (Keymatrix.kmMachine.emitted Keymatrix.kmSysInit ticks) tick.now
          tick.cyclesPerFrame r := by
  have env : s.km.env = (Keymatrix.kmRun ticks).env := congrArg Keymatrix.KmSys.env view
  have core : s.km.kmx = (Keymatrix.kmRun ticks).km := congrArg Keymatrix.KmSys.km view
  have ensured := Keymatrix.MonKm.kmxEnsure_eq formed
  have sameEnv : s.km.kmxEnsure.env = s.km.env := by
    rw [ensured]
    rfl
  have sameCore : s.km.kmxEnsure.kmx = s.km.kmx := by rw [ensured]
  have nothing : tick.keymatrixBuf.drop Keymatrix.kmBinmonGetResponseSize = [] :=
    List.drop_eq_nil_of_le (Nat.le_of_eq tick.keymatrixSize)
  have got := Keymatrix.binmonGet_ok
    ((Keymatrix.kmRun ticks).env.host tick.now tick.cyclesPerFrame) (Keymatrix.kmRun ticks).km
    tick.keymatrixBuf (by decide : Keymatrix.kmBinmonGetResponseSize ≤ (24 : U32).toNat)
  rw [nothing, List.append_nil] at got
  rw [process_get s tick here, monitorBinaryProcessKeymatrixGet, Keymatrix.monKeymatrixBinmonGet,
    Keymatrix.MonKm.host_eq, sameEnv, sameCore, env, core, got, here, view]
  refine ⟨?_, _, _, rfl, Keymatrix.decode_getResponse _ _,
    Keymatrix.getReportOf_truth ticks tick.now tick.cyclesPerFrame⟩
  rw [← view, ensured]
  rfl

omit formed in
theorem screen_answer (here : tick.type = monCmdScreenGet)
    (provider : s.screen.sProvider = none ∨
      s.screen.sProvider = some Screen.c64screenGetState) :
    (monitorBinaryProcessCommand s tick).1 = s ∧
      (s.screen.sProvider = none → (monitorBinaryProcessCommand s tick).2 =
        [.mon (.monitorBinaryError .cmdFailure tick.command.requestId)]) ∧
      (s.screen.sProvider ≠ none → ∃ body, (monitorBinaryProcessCommand s tick).2 =
          [.mon (.monitorBinaryResponse 4072 tick.type .ok tick.command.requestId (some body))] ∧
        decodeScreen body = some (screenState s.c64.inputs)) := by
  rw [process_screen s tick here, monitorBinaryProcessScreenGet]
  refine ⟨rfl, ?_, ?_⟩
  · intro absent
    simp only [Screen.monScreenBinmonGet, absent]
    rfl
  · intro present
    have registered := provider.resolve_left present
    have same : s.screen = Screen.c64screenInit s.screen := by
      rw [Screen.c64screenInit, Screen.monScreenRegisterProvider, ← registered]
    have large : Screen.screenResponseSize ≤ (4072 : U32).toNat := by decide
    have room : (4072 : U32).toNat ≤ tick.screenBuf.length := Nat.le_of_eq tick.screenSize.symm
    have nothing : tick.screenBuf.drop Screen.screenResponseSize = [] :=
      List.drop_eq_nil_of_le (Nat.le_of_eq tick.screenSize)
    have got := Screen.monScreenBinmonGet_c64 s.screen s.c64 tick.screenBuf large room
    rw [nothing, List.append_nil, ← same] at got
    rw [got, here]
    exact ⟨_, rfl, Screen.decode_encodeScreen _⟩

end Answers

section Run

variable {ε α : Type} [Vice ε α]

private theorem session_projects :
    (binmonMachine : Machine (BinmonSys ε α) (BinmonOp α) BinmonOut).Projects
      Keymatrix.monKmMachine (fun _ => True) BinmonSys.km BinmonOp.keymatrixOp
      BinmonOut.hostCall := by
  intro s op _ enabled
  cases op with
  | command tick =>
    have step := (command_step s tick enabled).2
    have same : (BinmonOp.command tick).keymatrixOp = tick.keymatrixOp α := rfl
    rw [same]
    cases visible : tick.keymatrixOp α with
    | none =>
      rw [visible] at step
      exact step
    | some op =>
      rw [visible] at step
      exact step
  | keymatrix op =>
    exact congrArg (Prod.mk (op.perform s.km).1) (hostCall_hosts (op.perform s.km).2).symm
  | c64screenInit => exact ⟨rfl, rfl⟩
  | machine c64 => exact ⟨rfl, rfl⟩

private theorem keymatrixOp_enabled (s : BinmonSys ε α) (op : BinmonOp α) (kmOp : MonKmOp α)
    (enabled : binmonMachine.enabled s op) (visible : op.keymatrixOp = some kmOp) :
    Keymatrix.monKmMachine.enabled s.km kmOp := by
  cases op with
  | command tick =>
    change tick.keymatrixOp α = some kmOp at visible
    rw [BinaryTick.keymatrixOp] at visible
    split at visible
    · obtain rfl := Option.some.inj visible
      exact fun callback => Keymatrix.KmOp.noConfusion callback
    · split at visible
      · obtain rfl := Option.some.inj visible
        exact fun callback => Keymatrix.KmOp.noConfusion callback
      · split at visible
        · obtain rfl := Option.some.inj visible
          exact fun callback => Keymatrix.KmOp.noConfusion callback
        · cases visible
  | keymatrix op =>
    obtain rfl := Option.some.inj visible
    exact enabled
  | c64screenInit => cases visible
  | machine c64 => cases visible

theorem provider_step (s : BinmonSys ε α) (op : BinmonOp α) :
    (binmonMachine.step s op).1.screen.sProvider = s.screen.sProvider ∨
      (binmonMachine.step s op).1.screen.sProvider = some Screen.c64screenGetState := by
  cases op with
  | command tick =>
    have same : (monitorBinaryProcessCommand s tick).1.screen = s.screen := by
      unfold monitorBinaryProcessCommand
      repeat' split
      all_goals rfl
    exact Or.inl (congrArg _ same)
  | keymatrix op => exact Or.inl rfl
  | c64screenInit => exact Or.inr rfl
  | machine c64 => exact Or.inl rfl

theorem session_ids {s : BinmonSys ε α} {ops : List (BinmonOp α)}
    (legal : binmonMachine.Legal s ops) :
    (binmonMachine.emitted s ops).filterMap BinmonOut.requestId =
      ops.filterMap BinmonOp.requestId := by
  refine binmonMachine.run_induction
    (fun ops _ out => out.filterMap BinmonOut.requestId = ops.filterMap BinmonOp.requestId)
    rfl ?_ legal
  intro before op _ enabled ih
  rw [List.filterMap_append, List.filterMap_append, ih]
  refine congrArg _ ?_
  cases op with
  | command tick => exact (command_step _ tick enabled).1
  | keymatrix op => exact requestId_hosts _
  | c64screenInit => rfl
  | machine c64 => rfl

private theorem session_provider {e : ε} {c64 : C64} {ops : List (BinmonOp α)}
    (legal : binmonMachine.Legal (binmonInit e c64) ops) :
    let s := binmonMachine.exec (binmonInit e c64) ops
    s.screen.sProvider = none ∨ s.screen.sProvider = some Screen.c64screenGetState := by
  refine binmonMachine.exec_invariant (P := fun s => s.screen.sProvider = none ∨
    s.screen.sProvider = some Screen.c64screenGetState) ?_ (Or.inl rfl) legal
  intro s op held enabled
  rcases provider_step s op with same | registered
  · rw [same]
    exact held
  · exact Or.inr registered

variable [DecidableEq α]

theorem session_adapted {e : ε} (clear : ∀ cell, (Vice.state e).matrix cell = false) {c64 : C64}
    {ops : List (BinmonOp α)} (legal : binmonMachine.Legal (binmonInit e c64) ops) :
    let s := binmonMachine.exec (binmonInit e c64) ops
    s.km.WellFormed ∧ Adapted e (ops.filterMap BinmonOp.keymatrixOp) s.km
      ((binmonMachine.emitted (binmonInit e c64) ops).filterMap BinmonOut.hostCall) := by
  have kept : ∀ (s : BinmonSys ε α) (op : BinmonOp α), True → binmonMachine.enabled s op → True :=
    fun _ _ _ _ => trivial
  have projected := session_projects.legal _ _ kept keymatrixOp_enabled trivial legal
  have ran := session_projects.run _ _ kept trivial legal
  have adapted := Keymatrix.adapted_run clear projected
  have start : (binmonInit e c64 : BinmonSys ε α).km = Keymatrix.monKmInit e := rfl
  rw [start] at ran
  rw [ran.1, ran.2] at adapted
  exact adapted

theorem session_core {e : ε} (clear : ∀ cell, (Vice.state e).matrix cell = false) {c64 : C64}
    {ops : List (BinmonOp α)} (legal : binmonMachine.Legal (binmonInit e c64) ops) :
    (binmonMachine.exec (binmonInit e c64) ops).km.view =
        Keymatrix.kmRun (ops.filterMap BinmonOp.kmTick) ∧
      (binmonMachine.emitted (binmonInit e c64) ops).filterMap BinmonOut.hostCall =
        Keymatrix.kmMachine.emitted Keymatrix.kmSysInit (ops.filterMap BinmonOp.kmTick) := by
  have adapted := (session_adapted clear legal).2
  have same : (ops.filterMap BinmonOp.keymatrixOp).filterMap MonKmOp.tick? =
      ops.filterMap BinmonOp.kmTick := List.filterMap_filterMap
  rw [← same]
  exact ⟨adapted.view, adapted.calls⟩

end Run

section Serves

variable {ε α : Type} [Vice ε α] [DecidableEq α]

/-- What a run of the session comes to: one reply to every command, in the order of the
commands and with their request numbers; the answer to each of them in the state it meets; and a
keymatrix adapter that runs the core as if the commands were calls of its own. -/
structure Serves (e : ε) (c64 : C64) (ops : List (BinmonOp α)) : Prop where
  ids : (binmonMachine.emitted (binmonInit e c64) ops).filterMap BinmonOut.requestId =
    ops.filterMap BinmonOp.requestId
  keymatrix : Adapted e (ops.filterMap BinmonOp.keymatrixOp)
    (binmonMachine.exec (binmonInit e c64) ops).km
    ((binmonMachine.emitted (binmonInit e c64) ops).filterMap BinmonOut.hostCall)
  answers : ∀ before tick after, ops = before ++ .command tick :: after →
    let s := binmonMachine.exec (binmonInit e c64) before
    Answered s (before.filterMap BinmonOp.kmTick)
      ((binmonMachine.emitted (binmonInit e c64) before).filterMap BinmonOut.hostCall) tick
      (binmonMachine.step s (.command tick)).1 (binmonMachine.step s (.command tick)).2

/-- In every run, whatever happens between the commands: each command of the patch gets
exactly one reply, which carries its request number; SET and TAP are accepted if their bodies
pass the handler's tests, and have no effect otherwise; a GET shows what the run has made of the
keys, and a SCREEN_GET what the screen core packs at that moment; and everything the commands do
to the keyboard is what the core does. -/
theorem binmon_session (e : ε) (clear : ∀ cell, (Vice.state e).matrix cell = false) (c64 : C64)
    (ops : List (BinmonOp α)) (legal : binmonMachine.Legal (binmonInit e c64) ops) :
    Serves e c64 ops := by
  refine ⟨session_ids legal, (session_adapted clear legal).2, ?_⟩
  rintro before tick after rfl
  obtain ⟨reached, enabled, -⟩ := (binmonMachine.legal_append _ before _).mp legal
  have formed := (session_adapted clear reached).1
  obtain ⟨view, calls⟩ := session_core clear reached
  have provider := session_provider reached
  refine ⟨set_answer formed, tap_answer formed, ?_, fun here => screen_answer here provider, ?_⟩
  · intro here
    rw [calls]
    exact get_answer formed here view
  · intro here
    have step := process_drive (binmonMachine.exec (binmonInit e c64) before) tick here
    exact ⟨congrArg Prod.fst step, congrArg Prod.snd step⟩

end Serves

def tickOf (type : U8) (body : List U8) (requestId : U32)
    (held : (BitVec.ofNat 32 body.length).toNat ≤ body.length) : BinaryTick where
  type := type
  command := ⟨body, BitVec.ofNat 32 body.length, requestId, held⟩
  now := 10
  cyclesPerFrame := 19656
  fileSystemAttachDisk := fun _ _ _ => 0
  req := .zeroed
  keymatrixBuf := List.replicate 24 0xff
  screenBuf := List.replicate 4072 0xff
  keymatrixSize := List.length_replicate
  screenSize := List.length_replicate

def smokeScreen : BinaryTick := tickOf monCmdScreenGet [] 2 (by decide)
def smokeTap : BinaryTick := tickOf monCmdKeymatrixTap [0, 60, 0, 1, 1, 2] 3 (by decide)
def smokeGet : BinaryTick := tickOf monCmdKeymatrixGet [] 4 (by decide)

/-- The commands of the smoke test, with a read of the keyboard in between. -/
def smokeRun : List (BinmonOp Nat) :=
  [.c64screenInit, .command smokeScreen, .command smokeTap,
    .keymatrix (.entry ⟨20, 19656, .paRead 0xfd⟩), .command smokeGet]

theorem smokeRun_legal :
    binmonMachine.Legal (binmonInit Keymatrix.Bench.blank Screen.blankC64) smokeRun := by
  refine ⟨trivial, ?_, ?_, ?_, ?_, trivial⟩
  · exact Or.inr (Or.inr (Or.inr (Or.inl rfl)))
  · exact Or.inr (Or.inl rfl)
  · intro callback
    exact Keymatrix.KmOp.noConfusion callback
  · exact Or.inr (Or.inr (Or.inl rfl))

theorem binmon_session_smoke : Serves Keymatrix.Bench.blank Screen.blankC64 smokeRun :=
  binmon_session Keymatrix.Bench.blank (fun _ => rfl) Screen.blankC64 smokeRun smokeRun_legal

end Revice.Binmon

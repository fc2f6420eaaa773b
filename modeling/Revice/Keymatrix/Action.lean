/- Module: Revice/Keymatrix/Action
   source: libs/keymatrix/src/keymatrix_core.c
   digest: Every operation comes down to one of seven actions, read off its argument alone. -/

import Revice.Keymatrix.System

set_option autoImplicit false
set_option relaxedAutoImplicit false

namespace Revice.Keymatrix

open Revice.General

/-- What a started injection promises. -/
structure InjectionOk (mode : KmMode) (keys : List KmKey) (frames : Option Int) : Prop where
  some_key : keys ≠ []
  few_keys : keys.length ≤ kmMaxKeys
  held : mode ≠ .idle
  framed : frames = none ↔ mode = .pressSticky
  frames_pos : ∀ n ∈ frames, 1 ≤ n ∧ n ≤ 65535

/-- An injection that an operation asks for: what to press, in which mode, for how long. -/
structure Injection where
  mode : KmMode
  keys : List KmKey
  frames : Option Int
  ok : InjectionOk mode keys frames

inductive CiaPort
  | pa
  | pb
  deriving DecidableEq

/-- The coordinate of a key that a port's hook tests the scan mask at. -/
def CiaPort.coord : CiaPort → KmKey → Int
  | .pa => KmKey.row
  | .pb => KmKey.col

/-- What an operation comes down to once its argument is read. -/
inductive KmAction
  | none
  | start (injection : Injection)
  | releaseAll
  | releaseListed (keys : List KmKey)
  | raw (writes : List (Int × Int × Bool))
  | scan (port : CiaPort) (mask : U8)
  | fire

/-- The effect of an action, without monitor text. -/
def KmAction.perform (host : KmHost) (km : KmCore) : KmAction → KmCore × List HostCall
  | .none => (km, [])
  | .start injection => kmStart host injection.mode injection.keys injection.frames km
  | .releaseAll =>
    let released := kmReleaseNow host .manual km
    (released.1, released.2 ++ [.clearKeymatrix])
  | .releaseListed keys => kmReleaseListed host keys km
  | .raw writes => (km, writes.map fun (row, col, value) => .setKeyarrAny row col value)
  | .scan port mask => kmScan port.coord host mask km
  | .fire => kmCoreOnAlarm host km

theorem InjectionOk.tap {keys : List KmKey} {forFrames : Int}
    (listed : KeyListOk kmMaxKeys keys forFrames) (some_key : keys ≠ []) :
    InjectionOk (tapFrames forFrames).1 keys (some (tapFrames forFrames).2) := by
  have frames := listed.frames
  unfold tapFrames
  split
  · exact ⟨some_key, listed.few, by simp, by simp, by simp; omega⟩
  · exact ⟨some_key, listed.few, by simp, by simp, by simp [kmDefaultTimeoutFrames]⟩

theorem InjectionOk.press {keys : List KmKey} {forFrames : Int}
    (listed : KeyListOk kmMaxKeys keys forFrames) (some_key : keys ≠ []) :
    InjectionOk .pressSticky keys none :=
  ⟨some_key, listed.few, by decide, by simp, by simp⟩

theorem tapBody_ok {body : List U8} {mode : KmMode} {frames : Int} {keys : List KmKey}
    (accepted : tapBody body = some (mode, frames, keys)) :
    InjectionOk mode keys (some frames) := by
  simp only [tapBody] at accepted
  split at accepted
  · cases accepted
  · split at accepted
    · cases accepted
    · split at accepted
      · cases accepted
      · rename_i count
        cases accepted
        simp only [Bool.or_eq_true, decide_eq_true_eq, not_or] at count
        have low := (body.getD 1 0).isLt
        have high := (body.getD 2 0).isLt
        refine ⟨?_, ?_, ?_, ?_, ?_⟩
        · simpa using count.1
        · simpa using count.2
        · split <;> decide
        · simp only [reduceCtorEq, false_iff]
          split <;> decide
        · simp only [Option.mem_def, Option.some.injEq, forall_eq']
          split
          · omega
          · simp [kmDefaultTimeoutFrames]

def argKeys (args : Option CString) : Option (List KmKey × Int) :=
  match givenArgs args with
  | none => none
  | some args =>
    match parseArgs args with
    | .error _ => none
    | .ok parsed => if parsed.1 = [] then none else some parsed

theorem argKeys_ok {args : Option CString} {parsed : List KmKey × Int}
    (accepted : argKeys args = some parsed) :
    KeyListOk kmMaxKeys parsed.1 parsed.2 ∧ parsed.1 ≠ [] := by
  simp only [argKeys] at accepted
  split at accepted
  · cases accepted
  · rename_i args _
    split at accepted
    · cases accepted
    · rename_i listed parsedArgs
      split at accepted
      · cases accepted
      · rename_i some_key
        cases accepted
        rw [parseArgs] at parsedArgs
        split at parsedArgs
        · cases parsedArgs
        · exact ⟨parseKeyList_ok parsedArgs, some_key⟩

def tapInjection (args : Option CString) : Option Injection :=
  (argKeys args).pmap (fun parsed ok =>
    ⟨(tapFrames parsed.2).1, parsed.1, some (tapFrames parsed.2).2, .tap ok.1 ok.2⟩)
    fun _ => argKeys_ok

def pressInjection (args : Option CString) : Option Injection :=
  (argKeys args).pmap (fun parsed ok => ⟨.pressSticky, parsed.1, none, .press ok.1 ok.2⟩)
    fun _ => argKeys_ok

def bodyInjection (body : List U8) : Option Injection :=
  (tapBody body).pmap (fun parsed ok => ⟨parsed.1, parsed.2.2, some parsed.2.1, ok⟩)
    fun _ => tapBody_ok

def pokeWrite (args : Option CString) : Option (Int × Int × Bool) :=
  match givenArgs args with
  | none => none
  | some args =>
    match kmCopyArgs args 256 with
    | none => none
    | some buf =>
      match pokeOperands buf with
      | none => none
      | some (row, col, value) =>
        if col < 0 || col > 7 || row < -8 || row > 15 then none else some (row, col, value = 1)

def startAction : Option Injection → KmAction
  | none => .none
  | some injection => .start injection

/-- The action an operation comes down to; a rejected one is none. -/
def KmOp.action : KmOp → KmAction
  | .tap args => startAction (tapInjection args)
  | .press args => startAction (pressInjection args)
  | .release args =>
    match givenArgs args with
    | none => .releaseAll
    | some _ =>
      match argKeys args with
      | none => .none
      | some parsed => .releaseListed parsed.1
  | .poke args =>
    match pokeWrite args with
    | none => .none
    | some write => .raw [write]
  | .show => .none
  | .names => .none
  | .paRead mask => .scan .pa mask
  | .pbRead mask => .scan .pb mask
  | .binmonSet body =>
    match setTriples body with
    | none => .none
    | some triples => .raw triples
  | .binmonTap body => startAction (bodyInjection body)
  | .binmonGet _ => .none
  | .onAlarm => .fire

def HostCall.silent : HostCall → Bool
  | .emit _ => false
  | _ => true

def silentCalls (calls : List HostCall) : List HostCall := calls.filter HostCall.silent

private theorem silentCalls_append (first later : List HostCall) :
    silentCalls (first ++ later) = silentCalls first ++ silentCalls later :=
  List.filter_append ..

@[simp] theorem silentCalls_nil : silentCalls [] = [] := rfl

@[simp] theorem silentCalls_outf (text : Text) (calls : List HostCall) :
    silentCalls (kmOutf text :: calls) = silentCalls calls := rfl

@[simp] theorem silentCalls_applyBits (keys : List KmKey) (value : Bool) :
    silentCalls (kmApplyBits keys value) = kmApplyBits keys value := by
  apply List.filter_eq_self.mpr
  intro call member
  obtain ⟨key, _, rfl⟩ := List.mem_map.mp member
  rfl

@[simp] theorem silentCalls_releaseNow (host : KmHost) (reason : KmReleaseReason) (km : KmCore) :
    silentCalls (kmReleaseNow host reason km).2 = (kmReleaseNow host reason km).2 := by
  unfold kmReleaseNow
  split
  · rw [silentCalls_append, silentCalls_applyBits]
    rfl
  · rfl

theorem kmSupersedeActive_eq (host : KmHost) (km : KmCore) :
    kmSupersedeActive host km = kmReleaseNow host .manual km := by
  unfold kmSupersedeActive
  split
  · rfl
  · rename_i idle
    simp [kmReleaseNow, idle]

@[simp] theorem silentCalls_start (host : KmHost) (mode : KmMode) (keys : List KmKey)
    (frames : Option Int) (km : KmCore) :
    silentCalls (kmStart host mode keys frames km).2 = (kmStart host mode keys frames km).2 := by
  unfold kmStart
  rw [kmSupersedeActive_eq]
  cases frames with
  | none => simp only [silentCalls_append, silentCalls_releaseNow, silentCalls_applyBits]
  | some frames =>
    simp only [silentCalls_append, silentCalls_releaseNow, silentCalls_applyBits]
    rfl

@[simp] theorem silentCalls_releaseListed (host : KmHost) (listed : List KmKey) (km : KmCore) :
    silentCalls (kmReleaseListed host listed km).2 = (kmReleaseListed host listed km).2 := by
  simp only [kmReleaseListed]
  split
  · split
    · simp only [silentCalls_append, silentCalls_releaseNow, silentCalls_applyBits]
    · exact silentCalls_applyBits _ _
  · exact silentCalls_applyBits _ _

/-- An operation has done what an action does, and said something. -/
def Does (done acted : KmCore × List HostCall) : Prop :=
  done.1 = acted.1 ∧ silentCalls done.2 = acted.2

section Arguments

variable (host : KmHost) (args : Option CString) (km : KmCore)

private theorem argKeys_none (rejected : argKeys args = none) :
    givenArgs args = none ∨ ∃ given, givenArgs args = some given ∧
      ((∃ text, parseArgs given = .error text) ∨
        ∃ forFrames, parseArgs given = .ok ([], forFrames)) := by
  unfold argKeys at rejected
  cases present : givenArgs args with
  | none => exact Or.inl rfl
  | some given =>
    refine Or.inr ⟨given, rfl, ?_⟩
    simp only [present] at rejected
    cases parsed : parseArgs given with
    | error text => exact Or.inl ⟨text, rfl⟩
    | ok listed =>
      simp only [parsed] at rejected
      split at rejected
      · rename_i empty
        exact Or.inr ⟨listed.2, by rw [← empty]⟩
      · cases rejected

theorem argKeys_some {parsed : List KmKey × Int} (listed : argKeys args = some parsed) :
    ∃ given, givenArgs args = some given ∧ parseArgs given = .ok parsed ∧ parsed.1 ≠ [] := by
  unfold argKeys at listed
  cases present : givenArgs args with
  | none => simp [present] at listed
  | some given =>
    simp only [present] at listed
    cases accepted : parseArgs given with
    | error text => simp [accepted] at listed
    | ok read =>
      simp only [accepted] at listed
      split at listed
      · cases listed
      · rename_i some_key
        cases listed
        exact ⟨given, rfl, accepted, some_key⟩

private theorem tap_does :
    Does (kmCoreTap host args km) ((KmOp.tap args).action.perform host km) := by
  unfold kmCoreTap
  cases keys : argKeys args with
  | none =>
    have action : (KmOp.tap args).action = .none := by
      rw [KmOp.action, tapInjection, Option.pmap_none' keys, startAction]
    rw [action]
    rcases argKeys_none args keys with absent | ⟨given, present, ⟨text, bad⟩ | ⟨frames, empty⟩⟩
    · simp [absent, Does, KmAction.perform]
    · simp [present, bad, Does, KmAction.perform]
    · simp [present, empty, Does, KmAction.perform]
  | some parsed =>
    obtain ⟨given, present, accepted, some_key⟩ := argKeys_some args keys
    simp [KmOp.action, tapInjection, Option.pmap_some' keys, startAction, present, accepted,
        some_key, Does, KmAction.perform, silentCalls_append]

private theorem press_does :
    Does (kmCorePress host args km) ((KmOp.press args).action.perform host km) := by
  unfold kmCorePress
  cases keys : argKeys args with
  | none =>
    have action : (KmOp.press args).action = .none := by
      rw [KmOp.action, pressInjection, Option.pmap_none' keys, startAction]
    rw [action]
    rcases argKeys_none args keys with absent | ⟨given, present, ⟨text, bad⟩ | ⟨frames, empty⟩⟩
    · simp [absent, Does, KmAction.perform]
    · simp [present, bad, Does, KmAction.perform]
    · simp only [present, empty, Does, KmAction.perform, if_true, true_and]
      split <;> rfl
  | some parsed =>
    obtain ⟨given, present, accepted, some_key⟩ := argKeys_some args keys
    simp only [KmOp.action, pressInjection, Option.pmap_some' keys, startAction, present,
        accepted, some_key, Does, KmAction.perform, silentCalls_append, silentCalls_start, if_false,
        true_and]
    split <;> simp

private theorem release_does :
    Does (kmCoreRelease host args km) ((KmOp.release args).action.perform host km) := by
  unfold kmCoreRelease
  cases given : givenArgs args with
  | none =>
    have same : (if km.active then kmReleaseNow host .manual km else (km, [])) =
        kmReleaseNow host .manual km := kmSupersedeActive_eq host km
    simp only [KmOp.action, given, KmAction.perform, same, Does, silentCalls_append,
      silentCalls_releaseNow, true_and]
    rfl
  | some present =>
    cases keys : argKeys args with
    | none =>
      rcases argKeys_none args keys with absent | ⟨same, eq, ⟨text, bad⟩ | ⟨frames, empty⟩⟩
      · rw [given] at absent
        cases absent
      · cases given.symm.trans eq
        simp [KmOp.action, given, keys, bad, Does, KmAction.perform]
      · cases given.symm.trans eq
        simp [KmOp.action, given, keys, empty, Does, KmAction.perform]
    | some parsed =>
      obtain ⟨same, eq, accepted, some_key⟩ := argKeys_some args keys
      cases given.symm.trans eq
      simp [KmOp.action, given, keys, accepted, some_key, Does, KmAction.perform,
        silentCalls_append]

private theorem poke_does :
    Does (kmCorePoke args km) ((KmOp.poke args).action.perform host km) := by
  simp only [kmCorePoke, KmOp.action, pokeWrite]
  cases givenArgs args with
  | none => exact ⟨rfl, rfl⟩
  | some given =>
    simp only
    cases kmCopyArgs given 256 with
    | none => exact ⟨rfl, rfl⟩
    | some buf =>
      simp only
      cases pokeOperands buf with
      | none => exact ⟨rfl, rfl⟩
      | some operands =>
        obtain ⟨row, col, value⟩ := operands
        simp only
        split <;> exact ⟨rfl, rfl⟩

end Arguments

private theorem showNames_text (col : Nat) (entries : List KmxKeydef) :
    silentCalls (showNames col entries) = [] := by
  induction entries generalizing col with
  | nil =>
    rw [showNames]
    split <;> rfl
  | cons entry entries ih =>
    rw [showNames, silentCalls_outf]
    split
    · exact ih 0
    · exact ih (col + 1)

private theorem outf_text {α : Type} (chunks : List α) (text : α → Text) :
    silentCalls (chunks.map fun chunk => kmOutf (text chunk)) = [] := by
  apply List.filter_eq_nil_iff.mpr
  intro call member
  obtain ⟨chunk, _, rfl⟩ := List.mem_map.mp member
  simp [kmOutf, HostCall.silent]

private theorem showRows_text (host : KmHost) (rows : List Nat) :
    silentCalls (rows.flatMap (showRow host)) = [] := by
  induction rows with
  | nil => rfl
  | cons row rows ih =>
    rw [List.flatMap_cons, silentCalls_append, ih, List.append_nil]
    simp only [showRow, List.cons_append, silentCalls_outf, silentCalls_append, outf_text]
    rfl

private theorem show_does (host : KmHost) (km : KmCore) :
    Does (kmCoreShow host km) (KmOp.show.action.perform host km) := by
  refine ⟨rfl, ?_⟩
  simp only [kmCoreShow, silentCalls_append, silentCalls_outf, silentCalls_nil, outf_text,
    showRows_text, List.nil_append]
  split <;> split <;>
    simp only [List.cons_append, silentCalls_outf, silentCalls_append, showKeys, showReads,
      outf_text, silentCalls_nil, List.nil_append] <;> rfl

private theorem names_does (host : KmHost) (km : KmCore) :
    Does (kmCoreNames km) (KmOp.names.action.perform host km) := by
  refine ⟨rfl, ?_⟩
  simp only [kmCoreNames, List.cons_append, silentCalls_outf, silentCalls_append,
    showNames_text, List.nil_append]
  rfl

private theorem scan_does (port : CiaPort) (host : KmHost) (mask : U8) (km : KmCore) :
    Does (kmScan port.coord host mask km) ((KmAction.scan port mask).perform host km) := by
  refine ⟨rfl, ?_⟩
  simp only [KmAction.perform, kmScan, kmObserve]
  repeat' split
  all_goals rfl

private theorem silentCalls_writes (writes : List (Int × Int × Bool)) :
    silentCalls (writes.map fun (row, col, value) => .setKeyarrAny row col value) =
      writes.map fun (row, col, value) => .setKeyarrAny row col value := by
  apply List.filter_eq_self.mpr
  intro call member
  obtain ⟨write, _, rfl⟩ := List.mem_map.mp member
  rfl

private theorem binmonSet_does (host : KmHost) (km : KmCore) (body : List U8) :
    Does (kmCoreBinmonSet km body).2 ((KmOp.binmonSet body).action.perform host km) := by
  simp only [kmCoreBinmonSet, KmOp.action]
  cases setTriples body with
  | none => exact ⟨rfl, rfl⟩
  | some triples => exact ⟨rfl, silentCalls_writes triples⟩

private theorem binmonTap_does (host : KmHost) (km : KmCore) (body : List U8) :
    Does (kmCoreBinmonTap host km body).2 ((KmOp.binmonTap body).action.perform host km) := by
  cases accepted : tapBody body with
  | none =>
    have action : (KmOp.binmonTap body).action = .none := by
      rw [KmOp.action, bodyInjection, Option.pmap_none' accepted, startAction]
    rw [action, kmCoreBinmonTap, accepted]
    exact ⟨rfl, rfl⟩
  | some parsed =>
    rw [KmOp.action, bodyInjection, Option.pmap_some' accepted, kmCoreBinmonTap, accepted]
    exact ⟨rfl, silentCalls_start ..⟩

theorem perform_does (host : KmHost) (km : KmCore) (op : KmOp) :
    Does (op.perform host km) (op.action.perform host km) := by
  cases op with
  | tap args => exact tap_does host args km
  | press args => exact press_does host args km
  | release args => exact release_does host args km
  | poke args => exact poke_does host args km
  | «show» => exact show_does host km
  | names => exact names_does host km
  | paRead mask => exact scan_does .pa host mask km
  | pbRead mask => exact scan_does .pb host mask km
  | binmonSet body => exact binmonSet_does host km body
  | binmonTap body => exact binmonTap_does host km body
  | binmonGet buf => exact ⟨rfl, rfl⟩
  | onAlarm => exact ⟨rfl, silentCalls_releaseNow ..⟩

theorem pokeWrite_inRange {args : Option CString} {row col : Int} {value : Bool}
    (accepted : pokeWrite args = some (row, col, value)) : CellInRange (row, col) := by
  simp only [pokeWrite] at accepted
  split at accepted
  · cases accepted
  · split at accepted
    · cases accepted
    · split at accepted
      · cases accepted
      · split at accepted
        · cases accepted
        · rename_i inside
          simp only [Bool.or_eq_true, decide_eq_true_eq, not_or] at inside
          cases accepted
          simp only [CellInRange]
          omega

private theorem run_silentCalls (env : KmEnv) (calls : List HostCall) :
    env.run (silentCalls calls) = env.run calls := by
  induction calls generalizing env with
  | nil => rfl
  | cons call calls ih => cases call <;> exact ih _

def KmSys.act (sys : KmSys) (now cyclesPerFrame : U64) (action : KmAction) : KmSys :=
  let done := action.perform (sys.env.host now cyclesPerFrame) sys.km
  ⟨done.1, sys.env.run done.2⟩

/-- The step of an operation is the step of its action. -/
theorem kmStep_eq (sys : KmSys) (tick : KmTick) :
    (kmStep sys tick).1 = sys.act tick.now tick.cyclesPerFrame tick.op.action := by
  have does := perform_does (sys.env.host tick.now tick.cyclesPerFrame) sys.km tick.op
  simp only [kmStep, KmSys.act]
  rw [← does.1, ← does.2, run_silentCalls]

end Revice.Keymatrix

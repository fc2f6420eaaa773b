/- Module: Revice/Asid/Receiver
   source: libs/asid/src/asid_core.c
   digest: Each chip of the codec is a write-back mirror whose frames a receiver decodes. -/

import Revice.Asid.Chips
import Revice.Asid.Wire

set_option autoImplicit false
set_option relaxedAutoImplicit false

namespace Revice.Asid

open Revice.General

/-- The assignments the receiver of chip `c` takes from one message. -/
def messageFrame (c : Chip) (msg : AsidMsg) : Option (Frame Reg U8) :=
  if msg.chip = c then decodeMessage c msg.bytes else none

def chipArg (c : Chip) : U8 := BitVec.ofNat 8 c.val

theorem chipArg_toNat (c : Chip) : (chipArg c).toNat = c.val := by
  revert c
  decide

/-- What one call means to chip `c`; calls that address nothing it holds are invisible. -/
def callFor (c : Chip) : AsidCall → Option (MirrorOp Reg U8)
  | .setReg chip reg byte =>
    if chip.toNat = c.val then
      if inside : reg.toNat < asidNumRegs then
        some (.write ⟨reg.toNat, inside⟩ (regmask ⟨reg.toNat, inside⟩ &&& byte))
      else none
    else none
  | .flush chip _ => if chip.toNat = c.val then some .flush else none

def chipMachine : Machine (Mirror Reg U8) (MirrorOp Reg U8) (Frame Reg U8) :=
  Mirror.machine packOrder isControl

/-- The codec invariant: every chip satisfies its own. -/
def CoreInv (core : AsidCore) : Prop := ∀ c, ChipInv c (core.chip c)

theorem coreInv_init (useUpdateReg : Int) : CoreInv (asidCoreInit useUpdateReg) :=
  fun c => ChipInv.init c useUpdateReg

private theorem coreInv_update {core : AsidCore} (inv : CoreInv core) {c : Chip} {state : AsidChip}
    (fresh : ChipInv c state) (useUpdateReg : Bool) (saved : U32) :
    CoreInv ⟨Function.update core.chip c state, useUpdateReg, saved⟩ := by
  intro d
  by_cases here : d = c
  · subst here
    simpa using fresh
  · simpa [here] using inv d

section Chip

variable {c : Chip} {state : AsidChip}

theorem chipFlush_idle (useUpdateReg : Bool) (nsec : U64) (idle : state.sidModifiedFlag = false) :
    chipFlush useUpdateReg c state nsec = ChipDone.nothing state := by
  rw [chipFlush, idle]
  rfl

variable (inv : ChipInv c state)

include inv

private theorem chipFlush_dirty (useUpdateReg : Bool) (nsec : U64)
    (dirty : state.sidModifiedFlag = true) :
    ∃ bytes saved, chipFlush useUpdateReg c state nsec =
        ⟨clearModified state, saved, [⟨c, bytes, nsec⟩]⟩ ∧
      decodeMessage c bytes = some ((chipView state).frame packOrder) := by
  rw [chipFlush, if_pos dirty]
  simp only
  split
  · exact ⟨_, _, rfl, inv.decode_updateReg⟩
  · exact ⟨_, _, rfl, inv.decode_update⟩

private theorem chipFlush_inv (useUpdateReg : Bool) (nsec : U64) :
    ChipInv c (chipFlush useUpdateReg c state nsec).state := by
  cases dirty : state.sidModifiedFlag with
  | false =>
    rw [chipFlush_idle useUpdateReg nsec dirty]
    exact inv
  | true =>
    obtain ⟨bytes, saved, flushed, _⟩ := chipFlush_dirty inv useUpdateReg nsec dirty
    rw [flushed]
    exact inv.clear

private theorem chipSetReg_inv (useUpdateReg : Bool) (r : Reg) (byte : U8) :
    ChipInv c (chipSetReg useUpdateReg c state r byte).state := by
  rw [chipSetReg]
  split
  · exact inv
  · simp only
    split
    · exact (chipFlush_inv inv useUpdateReg 0).mark _ _
    · exact inv.mark _ _

private theorem chipCall_inv (useUpdateReg : Bool) (call : AsidCall) :
    ChipInv c (chipCall useUpdateReg c state call).state := by
  cases call with
  | flush chip nsec => exact chipFlush_inv inv useUpdateReg nsec
  | setReg chip reg byte =>
    rw [chipCall]
    split
    · exact chipSetReg_inv inv useUpdateReg _ _
    · exact inv

private theorem chipFlush_mirror (useUpdateReg : Bool) (nsec : U64) :
    (chipView state).flush packOrder =
      (chipView (chipFlush useUpdateReg c state nsec).state,
        (chipFlush useUpdateReg c state nsec).msgs.filterMap (messageFrame c)) := by
  have any : packOrder.any (chipView state).dirty = state.sidModifiedFlag := inv.flag.symm
  rw [Mirror.flush, any]
  cases dirty : state.sidModifiedFlag with
  | false =>
    rw [chipFlush_idle useUpdateReg nsec dirty]
    rfl
  | true =>
    obtain ⟨bytes, saved, flushed, decoded⟩ := chipFlush_dirty inv useUpdateReg nsec dirty
    rw [flushed]
    simp [messageFrame, decoded, chipView, clearModified, Mirror.ofImage]

private theorem chipSetReg_mirror (useUpdateReg : Bool) (r : Reg) (byte : U8) :
    (chipView state).write packOrder isControl r byte =
      (chipView (chipSetReg useUpdateReg c state r byte).state,
        (chipSetReg useUpdateReg c state r byte).msgs.filterMap (messageFrame c)) := by
  rw [chipSetReg, Mirror.write, Mirror.settle]
  change (if state.sidRegister r = byte then _ else _) = _
  split
  · rfl
  · have condition : (isControl r && (chipView state).dirty r) =
        (isControl r && state.sidModified r) := rfl
    rw [condition]
    split
    · rw [chipFlush_mirror inv useUpdateReg 0]
      simp [chipView, markModified, Mirror.store]
    · simp [chipView, markModified, Mirror.store, ChipDone.nothing]

end Chip

theorem perform_inv (core : AsidCore) (call : AsidCall) (inv : CoreInv core) :
    CoreInv (asidMachine.step core call).1 := by
  change CoreInv (call.perform core).1
  by_cases inside : call.chip.toNat < asidChips
  · rw [perform_selected (c := ⟨call.chip.toNat, inside⟩) rfl]
    exact coreInv_update inv (chipCall_inv (inv _) _ call) _ _
  · rw [perform_elsewhere inside]
    exact inv

theorem flush_inv {core : AsidCore} (inv : CoreInv core) (chip : U8) (nsec : U64) :
    CoreInv (asidCoreFlush core chip nsec).1 := perform_inv core (.flush chip nsec) inv

theorem flush_same {core : AsidCore} (inv : CoreInv core) {chip : U8} {c : Chip}
    (same : chip.toNat = c.val) (nsec : U64) :
    (chipView (core.chip c)).flush packOrder =
      (chipView ((asidCoreFlush core chip nsec).1.chip c),
        (asidCoreFlush core chip nsec).2.filterMap (messageFrame c)) := by
  rw [flush_selected same, chipFlush_mirror (inv c) core.useUpdateReg nsec]
  simp [applyDone]

private theorem frames_of_msgsFor {c : Chip} {msgs : List AsidMsg}
    (none_sent : msgsFor c msgs = []) :
    msgs.filterMap (messageFrame c) = [] := by
  rw [List.filterMap_eq_nil_iff]
  intro msg sent
  have other := List.filter_eq_nil_iff.mp none_sent msg sent
  rw [messageFrame, if_neg (by simpa using other)]

private theorem chipCall_projects {c : Chip} {state : AsidChip} (inv : ChipInv c state)
    (useUpdateReg : Bool) {call : AsidCall} (selects : call.chip.toNat = c.val) :
    match callFor c call with
    | none => chipCall useUpdateReg c state call = ChipDone.nothing state
    | some op => chipMachine.step (chipView state) op =
        (chipView (chipCall useUpdateReg c state call).state,
          (chipCall useUpdateReg c state call).msgs.filterMap (messageFrame c)) := by
  cases call with
  | flush chip nsec =>
    change chip.toNat = c.val at selects
    rw [callFor, if_pos selects]
    exact chipFlush_mirror inv useUpdateReg nsec
  | setReg chip reg byte =>
    change chip.toNat = c.val at selects
    rw [callFor, if_pos selects]
    by_cases inside : reg.toNat < asidNumRegs
    · rw [dif_pos inside, chipCall, dif_pos inside]
      exact chipSetReg_mirror inv useUpdateReg _ _
    · rw [dif_neg inside, chipCall, dif_neg inside]

private theorem codec_projects (c : Chip) : asidMachine.Projects chipMachine CoreInv
    (fun core => chipView (core.chip c)) (callFor c) (messageFrame c) := by
  intro core call inv _
  have performed : asidMachine.step core call = call.perform core := rfl
  rw [performed]
  by_cases selects : call.chip.toNat = c.val
  · have step := chipCall_projects (inv c) core.useUpdateReg selects
    rw [perform_selected selects]
    cases visible : callFor c call with
    | none =>
      simp only [visible] at step ⊢
      rw [step, applyDone_nothing]
      exact ⟨rfl, rfl⟩
    | some op =>
      simp only [visible] at step ⊢
      simpa [applyDone] using step
  · have invisible : callFor c call = none := by
      cases call with
      | flush chip nsec => exact if_neg selects
      | setReg chip reg byte => exact if_neg selects
    have here : SameChip c core core := ⟨rfl, rfl⟩
    have quiet := here.unselected selects
    rw [invisible]
    exact ⟨congrArg chipView quiet.1.2.symm, frames_of_msgsFor quiet.2⟩

/-- The registers a receiver ends with after the messages sent to chip `c`,
starting from zero. -/
def receiverImage (c : Chip) (msgs : List AsidMsg) : Reg → U8 :=
  Mirror.receive (fun _ => 0) (msgs.filterMap (messageFrame c))

/-- The values of register `r` carried by the messages of chip `c`, in emission order. -/
def carriedValues (c : Chip) (r : Reg) (msgs : List AsidMsg) : List U8 :=
  Mirror.carried r (msgs.filterMap (messageFrame c))

def writtenBytes (c : Chip) (r : Reg) (calls : List AsidCall) : List U8 :=
  calls.filterMap fun
    | .setReg chip reg byte => if chip.toNat = c.val ∧ reg.toNat = r.val then some byte else none
    | .flush _ _ => none

theorem run_projects (useUpdateReg : Int) (calls : List AsidCall) (c : Chip) :
    chipMachine.exec (Mirror.ofImage fun _ => 0) (calls.filterMap (callFor c)) =
        chipView ((asidMachine.exec (asidCoreInit useUpdateReg) calls).chip c) ∧
      chipMachine.emitted (Mirror.ofImage fun _ => 0) (calls.filterMap (callFor c)) =
        (asidMachine.emitted (asidCoreInit useUpdateReg) calls).filterMap (messageFrame c) :=
  (codec_projects c).run asidMachine chipMachine (fun core call inv _ => perform_inv core call inv)
    (coreInv_init useUpdateReg) (asidMachine_legal _ calls)

theorem exec_inv (useUpdateReg : Int) (calls : List AsidCall) :
    CoreInv (asidMachine.exec (asidCoreInit useUpdateReg) calls) :=
  asidMachine.exec_invariant (fun core call inv _ => perform_inv core call inv)
    (coreInv_init useUpdateReg) (asidMachine_legal _ calls)

theorem writesTo_callFor (c : Chip) (r : Reg) (calls : List AsidCall) :
    Mirror.writesTo r (calls.filterMap (callFor c)) =
      (writtenBytes c r calls).map (regmask r &&& ·) := by
  rw [Mirror.writesTo, writtenBytes, List.filterMap_filterMap, List.map_filterMap]
  apply List.filterMap_congr
  intro call _
  cases call with
  | flush chip nsec =>
    simp only [callFor]
    split <;> rfl
  | setReg chip reg byte =>
    simp only [callFor]
    by_cases same : chip.toNat = c.val
    · by_cases regSame : reg.toNat = r.val
      · simp [same, regSame]
      · by_cases inside : reg.toNat < asidNumRegs
        · have apart : (⟨reg.toNat, inside⟩ : Reg) ≠ r := by
            intro eq
            exact regSame (congrArg Fin.val eq)
          simp [same, regSame, inside, apart]
        · simp [same, regSame, inside]
    · simp [same]

private theorem getLastD_map (f : U8 → U8) (zero : f 0 = 0) (bytes : List U8) :
    (bytes.map f).getLastD 0 = f (bytes.getLastD 0) := by
  induction bytes using List.reverseRecOn with
  | nil => exact zero.symm
  | append_singleton bytes b _ => simp

/-- After a run the receiver of a chip agrees with its mirror. -/
theorem receiver_agrees (useUpdateReg : Int) (calls : List AsidCall) (c : Chip) :
    Mirror.Agrees
      (receiverImage c (asidMachine.emitted (asidCoreInit useUpdateReg) calls))
      (chipView ((asidMachine.exec (asidCoreInit useUpdateReg) calls).chip c)) := by
  obtain ⟨state, frames⟩ := run_projects useUpdateReg calls c
  rw [← state, receiverImage, ← frames]
  exact Mirror.agrees_exec packOrder_covers isControl (Mirror.agrees_ofImage _) _

/-- The receiver simulation. After every sequence of calls the summary flag
tells whether a register is dirty, the receiver agrees on every clean register,
each register holds its last written byte, masked, and a flush of a chip makes
the receiver's image complete. -/
theorem receiver_simulation (useUpdateReg : Int) (calls : List AsidCall) (c : Chip) :
    let core := asidMachine.exec (asidCoreInit useUpdateReg) calls
    let msgs := asidMachine.emitted (asidCoreInit useUpdateReg) calls
    ((core.chip c).sidModifiedFlag = true ↔ ∃ r, (core.chip c).sidModified r = true) ∧
      (∀ r, (core.chip c).sidModified r = false →
        receiverImage c msgs r = (core.chip c).sidRegister r) ∧
      (∀ r, (core.chip c).sidRegister r = regmask r &&& (writtenBytes c r calls).getLastD 0) ∧
      ∀ nsec, receiverImage c (msgs ++ (asidCoreFlush core (chipArg c) nsec).2) =
        ((asidCoreFlush core (chipArg c) nsec).1.chip c).sidRegister := by
  intro core msgs
  obtain ⟨state, _⟩ := run_projects useUpdateReg calls c
  have inv : CoreInv core := exec_inv useUpdateReg calls
  have agree := receiver_agrees useUpdateReg calls c
  refine ⟨?_, agree, ?_, ?_⟩
  · rw [(inv c).flag, List.any_eq_true]
    constructor
    · rintro ⟨r, _, dirty⟩
      exact ⟨r, dirty⟩
    · rintro ⟨r, dirty⟩
      exact ⟨r, packOrder_covers r, dirty⟩
  · intro r
    have last := Mirror.image_exec packOrder_covers isControl (Mirror.ofImage fun _ => (0 : U8))
      (calls.filterMap (callFor c)) r
    rw [writesTo_callFor] at last
    have held : (chipView (core.chip c)).image r =
        ((writtenBytes c r calls).map (regmask r &&& ·)).getLastD 0 := by
      rw [← state]
      exact last
    exact held.trans (getLastD_map _ (BitVec.and_zero) _)
  · intro nsec
    have flushed := flush_same inv (chipArg_toNat c) nsec
    have image := Mirror.receive_flush packOrder_covers agree
    rw [flushed] at image
    have kept := congrArg (fun p => p.1.image) flushed
    simp only [Mirror.flush_state packOrder_covers] at kept
    rw [receiverImage, List.filterMap_append, Mirror.receive_append]
    exact image.trans kept

/-- Every change of a control register reaches the stream, once and in order:
the values carried for it, followed by the one still pending, are its written
bytes without the writes that change nothing. -/
theorem gate_edges_preserved (useUpdateReg : Int) (calls : List AsidCall) (c : Chip) (r : Reg)
    (control : r = 4 ∨ r = 11 ∨ r = 18) :
    let core := asidMachine.exec (asidCoreInit useUpdateReg) calls
    let msgs := asidMachine.emitted (asidCoreInit useUpdateReg) calls
    carriedValues c r msgs ++
        (if (core.chip c).sidModified r then [(core.chip c).sidRegister r] else []) =
      Mirror.changes 0 (writtenBytes c r calls) := by
  intro core msgs
  obtain ⟨state, frames⟩ := run_projects useUpdateReg calls c
  have prompt : isControl r = true := by
    rcases control with rfl | rfl | rfl <;> rfl
  have writable : ∀ b, regmask r &&& b = b := by
    rcases control with rfl | rfl | rfl <;> decide
  have edges := Mirror.carried_exec packOrder_covers isControl packOrder_nodup
    (fun _ => (0 : U8)) (calls.filterMap (callFor c)) prompt
  rw [writesTo_callFor] at edges
  simp only [writable, List.map_id'] at edges
  rw [← edges]
  change _ = Mirror.carried r (chipMachine.emitted _ _) ++ (chipMachine.exec _ _).pending r
  rw [state, frames]
  rfl

theorem gate_edges_preserved_voice_one :
    carriedValues 0 4 (asidMachine.emitted (asidCoreInit 0) [.setReg 0 4 0x10, .setReg 0 4 0x11]) ++
        [0x11] =
      Mirror.changes 0 [0x10, 0x11] := by
  have edges := gate_edges_preserved 0 [.setReg 0 4 0x10, .setReg 0 4 0x11] 0 4 (Or.inl rfl)
  exact edges

end Revice.Asid

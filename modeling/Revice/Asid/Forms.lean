/- Module: Revice/Asid/Forms
   source: libs/asid/src/asid_core.c, libs/asid/include/revice_asid.h
   digest: The two wire forms carry the same assignments, and the counter is what one saves. -/

import Revice.Asid.Chips
import Revice.Asid.Receiver

set_option autoImplicit false
set_option relaxedAutoImplicit false

namespace Revice.Asid

open Revice.General

/-- Two messages a receiver of their chip cannot tell apart, the second never
longer, and shorter exactly when it carries fewer than eight registers. -/
def Interchangeable (long short : AsidMsg) : Prop :=
  short.chip = long.chip ∧ short.nsec = long.nsec ∧
    ∃ frame, decodeMessage long.chip long.bytes = some frame ∧
      decodeMessage short.chip short.bytes = some frame ∧
      short.bytes.length ≤ long.bytes.length ∧
      (short.bytes.length < long.bytes.length ↔ frame.length < 8)

private theorem Interchangeable.of_decode {c : Chip} {nsec : U64} {long short : List U8}
    {frame : Frame Reg U8} (longFrame : decodeMessage c long = some frame)
    (shortFrame : decodeMessage c short = some frame) (notLonger : short.length ≤ long.length)
    (few : short.length < long.length ↔ frame.length < 8) :
    Interchangeable ⟨c, long, nsec⟩ ⟨c, short, nsec⟩ :=
  ⟨rfl, rfl, frame, longFrame, shortFrame, notLonger, few⟩

def totalBytes (msgs : List AsidMsg) : Nat := (msgs.map fun msg => msg.bytes.length).sum

private theorem totalBytes_append (msgs more : List AsidMsg) :
    totalBytes (msgs ++ more) = totalBytes msgs + totalBytes more := by
  rw [totalBytes, List.map_append, List.sum_append]
  rfl

private theorem totalBytes_le {long short : List AsidMsg}
    (pairs : List.Forall₂ Interchangeable long short) :
    totalBytes short ≤ totalBytes long := by
  induction pairs with
  | nil => exact Nat.le_refl _
  | cons pair _ ih =>
    obtain ⟨_, _, _, _, _, notLonger, _⟩ := pair
    simp only [totalBytes, List.map_cons, List.sum_cons] at ih ⊢
    omega

/-- What one call must do alike in the two forms: the same chip state, messages
that match, and on the counters the difference in length. -/
structure FormsAgree (long short : ChipDone) : Prop where
  state : short.state = long.state
  msgs : List.Forall₂ Interchangeable long.msgs short.msgs
  longSaved : long.saved = 0
  shortSaved : short.saved = BitVec.ofNat 32 (totalBytes long.msgs - totalBytes short.msgs)

theorem FormsAgree.nothing (state : AsidChip) :
    FormsAgree (ChipDone.nothing state) (ChipDone.nothing state) where
  state := rfl
  msgs := .nil
  longSaved := rfl
  shortSaved := rfl

private theorem frame_length (state : AsidChip) :
    ((chipView state).frame packOrder).length = (dirtyRegs state).length := by
  rw [chipView_frame, List.length_map]

section Lengths

variable {c : Chip} {state : AsidChip} (inv : ChipInv c state)

include inv

theorem length_update_message :
    ((buildUpdate state).buf.take (buildUpdate state).pos).length =
      12 + (dirtyRegs state).length := by
  rw [inv.update_message]
  simp only [List.length_append, length_header, payload, List.length_map, asidPrefix,
    List.length_cons, List.length_nil]
  omega

theorem length_updateReg_message :
    ((buildUpdateReg state).buf.take (buildUpdateReg state).pos).length =
      4 + 2 * (dirtyRegs state).length := by
  have pairs : ((dirtyRegs state).flatMap fun r => pairBytes r (state.sidRegister r)).length =
      2 * (dirtyRegs state).length := by
    rw [List.length_flatMap]
    simp [pairBytes, Nat.mul_comm]
  rw [inv.updateReg_message]
  simp only [List.length_append, pairs, asidPrefix, List.length_cons, List.length_nil]
  omega

private theorem chipFlush_forms (nsec : U64) :
    FormsAgree (chipFlush false c state nsec) (chipFlush true c state nsec) := by
  have longLength := length_update_message inv
  have shortLength := length_updateReg_message inv
  have frameLength := frame_length state
  by_cases dirty : state.sidModifiedFlag = true
  · by_cases shorter : (buildUpdateReg state).pos < (buildUpdate state).pos
    · have few : 4 + 2 * (dirtyRegs state).length < 12 + (dirtyRegs state).length := by
        rw [← buildUpdateReg_pos, ← buildUpdate_pos]
        exact shorter
      simp only [chipFlush, dirty, shorter, decide_true, Bool.and_self, Bool.false_and, if_true,
        Bool.false_eq_true, if_false]
      constructor
      · rfl
      · refine .cons (.of_decode inv.decode_update inv.decode_updateReg ?_ ?_) .nil
        · rw [longLength, shortLength]
          omega
        · rw [longLength, shortLength, frameLength]
          omega
      · rfl
      · simp only [totalBytes, List.map_cons, List.map_nil, List.sum_cons, List.sum_nil]
        rw [longLength, shortLength, buildUpdate_pos, buildUpdateReg_pos]
        rfl
    · have many : ¬4 + 2 * (dirtyRegs state).length < 12 + (dirtyRegs state).length := by
        rw [← buildUpdateReg_pos, ← buildUpdate_pos]
        exact shorter
      simp only [chipFlush, dirty, shorter, decide_false, Bool.and_false, if_true,
        Bool.false_eq_true, if_false]
      constructor
      · rfl
      · refine .cons (.of_decode inv.decode_update inv.decode_update (Nat.le_refl _) ?_) .nil
        rw [frameLength]
        omega
      · rfl
      · simp
  · simp only [chipFlush, dirty, Bool.false_eq_true, if_false]
    exact FormsAgree.nothing state

private theorem chipSetReg_forms (r : Reg) (byte : U8) :
    FormsAgree (chipSetReg false c state r byte) (chipSetReg true c state r byte) := by
  rw [chipSetReg, chipSetReg]
  split
  · exact FormsAgree.nothing state
  · have flushed : FormsAgree
        (if isControl r && state.sidModified r then chipFlush false c state 0
          else ChipDone.nothing state)
        (if isControl r && state.sidModified r then chipFlush true c state 0
          else ChipDone.nothing state) := by
      split
      · exact chipFlush_forms inv 0
      · exact FormsAgree.nothing state
    exact
      { state := congrArg (markModified · r byte) flushed.state
        msgs := flushed.msgs
        longSaved := flushed.longSaved
        shortSaved := flushed.shortSaved }

private theorem chipCall_forms (call : AsidCall) :
    FormsAgree (chipCall false c state call) (chipCall true c state call) := by
  cases call with
  | flush chip nsec => exact chipFlush_forms inv nsec
  | setReg chip reg byte =>
    rw [chipCall, chipCall]
    split
    · exact chipSetReg_forms inv _ _
    · exact FormsAgree.nothing state

end Lengths

/-- What ties the run in the standard form to the run that may shorten. -/
structure FormsRelated (long short : AsidCore) (longMsgs shortMsgs : List AsidMsg) : Prop where
  inv : CoreInv long
  chip : short.chip = long.chip
  longForm : long.useUpdateReg = false
  shortForm : short.useUpdateReg = true
  msgs : List.Forall₂ Interchangeable longMsgs shortMsgs
  longSaved : long.bytesSaved = 0
  shortSaved : short.bytesSaved = BitVec.ofNat 32 (totalBytes longMsgs - totalBytes shortMsgs)

theorem FormsRelated.step {long short : AsidCore} {longMsgs shortMsgs : List AsidMsg}
    (related : FormsRelated long short longMsgs shortMsgs) (call : AsidCall) :
    FormsRelated (call.perform long).1 (call.perform short).1
      (longMsgs ++ (call.perform long).2) (shortMsgs ++ (call.perform short).2) := by
  have kept : CoreInv (call.perform long).1 := perform_inv long call related.inv
  by_cases inside : call.chip.toNat < asidChips
  · let c : Chip := ⟨call.chip.toNat, inside⟩
    have agree := chipCall_forms (related.inv c) call
    rw [perform_selected (c := c) rfl, related.longForm] at kept
    rw [perform_selected (c := c) rfl, perform_selected (c := c) rfl, related.chip,
      related.longForm, related.shortForm]
    have before := totalBytes_le related.msgs
    have now := totalBytes_le agree.msgs
    refine ⟨kept, ?_, related.longForm, related.shortForm, ?_, ?_, ?_⟩
    · rw [applyDone, applyDone, agree.state, related.chip]
    · exact List.rel_append related.msgs agree.msgs
    · change long.bytesSaved + _ = 0
      rw [related.longSaved, agree.longSaved]
      rfl
    · change short.bytesSaved + _ = BitVec.ofNat 32 (totalBytes (longMsgs ++ _) - _)
      rw [related.shortSaved, agree.shortSaved, ← BitVec.ofNat_add, totalBytes_append,
        totalBytes_append]
      congr 1
      change _ = _ + totalBytes (chipCall false c (long.chip c) call).msgs -
        (_ + totalBytes (chipCall true c (long.chip c) call).msgs)
      omega
  · rw [perform_elsewhere inside, perform_elsewhere inside]
    simpa using related

private theorem run_forms (calls : List AsidCall) :
    FormsRelated (asidMachine.exec (asidCoreInit 0) calls) (asidMachine.exec (asidCoreInit 1) calls)
      (asidMachine.emitted (asidCoreInit 0) calls)
      (asidMachine.emitted (asidCoreInit 1) calls) := by
  have related := asidMachine.run_simulation asidMachine FormsRelated some
    (fun _ _ _ _ call held _ => held.step call)
    (s := asidCoreInit 0) (t := asidCoreInit 1)
    ⟨coreInv_init 0, rfl, rfl, rfl, .nil, rfl, rfl⟩ (asidMachine_legal _ calls)
  rw [List.filterMap_some] at related
  exact related

/-- The two wire forms are interchangeable: over the same calls both leave the
same registers, marks and flag on each chip, their messages pair off, and only
the second counts, namely the difference of all lengths. -/
theorem forms_interchangeable (calls : List AsidCall) :
    let long := asidMachine.exec (asidCoreInit 0) calls
    let short := asidMachine.exec (asidCoreInit 1) calls
    let longMsgs := asidMachine.emitted (asidCoreInit 0) calls
    let shortMsgs := asidMachine.emitted (asidCoreInit 1) calls
    (∀ c, (short.chip c).sidRegister = (long.chip c).sidRegister ∧
        (short.chip c).sidModified = (long.chip c).sidModified ∧
        (short.chip c).sidModifiedFlag = (long.chip c).sidModifiedFlag) ∧
      shortMsgs.length = longMsgs.length ∧
      List.Forall₂ Interchangeable longMsgs shortMsgs ∧
      long.bytesSaved = 0 ∧
      short.bytesSaved.toNat = (totalBytes longMsgs - totalBytes shortMsgs) % 2 ^ 32 := by
  intro long short longMsgs shortMsgs
  have related := run_forms calls
  refine ⟨?_, related.msgs.length_eq.symm, related.msgs, related.longSaved, ?_⟩
  · intro c
    have same : short.chip c = long.chip c := congrFun related.chip c
    rw [same]
    exact ⟨rfl, rfl, rfl⟩
  · have counted : short.bytesSaved = _ := related.shortSaved
    rw [counted, BitVec.toNat_ofNat]

end Revice.Asid

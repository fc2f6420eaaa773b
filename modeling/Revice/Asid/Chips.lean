/- Module: Revice/Asid/Chips
   source: libs/asid/src/asid_core.c
   digest: A call touches the chip it selects only, and the two chips never interfere. -/

import Revice.Asid.Core

set_option autoImplicit false
set_option relaxedAutoImplicit false

namespace Revice.Asid

open Revice.General

/-- What a call leaves in the chip it selects, adds to the counter, and sends. -/
structure ChipDone where
  state : AsidChip
  saved : U32
  msgs : List AsidMsg

def ChipDone.nothing (state : AsidChip) : ChipDone := ⟨state, 0, []⟩

def chipFlush (useUpdateReg : Bool) (c : Chip) (state : AsidChip) (nsec : U64) : ChipDone :=
  if state.sidModifiedFlag then
    let t := buildUpdateReg state
    let p := buildUpdate state
    if useUpdateReg && decide (t.pos < p.pos) then
      ⟨clearModified state, BitVec.ofNat 32 (p.pos - t.pos), [⟨c, t.buf.take t.pos, nsec⟩]⟩
    else ⟨clearModified state, 0, [⟨c, p.buf.take p.pos, nsec⟩]⟩
  else ChipDone.nothing state

def chipSetReg (useUpdateReg : Bool) (c : Chip) (state : AsidChip) (r : Reg) (byte : U8) :
    ChipDone :=
  if state.sidRegister r = byte then ChipDone.nothing state
  else
    let flushed := if isControl r && state.sidModified r
      then chipFlush useUpdateReg c state 0 else ChipDone.nothing state
    { flushed with state := markModified flushed.state r byte }

def AsidCall.chip : AsidCall → U8
  | .setReg chip _ _ => chip
  | .flush chip _ => chip

def AsidCall.selects (c : Chip) (call : AsidCall) : Bool := call.chip.toNat == c.val

private theorem selects_iff {c : Chip} {call : AsidCall} :
    call.selects c = true ↔ call.chip.toNat = c.val := beq_iff_eq

def chipCall (useUpdateReg : Bool) (c : Chip) (state : AsidChip) : AsidCall → ChipDone
  | .setReg _ reg byte =>
    if inside : reg.toNat < asidNumRegs then
      chipSetReg useUpdateReg c state ⟨reg.toNat, inside⟩ (regmask ⟨reg.toNat, inside⟩ &&& byte)
    else ChipDone.nothing state
  | .flush _ nsec => chipFlush useUpdateReg c state nsec

def applyDone (core : AsidCore) (c : Chip) (done : ChipDone) : AsidCore × List AsidMsg :=
  (⟨Function.update core.chip c done.state, core.useUpdateReg, core.bytesSaved + done.saved⟩,
    done.msgs)

theorem applyDone_nothing (core : AsidCore) (c : Chip) :
    applyDone core c (ChipDone.nothing (core.chip c)) = (core, []) := by
  simp [applyDone, ChipDone.nothing]

theorem flush_selected {core : AsidCore} {chip : U8} {c : Chip} (same : chip.toNat = c.val)
    (nsec : U64) : asidCoreFlush core chip nsec =
      applyDone core c (chipFlush core.useUpdateReg c (core.chip c) nsec) := by
  have selected : (⟨chip.toNat, same ▸ c.isLt⟩ : Chip) = c := Fin.ext same
  rw [asidCoreFlush, dif_pos (same ▸ c.isLt), chipFlush]
  simp only [selected]
  split
  · split
    · rfl
    · simp [applyDone]
  · exact (applyDone_nothing core c).symm

theorem setReg_selected {core : AsidCore} {chip reg : U8} {c : Chip} (same : chip.toNat = c.val)
    (inside : reg.toNat < asidNumRegs) (byte : U8) : asidCoreSetReg core chip reg byte =
      applyDone core c (chipSetReg core.useUpdateReg c (core.chip c) ⟨reg.toNat, inside⟩
        (regmask ⟨reg.toNat, inside⟩ &&& byte)) := by
  have selected : (⟨chip.toNat, same ▸ c.isLt⟩ : Chip) = c := Fin.ext same
  rw [asidCoreSetReg, dif_pos ⟨same ▸ c.isLt, inside⟩, chipSetReg]
  simp only [selected]
  split
  · exact (applyDone_nothing core c).symm
  · split
    · rw [flush_selected same]
      simp [applyDone]
    · simp [applyDone, ChipDone.nothing]

theorem setReg_outside {core : AsidCore} {chip reg byte : U8}
    (outside : ¬(chip.toNat < asidChips ∧ reg.toNat < asidNumRegs)) :
    asidCoreSetReg core chip reg byte = (core, []) := dif_neg outside

theorem perform_selected {core : AsidCore} {call : AsidCall} {c : Chip}
    (same : call.chip.toNat = c.val) : call.perform core =
      applyDone core c (chipCall core.useUpdateReg c (core.chip c) call) := by
  cases call with
  | flush chip nsec => exact flush_selected same nsec
  | setReg chip reg byte =>
    by_cases inside : reg.toNat < asidNumRegs
    · rw [chipCall, dif_pos inside]
      exact setReg_selected same inside byte
    · rw [chipCall, dif_neg inside, applyDone_nothing]
      exact setReg_outside fun both => inside both.2

theorem perform_elsewhere {core : AsidCore} {call : AsidCall}
    (outside : ¬call.chip.toNat < asidChips) : call.perform core = (core, []) := by
  cases call with
  | flush chip nsec => exact dif_neg outside
  | setReg chip reg byte => exact setReg_outside fun both => outside both.1

private theorem chipFlush_chip (useUpdateReg : Bool) (c : Chip) (state : AsidChip) (nsec : U64) :
    ∀ msg ∈ (chipFlush useUpdateReg c state nsec).msgs, msg.chip = c := by
  rw [chipFlush]
  split
  · simp only
    split
    · simp
    · simp
  · simp [ChipDone.nothing]

private theorem chipCall_chip (useUpdateReg : Bool) (c : Chip) (state : AsidChip)
    (call : AsidCall) :
    ∀ msg ∈ (chipCall useUpdateReg c state call).msgs, msg.chip = c := by
  cases call with
  | flush chip nsec => exact chipFlush_chip useUpdateReg c state nsec
  | setReg chip reg byte =>
    rw [chipCall]
    split
    · rw [chipSetReg]
      split
      · simp [ChipDone.nothing]
      · simp only
        split
        · exact chipFlush_chip useUpdateReg c state 0
        · simp [ChipDone.nothing]
    · simp [ChipDone.nothing]

def callsFor (c : Chip) (calls : List AsidCall) : List AsidCall := calls.filter (·.selects c)

def msgsFor (c : Chip) (msgs : List AsidMsg) : List AsidMsg := msgs.filter (·.chip = c)

/-- A core and a second one that agree on the form flag and on chip `c`. -/
def SameChip (c : Chip) (core other : AsidCore) : Prop :=
  other.useUpdateReg = core.useUpdateReg ∧ other.chip c = core.chip c

theorem SameChip.selected {c : Chip} {core other : AsidCore} (same : SameChip c core other)
    {call : AsidCall} (selects : call.chip.toNat = c.val) :
    SameChip c (call.perform core).1 (call.perform other).1 ∧
      (call.perform other).2 = (call.perform core).2 ∧
      msgsFor c (call.perform core).2 = (call.perform core).2 := by
  rw [perform_selected selects, perform_selected selects, same.1, same.2]
  refine ⟨⟨same.1, ?_⟩, rfl, ?_⟩
  · simp [applyDone]
  · rw [msgsFor, List.filter_eq_self]
    intro msg sent
    exact decide_eq_true (chipCall_chip _ c _ call msg sent)

theorem SameChip.unselected {c : Chip} {core other : AsidCore} (same : SameChip c core other)
    {call : AsidCall} (skips : call.chip.toNat ≠ c.val) :
    SameChip c (call.perform core).1 other ∧ msgsFor c (call.perform core).2 = [] := by
  by_cases inside : call.chip.toNat < asidChips
  · let d : Chip := ⟨call.chip.toNat, inside⟩
    have apart : c ≠ d := by
      intro eq
      exact skips (congrArg Fin.val eq).symm
    rw [perform_selected (c := d) rfl]
    refine ⟨⟨same.1, ?_⟩, ?_⟩
    · exact same.2.trans (Function.update_of_ne apart _ _).symm
    · rw [msgsFor, List.filter_eq_nil_iff]
      intro msg sent here
      have there := chipCall_chip _ d _ call msg sent
      exact apart ((of_decide_eq_true here).symm.trans there)
  · rw [perform_elsewhere inside]
    exact ⟨same, rfl⟩

private theorem run_callsFor (useUpdateReg : Int) (calls : List AsidCall) (c : Chip) :
    SameChip c (asidMachine.exec (asidCoreInit useUpdateReg) calls)
        (asidMachine.exec (asidCoreInit useUpdateReg) (callsFor c calls)) ∧
      asidMachine.emitted (asidCoreInit useUpdateReg) (callsFor c calls) =
        msgsFor c (asidMachine.emitted (asidCoreInit useUpdateReg) calls) := by
  have kept : callsFor c calls = calls.filterMap (Option.guard (·.selects c)) :=
    (congrFun List.filterMap_eq_filter calls).symm
  rw [kept]
  apply asidMachine.run_simulation asidMachine
    (fun core other msgs sent => SameChip c core other ∧ sent = msgsFor c msgs)
    (Option.guard (·.selects c))
  · rintro core other msgs _ call ⟨same, rfl⟩ _
    by_cases selects : call.selects c = true
    · obtain ⟨after, sent, whole⟩ := same.selected (selects_iff.mp selects)
      simp only [Option.guard, selects, if_true]
      refine ⟨after, ?_⟩
      change msgsFor c msgs ++ (call.perform other).2 = msgsFor c (msgs ++ (call.perform core).2)
      rw [sent, msgsFor, msgsFor, List.filter_append]
      exact congrArg _ whole.symm
    · obtain ⟨after, silent⟩ := same.unselected (fun eq => selects (selects_iff.mpr eq))
      simp only [Option.guard, selects, Bool.false_eq_true, if_false]
      refine ⟨after, ?_⟩
      change msgsFor c msgs = msgsFor c (msgs ++ (call.perform core).2)
      rw [msgsFor, msgsFor, List.filter_append]
      exact (List.append_right_eq_self.mpr silent).symm
  · exact ⟨⟨rfl, rfl⟩, rfl⟩
  · exact asidMachine_legal _ calls

private def savedFor (core : AsidCore) (c : Chip) (call : AsidCall) : U32 :=
  if call.selects c then (chipCall core.useUpdateReg c (core.chip c) call).saved else 0

private theorem perform_saved (core : AsidCore) (call : AsidCall) :
    (call.perform core).1.bytesSaved =
      core.bytesSaved + savedFor core 0 call + savedFor core 1 call := by
  by_cases inside : call.chip.toNat < asidChips
  · obtain zero | one : call.chip.toNat = (0 : Chip).val ∨ call.chip.toNat = (1 : Chip).val := by
      change call.chip.toNat = 0 ∨ call.chip.toNat = 1
      change call.chip.toNat < 2 at inside
      omega
    · rw [perform_selected zero]
      simp [savedFor, AsidCall.selects, zero, applyDone]
    · rw [perform_selected one]
      simp [savedFor, AsidCall.selects, one, applyDone]
  · have skipped : ∀ c : Chip, call.selects c = false := by
      intro c
      rw [← Bool.not_eq_true, selects_iff]
      have bound := c.isLt
      omega
    rw [perform_elsewhere inside]
    simp [savedFor, skipped]

private theorem saved_callsFor_snoc (useUpdateReg : Int) (calls : List AsidCall) (call : AsidCall)
    (c : Chip) :
    (asidMachine.exec (asidCoreInit useUpdateReg) (callsFor c (calls ++ [call]))).bytesSaved =
      (asidMachine.exec (asidCoreInit useUpdateReg) (callsFor c calls)).bytesSaved +
        savedFor (asidMachine.exec (asidCoreInit useUpdateReg) calls) c call := by
  obtain ⟨same, _⟩ := run_callsFor useUpdateReg calls c
  rw [callsFor, List.filter_append, ← callsFor]
  by_cases selects : call.selects c = true
  · rw [List.filter_cons_of_pos selects, List.filter_nil, Machine.exec_snoc]
    change (call.perform _).1.bytesSaved = _
    rw [perform_selected (selects_iff.mp selects), savedFor, if_pos selects, same.1, same.2]
    rfl
  · rw [List.filter_cons_of_neg selects, List.filter_nil, List.append_nil, savedFor,
      if_neg selects]
    exact (BitVec.add_zero _).symm

/-- The two chips do not interfere: what is sent for one and where it ends is
what its own calls alone would give, and the counter is the sum of both runs'. -/
theorem chips_independent (useUpdateReg : Int) (calls : List AsidCall) :
    let run := asidMachine.exec (asidCoreInit useUpdateReg)
    let sent := asidMachine.emitted (asidCoreInit useUpdateReg)
    (∀ c, msgsFor c (sent calls) = sent (callsFor c calls) ∧
        (run calls).chip c = (run (callsFor c calls)).chip c) ∧
      (run calls).bytesSaved =
        (run (callsFor 0 calls)).bytesSaved + (run (callsFor 1 calls)).bytesSaved := by
  intro run sent
  constructor
  · intro c
    obtain ⟨same, msgs⟩ := run_callsFor useUpdateReg calls c
    exact ⟨msgs.symm, same.2.symm⟩
  · induction calls using List.reverseRecOn with
    | nil => rfl
    | append_singleton calls call ih =>
      have grown : (run (calls ++ [call])).bytesSaved =
          (run calls).bytesSaved + savedFor (run calls) 0 call + savedFor (run calls) 1 call := by
        change (asidMachine.exec _ (calls ++ [call])).bytesSaved = _
        rw [Machine.exec_snoc]
        exact perform_saved _ call
      rw [grown, saved_callsFor_snoc, saved_callsFor_snoc]
      rw [ih]
      ac_rfl

end Revice.Asid

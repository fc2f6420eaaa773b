/- Module: Revice/Asid/Snapshot
   source: libs/asid/vice/soundasid.c, libs/asid/src/asid_core.c
   digest: At each IRQ flush the receiver holds exactly what the program had written before. -/

import Revice.Asid.Schedule

set_option autoImplicit false
set_option relaxedAutoImplicit false

namespace Revice.Asid

open Revice.General

def storedBytes (c : Chip) (r : Reg) (calls : List DumpCall) : List U8 :=
  calls.filterMap fun call =>
    if call.chipno.toNat = c.val ∧ call.reg.toNat = r.val then some call.byte else none

private theorem writtenBytes_codecRun (cps : U64) (c : Chip) (r : Reg) (dev : AsidDevice)
    (calls : List DumpCall) :
    writtenBytes c r (codecRun cps dev calls) = storedBytes c r calls := by
  induction calls generalizing dev with
  | nil => rfl
  | cons call calls ih =>
    have head : writtenBytes c r (codecCalls cps dev call) = storedBytes c r [call] := by
      rw [codecCalls]
      split
      · rename_i inside
        by_cases ignored : call.reg.toNat > asidMaxSidReg
        · have bound : r.val < 25 := r.isLt
          have missed : ¬(call.chipno.toNat = c.val ∧ call.reg.toNat = r.val) := by
            rintro ⟨_, same⟩
            rw [asidMaxSidReg] at ignored
            omega
          simp only [ignored, if_true, storedBytes, List.filterMap_cons, missed, if_false]
          split <;> rfl
        · simp only [ignored, if_false, storedBytes]
          split <;> rfl
      · rename_i outside
        have bound := c.isLt
        have missed : ¬(call.chipno.toNat = c.val ∧ call.reg.toNat = r.val) := by
          rintro ⟨same, _⟩
          exact outside (same ▸ bound)
        simp only [storedBytes, List.filterMap_cons, missed, if_false]
        rfl
    have split : storedBytes c r (call :: calls) =
        storedBytes c r [call] ++ storedBytes c r calls :=
      @List.filterMap_append _ _ [call] calls _
    rw [split, ← head, ← ih (asidDump2 cps dev call).1, codecRun, writtenBytes,
      List.filterMap_append]
    rfl

private theorem register_written (useUpdateReg : Int) (calls : List AsidCall) (c : Chip) (r : Reg) :
    ((asidMachine.exec (asidCoreInit useUpdateReg) calls).chip c).sidRegister r =
      regmask r &&& (writtenBytes c r calls).getLastD 0 := by
  obtain ⟨state, _⟩ := run_projects useUpdateReg calls c
  have last := Mirror.image_exec packOrder_covers isControl (Mirror.ofImage fun _ => (0 : U8))
    (calls.filterMap (callFor c)) r
  rw [writesTo_callFor] at last
  have held := congrArg (fun m => m.image r) state
  refine held.symm.trans (last.trans ?_)
  rw [List.getLastD_eq_getLast?, List.getLastD_eq_getLast?, List.getLast?_map]
  cases (writtenBytes c r calls).getLast? with
  | none => exact BitVec.and_zero.symm
  | some byte => rfl

private theorem receiver_flushed (useUpdateReg : Int) (calls : List AsidCall) {chip : U8} {c : Chip}
    (same : chip.toNat = c.val) (nsec : U64) :
    let core := asidMachine.exec (asidCoreInit useUpdateReg) calls
    receiverImage c (asidMachine.emitted (asidCoreInit useUpdateReg) calls ++
      (asidCoreFlush core chip nsec).2) = (core.chip c).sidRegister := by
  intro core
  have agree := receiver_agrees useUpdateReg calls c
  have image := Mirror.receive_flush packOrder_covers agree
  rw [flush_same (exec_inv useUpdateReg calls) same nsec] at image
  rw [receiverImage, List.filterMap_append, Mirror.receive_append]
  exact image

private theorem setReg_after_flush {core : AsidCore} (inv : CoreInv core) {chip : U8} {c : Chip}
    (same : chip.toNat = c.val) (nsec : U64) (reg byte : U8) :
    (asidCoreSetReg (asidCoreFlush core chip nsec).1 chip reg byte).2 = [] := by
  have flushed := flush_inv inv chip nsec
  have silent := setReg_nsec flushed same reg byte
  rw [forcesFlush_clean (flushed c) (flush_clean core same nsec)] at silent
  exact List.map_eq_nil_iff.mp silent

/-- The snapshot at an IRQ. When a callback is due to flush its chip, the messages so far and
its own, taken in the order in which they are emitted, give a receiver exactly the last byte
stored to each register before this callback, without the bits the register does not have; the
byte it stores itself waits for the next. -/
theorem irq_snapshot (cps : U64) (useUpdateReg : Int) (calls : List DumpCall) (call : DumpCall)
    (c : Chip) (same : call.chipno.toNat = c.val)
    (due : asidShouldFlushOnIrq call.irqClk
      (((deviceMachine cps).exec (openDevice useUpdateReg) calls).timing c).lastIrq = true)
    (r : Reg) :
    receiverImage c (((deviceMachine cps).emitted (openDevice useUpdateReg)
      (calls ++ [call])).map Delivery.msg) r =
      regmask r &&& (storedBytes c r calls).getLastD 0 := by
  obtain ⟨core, msgs⟩ := codecRun_exec cps (openDevice useUpdateReg) calls
  have inv : CoreInv ((deviceMachine cps).exec (openDevice useUpdateReg) calls).core := by
    rw [← core]
    exact exec_inv useUpdateReg _
  have whole := asidDump2_codec cps ((deviceMachine cps).exec (openDevice useUpdateReg) calls) call
  rw [Machine.emitted_snoc, List.map_append, ← msgs]
  set dev := (deviceMachine cps).exec (openDevice useUpdateReg) calls
  have sent : (((deviceMachine cps).step dev call).2.map Delivery.msg) =
      (asidCoreFlush dev.core call.chipno
        (BitVec.ofInt 64 (irqDelay cps ((dev.timing c).anchor call.now) call))).2 := by
    have unwrap : (((deviceMachine cps).step dev call).2.map Delivery.msg) =
        (asidDump2 cps dev call).2 := by
      rw [deviceMachine, List.map_map]
      exact List.map_id _
    have selected : (⟨call.chipno.toNat, same ▸ c.isLt⟩ : Chip) = c := Fin.ext same
    rw [unwrap, ← whole.2, codecCalls, dif_pos (same ▸ c.isLt)]
    simp only [selected, due, if_true]
    rw [Machine.emitted_append]
    -- the flush leaves the chip clean, so the write behind it has nothing to force out
    refine Eq.trans ?_ (List.append_nil _)
    refine congrArg₂ _ (List.append_nil _) ?_
    split
    · rfl
    · exact (List.append_nil _).trans (setReg_after_flush inv same _ call.reg call.byte)
  rw [sent, ← core]
  refine (congrFun (receiver_flushed useUpdateReg _ same _) r).trans ?_
  rw [register_written, writtenBytes_codecRun]

theorem irq_snapshot_frame :
    receiverImage 0 (((deviceMachine 985248).emitted (openDevice 1)
      ([⟨1000000, 1000, 0, 0, 0x42⟩, ⟨1000100, 1000, 0, 4, 0x11⟩] ++
        [⟨2000000, 21000, 0, 4, 0x10⟩])).map Delivery.msg) 4 = 0x11 :=
  irq_snapshot 985248 1 [⟨1000000, 1000, 0, 0, 0x42⟩, ⟨1000100, 1000, 0, 4, 0x11⟩]
    ⟨2000000, 21000, 0, 4, 0x10⟩ 0 rfl (by decide) 4

end Revice.Asid

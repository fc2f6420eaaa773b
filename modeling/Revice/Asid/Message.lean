/- Module: Revice/Asid/Message
   source: libs/asid/src/asid_core.c, libs/asid/vice/soundasid.c
   digest: The one message of a flush: its framing, its length, and what it decodes to. -/

import Revice.Asid.Forms

set_option autoImplicit false
set_option relaxedAutoImplicit false

namespace Revice.Asid

open Revice.General

/-- A SysEx message with the given opcode: everything between the first and the last byte
has its top bit clear. -/
structure Framed (opcode : U8) (bytes : List U8) : Prop where
  framed : ∃ body, bytes = [0xf0, 0x2d, opcode] ++ body ++ [0xf7] ∧ ∀ b ∈ body, b < 0x80#8
  opcode_small : opcode < 0x80#8

structure StandardForm (c : Chip) (state : AsidChip) (regs : List Reg) (bytes : List U8) :
    Prop where
  framed : Framed (asidUpdate c) bytes
  length : bytes.length = 12 + regs.length
  decodes : decodeMessage c bytes = some (regs.map fun r => (r, state.sidRegister r))

structure PerRegisterForm (c : Chip) (state : AsidChip) (regs : List Reg) (bytes : List U8) :
    Prop where
  framed : Framed (asidUpdateReg c) bytes
  length : bytes.length = 4 + 2 * regs.length
  decodes : decodeMessage c bytes = some (regs.map fun r => (r, state.sidRegister r))

private theorem packOrder_controls_last :
    packOrder = (List.finRange asidNumRegs).filter (fun r => !isControl r) ++ [4, 11, 18] := by
  decide

private theorem dirtyRegs_order (state : AsidChip) :
    dirtyRegs state = ((List.finRange asidNumRegs).filter fun r => !isControl r).filter
        state.sidModified ++ ([4, 11, 18] : List Reg).filter state.sidModified := by
  rw [dirtyRegs, packOrder_controls_last, List.filter_append]

private theorem mem_dirtyRegs {state : AsidChip} {r : Reg} :
    r ∈ dirtyRegs state ↔ state.sidModified r = true := by
  rw [dirtyRegs, List.mem_filter]
  exact and_iff_right (packOrder_covers r)

private theorem groups_small {n w : Nat} {x : BitVec w} {b : U8} (member : b ∈ groups 7 n x) :
    b < 0x80#8 := by
  rw [groups_eq_map, List.mem_map] at member
  obtain ⟨i, _, rfl⟩ := member
  have bound := ((x >>> (7 * i)).setWidth 7).isLt
  rw [BitVec.lt_def, BitVec.toNat_setWidth]
  exact lt_of_le_of_lt (Nat.mod_le _ _) bound

private theorem low_small (val : U8) : val &&& 0x7f#8 < 0x80#8 := by
  rw [BitVec.lt_def, BitVec.toNat_and]
  exact lt_of_le_of_lt Nat.and_le_right (by decide)

private theorem pairBytes_small (r : Reg) (val : U8) : ∀ b ∈ pairBytes r val, b < 0x80#8 := by
  have register : ∀ (r : Reg) (high : Bool),
      (if high then BitVec.ofNat 8 r.val ||| (1#8 <<< 6) else BitVec.ofNat 8 r.val : U8) <
        0x80#8 := by
    decide
  have first := register r (decide (0x7f#8 < val))
  simp only [decide_eq_true_eq] at first
  intro b member
  simp only [pairBytes, gt_iff_lt, List.mem_cons, List.not_mem_nil, or_false] at member
  rcases member with rfl | rfl
  · exact first
  · exact low_small val

section Chip

variable {c : Chip} {state : AsidChip} (inv : ChipInv c state)

include inv

private theorem update_framed :
    StandardForm c state (dirtyRegs state)
      ((buildUpdate state).buf.take (buildUpdate state).pos) := by
  have opcodes : ∀ c : Chip, asidUpdate c < 0x80#8 := by decide
  refine ⟨⟨⟨header state ++ payload state, ?_, ?_⟩, opcodes c⟩, length_update_message inv, ?_⟩
  · rw [inv.update_message, List.append_assoc _ (header state)]
    rfl
  · intro b member
    rw [header, payload] at member
    rcases List.mem_append.mp member with words | low
    · rcases List.mem_append.mp words with mask | msb
      · exact groups_small mask
      · exact groups_small msb
    · obtain ⟨r, _, rfl⟩ := List.mem_map.mp low
      exact low_small _
  · rw [inv.decode_update, chipView_frame]

private theorem updateReg_framed :
    PerRegisterForm c state (dirtyRegs state)
      ((buildUpdateReg state).buf.take (buildUpdateReg state).pos) := by
  have opcodes : ∀ c : Chip, asidUpdateReg c < 0x80#8 := by decide
  refine ⟨⟨⟨(dirtyRegs state).flatMap fun r => pairBytes r (state.sidRegister r), ?_, ?_⟩,
    opcodes c⟩, length_updateReg_message inv, ?_⟩
  · rw [inv.updateReg_message, ← List.append_assoc]
    rfl
  · intro b member
    obtain ⟨r, _, pair⟩ := List.mem_flatMap.mp member
    exact pairBytes_small r _ b pair
  · rw [inv.decode_updateReg, chipView_frame]

theorem chipFlush_form (useUpdateReg : Bool) (nsec : U64) (dirty : state.sidModifiedFlag = true) :
    ∃ bytes saved, chipFlush useUpdateReg c state nsec =
        ⟨clearModified state, saved, [⟨c, bytes, nsec⟩]⟩ ∧
      if useUpdateReg && decide (4 + 2 * (dirtyRegs state).length < 12 + (dirtyRegs state).length)
      then PerRegisterForm c state (dirtyRegs state) bytes
      else StandardForm c state (dirtyRegs state) bytes := by
  rw [← buildUpdateReg_pos, ← buildUpdate_pos, chipFlush, if_pos dirty]
  simp only
  split
  · exact ⟨_, _, rfl, updateReg_framed inv⟩
  · exact ⟨_, _, rfl, update_framed inv⟩

/-- What a chip is like after its message has been sent. -/
structure Settled (before after : AsidChip) : Prop where
  clean : ∀ r, after.sidModified r = false
  registers : after.sidRegister = before.sidRegister
  updateOpening : after.updateBuffer.take 3 = before.updateBuffer.take 3
  updateRegOpening : after.updateRegBuffer.take 3 = before.updateRegBuffer.take 3

private theorem clearModified_settled : Settled state (clearModified state) where
  clean := fun _ => rfl
  registers := rfl
  updateOpening := by rw [inv.clear.updateOpening, inv.updateOpening]
  updateRegOpening := by rw [inv.clear.updateRegOpening, inv.updateRegOpening]

end Chip

/-- What the flush of a chip with dirty registers does. The form flag and the two lengths
choose the form; the registers are the dirty ones, in packing order. -/
structure SendsOne (core : AsidCore) (c : Chip) (nsec : U64) (bytes : List U8) : Prop where
  sent : (asidCoreFlush core (chipArg c) nsec).2 = [⟨c, bytes, nsec⟩]
  form : if core.useUpdateReg && decide (4 + 2 * (dirtyRegs (core.chip c)).length <
      12 + (dirtyRegs (core.chip c)).length)
    then PerRegisterForm c (core.chip c) (dirtyRegs (core.chip c)) bytes
    else StandardForm c (core.chip c) (dirtyRegs (core.chip c)) bytes
  once : (dirtyRegs (core.chip c)).Nodup
  dirty : ∀ r, r ∈ dirtyRegs (core.chip c) ↔ (core.chip c).sidModified r = true
  order : dirtyRegs (core.chip c) =
    ((List.finRange asidNumRegs).filter fun r => !isControl r).filter (core.chip c).sidModified ++
      ([4, 11, 18] : List Reg).filter (core.chip c).sidModified
  fits : bytes.length ≤ 37
  unsent : (buildUpdateReg (core.chip c)).pos ≤ 54
  updateRoom : (core.chip c).updateBuffer.length = 256
  updateRegRoom : (core.chip c).updateRegBuffer.length = 256
  settled : Settled (core.chip c) ((asidCoreFlush core (chipArg c) nsec).1.chip c)
  silent : ∀ later, asidCoreFlush (asidCoreFlush core (chipArg c) nsec).1 (chipArg c) later =
    ((asidCoreFlush core (chipArg c) nsec).1, [])

/-- The one message of a flush: whatever calls led to the state, a chip with dirty registers
sends one well-framed message of the chosen form and length, which fits the length byte and
the buffers, decodes to the dirty registers in packing order, and leaves the chip clean. -/
theorem flush_message (useUpdateReg : Int) (calls : List AsidCall) (c : Chip) (nsec : U64)
    (dirty : ∃ r, ((asidMachine.exec (asidCoreInit useUpdateReg) calls).chip c).sidModified r =
      true) :
    ∃ bytes, SendsOne (asidMachine.exec (asidCoreInit useUpdateReg) calls) c nsec bytes := by
  have inv : CoreInv (asidMachine.exec (asidCoreInit useUpdateReg) calls) :=
    exec_inv useUpdateReg calls
  generalize asidMachine.exec (asidCoreInit useUpdateReg) calls = core at dirty inv ⊢
  have few : (dirtyRegs (core.chip c)).length ≤ 25 := length_dirtyRegs _
  have flag : (core.chip c).sidModifiedFlag = true := by
    rw [(inv c).flag, List.any_eq_true]
    obtain ⟨r, marked⟩ := dirty
    exact ⟨r, packOrder_covers r, marked⟩
  obtain ⟨bytes, saved, done, form⟩ := chipFlush_form (inv c) core.useUpdateReg nsec flag
  have flush : asidCoreFlush core (chipArg c) nsec =
      applyDone core c ⟨clearModified (core.chip c), saved, [⟨c, bytes, nsec⟩]⟩ := by
    rw [← done]
    exact flush_selected (chipArg_toNat c) nsec
  have chip : (asidCoreFlush core (chipArg c) nsec).1.chip c = clearModified (core.chip c) := by
    rw [flush]
    exact Function.update_self _ _ _
  have idle : ((asidCoreFlush core (chipArg c) nsec).1.chip c).sidModifiedFlag = false := by
    rw [chip]
    rfl
  refine ⟨bytes, ?_⟩
  constructor
  · rw [flush]
    rfl
  · exact form
  · exact packOrder_nodup.filter _
  · exact fun r => mem_dirtyRegs
  · exact dirtyRegs_order _
  · split at form
    · rename_i shorter
      rw [Bool.and_eq_true, decide_eq_true_iff] at shorter
      have length := form.length
      omega
    · have length := form.length
      omega
  · rw [buildUpdateReg_pos]
    omega
  · exact (inv c).updateLength
  · exact (inv c).updateRegLength
  · rw [chip]
    exact clearModified_settled (inv c)
  · intro later
    rw [flush_selected (chipArg_toNat c), chipFlush_idle _ later idle, applyDone_nothing]

theorem flush_message_single :
    ∃ bytes, SendsOne (asidMachine.exec (asidCoreInit 1) [.setReg 0 4 0x11]) 0 7 bytes :=
  flush_message 1 [.setReg 0 4 0x11] 0 7 ⟨4, by decide⟩

end Revice.Asid

/- Module: Revice/Asid/Wire
   source: libs/asid/src/asid_core.c
   digest: A receiver's decoder for both ASID forms, and what a built message decodes to. -/

import Revice.Asid.Core
import Revice.General.Mirror

set_option autoImplicit false
set_option relaxedAutoImplicit false

namespace Revice.Asid

open Revice.General

def withMsb (low : U8) (msb : Bool) : U8 := if msb then low ||| 0x80#8 else low

/-- Read payload bytes for the masked positions, in order, up to the stop byte. -/
def unpack (mask msb : Nat → Bool) : List Reg → List U8 → Option (Frame Reg U8)
  | [], bytes => if bytes = [asidSysexStop] then some [] else none
  | i :: is, bytes =>
    if mask i.val then
      match bytes with
      | [] => none
      | low :: rest =>
        (unpack mask msb is rest).map ((regmap i, withMsb low (msb i.val)) :: ·)
    else unpack mask msb is bytes

/-- The standard form behind the opcode: two header words, then the payload. -/
def decodeStandard (body : List U8) : Option (Frame Reg U8) :=
  unpack (groupBit 7 (body.take 4)) (groupBit 7 ((body.drop 4).take 4))
    (List.finRange asidNumRegs) (body.drop 8)

/-- The per-register form behind the opcode: register and value pairs. -/
def decodePairs : List U8 → Option (Frame Reg U8)
  | [] => none
  | [last] => if last = asidSysexStop then some [] else none
  | enc :: low :: rest =>
    if inside : (enc &&& 0x3f#8).toNat < asidNumRegs then
      (decodePairs rest).map ((⟨(enc &&& 0x3f#8).toNat, inside⟩, withMsb low (enc.getLsbD 6)) :: ·)
    else none

/-- What the receiver of chip `c` reads from one SysEx message. -/
def decodeMessage (c : Chip) : List U8 → Option (Frame Reg U8)
  | start :: man :: opcode :: body =>
    if start = asidSysexStart ∧ man = asidSysexManId then
      if opcode = asidUpdate c then decodeStandard body
      else if opcode = asidUpdateReg c then decodePairs body
      else none
    else none
  | _ => none

def packOrder : List Reg := (List.finRange asidNumRegs).map regmap

theorem packOrder_covers (r : Reg) : r ∈ packOrder := by
  revert r
  decide

theorem packOrder_nodup : packOrder.Nodup := by decide

/-- The codec state a receiver can observe: registers and dirty flags. -/
def chipView (state : AsidChip) : Mirror Reg U8 := ⟨state.sidRegister, state.sidModified⟩

def dirtyRegs (state : AsidChip) : List Reg := packOrder.filter state.sidModified

theorem chipView_frame (state : AsidChip) :
    (chipView state).frame packOrder = (dirtyRegs state).map fun r => (r, state.sidRegister r) :=
  rfl

theorem length_dirtyRegs (state : AsidChip) : (dirtyRegs state).length ≤ 25 :=
  List.length_filter_le _ _

def pairBytes (r : Reg) (val : U8) : List U8 :=
  let enc : U8 := BitVec.ofNat 8 r.val
  [if val > 0x7f#8 then enc ||| (1#8 <<< 6) else enc, val &&& 0x7f#8]

private theorem withMsb_low (val : U8) :
    withMsb (val &&& 0x7f#8) (decide (0x7f#8 < val)) = val := by
  revert val
  decide

private theorem enc_register (r : Reg) (high : Bool) :
    (((if high then BitVec.ofNat 8 r.val ||| (1#8 <<< 6) else BitVec.ofNat 8 r.val) : U8) &&&
      0x3f#8).toNat = r.val := by
  revert r high
  decide

private theorem enc_high (r : Reg) (high : Bool) :
    ((if high then BitVec.ofNat 8 r.val ||| (1#8 <<< 6) else BitVec.ofNat 8 r.val) : U8).getLsbD 6 =
      high := by
  revert r high
  decide

private theorem decodePairs_cons (r : Reg) (val : U8) (rest : List U8) :
    decodePairs (pairBytes r val ++ rest) = (decodePairs rest).map ((r, val) :: ·) := by
  have register := enc_register r (decide (0x7f#8 < val))
  have high := enc_high r (decide (0x7f#8 < val))
  simp only [decide_eq_true_eq] at register high
  simp only [pairBytes, gt_iff_lt, List.cons_append, List.nil_append, decodePairs, register, high,
    withMsb_low, r.isLt, dif_pos, Fin.eta]

private theorem decodePairs_pairs (regs : List Reg) (value : Reg → U8) :
    decodePairs (regs.flatMap (fun r => pairBytes r (value r)) ++ [asidSysexStop]) =
      some (regs.map fun r => (r, value r)) := by
  induction regs with
  | nil => rfl
  | cons r regs ih =>
    rw [List.flatMap_cons, List.append_assoc, decodePairs_cons, ih]
    rfl

private theorem unpack_payload (mask msb : Nat → Bool) (value : Reg → U8) (positions : List Reg)
    (high : ∀ i ∈ positions, mask i.val = true → msb i.val = decide (0x7f#8 < value (regmap i))) :
    unpack mask msb positions
        (((positions.filter fun i => mask i.val).map fun i => value (regmap i) &&& 0x7f#8) ++
          [asidSysexStop]) =
      some ((positions.filter fun i => mask i.val).map fun i => (regmap i, value (regmap i))) := by
  induction positions with
  | nil => rfl
  | cons i positions ih =>
    have tail := ih fun j member => high j (List.mem_cons_of_mem i member)
    have here := high i List.mem_cons_self
    cases taken : mask i.val with
    | false => simp [unpack, taken, tail]
    | true => simp [unpack, taken, tail, here taken, withMsb_low]

section Loops

variable (state : AsidChip)

private def marked (i : Reg) : Bool := state.sidModified (regmap i)

private theorem dirtyRegs_eq :
    dirtyRegs state = ((List.finRange asidNumRegs).filter (marked state)).map regmap := by
  rw [dirtyRegs, packOrder, List.filter_map]
  rfl

private theorem updateReg_loop (positions : List Reg) (out : Cursor U8) :
    positions.foldl (updateRegStep state) out =
      out.puts (((positions.filter (marked state)).map regmap).flatMap
        fun r => pairBytes r (state.sidRegister r)) := by
  induction positions generalizing out with
  | nil => rfl
  | cons i positions ih =>
    rw [List.foldl_cons, ih, updateRegStep]
    cases taken : state.sidModified (regmap i) with
    | false => simp [marked, taken]
    | true => simp [marked, taken, pairBytes]

private theorem buildUpdateReg_puts :
    buildUpdateReg state = Cursor.puts ⟨state.updateRegBuffer, 3⟩
      ((dirtyRegs state).flatMap (fun r => pairBytes r (state.sidRegister r)) ++
        [asidSysexStop]) := by
  rw [Cursor.puts_append, dirtyRegs_eq]
  change ((List.finRange asidNumRegs).foldl (updateRegStep state) _).put asidSysexStop = _
  rw [updateReg_loop]
  rfl

private theorem update_loop_out (positions : List Reg) (acc : UpdateLoop) :
    (positions.foldl (updateStep state) acc).out =
      acc.out.puts ((positions.filter (marked state)).map
        fun i => state.sidRegister (regmap i) &&& 0x7f#8) := by
  induction positions generalizing acc with
  | nil => rfl
  | cons i positions ih =>
    rw [List.foldl_cons, ih, updateStep]
    cases taken : state.sidModified (regmap i) with
    | false => simp [marked, taken]
    | true => simp [marked, taken]

private theorem getLsbD_bit (i : Reg) (j : Nat) (inside : j < 32) :
    (1#32 <<< i.val).getLsbD j = decide (i.val = j) := by
  rw [BitVec.getLsbD_shiftLeft, BitVec.getLsbD_one]
  by_cases same : i.val = j
  · simp [same, inside]
  · simp only [inside, same, decide_true, decide_false, Bool.true_and, Bool.and_eq_false_iff]
    rcases Nat.lt_or_gt_of_ne same with less | more
    · exact Or.inr (by simp; omega)
    · exact Or.inl (by simp; omega)

private theorem update_loop_bits (positions : List Reg) (acc : UpdateLoop) (j : Nat)
    (inside : j < 32) :
    (positions.foldl (updateStep state) acc).mask.getLsbD j =
        (acc.mask.getLsbD j || positions.any fun i => marked state i && decide (i.val = j)) ∧
      (positions.foldl (updateStep state) acc).msb.getLsbD j =
        (acc.msb.getLsbD j || positions.any fun i => marked state i &&
          decide (0x7f#8 < state.sidRegister (regmap i)) && decide (i.val = j)) := by
  induction positions generalizing acc with
  | nil => simp
  | cons i positions ih =>
    rw [List.foldl_cons, (ih _).1, (ih _).2, updateStep, List.any_cons, List.any_cons]
    have bit := getLsbD_bit i j inside
    cases taken : state.sidModified (regmap i) with
    | false => simp [marked, taken]
    | true =>
      by_cases high : 0x7f#8 < state.sidRegister (regmap i)
      · simp only [taken, if_true, gt_iff_lt, high, BitVec.getLsbD_or, bit, marked, decide_true,
          Bool.true_and, Bool.or_assoc, and_self]
      · simp only [taken, if_true, gt_iff_lt, high, if_false, BitVec.getLsbD_or, bit, marked,
          decide_false, Bool.and_false, Bool.false_and, Bool.false_or, Bool.true_and, Bool.or_assoc,
          and_self]

private theorem any_finRange (p : Reg → Bool) (i : Reg) :
    ((List.finRange asidNumRegs).any fun k => p k && decide (k.val = i.val)) = p i := by
  rw [Bool.eq_iff_iff, List.any_eq_true]
  constructor
  · rintro ⟨k, _, both⟩
    rw [Bool.and_eq_true, decide_eq_true_eq] at both
    exact Fin.ext both.2 ▸ both.1
  · intro taken
    exact ⟨i, List.mem_finRange i, by simp [taken]⟩

private def headerWords : UpdateLoop :=
  (List.finRange asidNumRegs).foldl (updateStep state) ⟨0, 0, ⟨state.updateBuffer, 11⟩⟩

private theorem mask_bit (i : Reg) : (headerWords state).mask.getLsbD i.val = marked state i := by
  have bits := (update_loop_bits state (List.finRange asidNumRegs)
    ⟨0, 0, ⟨state.updateBuffer, 11⟩⟩ i.val
    (Nat.lt_trans i.isLt (by decide))).1
  rw [headerWords, bits, any_finRange]
  simp

private theorem msb_bit (i : Reg) : (headerWords state).msb.getLsbD i.val =
    (marked state i && decide (0x7f#8 < state.sidRegister (regmap i))) := by
  have bits := (update_loop_bits state (List.finRange asidNumRegs)
    ⟨0, 0, ⟨state.updateBuffer, 11⟩⟩ i.val
    (Nat.lt_trans i.isLt (by decide))).2
  rw [headerWords, bits, any_finRange]
  simp

private theorem writeHeader_puts (rounds : Nat) (word : U32) (out : Cursor U8) :
    writeHeader rounds word out = out.puts (groups 7 rounds word) := by
  induction rounds generalizing word out with
  | zero => rfl
  | succ rounds ih =>
    rw [writeHeader, ih, groups, Cursor.puts_cons]
    congr 2
    exact setWidth_and_low 7 word

def payload : List U8 := (dirtyRegs state).map fun r => state.sidRegister r &&& 0x7f#8

private theorem payload_eq : payload state =
    ((List.finRange asidNumRegs).filter (marked state)).map
      fun i => state.sidRegister (regmap i) &&& 0x7f#8 := by
  rw [payload, dirtyRegs_eq, List.map_map]
  rfl

/-- The eight header bytes: dirty mask, then value top bits, seven bits per byte. -/
def header : List U8 :=
  groups 7 4 (headerWords state).mask ++ groups 7 4 (headerWords state).msb

theorem length_header : (header state).length = 8 := by simp [header]

private theorem buildUpdate_eq : buildUpdate state =
    Cursor.puts ⟨(Cursor.puts ⟨(Cursor.puts ⟨state.updateBuffer, 11⟩ (payload state)).buf, 3⟩
      (header state)).buf, (Cursor.puts ⟨state.updateBuffer, 11⟩ (payload state)).pos⟩
      [asidSysexStop] := by
  have out := update_loop_out state (List.finRange asidNumRegs)
    ⟨0, 0, ⟨state.updateBuffer, 11⟩⟩
  rw [← payload_eq] at out
  rw [header, Cursor.puts_append, ← writeHeader_puts, ← writeHeader_puts, ← out]
  rfl

theorem buildUpdate_pos : (buildUpdate state).pos = 12 + (dirtyRegs state).length := by
  rw [buildUpdate_eq]
  simp only [Cursor.puts_pos, payload, List.length_map, List.length_singleton]
  omega

theorem buildUpdateReg_pos : (buildUpdateReg state).pos = 4 + 2 * (dirtyRegs state).length := by
  have pairs : ((dirtyRegs state).flatMap fun r => pairBytes r (state.sidRegister r)).length =
      2 * (dirtyRegs state).length := by
    rw [List.length_flatMap]
    simp [pairBytes, Nat.mul_comm]
  rw [buildUpdateReg_puts, Cursor.puts_pos, List.length_append, pairs, List.length_singleton]
  change 3 + (2 * (dirtyRegs state).length + 1) = _
  omega

end Loops

/-- What the codec relies on between calls: both buffers keep their size and
their opening bytes, and the summary flag tells whether any register is dirty. -/
structure ChipInv (c : Chip) (state : AsidChip) : Prop where
  updateLength : state.updateBuffer.length = asidBufferSize
  updateRegLength : state.updateRegBuffer.length = asidBufferSize
  updateOpening : state.updateBuffer.take 3 = asidPrefix ++ [asidUpdate c]
  updateRegOpening : state.updateRegBuffer.take 3 = asidPrefix ++ [asidUpdateReg c]
  flag : state.sidModifiedFlag = packOrder.any state.sidModified

private theorem clearModified_updateBuffer (state : AsidChip) :
    (clearModified state).updateBuffer = (buildUpdate state).buf := by
  rw [clearModified]

private theorem clearModified_updateRegBuffer (state : AsidChip) :
    (clearModified state).updateRegBuffer = (buildUpdateReg state).buf := by
  rw [clearModified]

private theorem length_seedBuffer (opcode : U8) : (seedBuffer opcode).length = asidBufferSize := by
  rw [seedBuffer, Cursor.length_puts, List.length_replicate]

private theorem take_seedBuffer (opcode : U8) :
    (seedBuffer opcode).take 3 = asidPrefix ++ [opcode] :=
  Cursor.take_puts_pos ⟨List.replicate asidBufferSize 0, 0⟩ (asidPrefix ++ [opcode])
    (by rw [List.length_replicate]; exact (by decide : 3 ≤ asidBufferSize))

namespace ChipInv

theorem init (c : Chip) (useUpdateReg : Int) :
    ChipInv c ((asidCoreInit useUpdateReg).chip c) where
  updateLength := length_seedBuffer _
  updateRegLength := length_seedBuffer _
  updateOpening := take_seedBuffer _
  updateRegOpening := take_seedBuffer _
  flag := by simp [asidCoreInit]

variable {c : Chip} {state : AsidChip}

theorem update_message (inv : ChipInv c state) :
    (buildUpdate state).buf.take (buildUpdate state).pos =
      asidPrefix ++ [asidUpdate c] ++ header state ++ payload state ++ [asidSysexStop] := by
  have dirty := length_dirtyRegs state
  have filled := Cursor.take_backfill state.updateBuffer 3 (header state) (payload state)
    [asidSysexStop] (by
      rw [inv.updateLength, length_header, payload, List.length_map, List.length_singleton,
        asidBufferSize]
      omega)
  rw [length_header, inv.updateOpening] at filled
  rw [buildUpdate_eq]
  exact filled

theorem updateReg_message (inv : ChipInv c state) :
    (buildUpdateReg state).buf.take (buildUpdateReg state).pos =
      asidPrefix ++ [asidUpdateReg c] ++
        ((dirtyRegs state).flatMap (fun r => pairBytes r (state.sidRegister r)) ++
          [asidSysexStop]) := by
  have room := buildUpdateReg_pos state
  have dirty := length_dirtyRegs state
  rw [buildUpdateReg_puts, Cursor.puts_pos] at room
  rw [buildUpdateReg_puts, Cursor.take_puts_pos _ _ (by
    simp only at room ⊢
    rw [room, inv.updateRegLength, asidBufferSize]
    omega), inv.updateRegOpening]

private theorem update_ne_updateReg (c d : Chip) : asidUpdateReg d ≠ asidUpdate c := by
  revert c d
  decide

theorem decode_updateReg (inv : ChipInv c state) :
    decodeMessage c ((buildUpdateReg state).buf.take (buildUpdateReg state).pos) =
      some ((chipView state).frame packOrder) := by
  rw [inv.updateReg_message]
  simp only [asidPrefix, List.cons_append, List.nil_append, decodeMessage, and_self, if_true,
    update_ne_updateReg, if_false]
  rw [decodePairs_pairs, chipView_frame]

theorem decode_update (inv : ChipInv c state) :
    decodeMessage c ((buildUpdate state).buf.take (buildUpdate state).pos) =
      some ((chipView state).frame packOrder) := by
  have maskBit (i : Reg) : groupBit 7 (groups 7 4 (headerWords state).mask) i.val =
      marked state i := by
    rw [groupBit_groups (by decide) (by decide) 4 _ (Nat.lt_trans i.isLt (by decide)), mask_bit]
  have msbBit (i : Reg) : groupBit 7 (groups 7 4 (headerWords state).msb) i.val =
      (marked state i && decide (0x7f#8 < state.sidRegister (regmap i))) := by
    rw [groupBit_groups (by decide) (by decide) 4 _ (Nat.lt_trans i.isLt (by decide)), msb_bit]
  have unpacked := unpack_payload (groupBit 7 (groups 7 4 (headerWords state).mask))
    (groupBit 7 (groups 7 4 (headerWords state).msb)) state.sidRegister
    (List.finRange asidNumRegs) (by
      intro i _ taken
      rw [maskBit] at taken
      rw [msbBit, taken, Bool.true_and])
  simp only [maskBit] at unpacked
  rw [inv.update_message]
  simp only [asidPrefix, List.cons_append, List.nil_append, List.append_assoc, decodeMessage,
    and_self, if_true, header]
  rw [decodeStandard, List.take_left' (length_groups 7 4 _), List.drop_left' (length_groups 7 4 _),
    List.take_left' (length_groups 7 4 _), ← List.append_assoc,
    List.drop_left' (by simp), payload_eq]
  have order : (chipView state).frame packOrder =
      ((List.finRange asidNumRegs).filter (marked state)).map
        fun i => (regmap i, state.sidRegister (regmap i)) := by
    rw [chipView_frame, dirtyRegs_eq, List.map_map]
    rfl
  rw [order]
  exact unpacked

theorem clear (inv : ChipInv c state) : ChipInv c (clearModified state) where
  updateLength := by
    rw [clearModified_updateBuffer, buildUpdate_eq]
    simp only [Cursor.length_puts]
    exact inv.updateLength
  updateRegLength := by
    rw [clearModified_updateRegBuffer, buildUpdateReg_puts, Cursor.length_puts]
    exact inv.updateRegLength
  updateOpening := by
    rw [clearModified_updateBuffer]
    have opening : (asidPrefix ++ [asidUpdate c]).length = 3 := rfl
    have finished := congrArg (List.take 3) inv.update_message
    rw [List.take_take, buildUpdate_pos, Nat.min_eq_left (by omega), List.append_assoc,
      List.append_assoc, List.take_left' opening] at finished
    exact finished
  updateRegOpening := by
    rw [clearModified_updateRegBuffer]
    have opening : (asidPrefix ++ [asidUpdateReg c]).length = 3 := rfl
    have finished := congrArg (List.take 3) inv.updateReg_message
    rw [List.take_take, buildUpdateReg_pos, Nat.min_eq_left (by omega),
      List.take_left' opening] at finished
    exact finished
  flag := by simp [clearModified]

theorem mark (inv : ChipInv c state) (r : Reg) (byte : U8) :
    ChipInv c (markModified state r byte) where
  updateLength := inv.updateLength
  updateRegLength := inv.updateRegLength
  updateOpening := inv.updateOpening
  updateRegOpening := inv.updateRegOpening
  flag := by
    refine (List.any_eq_true.mpr ⟨r, packOrder_covers r, ?_⟩).symm
    simp [markModified]

end ChipInv

end Revice.Asid

/- Module: Revice/General/Crc
   digest: Reflected shift registers: linearity, injectivity, and the short bursts they detect. -/

import Mathlib.Logic.Function.Iterate
import Revice.General.Bytes

set_option autoImplicit false
set_option relaxedAutoImplicit false

namespace Revice.General

/-- One shift of a reflected register; the bit that falls out selects the polynomial. -/
def shiftBit {w : Nat} (poly s : BitVec w) : BitVec w :=
  (s >>> 1) ^^^ if s.getLsbD 0 then poly else 0

def feedByte {w : Nat} (poly s : BitVec w) (byte : U8) : BitVec w :=
  (shiftBit poly)^[8] (s ^^^ byte.setWidth w)

def feed {w : Nat} (poly s : BitVec w) (bytes : List U8) : BitVec w :=
  bytes.foldl (feedByte poly) s

variable {w : Nat} {poly : BitVec w}

private theorem shiftBit_xor (x y : BitVec w) :
    shiftBit poly (x ^^^ y) = shiftBit poly x ^^^ shiftBit poly y := by
  apply BitVec.eq_of_getLsbD_eq
  intro i _
  simp only [shiftBit, BitVec.getLsbD_xor, BitVec.getLsbD_ushiftRight]
  cases x.getLsbD 0 <;> cases y.getLsbD 0 <;> simp <;> grind

private theorem shiftBits_xor (n : Nat) (x y : BitVec w) :
    (shiftBit poly)^[n] (x ^^^ y) = (shiftBit poly)^[n] x ^^^ (shiftBit poly)^[n] y := by
  induction n generalizing x y with
  | zero => rfl
  | succ n ih => rw [Function.iterate_succ_apply, shiftBit_xor, ih]; rfl

private theorem shiftBit_low {x : BitVec w} (low : x.getLsbD 0 = false) :
    shiftBit poly x = x >>> 1 := by
  rw [shiftBit, low]
  exact BitVec.xor_zero

private theorem shiftBits_low {n : Nat} {x : BitVec w} (low : ∀ i < n, x.getLsbD i = false) :
    (shiftBit poly)^[n] x = x >>> n := by
  induction n with
  | zero => simp
  | succ n ih =>
    have lowest : (x >>> n).getLsbD 0 = false := by
      rw [BitVec.getLsbD_ushiftRight]
      exact low n (Nat.lt_succ_self n)
    rw [Function.iterate_succ_apply', ih fun i inside => low i (Nat.lt_succ_of_lt inside),
      shiftBit_low lowest, ← BitVec.shiftRight_add]

section Injective

variable (top : poly.getLsbD (w - 1) = true)

include top

private theorem eq_zero_of_shiftBit {x : BitVec w} (zero : shiftBit poly x = 0) : x = 0 := by
  have out : x.getLsbD 0 = false := by
    by_contra set
    have bit : (shiftBit poly x).getLsbD (w - 1) = true := by
      have past : x.getLsbD (1 + (w - 1)) = false := BitVec.getLsbD_of_ge x _ (by omega)
      rw [Bool.not_eq_false] at set
      simp only [shiftBit, set, if_true, BitVec.getLsbD_xor, BitVec.getLsbD_ushiftRight, past, top,
        Bool.false_bne]
    rw [zero] at bit
    simp at bit
  rw [shiftBit_low out] at zero
  apply BitVec.eq_of_getLsbD_eq
  intro i _
  cases i with
  | zero => simpa using out
  | succ i =>
    have bit : (x >>> 1).getLsbD i = false := by
      rw [zero]
      simp
    rw [BitVec.getLsbD_ushiftRight, Nat.add_comm] at bit
    simpa using bit

private theorem shiftBit_injective : Function.Injective (shiftBit poly) := by
  intro x y same
  have zero : shiftBit poly (x ^^^ y) = 0 := by
    rw [shiftBit_xor, same]
    exact BitVec.xor_self
  exact BitVec.xor_eq_zero_iff.mp (eq_zero_of_shiftBit top zero)

private theorem feed_injective (bytes : List U8) :
    Function.Injective fun s => feed poly s bytes := by
  induction bytes with
  | nil => exact Function.injective_id
  | cons byte bytes ih =>
    intro s t same
    have entered := (shiftBit_injective top).iterate 8 (ih same)
    exact (BitVec.xor_left_inj _).mp entered

end Injective

theorem feed_append (s : BitVec w) (first later : List U8) :
    feed poly s (first ++ later) = feed poly (feed poly s first) later := List.foldl_append

private theorem ofLeBytes_high {bytes : List U8} {i : Nat} (past : 8 * bytes.length ≤ i) :
    (ofLeBytes w bytes).getLsbD i = false := by
  have absent : bytes.length ≤ i / 8 := by omega
  rw [getLsbD_ofLeBytes, groupBit, List.getD_eq_default _ _ absent]
  simp

private theorem shiftBits_shiftLeft {x : BitVec w} (room : ∀ i, w ≤ i + 8 → x.getLsbD i = false) :
    (shiftBit poly)^[8] (x <<< 8) = x := by
  have low : ∀ i < 8, (x <<< 8).getLsbD i = false := by
    intro i inside
    simp [inside]
  rw [shiftBits_low low]
  apply BitVec.eq_of_getLsbD_eq
  intro i inside
  rw [BitVec.getLsbD_ushiftRight, BitVec.getLsbD_shiftLeft]
  by_cases high : w ≤ i + 8
  · rw [room i high]
    simp [show ¬8 + i < w by omega]
  · simp [show 8 + i < w by omega]

private theorem ofLeBytes_cons (byte : U8) (bytes : List U8) :
    ofLeBytes w (byte :: bytes) = byte.setWidth w ^^^ ofLeBytes w bytes <<< 8 := by
  have unfolded : ofLeBytes w (byte :: bytes) = byte.setWidth w ||| ofLeBytes w bytes <<< 8 := rfl
  rw [unfolded]
  apply BitVec.eq_of_getLsbD_eq
  intro i _
  rw [BitVec.getLsbD_or, BitVec.getLsbD_xor, BitVec.getLsbD_setWidth, BitVec.getLsbD_shiftLeft]
  by_cases low : i < 8
  · simp [low]
  · simp [BitVec.getLsbD_of_ge byte i (by omega)]

private theorem feed_word (s : BitVec w) {bytes : List U8} (fits : 8 * bytes.length ≤ w) :
    feed poly s bytes = (shiftBit poly)^[8 * bytes.length] (s ^^^ ofLeBytes w bytes) := by
  induction bytes generalizing s with
  | nil => exact (BitVec.xor_zero).symm
  | cons byte bytes ih =>
    rw [List.length_cons] at fits
    have room : ∀ i, w ≤ i + 8 → (ofLeBytes w bytes).getLsbD i = false := by
      intro i high
      exact ofLeBytes_high (by omega)
    have entered : (shiftBit poly)^[8] (s ^^^ ofLeBytes w (byte :: bytes)) =
        feedByte poly s byte ^^^ ofLeBytes w bytes := by
      rw [ofLeBytes_cons, ← BitVec.xor_assoc, shiftBits_xor, shiftBits_shiftLeft room]
      rfl
    have rest : feed poly s (byte :: bytes) = feed poly (feedByte poly s byte) bytes := rfl
    rw [rest, ih (feedByte poly s byte) (by omega), ← entered, List.length_cons, Nat.mul_succ,
      Function.iterate_add_apply]

private theorem ofLeBytes_injective {first second : List U8} (same : first.length = second.length)
    (fits : 8 * first.length ≤ w) (words : ofLeBytes w first = ofLeBytes w second) :
    first = second := by
  apply List.ext_getElem same
  intro j inside inside'
  apply BitVec.eq_of_getLsbD_eq
  intro i bit
  have divided : (8 * j + i) / 8 = j := by omega
  have left : (8 * j + i) % 8 = i := by omega
  have bits := congrArg (fun x : BitVec w => x.getLsbD (8 * j + i)) words
  simp only [getLsbD_ofLeBytes, groupBit, divided, left, List.getD_eq_getElem _ _ inside,
    List.getD_eq_getElem _ _ inside'] at bits
  simpa [show 8 * j + i < w by omega] using bits

variable (top : poly.getLsbD (w - 1) = true)

include top

private theorem feed_ne (s : BitVec w) {first second : List U8}
    (same : first.length = second.length) (fits : 8 * first.length ≤ w) (differ : first ≠ second) :
    feed poly s first ≠ feed poly s second := by
  intro equal
  rw [feed_word s fits, feed_word s (same ▸ fits), same] at equal
  have words := (shiftBit_injective top).iterate _ equal
  exact differ (ofLeBytes_injective same fits ((BitVec.xor_right_inj s).mp words))

/-- Two inputs of one length that differ in a window that fits the register only are
told apart, wherever the window lies. -/
theorem feed_burst (s : BitVec w) {first second : List U8} (same : first.length = second.length)
    {start k : Nat} (fits : 8 * k ≤ w)
    (agree : ∀ i, i < start ∨ start + k ≤ i → first[i]? = second[i]?) (differ : first ≠ second) :
    feed poly s first ≠ feed poly s second := by
  have before := take_eq_of_agree fun i inside => agree i (Or.inl inside)
  have after := drop_eq_of_agree fun i past => agree i (Or.inr past)
  have window : (first.drop start).take k ≠ (second.drop start).take k := by
    intro equal
    apply differ
    rw [window_split first start k, window_split second start k, before, after, equal]
  rw [window_split first start k, window_split second start k, before, after]
  simp only [feed_append]
  intro equal
  refine feed_ne top _ ?_ ?_ window (feed_injective top _ equal)
  · simp [same]
  · rw [List.length_take]
    omega

end Revice.General

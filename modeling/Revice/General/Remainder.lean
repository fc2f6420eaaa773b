/- Module: Revice/General/Remainder
   digest: Reflected shift registers divide polynomials over the field of two elements. -/

import Mathlib.Algebra.CharP.Two
import Mathlib.Algebra.Field.ZMod
import Mathlib.RingTheory.AdjoinRoot
import Revice.General.Crc

set_option autoImplicit false
set_option relaxedAutoImplicit false

namespace Revice.General

open Polynomial

def bitCoeff (b : Bool) : ZMod 2 := if b then 1 else 0

/-- The polynomial with the given coefficients, highest first. -/
noncomputable def bitsPoly (bits : List Bool) : (ZMod 2)[X] :=
  bits.foldl (fun p b => X * p + C (bitCoeff b)) 0

def lsbBits {w : Nat} (s : BitVec w) : List Bool := (List.range w).map s.getLsbD

/-- The bits of a message, each byte with its least significant bit first. -/
def messageBits (bytes : List U8) : List Bool := bytes.flatMap lsbBits

/-- A reflected register as a polynomial: its lowest bit is the highest coefficient. -/
noncomputable def registerPoly {w : Nat} (s : BitVec w) : (ZMod 2)[X] := bitsPoly (lsbBits s)

/-- The register whose lowest bit is the coefficient below `x^w`. -/
noncomputable def reflected (w : Nat) (p : (ZMod 2)[X]) : BitVec w :=
  (BitVec.ofBoolListLE ((List.range w).map fun i => decide (p.coeff (w - 1 - i) = 1))).setWidth w

/-- The polynomial that a register of this mask divides by. -/
noncomputable def generator {w : Nat} (poly : BitVec w) : (ZMod 2)[X] := X ^ w + registerPoly poly

private theorem bitCoeff_xor (a b : Bool) : bitCoeff (a ^^ b) = bitCoeff a + bitCoeff b := by
  cases a <;> cases b <;> decide

private theorem bitCoeff_eq_one (b : Bool) : bitCoeff b = 1 ↔ b = true := by
  cases b <;> decide

@[simp] theorem bitsPoly_nil : bitsPoly [] = 0 := rfl

private theorem bitsPoly_snoc (bits : List Bool) (b : Bool) :
    bitsPoly (bits ++ [b]) = X * bitsPoly bits + C (bitCoeff b) := by
  rw [bitsPoly, List.foldl_append]
  rfl

private theorem bitsPoly_append (first later : List Bool) :
    bitsPoly (first ++ later) = X ^ later.length * bitsPoly first + bitsPoly later := by
  induction later using List.reverseRecOn with
  | nil => simp
  | append_singleton later b ih =>
    rw [← List.append_assoc, bitsPoly_snoc, bitsPoly_snoc, ih, List.length_append,
      List.length_singleton, pow_succ]
    ring

private theorem coeff_bitsPoly (bits : List Bool) (k : Nat) :
    (bitsPoly bits).coeff k = bitCoeff (bits.reverse.getD k false) := by
  induction bits using List.reverseRecOn generalizing k with
  | nil => rfl
  | append_singleton bits b ih =>
    rw [bitsPoly_snoc, List.reverse_append]
    cases k with
    | zero => simp
    | succ k => simp [ih]

private theorem length_lsbBits {w : Nat} (s : BitVec w) : (lsbBits s).length = w := by
  rw [lsbBits, List.length_map, List.length_range]

private theorem coeff_registerPoly {w : Nat} (s : BitVec w) (k : Nat) :
    (registerPoly s).coeff k = bitCoeff (s.getMsbD k) := by
  rw [registerPoly, coeff_bitsPoly]
  congr 1
  by_cases inside : k < w
  · have within : k < (lsbBits s).reverse.length := by rwa [List.length_reverse, length_lsbBits]
    rw [List.getD_eq_getElem _ _ within, BitVec.getMsbD_eq_getLsbD]
    simp [lsbBits, inside]
  · have past : (lsbBits s).reverse.length ≤ k := by
      rw [List.length_reverse, length_lsbBits]
      exact Nat.le_of_not_lt inside
    rw [List.getD_eq_default _ _ past, BitVec.getMsbD_of_ge _ _ (Nat.le_of_not_lt inside)]

private theorem degree_registerPoly {w : Nat} (s : BitVec w) : (registerPoly s).degree < w := by
  rw [degree_lt_iff_coeff_zero]
  intro k high
  rw [coeff_registerPoly, BitVec.getMsbD_of_ge _ _ high]
  rfl

private theorem registerPoly_xor {w : Nat} (s t : BitVec w) :
    registerPoly (s ^^^ t) = registerPoly s + registerPoly t := by
  ext k
  rw [coeff_add, coeff_registerPoly, coeff_registerPoly, coeff_registerPoly, BitVec.getMsbD_xor,
    bitCoeff_xor]

private theorem registerPoly_zero (w : Nat) : registerPoly 0#w = 0 := by
  ext k
  rw [coeff_registerPoly]
  simp [bitCoeff]

theorem reflected_registerPoly {w : Nat} (s : BitVec w) : reflected w (registerPoly s) = s := by
  apply BitVec.eq_of_getLsbD_eq
  intro i inside
  have mirrored : w - 1 - (w - 1 - i) = i := by omega
  have below : w - 1 - i < w := by omega
  rw [reflected, BitVec.getLsbD_setWidth, BitVec.getLsbD_ofBoolListLE,
    List.getD_eq_getElem _ _ (by simpa using inside)]
  simp [inside, coeff_registerPoly, bitCoeff_eq_one, BitVec.getMsbD_eq_getLsbD, mirrored, below]

section Division

variable {w : Nat} (poly : BitVec w)

private theorem monic_generator :
    (generator poly).Monic := monic_X_pow_add (degree_registerPoly poly)

private theorem degree_generator : (generator poly).degree = w := by
  have lower : (registerPoly poly).degree < (X ^ w : (ZMod 2)[X]).degree := by
    rw [degree_X_pow]
    exact degree_registerPoly poly
  rw [generator, degree_add_eq_left_of_degree_lt lower, degree_X_pow]

private theorem registerPoly_eq_remainder {s : BitVec w} {p : (ZMod 2)[X]}
    (same : AdjoinRoot.mk (generator poly) (registerPoly s) = AdjoinRoot.mk (generator poly) p) :
    registerPoly s = p %ₘ generator poly := by
  have reduced : registerPoly s %ₘ generator poly = registerPoly s := by
    rw [modByMonic_eq_self_iff (monic_generator poly), degree_generator]
    exact degree_registerPoly s
  rw [← reduced]
  exact modByMonic_eq_of_dvd_sub (monic_generator poly) (AdjoinRoot.mk_eq_mk.mp same)

private theorem mk_X_pow : AdjoinRoot.mk (generator poly) (X ^ w) =
    AdjoinRoot.mk (generator poly) (registerPoly poly) := by
  rw [AdjoinRoot.mk_eq_mk, CharTwo.sub_eq_add]
  exact dvd_refl _

variable {poly}

private theorem X_mul_registerPoly (positive : 0 < w) (s : BitVec w) :
    X * registerPoly s = registerPoly (s >>> 1) + C (bitCoeff (s.getLsbD 0)) * X ^ w := by
  ext k
  rw [coeff_add, coeff_C_mul, coeff_X_pow, coeff_registerPoly, BitVec.getMsbD_ushiftRight]
  cases k with
  | zero => simp [positive.ne, bitCoeff]
  | succ k =>
    rw [coeff_X_mul, coeff_registerPoly]
    rcases Nat.lt_trichotomy (k + 1) w with below | top | above
    · simp [below, below.ne, bitCoeff]
    · have lowest : s.getMsbD k = s.getLsbD 0 := by
        rw [BitVec.getMsbD_eq_getLsbD, show w - 1 - k = 0 by omega]
        simp [show k < w by omega]
      simp [top, lowest, bitCoeff]
    · have past : s.getMsbD k = false := BitVec.getMsbD_of_ge _ _ (by omega)
      simp [past, above.ne', bitCoeff]

private theorem mk_shiftBit (positive : 0 < w) (s : BitVec w) :
    AdjoinRoot.mk (generator poly) (registerPoly (shiftBit poly s)) =
      AdjoinRoot.mk (generator poly) (X * registerPoly s) := by
  rw [X_mul_registerPoly positive, shiftBit, registerPoly_xor, map_add, map_add, map_mul, mk_X_pow,
    ← map_mul]
  cases s.getLsbD 0 with
  | false => simp [bitCoeff, registerPoly_zero]
  | true => simp [bitCoeff]

private theorem mk_shiftBits (positive : 0 < w) (n : Nat) (s : BitVec w) :
    AdjoinRoot.mk (generator poly) (registerPoly ((shiftBit poly)^[n] s)) =
      AdjoinRoot.mk (generator poly) (X ^ n * registerPoly s) := by
  induction n with
  | zero => simp
  | succ n ih =>
    rw [Function.iterate_succ_apply', mk_shiftBit positive, map_mul, ih, ← map_mul, ← mul_assoc,
      pow_succ']

private theorem X_pow_mul_byte (wide : 8 ≤ w) (byte : U8) :
    X ^ 8 * registerPoly (byte.setWidth w) = X ^ w * registerPoly byte := by
  ext k
  rw [coeff_X_pow_mul', coeff_X_pow_mul', coeff_registerPoly, coeff_registerPoly,
    BitVec.getMsbD_setWidth]
  by_cases high : w ≤ k
  · simp [high, show 8 ≤ k by omega, show w - 8 ≤ k - 8 by omega]
  · by_cases middle : 8 ≤ k
    · simp [high, middle, show ¬w - 8 ≤ k - 8 by omega, bitCoeff]
    · simp [high, middle]

private theorem mk_feedByte (wide : 8 ≤ w) (s : BitVec w) (byte : U8) :
    AdjoinRoot.mk (generator poly) (registerPoly (feedByte poly s byte)) =
      AdjoinRoot.mk (generator poly) (X ^ 8 * registerPoly s + X ^ w * registerPoly byte) := by
  rw [feedByte, mk_shiftBits (by omega), registerPoly_xor, mul_add, X_pow_mul_byte wide]

private theorem mk_feed (wide : 8 ≤ w) (s : BitVec w) (bytes : List U8) :
    AdjoinRoot.mk (generator poly) (registerPoly (feed poly s bytes)) =
      AdjoinRoot.mk (generator poly)
        (X ^ (messageBits bytes).length * registerPoly s +
          X ^ w * bitsPoly (messageBits bytes)) := by
  induction bytes using List.reverseRecOn with
  | nil => simp [feed, messageBits]
  | append_singleton bytes byte ih =>
    have fed : feed poly s (bytes ++ [byte]) = feedByte poly (feed poly s bytes) byte :=
      feed_append s bytes [byte]
    have bits : messageBits (bytes ++ [byte]) = messageBits bytes ++ lsbBits byte := by
      simp [messageBits]
    have last : bitsPoly (lsbBits byte) = registerPoly byte := rfl
    have dividend : ∀ n (p q r : (ZMod 2)[X]), X ^ 8 * (X ^ n * p + X ^ w * q) + X ^ w * r =
        X ^ (n + 8) * p + X ^ w * (X ^ 8 * q + r) := by
      intro n p q r
      rw [pow_add]
      ring
    rw [fed, mk_feedByte wide, map_add, map_mul, ih, ← map_mul, ← map_add, bits, bitsPoly_append,
      List.length_append, length_lsbBits, last, dividend]

private theorem registerPoly_feed (wide : 8 ≤ w) (s : BitVec w) (bytes : List U8) :
    registerPoly (feed poly s bytes) =
      (X ^ (messageBits bytes).length * registerPoly s + X ^ w * bitsPoly (messageBits bytes)) %ₘ
        generator poly :=
  registerPoly_eq_remainder poly (mk_feed wide s bytes)

end Division

def complementFirst (n : Nat) (bits : List Bool) : List Bool :=
  (bits.take n).map not ++ bits.drop n

private theorem bitsPoly_zeros (n : Nat) : bitsPoly (List.replicate n false) = 0 := by
  ext k
  rw [coeff_bitsPoly, List.reverse_replicate]
  by_cases inside : k < n <;> simp [inside, bitCoeff]

private theorem bitsPoly_not (bits : List Bool) :
    bitsPoly (bits.map not) = bitsPoly bits + bitsPoly (List.replicate bits.length true) := by
  induction bits using List.reverseRecOn with
  | nil => simp
  | append_singleton bits b ih =>
    have flipped : bitCoeff (!b) = bitCoeff b + bitCoeff true := by
      cases b <;> decide
    rw [List.map_append, List.map_singleton, bitsPoly_snoc, ih, List.length_append,
      List.length_singleton, List.replicate_succ', bitsPoly_snoc, bitsPoly_snoc, flipped, C_add]
    ring

private theorem bitsPoly_complementFirst {n : Nat} {bits : List Bool} (long : n ≤ bits.length) :
    bitsPoly (complementFirst n bits) =
      bitsPoly bits + X ^ (bits.length - n) * bitsPoly (List.replicate n true) := by
  have taken : (bits.take n).length = n := by
    rw [List.length_take]
    omega
  have whole : bitsPoly bits = X ^ (bits.drop n).length * bitsPoly (bits.take n) +
      bitsPoly (bits.drop n) := by
    rw [← bitsPoly_append, List.take_append_drop]
  rw [complementFirst, bitsPoly_append, bitsPoly_not, taken, whole, List.length_drop]
  ring

private theorem registerPoly_allOnes (w : Nat) :
    registerPoly (BitVec.allOnes w) = bitsPoly (List.replicate w true) := by
  ext k
  rw [coeff_registerPoly, coeff_bitsPoly, List.reverse_replicate]
  by_cases inside : k < w <;> simp [inside]

/-- A register that starts with ones divides the message, followed by zeros for the register,
with its first bits complemented. -/
theorem registerPoly_feed_ones {w : Nat} {poly : BitVec w} (wide : 8 ≤ w) (bytes : List U8) :
    registerPoly (feed poly (BitVec.allOnes w) bytes) =
      bitsPoly (complementFirst w (messageBits bytes ++ List.replicate w false)) %ₘ
        generator poly := by
  have long : w ≤ (messageBits bytes ++ List.replicate w false).length := by
    rw [List.length_append, List.length_replicate]
    exact Nat.le_add_left w _
  rw [registerPoly_feed wide, bitsPoly_complementFirst long, bitsPoly_append, bitsPoly_zeros,
    List.length_append, List.length_replicate, Nat.add_sub_cancel, registerPoly_allOnes, add_zero,
    add_comm]

end Revice.General

/- Module: Revice/General/Decimal
   digest: Decimal rendering and strtol undo each other. -/

import Mathlib.Data.Nat.Digits.Lemmas
import Revice.General.Text

set_option autoImplicit false
set_option relaxedAutoImplicit false

namespace Revice.General

def IsDigit (b : U8) : Prop := chr '0' ≤ b ∧ b ≤ chr '9'

instance (b : U8) : Decidable (IsDigit b) := by
  unfold IsDigit
  infer_instance

private def digitChar (d : Nat) : U8 := BitVec.ofNat 8 (48 + d)

private theorem isDigit_digitChar {d : Nat} (small : d < 10) : IsDigit (digitChar d) := by
  have all : ∀ d < 10, chr '0' ≤ digitChar d ∧ digitChar d ≤ chr '9' := by decide
  exact all d small

private theorem digitValue_digitChar {d : Nat} (small : d < 10) : digitValue (digitChar d) = d := by
  have all : ∀ d < 10, digitValue (digitChar d) = d := by decide
  exact all d small

private theorem digitChar_ne_zero {d : Nat} (small : d < 10) (positive : d ≠ 0) :
    digitChar d ≠ chr '0' := by
  have all : ∀ d < 10, d ≠ 0 → digitChar d ≠ chr '0' := by decide
  exact all d small positive

theorem IsDigit.plain {b : U8} (digit : IsDigit b) :
    digitValue b < 10 ∧ isSpace b = false ∧ b ≠ chr '-' ∧ b ≠ chr '+' ∧ b ≠ 0 := by
  have all : ∀ b : U8, chr '0' ≤ b ∧ b ≤ chr '9' →
      digitValue b < 10 ∧ isSpace b = false ∧ b ≠ chr '-' ∧ b ≠ chr '+' ∧ b ≠ 0 := by decide
  exact all b digit

private theorem decimalNat_zero : decimalNat 0 = [chr '0'] := by
  rw [decimalNat, Nat.digits_zero]

private theorem decimalNat_pos {n : Nat} (positive : n ≠ 0) :
    decimalNat n = (Nat.digits 10 n).reverse.map digitChar := by
  rw [decimalNat]
  split
  · rename_i none
    exact absurd (Nat.digits_eq_nil_iff_eq_zero.mp none) positive
  · rfl

theorem decimalNat_ne_nil (n : Nat) : decimalNat n ≠ [] := by
  by_cases zero : n = 0
  · rw [zero, decimalNat_zero]
    simp
  · rw [decimalNat_pos zero]
    simpa [Nat.digits_eq_nil_iff_eq_zero] using zero

theorem isDigit_of_mem {n : Nat} {b : U8} (member : b ∈ decimalNat n) : IsDigit b := by
  by_cases zero : n = 0
  · rw [zero, decimalNat_zero, List.mem_singleton] at member
    rw [member]
    exact isDigit_digitChar (by decide : 0 < 10)
  · rw [decimalNat_pos zero, List.mem_map] at member
    obtain ⟨d, digit, rfl⟩ := member
    exact isDigit_digitChar (Nat.digits_lt_base (by decide) (List.mem_reverse.mp digit))

private theorem digitsValue_append (base : Nat) (digits : Text) (b : U8) :
    digitsValue base (digits ++ [b]) = digitsValue base digits * base + digitValue b := by
  rw [digitsValue, List.foldl_append]
  rfl

theorem digitsValue_ofDigits {base : Nat} {char : Nat → U8}
    (value : ∀ d < base, digitValue (char d) = d) {digits : List Nat}
    (small : ∀ d ∈ digits, d < base) :
    digitsValue base (digits.reverse.map char) = Nat.ofDigits base digits := by
  induction digits with
  | nil => rfl
  | cons d digits ih =>
    have tail := ih fun e member => small e (List.mem_cons_of_mem d member)
    rw [List.reverse_cons, List.map_append, List.map_singleton, digitsValue_append, tail,
      value d (small d List.mem_cons_self), Nat.ofDigits_cons, Nat.add_comm, Nat.mul_comm]

private theorem digitsValue_decimalNat (n : Nat) : digitsValue 10 (decimalNat n) = n := by
  by_cases zero : n = 0
  · rw [zero, decimalNat_zero]
    rfl
  · rw [decimalNat_pos zero, digitsValue_ofDigits fun d => digitValue_digitChar]
    · exact Nat.ofDigits_digits 10 n
    · intro d digit
      exact Nat.digits_lt_base (by decide) digit

private theorem decimalNat_cons {n : Nat} (positive : n ≠ 0) :
    ∃ b digits, decimalNat n = b :: digits ∧ b ≠ chr '0' := by
  obtain ⟨b, digits, split⟩ := List.exists_cons_of_ne_nil (decimalNat_ne_nil n)
  refine ⟨b, digits, split, ?_⟩
  have some_digit : Nat.digits 10 n ≠ [] := by
    simpa [Nat.digits_eq_nil_iff_eq_zero] using positive
  have last := Nat.getLast_digit_ne_zero 10 positive
  have small : (Nat.digits 10 n).getLast some_digit < 10 :=
    Nat.digits_lt_base (by decide) (List.getLast_mem some_digit)
  have head : (decimalNat n).head? = some (digitChar ((Nat.digits 10 n).getLast some_digit)) := by
    rw [decimalNat_pos positive, List.head?_map, List.head?_reverse,
      List.getLast?_eq_some_getLast some_digit]
    rfl
  rw [split, List.head?_cons, Option.some.injEq] at head
  rw [head]
  exact digitChar_ne_zero small last

theorem length_decimalNat_le {n k : Nat} (positive : 0 < k) (small : n < 10 ^ k) :
    (decimalNat n).length ≤ k := by
  by_cases zero : n = 0
  · rw [zero, decimalNat_zero]
    exact positive
  · rw [decimalNat_pos zero, List.length_map, List.length_reverse]
    exact (Nat.digits_length_le_iff (by decide) n).mpr small

theorem strtol_eq {s body digits rest : Text} {base b : Nat} {negative : Bool}
    (sign : signPrefix (s.dropWhile isSpace) = (negative, body))
    (based : (if base = 0 then basePrefix body else (base, body)) = (b, digits ++ rest))
    (some_digit : digits ≠ []) (inside : ∀ d ∈ digits, digitValue d < b)
    (stops : ∀ d ∈ rest.head?, ¬digitValue d < b) :
    strtol s base =
      (max longMin (min longMax
        (if negative then -(digitsValue b digits : Int) else digitsValue b digits)), rest) := by
  have run : (digits ++ rest).takeWhile (fun d => decide (digitValue d < b)) = digits := by
    rw [List.takeWhile_append_of_pos (by simpa using inside)]
    cases rest with
    | nil => simp
    | cons d rest =>
      have stopped := stops d rfl
      simp [stopped]
  simp only [strtol, sign, based, run, some_digit, if_false, List.drop_left]

private theorem signPrefix_decimal (n : Int) (rest : Text) :
    signPrefix ((decimal n ++ rest).dropWhile isSpace) =
      (decide (n < 0), decimalNat n.natAbs ++ rest) := by
  obtain ⟨b, digits, split⟩ := List.exists_cons_of_ne_nil (decimalNat_ne_nil n.natAbs)
  obtain ⟨_, unspaced, unsigned, unplussed, _⟩ :=
    (isDigit_of_mem (n := n.natAbs) (b := b) (by rw [split]; exact List.mem_cons_self)).plain
  rw [decimal]
  by_cases negative : n < 0
  · have dash : isSpace (chr '-') = false := by decide
    rw [if_pos negative, List.cons_append, List.dropWhile_cons_of_neg (by simp [dash])]
    simp [signPrefix, negative]
  · rw [if_neg negative, split, List.cons_append, List.dropWhile_cons_of_neg (by simp [unspaced])]
    simp [signPrefix, negative, unsigned, unplussed]

private theorem strtol_value {n : Int} (fits : longMin ≤ n ∧ n ≤ longMax) :
    max longMin (min longMax
      (if decide (n < 0) then -((n.natAbs : Nat) : Int) else (n.natAbs : Nat))) = n := by
  have value : (if decide (n < 0) then -((n.natAbs : Nat) : Int) else (n.natAbs : Nat)) = n := by
    by_cases negative : n < 0
    · simp only [negative, decide_true, if_true]
      omega
    · simp only [negative, decide_false, Bool.false_eq_true, if_false]
      omega
  rw [value, min_eq_right fits.2, max_eq_right fits.1]

theorem strtol_decimal_ten {n : Int} (fits : longMin ≤ n ∧ n ≤ longMax) {rest : Text}
    (stops : ∀ d ∈ rest.head?, ¬digitValue d < 10) :
    strtol (decimal n ++ rest) 10 = (n, rest) := by
  rw [strtol_eq (signPrefix_decimal n rest) (if_neg (by decide)) (decimalNat_ne_nil _)
    (fun d member => (isDigit_of_mem member).plain.1) stops, digitsValue_decimalNat,
    strtol_value fits]

private theorem basePrefix_cons {b : U8} (nonzero : b ≠ chr '0') (s : Text) :
    basePrefix (b :: s) = (10, b :: s) := by
  cases s with
  | nil => simp [basePrefix, nonzero]
  | cons x s =>
    cases s with
    | nil => simp [basePrefix, nonzero]
    | cons d s => simp [basePrefix, nonzero]

theorem strtol_decimal_auto {n : Int} (fits : longMin ≤ n ∧ n ≤ longMax) :
    strtol (decimal n) 0 = (n, []) := by
  by_cases zero : n = 0
  · rw [zero, decimal, if_neg (by decide), Int.natAbs_zero, decimalNat_zero]
    decide
  · have sign := signPrefix_decimal n []
    rw [List.append_nil] at sign
    obtain ⟨b, digits, split, nonzero⟩ :=
      decimalNat_cons (n := n.natAbs) (by omega)
    have based : (if 0 = 0 then basePrefix (decimalNat n.natAbs ++ [])
        else (0, decimalNat n.natAbs ++ [])) = (10, decimalNat n.natAbs ++ []) := by
      rw [if_pos rfl, List.append_nil, split]
      exact basePrefix_cons nonzero digits
    rw [strtol_eq sign based (decimalNat_ne_nil _)
      (fun d member => (isDigit_of_mem member).plain.1) (by simp), digitsValue_decimalNat,
      strtol_value fits]

end Revice.General

/- Module: Revice/General/Print
   digest: Formatted lines: hexadecimal and padded numbers, C string buffers, line splitting. -/

import Mathlib.Data.List.TakeWhile
import Revice.General.Decimal

set_option autoImplicit false
set_option relaxedAutoImplicit false

namespace Revice.General

def hexDigit (d : Nat) : U8 := if d < 10 then BitVec.ofNat 8 (48 + d) else BitVec.ofNat 8 (87 + d)

def hexNat (n : Nat) : Text :=
  match Nat.digits 16 n with
  | [] => [chr '0']
  | digits => digits.reverse.map hexDigit

/-- The field width of `%02d` and its like. -/
def zeroPad (width : Nat) (text : Text) : Text :=
  List.replicate (width - text.length) (chr '0') ++ text

/-- The string that formatting leaves in a buffer of `size` bytes. -/
def cBuffer (size : Nat) (text : Text) : Text := (text.take (size - 1)).takeWhile (· ≠ 0)

def lines (text : Text) : List Text := text.splitOn (chr '\n')

def Printable (b : U8) : Prop := 0x20#8 ≤ b ∧ b < 0x7f#8

instance (b : U8) : Decidable (Printable b) := inferInstanceAs (Decidable (_ ∧ _))

/-- Printable text of at most `k` characters. -/
structure Shown (k : Nat) (text : Text) : Prop where
  short : text.length ≤ k
  printable : ∀ b ∈ text, Printable b

theorem cBuffer_eq {size : Nat} {text : Text} (fits : text.length < size)
    (nulFree : (0 : U8) ∉ text) : cBuffer size text = text := by
  rw [cBuffer, List.take_of_length_le (Nat.le_sub_one_of_lt fits), List.takeWhile_eq_self_iff]
  intro b member
  rw [decide_eq_true_iff]
  rintro rfl
  exact nulFree member

theorem lines_flatMap {ls : List Text} (clean : ∀ l ∈ ls, chr '\n' ∉ l) (rest : Text) :
    lines (ls.flatMap (· ++ [chr '\n']) ++ rest) = ls ++ lines rest := by
  induction ls with
  | nil => rfl
  | cons l ls ih =>
    have tail := ih fun l' member => clean l' (List.mem_cons_of_mem l member)
    have first : chr '\n' ∉ l := clean l List.mem_cons_self
    rw [lines] at tail ⊢
    rw [List.flatMap_cons, List.append_assoc, List.append_assoc, List.singleton_append,
      List.splitOn_append_cons_self_of_not_mem first, tail, List.cons_append]

theorem hexDigit_spec {d : Nat} (small : d < 16) :
    digitValue (hexDigit d) = d ∧ Printable (hexDigit d) := by
  have all : ∀ d < 16, digitValue (hexDigit d) = d ∧ Printable (hexDigit d) := by decide
  exact all d small

private theorem hexNat_zero : hexNat 0 = [chr '0'] := by
  rw [hexNat, Nat.digits_zero]

private theorem hexNat_pos {n : Nat} (positive : n ≠ 0) :
    hexNat n = (Nat.digits 16 n).reverse.map hexDigit := by
  rw [hexNat]
  split
  · rename_i none
    exact absurd (Nat.digits_eq_nil_iff_eq_zero.mp none) positive
  · rfl

theorem digitsValue_hexNat (n : Nat) : digitsValue 16 (hexNat n) = n := by
  by_cases zero : n = 0
  · rw [zero, hexNat_zero]
    rfl
  · rw [hexNat_pos zero, digitsValue_ofDigits fun d small => (hexDigit_spec small).1]
    · exact Nat.ofDigits_digits 16 n
    · intro d digit
      exact Nat.digits_lt_base (by decide) digit

theorem mem_hexNat {n : Nat} {b : U8} (member : b ∈ hexNat n) : ∃ d < 16, b = hexDigit d := by
  by_cases zero : n = 0
  · rw [zero, hexNat_zero, List.mem_singleton] at member
    exact ⟨0, by decide, member⟩
  · rw [hexNat_pos zero, List.mem_map] at member
    obtain ⟨d, digit, rfl⟩ := member
    exact ⟨d, Nat.digits_lt_base (by decide) (List.mem_reverse.mp digit), rfl⟩

theorem mem_zeroPad {width : Nat} {text : Text} {b : U8} (member : b ∈ zeroPad width text) :
    b = chr '0' ∨ b ∈ text := by
  rcases List.mem_append.mp member with member | member
  · exact Or.inl (List.eq_of_mem_replicate member)
  · exact Or.inr member

theorem zeroPad_ne_nil {width : Nat} (positive : 0 < width) (text : Text) :
    zeroPad width text ≠ [] := by
  intro empty
  have sizes := congrArg List.length empty
  rw [zeroPad, List.length_append, List.length_replicate, List.length_nil] at sizes
  omega

theorem digitsValue_zeroPad (base width : Nat) (text : Text) :
    digitsValue base (zeroPad width text) = digitsValue base text := by
  have zeros : ∀ k, (List.replicate k (chr '0')).foldl
      (fun value d => value * base + digitValue d) 0 = 0 := by
    intro k
    induction k with
    | zero => rfl
    | succ k ih =>
      rw [List.replicate_succ, List.foldl_cons]
      have first : 0 * base + digitValue (chr '0') = 0 := by
        rw [Nat.zero_mul]
        decide
      rw [first, ih]
  rw [zeroPad, digitsValue, List.foldl_append, zeros]
  rfl

namespace Shown

variable {j k : Nat} {s t : Text}

theorem mono (shown : Shown j t) (more : j ≤ k) : Shown k t :=
  ⟨shown.short.trans more, shown.printable⟩

theorem append (first : Shown j s) (second : Shown k t) : Shown (j + k) (s ++ t) := by
  constructor
  · have one := first.short
    have two := second.short
    rw [List.length_append]
    omega
  · intro b member
    rcases List.mem_append.mp member with member | member
    · exact first.printable b member
    · exact second.printable b member

theorem literal {s : String} (k : Nat) (plain :
    (decide ((str s).length ≤ k) && (str s).all fun b => decide (Printable b)) = true) :
    Shown k (str s) := by
  rw [Bool.and_eq_true, decide_eq_true_iff, List.all_eq_true] at plain
  exact ⟨plain.1, fun b member => of_decide_eq_true (plain.2 b member)⟩

theorem field (first : Shown j s) {label : String} (width : Nat) (plain :
    (decide ((str label).length ≤ width) && (str label).all fun b => decide (Printable b)) = true)
    (value : Shown k t) : Shown (j + width + k) (s ++ str label ++ t) :=
  (first.append (literal width plain)).append value

theorem decimalNat {n : Nat} (positive : 0 < k) (small : n < 10 ^ k) :
    Shown k (decimalNat n) := by
  refine ⟨length_decimalNat_le positive small, ?_⟩
  intro b member
  have digits : ∀ b : U8, chr '0' ≤ b ∧ b ≤ chr '9' → Printable b := by decide
  exact digits b (isDigit_of_mem member)

theorem decimal {n : Int} (positive : 0 < k) (small : n.natAbs < 10 ^ k) :
    Shown (k + 1) (decimal n) := by
  have digits : Shown k (General.decimalNat n.natAbs) := Shown.decimalNat positive small
  rw [General.decimal]
  split
  · rw [Nat.add_comm]
    exact (literal 1 (by rfl) : Shown 1 (str "-")).append digits
  · exact digits.mono (Nat.le_succ k)

theorem hexNat {n : Nat} (positive : 0 < k) (small : n < 16 ^ k) : Shown k (hexNat n) := by
  constructor
  · by_cases zero : n = 0
    · rw [zero, hexNat_zero]
      exact positive
    · rw [hexNat_pos zero, List.length_map, List.length_reverse]
      exact (Nat.digits_length_le_iff (by decide) n).mpr small
  · intro b member
    obtain ⟨d, digit, rfl⟩ := mem_hexNat member
    exact (hexDigit_spec digit).2

theorem zeroPad (shown : Shown k t) (width : Nat) : Shown (max width k) (zeroPad width t) := by
  have short := shown.short
  constructor
  · rw [General.zeroPad, List.length_append, List.length_replicate]
    omega
  · intro b member
    rcases mem_zeroPad member with rfl | member
    · decide
    · exact shown.printable b member

theorem flatMap {α : Type*} {as : List α} {text : α → Text}
    (each : ∀ a ∈ as, Shown k (text a)) : Shown (as.length * k) (as.flatMap text) := by
  induction as with
  | nil => exact ⟨Nat.zero_le _, fun b member => absurd member List.not_mem_nil⟩
  | cons a as ih =>
    have first := each a List.mem_cons_self
    have rest := ih fun other member => each other (List.mem_cons_of_mem a member)
    rw [List.flatMap_cons, List.length_cons, Nat.succ_mul, Nat.add_comm]
    exact first.append rest

theorem not_mem {b : U8} (shown : Shown k t) (hidden : ¬Printable b) : b ∉ t :=
  fun member => hidden (shown.printable b member)

end Shown

end Revice.General

/- Module: Revice/General/Numeral
   digest: The signed numerals that strtol reads in base ten, and what it makes of the rest. -/

import Mathlib.Data.List.TakeWhile
import Revice.General.Decimal

set_option autoImplicit false
set_option relaxedAutoImplicit false

namespace Revice.General

structure Digits (digits : Text) : Prop where
  some_digit : digits ≠ []
  inside : ∀ d ∈ digits, IsDigit d

/-- A decimal integer with an optional sign, and its value. -/
inductive SignedDecimal : Text → Int → Prop
  | unsigned {digits : Text} (run : Digits digits) : SignedDecimal digits (digitsValue 10 digits)
  | plus {digits : Text} (run : Digits digits) :
      SignedDecimal (chr '+' :: digits) (digitsValue 10 digits)
  | minus {digits : Text} (run : Digits digits) :
      SignedDecimal (chr '-' :: digits) (-digitsValue 10 digits)

def Spaces (s : Text) : Prop := ∀ b ∈ s, isSpace b = true

def clampLong (n : Int) : Int := max longMin (min longMax n)

private theorem digitValue_lt_ten (b : U8) : digitValue b < 10 ↔ IsDigit b := by
  have all : ∀ b : U8, digitValue b < 10 ↔ chr '0' ≤ b ∧ b ≤ chr '9' := by decide
  exact all b

theorem clampLong_small {n v : Int} (clamped : clampLong n = v) (small : -65535 ≤ v ∧ v ≤ 65535) :
    n = v := by
  simp only [clampLong, longMin, longMax] at clamped
  omega

theorem clampLong_fits {n : Int} (small : -65535 ≤ n ∧ n ≤ 65535) : clampLong n = n := by
  simp only [clampLong, longMin, longMax]
  omega

theorem SignedDecimal.head {number : Text} {n : Int} (numeral : SignedDecimal number n) :
    ∃ b digits, number = b :: digits ∧ (b = chr '+' ∨ b = chr '-' ∨ IsDigit b) ∧
      ∀ d ∈ digits, IsDigit d := by
  cases numeral with
  | unsigned run =>
    obtain ⟨b, digits, rfl⟩ := List.exists_cons_of_ne_nil run.some_digit
    exact ⟨b, digits, rfl, Or.inr (Or.inr (run.inside b List.mem_cons_self)),
      fun d member => run.inside d (List.mem_cons_of_mem b member)⟩
  | plus run => exact ⟨_, _, rfl, Or.inl rfl, run.inside⟩
  | minus run => exact ⟨_, _, rfl, Or.inr (Or.inl rfl), run.inside⟩

theorem SignedDecimal.ne_nil {number : Text} {n : Int} (numeral : SignedDecimal number n) :
    number ≠ [] := by
  obtain ⟨b, digits, rfl, _⟩ := numeral.head
  exact List.cons_ne_nil b digits

theorem SignedDecimal.chars {number : Text} {n : Int} (numeral : SignedDecimal number n) :
    ∀ b ∈ number, isSpace b = false ∧ b ≠ 0 ∧ b ≠ chr ',' := by
  have all : ∀ b : U8, b = chr '+' ∨ b = chr '-' ∨ (chr '0' ≤ b ∧ b ≤ chr '9') →
      isSpace b = false ∧ b ≠ 0 ∧ b ≠ chr ',' := by decide
  obtain ⟨b, digits, rfl, first, rest⟩ := numeral.head
  intro d member
  rcases List.mem_cons.mp member with rfl | later
  · exact all d first
  · exact all d (Or.inr (Or.inr (rest d later)))

private theorem dropWhile_spaces {spaces body : Text} (space : Spaces spaces)
    (starts : ∀ b ∈ body.head?, isSpace b = false) :
    (spaces ++ body).dropWhile isSpace = body := by
  rw [List.dropWhile_append_of_pos space]
  cases body with
  | nil => rfl
  | cons b body =>
    have unspaced := starts b rfl
    rw [List.dropWhile_cons_of_neg (by simp [unspaced])]

private theorem signPrefix_digits {digits : Text} (run : Digits digits) (rest : Text) :
    signPrefix (digits ++ rest) = (false, digits ++ rest) := by
  obtain ⟨b, tail, rfl⟩ := List.exists_cons_of_ne_nil run.some_digit
  obtain ⟨_, _, undashed, unplussed, _⟩ := (run.inside b List.mem_cons_self).plain
  simp [signPrefix, undashed, unplussed]

theorem SignedDecimal.split {number : Text} {n : Int} (numeral : SignedDecimal number n)
    (rest : Text) :
    ∃ negative digits, Digits digits ∧ signPrefix (number ++ rest) = (negative, digits ++ rest) ∧
      n = if negative then -(digitsValue 10 digits : Int) else digitsValue 10 digits := by
  cases numeral with
  | unsigned run => exact ⟨false, number, run, signPrefix_digits run rest, rfl⟩
  | plus run => exact ⟨false, _, run, rfl, rfl⟩
  | minus run => exact ⟨true, _, run, rfl, rfl⟩

theorem strtol_numeral {spaces number rest : Text} {n : Int} (space : Spaces spaces)
    (numeral : SignedDecimal number n) (stops : ∀ d ∈ rest.head?, ¬IsDigit d) :
    strtol (spaces ++ (number ++ rest)) 10 = (clampLong n, rest) := by
  have stopped : ∀ d ∈ rest.head?, ¬(digitValue d < 10) := by
    intro d next small
    exact stops d next ((digitValue_lt_ten d).mp small)
  have starts : ∀ b ∈ (number ++ rest).head?, isSpace b = false := by
    obtain ⟨b, digits, split, _⟩ := numeral.head
    intro c first
    rw [split, List.cons_append, List.head?_cons, Option.mem_def, Option.some.injEq] at first
    rw [← first]
    exact (numeral.chars b (by rw [split]; exact List.mem_cons_self)).1
  obtain ⟨negative, digits, run, sign, rfl⟩ := numeral.split rest
  rw [← dropWhile_spaces space starts] at sign
  rw [strtol_eq sign (if_neg (show ¬10 = 0 by decide)) run.some_digit
    (fun d member => (run.inside d member).plain.1) stopped]
  rfl

private theorem exists_numeral {s digits rest : Text} {negative : Bool} (run : Digits digits)
    (sign : signPrefix s = (negative, digits ++ rest)) :
    ∃ number n, SignedDecimal number n ∧ s = number ++ rest := by
  cases s with
  | nil => exact ⟨digits, _, .unsigned run, congrArg Prod.snd sign⟩
  | cons b s =>
    rw [signPrefix] at sign
    split at sign
    · rename_i dash
      have rest_eq : s = digits ++ rest := congrArg Prod.snd sign
      exact ⟨_, _, .minus run, by rw [dash, rest_eq, List.cons_append]⟩
    · split at sign
      · rename_i plus
        have rest_eq : s = digits ++ rest := congrArg Prod.snd sign
        exact ⟨_, _, .plus run, by rw [plus, rest_eq, List.cons_append]⟩
      · exact ⟨_, _, .unsigned run, congrArg Prod.snd sign⟩

theorem strtol_ten_cases (s : Text) : strtol s 10 = (0, s) ∨
    ∃ spaces number rest n, s = spaces ++ (number ++ rest) ∧ Spaces spaces ∧
      SignedDecimal number n ∧ strtol s 10 = (clampLong n, rest) := by
  obtain ⟨unsigned, taken⟩ : ∃ unsigned, (signPrefix (s.dropWhile isSpace)).2 = unsigned :=
    ⟨_, rfl⟩
  by_cases empty : unsigned.takeWhile (fun d => digitValue d < 10) = []
  · left
    simp only [strtol, OfNat.ofNat_ne_zero, if_false, taken, empty, if_true]
  · right
    have space : Spaces (s.takeWhile isSpace) := by
      intro b member
      exact List.mem_takeWhile_imp member
    have run : Digits (unsigned.takeWhile fun d => digitValue d < 10) := by
      refine ⟨empty, fun d member => ?_⟩
      have small := List.mem_takeWhile_imp member
      rwa [decide_eq_true_eq, digitValue_lt_ten] at small
    have stops : ∀ d ∈ (unsigned.dropWhile fun d => digitValue d < 10).head?, ¬IsDigit d := by
      intro d next
      have stopped := List.head?_dropWhile_not (fun d => digitValue d < 10) unsigned
      rw [Option.mem_def.mp next] at stopped
      rw [← digitValue_lt_ten]
      simpa using stopped
    have whole := List.takeWhile_append_dropWhile (p := fun d => digitValue d < 10) (l := unsigned)
    obtain ⟨number, n, numeral, split⟩ := exists_numeral (s := s.dropWhile isSpace) run
      (Prod.ext rfl (taken.trans whole.symm))
    have read := strtol_numeral space numeral stops
    rw [← split, List.takeWhile_append_dropWhile] at read
    refine ⟨_, number, _, n, ?_, space, numeral, read⟩
    rw [← split, List.takeWhile_append_dropWhile]

end Revice.General

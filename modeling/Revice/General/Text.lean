/- Module: Revice/General/Text
   digest: Byte strings of C: character classes, decimal rendering and strtol. -/

import Mathlib.Data.List.TakeWhile
import Mathlib.Data.Nat.Digits.Defs
import Revice.General.Bytes

set_option autoImplicit false
set_option relaxedAutoImplicit false

namespace Revice.General

abbrev Text := List U8

structure CString where
  bytes : Text
  nulFree : (0 : U8) ∉ bytes

def cText (buf : List U8) : Text := buf.takeWhile fun b => b ≠ 0#8

theorem cText_terminated (bytes rest : List U8) : cText (bytes ++ 0#8 :: rest) = cText bytes := by
  induction bytes with
  | nil => rfl
  | cons b bytes ih =>
    rw [cText, cText, List.cons_append, List.takeWhile_cons, List.takeWhile_cons]
    split
    · exact congrArg (b :: ·) ih
    · rfl

theorem cText_bytes (s : CString) : cText s.bytes = s.bytes := by
  rw [cText, List.takeWhile_eq_self_iff]
  intro b member
  have plain : b ≠ 0#8 := by
    rintro rfl
    exact s.nulFree member
  exact decide_eq_true plain

theorem cText_padded (s : CString) {n : Nat} (room : 0 < n) :
    cText (s.bytes ++ List.replicate n 0#8) = s.bytes := by
  obtain ⟨n, rfl⟩ := Nat.exists_eq_succ_of_ne_zero room.ne'
  rw [List.replicate_succ, cText_terminated, cText_bytes]

def chr (c : Char) : U8 := BitVec.ofNat 8 c.toNat

def str (s : String) : Text := s.toList.map chr

def isSpace (b : U8) : Bool := b = chr ' ' || (9#8 ≤ b && b ≤ 13#8)

def toLower (b : U8) : U8 := if chr 'A' ≤ b && b ≤ chr 'Z' then b + 32#8 else b

/-- The value of a digit or letter; everything else exceeds every base. -/
def digitValue (b : U8) : Nat :=
  if chr '0' ≤ b && b ≤ chr '9' then b.toNat - 48
  else if chr 'a' ≤ toLower b && toLower b ≤ chr 'z' then (toLower b).toNat - 87
  else 255

def decimalNat (n : Nat) : Text :=
  match Nat.digits 10 n with
  | [] => [chr '0']
  | digits => digits.reverse.map fun d => BitVec.ofNat 8 (48 + d)

def decimal (n : Int) : Text :=
  if n < 0 then chr '-' :: decimalNat n.natAbs else decimalNat n.natAbs

def longMax : Int := 2 ^ 63 - 1
def longMin : Int := -2 ^ 63

def signPrefix : Text → Bool × Text
  | b :: s => if b = chr '-' then (true, s) else if b = chr '+' then (false, s) else (false, b :: s)
  | [] => (false, [])

/-- The base that base 0 stands for, and the digits after its prefix. -/
def basePrefix : Text → Nat × Text
  | zero :: x :: d :: s =>
    if zero = chr '0' then
      if toLower x = chr 'x' && decide (digitValue d < 16) then (16, d :: s)
      else (8, zero :: x :: d :: s)
    else (10, zero :: x :: d :: s)
  | zero :: s => if zero = chr '0' then (8, zero :: s) else (10, zero :: s)
  | [] => (10, [])

def digitsValue (base : Nat) (digits : Text) : Nat :=
  digits.foldl (fun value d => value * base + digitValue d) 0

/-- `strtol` for base 0 and for an explicit base without prefix: the saturated
value and the rest of the string, which is the whole string if nothing converts. -/
def strtol (s : Text) (base : Nat) : Int × Text :=
  let signed := signPrefix (s.dropWhile isSpace)
  let based := if base = 0 then basePrefix signed.2 else (base, signed.2)
  let digits := based.2.takeWhile fun d => digitValue d < based.1
  if digits = [] then (0, s)
  else
    let value : Int := digitsValue based.1 digits
    let value := if signed.1 then -value else value
    (max longMin (min longMax value), based.2.drop digits.length)

example : strtol (str " -0x1Fz") 0 = (-31, str "z") := by decide

end Revice.General

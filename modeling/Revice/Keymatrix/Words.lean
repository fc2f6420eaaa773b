/- Module: Revice/Keymatrix/Words
   source: libs/keymatrix/src/keymatrix_core.c
   digest: Argument lines made of words, and what tap and poke read from them. -/

import Mathlib.Data.List.TakeWhile
import Revice.General.Decimal
import Revice.Keymatrix.Action

set_option autoImplicit false
set_option relaxedAutoImplicit false

namespace Revice.Keymatrix

open Revice.General

/-- A word of an argument line: some characters, no blank and no terminator. -/
structure IsWord (s : Text) : Prop where
  some_char : s ≠ []
  plain : ∀ b ∈ s, isBlank b = false ∧ b ≠ 0

def line (words : List Text) : Text := List.intercalate [chr ' '] words

@[simp] theorem line_nil : line [] = [] := rfl

private theorem line_singleton (word : Text) : line [word] = word := by
  simp [line]

private theorem line_cons (word next : Text) (words : List Text) :
    line (word :: next :: words) = word ++ chr ' ' :: line (next :: words) := by
  simp [line, List.intercalate]

theorem nulFree_line {words : List Text} (allWords : ∀ word ∈ words, IsWord word) :
    (0 : U8) ∉ line words := by
  induction words with
  | nil => simp
  | cons word words ih =>
    have here : (0 : U8) ∉ word := by
      intro member
      exact ((allWords word List.mem_cons_self).plain 0 member).2 rfl
    cases words with
    | nil =>
      rw [line_singleton]
      exact here
    | cons next words =>
      have rest := ih fun other member => allWords other (List.mem_cons_of_mem word member)
      rw [line_cons, List.mem_append, List.mem_cons]
      rintro (first | space | later)
      · exact here first
      · revert space
        decide
      · exact rest later

theorem length_line_le {words : List Text} {k : Nat} (short : ∀ word ∈ words, word.length ≤ k) :
    (line words).length ≤ words.length * (k + 1) := by
  induction words with
  | nil => simp
  | cons word words ih =>
    have here := short word List.mem_cons_self
    have rest := ih fun other member => short other (List.mem_cons_of_mem word member)
    rw [List.length_cons, Nat.succ_mul]
    cases words with
    | nil =>
      rw [line_singleton]
      simp only [List.length_nil, Nat.zero_mul]
      omega
    | cons next words =>
      rw [line_cons, List.length_append, List.length_cons]
      omega

theorem kmTok_line {word : Text} (isWord : IsWord word) (words : List Text) :
    kmTok (line (word :: words)) = some (word, line words) := by
  have plain : ∀ b ∈ word, (!isBlank b) = true := by
    intro b member
    simp [(isWord.plain b member).1]
  obtain ⟨b, tail, split⟩ := List.exists_cons_of_ne_nil isWord.some_char
  have starts : ∀ rest, (word ++ rest).dropWhile isBlank = word ++ rest := by
    intro rest
    have head := (isWord.plain b (by rw [split]; exact List.mem_cons_self)).1
    rw [split, List.cons_append, List.dropWhile_cons_of_neg (by simp [head])]
  have blank : isBlank (chr ' ') = true := by decide
  cases words with
  | nil =>
    have whole := starts []
    rw [List.append_nil] at whole
    simp only [kmTok, line_singleton, whole, isWord.some_char, if_false, line_nil]
    rw [List.takeWhile_eq_self_iff.mpr plain, List.dropWhile_eq_nil_iff.mpr plain]
    rfl
  | cons next words =>
    have more : word ++ chr ' ' :: line (next :: words) ≠ [] := by simp
    rw [line_cons]
    simp only [kmTok, starts, more, if_false]
    rw [List.takeWhile_append_of_pos plain, List.dropWhile_append_of_pos plain]
    simp [blank]

theorem line_ne_nil {word : Text} (isWord : IsWord word) (words : List Text) :
    line (word :: words) ≠ [] := by
  intro empty
  have token := kmTok_line isWord words
  rw [empty] at token
  cases token

private theorem decimal_chars {n : Int} {b : U8} (member : b ∈ decimal n) :
    b = chr '-' ∨ IsDigit b := by
  rw [decimal] at member
  split at member
  · rcases List.mem_cons.mp member with dash | digit
    · exact Or.inl dash
    · exact Or.inr (isDigit_of_mem digit)
  · exact Or.inr (isDigit_of_mem member)

private theorem decimal_ne_nil (n : Int) : decimal n ≠ [] := by
  rw [decimal]
  split
  · simp
  · exact decimalNat_ne_nil _

private theorem number_char {b : U8} (number : b = chr '-' ∨ IsDigit b) :
    isBlank b = false ∧ b ≠ 0 ∧ b ≠ chr ',' ∧ toLower b ≠ toLower (chr 'f') := by
  have all : ∀ b : U8, b = chr '-' ∨ (chr '0' ≤ b ∧ b ≤ chr '9') →
      isBlank b = false ∧ b ≠ 0 ∧ b ≠ chr ',' ∧ toLower b ≠ toLower (chr 'f') := by decide
  exact all b number

theorem isWord_decimal (n : Int) : IsWord (decimal n) where
  some_char := decimal_ne_nil n
  plain := by
    intro b member
    obtain ⟨unblank, nonzero, _⟩ := number_char (decimal_chars member)
    exact ⟨unblank, nonzero⟩

def pairWord (cell : Int × Int) : Text := decimal cell.1 ++ chr ',' :: decimal cell.2

theorem isWord_pair (cell : Int × Int) : IsWord (pairWord cell) where
  some_char := by simp [pairWord]
  plain := by
    intro b member
    rw [pairWord, List.mem_append, List.mem_cons] at member
    rcases member with row | rfl | col
    · exact (isWord_decimal cell.1).plain b row
    · decide
    · exact (isWord_decimal cell.2).plain b col

theorem length_decimal_le {n : Int} (small : -99 ≤ n ∧ n ≤ 99) : (decimal n).length ≤ 3 := by
  have digits : (decimalNat n.natAbs).length ≤ 2 :=
    length_decimalNat_le (by decide) (by omega)
  rw [decimal]
  split
  · rw [List.length_cons]
    omega
  · omega

theorem length_pairWord_le {cell : Int × Int} (inRange : CellInRange cell) :
    (pairWord cell).length ≤ 7 := by
  obtain ⟨rowLow, rowHigh, colLow, colHigh⟩ := inRange
  have row := length_decimal_le (n := cell.1) ⟨by omega, by omega⟩
  have col := length_decimal_le (n := cell.2) ⟨by omega, by omega⟩
  rw [pairWord, List.length_append, List.length_cons]
  omega

theorem fits_long {n : Int} (small : -65535 ≤ n ∧ n ≤ 65535) : longMin ≤ n ∧ n ≤ longMax := by
  simp only [longMin, longMax]
  omega

def cellKey (cell : Int × Int) : KmKey where
  row := cell.1
  col := cell.2
  kind := if cell.1 < 0 then .custom else .matrix
  name := keyName (pairWord cell)

theorem parseRcPair_some {tok : Text} {key : KmKey} :
    parseRcPair tok = some key ↔ ∃ cell tail, strtol tok 10 = (cell.1, chr ',' :: tail) ∧
      chr ',' :: tail ≠ tok ∧ strtol tail 10 = (cell.2, []) ∧ CellInRange cell ∧
      key = cellKey cell := by
  have inside_iff : ∀ cell : Int × Int, (decide (cell.1 < -8) || decide (cell.1 > 15) ||
      decide (cell.2 < 0) || decide (cell.2 > 7)) = true ↔ ¬CellInRange cell := by
    intro cell
    simp only [Bool.or_eq_true, decide_eq_true_eq, CellInRange]
    omega
  constructor
  · intro parsed
    obtain ⟨r, afterRow, row⟩ : ∃ r afterRow, strtol tok 10 = (r, afterRow) := ⟨_, _, rfl⟩
    simp only [parseRcPair, row] at parsed
    split at parsed
    · cases parsed
    · rename_i started
      simp only [Bool.or_eq_true, decide_eq_true_eq, not_or, not_not] at started
      obtain ⟨tail, rfl⟩ := List.head?_eq_some_iff.mp started.2
      obtain ⟨c, afterCol, col⟩ : ∃ c afterCol, strtol tail 10 = (c, afterCol) := ⟨_, _, rfl⟩
      simp only [List.drop_succ_cons, List.drop_zero, col] at parsed
      split at parsed
      · cases parsed
      · rename_i ended
        split at parsed
        · cases parsed
        · rename_i inside
          cases parsed
          exact ⟨(r, c), tail, row, started.1, by rw [col, not_not.mp ended],
            not_not.mp ((inside_iff (r, c)).not.mp inside), rfl⟩
  · rintro ⟨cell, tail, row, shorter, col, inRange, rfl⟩
    have inside := (inside_iff cell).not.mpr (not_not.mpr inRange)
    simp only [parseRcPair, row, shorter, decide_false, List.head?_cons, ne_eq, not_true_eq_false,
      Bool.or_self, Bool.false_eq_true, if_false, List.drop_succ_cons, List.drop_zero, col]
    rw [if_neg inside]
    rfl

private theorem parseRcPair_pairWord {cell : Int × Int} (inRange : CellInRange cell) :
    parseRcPair (pairWord cell) = some (cellKey cell) := by
  have range := inRange
  obtain ⟨rowLow, rowHigh, colLow, colHigh⟩ := range
  refine parseRcPair_some.mpr ⟨cell, decimal cell.2, ?_, ?_, ?_, inRange, rfl⟩
  · apply strtol_decimal_ten (fits_long ⟨by omega, by omega⟩)
    intro d comma
    cases comma
    decide
  · intro same
    have lengths := congrArg List.length same
    have positive := List.length_pos_iff.mpr (decimal_ne_nil cell.1)
    rw [pairWord, List.length_append] at lengths
    omega
  · have none_left : ∀ d ∈ ([] : Text).head?, ¬digitValue d < 10 := by simp
    have read := strtol_decimal_ten (n := cell.2) (fits_long ⟨by omega, by omega⟩) none_left
    rwa [List.append_nil] at read

theorem parseKeyToken_pairWord {cell : Int × Int} (inRange : CellInRange cell) :
    parseKeyToken (pairWord cell) = some (cellKey cell) := by
  rw [parseKeyToken, if_pos (by simp [pairWord]), parseRcPair_pairWord inRange]

private theorem pairWord_ne_for (cell : Int × Int) :
    kmStrcasecmp (pairWord cell) (str "for") ≠ 0 := by
  obtain ⟨b, digits, split⟩ := List.exists_cons_of_ne_nil (decimal_ne_nil cell.1)
  have number : b = chr '-' ∨ IsDigit b :=
    decimal_chars (n := cell.1) (by rw [split]; exact List.mem_cons_self)
  have apart := (number_char number).2.2.2
  have opening : str "for" = chr 'f' :: str "or" := rfl
  rw [pairWord, split, opening, List.cons_append, kmStrcasecmp]
  have values : ((toLower b).toNat : Int) ≠ (toLower (chr 'f')).toNat := by
    intro same
    exact apart (BitVec.eq_of_toNat_eq (by exact_mod_cast same))
  simp only [values, ne_eq, not_false_eq_true, if_true]
  omega

def readKeys (s : Text) (keys : List KmKey) (forFrames : Int) : Except Text (List KmKey × Int) :=
  parseKeyListLoop kmMaxKeys (s.length + 1) s keys forFrames

theorem readKeys_nil (keys : List KmKey) (forFrames : Int) :
    readKeys [] keys forFrames = .ok (keys, forFrames) := rfl

private theorem readKeys_pair {cell : Int × Int} (inRange : CellInRange cell) (words : List Text)
    {keys : List KmKey} (room : keys.length < kmMaxKeys) (forFrames : Int) :
    readKeys (line (pairWord cell :: words)) keys forFrames =
      readKeys (line words) (keys ++ [cellKey cell]) forFrames := by
  have token := kmTok_line (isWord_pair cell) words
  have shorter := kmTok_shorter token
  rw [readKeys, parseKeyListLoop_key token (pairWord_ne_for cell) room
    (parseKeyToken_pairWord inRange)]
  exact parseKeyListLoop_enough kmMaxKeys shorter (Nat.lt_succ_self _) _ _

theorem readKeys_pairs {cells : List (Int × Int)} (inRange : ∀ cell ∈ cells, CellInRange cell)
    (words : List Text) {keys : List KmKey} (room : keys.length + cells.length ≤ kmMaxKeys)
    (forFrames : Int) :
    readKeys (line (cells.map pairWord ++ words)) keys forFrames =
      readKeys (line words) (keys ++ cells.map cellKey) forFrames := by
  induction cells generalizing keys with
  | nil => simp
  | cons cell cells ih =>
    rw [List.length_cons] at room
    rw [List.map_cons, List.cons_append,
      readKeys_pair (inRange cell List.mem_cons_self) _ (by omega),
      ih (fun other member => inRange other (List.mem_cons_of_mem cell member))
        (by rw [List.length_append, List.length_singleton]; omega)]
    simp

theorem readKeys_for {n : Int} (count : 1 ≤ n ∧ n ≤ 65535) (keys : List KmKey) (forFrames : Int) :
    readKeys (line [str "for", decimal n]) keys forFrames = .ok (keys, n) := by
  have isFor : IsWord (str "for") := ⟨by decide, by decide⟩
  have token := kmTok_line isFor [decimal n]
  have frames := kmTok_line (isWord_decimal n) []
  have shorter := kmTok_shorter token
  have shorterStill := kmTok_shorter frames
  have named : kmStrcasecmp (str "for") (str "for") = 0 := by decide
  have value := strtol_decimal_auto (n := n) (fits_long ⟨by omega, by omega⟩)
  rw [line_nil] at frames
  rw [readKeys, parseKeyListLoop_for token named frames value count]
  have rounds : ([] : Text).length < (line [str "for", decimal n]).length := by
    rw [line_nil] at shorterStill
    omega
  exact (parseKeyListLoop_enough kmMaxKeys rounds Nat.zero_lt_one keys n).trans rfl

end Revice.Keymatrix

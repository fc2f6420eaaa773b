/- Module: Revice/Keymatrix/Pair
   source: libs/keymatrix/src/keymatrix_core.c
   digest: The row,col tokens that are accepted: the pairs, and those read by accident. -/

import Mathlib.Data.List.Basic
import Revice.General.Numeral
import Revice.Keymatrix.Grammar

set_option autoImplicit false
set_option relaxedAutoImplicit false

namespace Revice.Keymatrix

open Revice.General

/-- A row and a column in range, each a signed decimal, with a comma between them. -/
def PairToken (tok : Text) (cell : Int × Int) : Prop :=
  ∃ row col, tok = row ++ chr ',' :: col ∧ SignedDecimal row cell.1 ∧ SignedDecimal col cell.2 ∧
    CellInRange cell

/-- What else is taken for a pair: a row without a column, which counts as column zero,
and a pair with white space before one of its numbers. -/
inductive LaxPair : Text → Int × Int → Prop
  | noColumn {spaces row : Text} {r : Int} (space : Spaces spaces) (number : SignedDecimal row r)
      (inside : CellInRange (r, 0)) : LaxPair (spaces ++ (row ++ [chr ','])) (r, 0)
  | spaced {before row after col : Text} {cell : Int × Int} (rowSpace : Spaces before)
      (rowNumber : SignedDecimal row cell.1) (colSpace : Spaces after)
      (colNumber : SignedDecimal col cell.2) (inside : CellInRange cell)
      (some_space : before ≠ [] ∨ after ≠ []) :
      LaxPair (before ++ (row ++ chr ',' :: (after ++ col))) cell

private theorem spaces_nil : Spaces [] := by
  simp [Spaces]

private theorem spaces_eq_nil {spaces rest : Text} {n : Int} (space : Spaces spaces)
    (numeral : SignedDecimal (spaces ++ rest) n) : spaces = [] := by
  cases spaces with
  | nil => rfl
  | cons b spaces =>
    have spaced := space b List.mem_cons_self
    have unspaced := (numeral.chars b (List.mem_append_left rest List.mem_cons_self)).1
    rw [spaced] at unspaced
    cases unspaced

private theorem comma_notMem {spaces row : Text} {r : Int} (space : Spaces spaces)
    (number : SignedDecimal row r) : chr ',' ∉ spaces ++ row := by
  rw [List.mem_append]
  rintro (white | digit)
  · have spaced := space _ white
    revert spaced
    decide
  · exact (number.chars _ digit).2.2 rfl

private theorem LaxPair.not_pair {tok : Text} {cell other : Int × Int} (lax : LaxPair tok cell) :
    ¬PairToken tok other := by
  rintro ⟨row', col', same, rowNumber', colNumber', _⟩
  cases lax with
  | noColumn space number _ =>
    rw [← List.append_assoc] at same
    obtain ⟨_, _, nothing⟩ := (List.append_cons_inj_of_notMem (comma_notMem space number)
      List.not_mem_nil).mp same
    exact colNumber'.ne_nil nothing.symm
  | spaced rowSpace rowNumber colSpace colNumber _ some_space =>
    rw [← List.append_assoc] at same
    obtain ⟨rfl, _, rfl⟩ := (List.append_cons_inj_of_notMem (comma_notMem rowSpace rowNumber)
      (comma_notMem colSpace colNumber)).mp same
    rcases some_space with before | after
    · exact before (spaces_eq_nil rowSpace rowNumber')
    · exact after (spaces_eq_nil colSpace colNumber')

private theorem comma_stops (tail : Text) : ∀ d ∈ (chr ',' :: tail).head?, ¬IsDigit d := by
  rintro d ⟨⟩
  simp only [IsDigit]
  decide

private theorem strtol_row {spaces row : Text} {r : Int} (space : Spaces spaces)
    (number : SignedDecimal row r) (inside : -8 ≤ r ∧ r ≤ 15) (tail : Text) :
    strtol (spaces ++ (row ++ chr ',' :: tail)) 10 = (r, chr ',' :: tail) ∧
      chr ',' :: tail ≠ spaces ++ (row ++ chr ',' :: tail) := by
  constructor
  · rw [strtol_numeral space number (comma_stops tail), clampLong_fits ⟨by omega, by omega⟩]
  · intro same
    have lengths := congrArg List.length same
    have positive := List.length_pos_iff.mpr number.ne_nil
    simp only [List.length_append, List.length_cons] at lengths
    omega

private theorem strtol_col {spaces col : Text} {c : Int} (space : Spaces spaces)
    (number : SignedDecimal col c) (inside : 0 ≤ c ∧ c ≤ 7) :
    strtol (spaces ++ col) 10 = (c, []) := by
  have none_left : ∀ d ∈ ([] : Text).head?, ¬IsDigit d := by simp
  have read := strtol_numeral space number none_left
  rwa [List.append_nil, clampLong_fits ⟨by omega, by omega⟩] at read

/-- The parser accepts the pairs and the accidents, and nothing else. -/
private theorem parseRcPair_iff {tok : Text} {key : KmKey} :
    parseRcPair tok = some key ↔
      ∃ cell, (PairToken tok cell ∨ LaxPair tok cell) ∧ key = cellKey cell := by
  rw [parseRcPair_some]
  constructor
  · rintro ⟨cell, tail, row, started, col, inside, rfl⟩
    refine ⟨cell, ?_, rfl⟩
    obtain ⟨r, c⟩ := cell
    obtain ⟨rowLow, rowHigh, colLow, colHigh⟩ := id inside
    rcases strtol_ten_cases tok with
      nothing | ⟨before, rowDigits, rest, n, rfl, rowSpace, rowNumber, read⟩
    · rw [nothing] at row
      exact absurd (congrArg Prod.snd row).symm started
    · rw [read, Prod.mk.injEq] at row
      obtain ⟨clamped, rfl⟩ := row
      obtain rfl := clampLong_small clamped ⟨by omega, by omega⟩
      rcases strtol_ten_cases tail with
        nothing | ⟨after, colDigits, rest, m, rfl, colSpace, colNumber, read⟩
      · rw [nothing, Prod.mk.injEq] at col
        obtain ⟨rfl, rfl⟩ := col
        exact Or.inr (.noColumn rowSpace rowNumber inside)
      · rw [read, Prod.mk.injEq] at col
        obtain ⟨clamped, rfl⟩ := col
        obtain rfl := clampLong_small clamped ⟨by omega, by omega⟩
        rw [List.append_nil]
        by_cases tight : before = [] ∧ after = []
        · obtain ⟨rfl, rfl⟩ := tight
          exact Or.inl ⟨rowDigits, colDigits, rfl, rowNumber, colNumber, inside⟩
        · exact Or.inr (.spaced rowSpace rowNumber colSpace colNumber inside
            (not_and_or.mp tight))
  · rintro ⟨cell, ⟨row, col, rfl, rowNumber, colNumber, inside⟩ | lax, rfl⟩
    · obtain ⟨read, started⟩ := strtol_row spaces_nil rowNumber ⟨inside.1, inside.2.1⟩ col
      exact ⟨cell, col, read, started, strtol_col spaces_nil colNumber inside.2.2, inside, rfl⟩
    · cases lax with
      | noColumn space number inside =>
        obtain ⟨read, started⟩ := strtol_row space number ⟨inside.1, inside.2.1⟩ []
        exact ⟨_, [], read, started, rfl, inside, rfl⟩
      | spaced rowSpace rowNumber colSpace colNumber inside _ =>
        obtain ⟨read, started⟩ := strtol_row rowSpace rowNumber ⟨inside.1, inside.2.1⟩ _
        exact ⟨cell, _, read, started, strtol_col colSpace colNumber inside.2.2, inside, rfl⟩

/-- Tap, press and release name the token as an unknown key and change nothing, in every
argument string that is read up to it. -/
def ReportsUnknown (tok : Text) : Prop :=
  ∀ (host : KmHost) (km : KmCore) (args : CString) (before after : List Text)
    (keys : List KmKey) (frames : List Int), args.bytes.length ≤ 255 →
    tokens args.bytes = before ++ tok :: after → Reads before keys frames → keys.length < 16 →
    kmCoreTap host (some args) km = (km, [kmOutf (unknownKey tok)]) ∧
      kmCorePress host (some args) km = (km, [kmOutf (unknownKey tok)]) ∧
      kmCoreRelease host (some args) km = (km, [kmOutf (unknownKey tok)])

private theorem ne_for_of_comma {tok : Text} (comma : chr ',' ∈ tok) :
    ¬EqIgnoreCase tok (str "for") := by
  intro named
  have member := List.mem_map_of_mem (f := toLower) comma
  rw [named] at member
  revert member
  decide

private theorem reportsUnknown {tok : Text} (comma : chr ',' ∈ tok)
    (unknown : parseKeyToken tok = none) :
    ReportsUnknown tok := by
  intro host km args before after keys frames short split reading few
  have some_char : args.bytes ≠ [] := by
    intro empty
    rw [empty, tokens, runs_nil] at split
    simp at split
  have given : givenArgs (some args) = some args := by
    simp [givenArgs, some_char]
  have parsed : parseArgs args = .error (unknownKey tok) := by
    rw [parseArgs, kmCopyArgs, if_neg (by omega)]
    exact parseKeyListLoop_unknown (Nat.lt_succ_self _) args.nulFree split reading
      (by simpa using few) (ne_for_of_comma comma) unknown
  refine ⟨?_, ?_, ?_⟩
  · simp only [kmCoreTap, given, parsed]
  · simp only [kmCorePress, given, parsed]
  · simp only [kmCoreRelease, given, parsed]

/-- A token with a comma is accepted exactly if it is a pair; then the key is at that
place, with a name that reads back, and otherwise it is reported. -/
structure ParsesExactly (tok : Text) : Prop where
  accepts : (parseKeyToken tok).isSome ↔ ∃ cell, PairToken tok cell
  reads : ∀ cell, PairToken tok cell → ∃ key, parseKeyToken tok = some key ∧ key.cell = cell ∧
    (key.kind = .custom ↔ cell.1 < 0) ∧ parseKeyToken key.name = some key
  reports : (∀ cell, ¬PairToken tok cell) → ReportsUnknown tok

private theorem cellKey_name {cell : Int × Int} (inside : CellInRange cell) :
    (cellKey cell).name = pairWord cell := by
  have short := length_pairWord_le inside
  exact List.take_of_length_le (by omega)

private theorem cellKey_kind (cell : Int × Int) : (cellKey cell).kind = .custom ↔ cell.1 < 0 := by
  rw [cellKey]
  split
  · simpa
  · simpa using Int.not_lt.mp ‹_›

/-- Tokens with a comma are parsed exactly, apart from the accidents. -/
theorem parsesExactly_iff {tok : Text} (comma : chr ',' ∈ tok) :
    ParsesExactly tok ↔ ∀ cell, ¬LaxPair tok cell := by
  have accepted : ∀ key, parseKeyToken tok = some key ↔
      ∃ cell, (PairToken tok cell ∨ LaxPair tok cell) ∧ key = cellKey cell := by
    intro key
    rw [parseKeyToken, if_pos comma, parseRcPair_iff]
  constructor
  · intro exactly cell lax
    have isSome : (parseKeyToken tok).isSome := by
      rw [(accepted (cellKey cell)).mpr ⟨cell, Or.inr lax, rfl⟩]
      rfl
    obtain ⟨other, pair⟩ := exactly.accepts.mp isSome
    exact lax.not_pair pair
  · intro noLax
    refine ⟨?_, ?_, ?_⟩
    · rw [Option.isSome_iff_exists]
      constructor
      · rintro ⟨key, parsed⟩
        obtain ⟨cell, pair | lax, _⟩ := (accepted key).mp parsed
        · exact ⟨cell, pair⟩
        · exact absurd lax (noLax cell)
      · rintro ⟨cell, pair⟩
        exact ⟨_, (accepted (cellKey cell)).mpr ⟨cell, Or.inl pair, rfl⟩⟩
    · intro cell pair
      obtain ⟨_, _, _, _, _, inside⟩ := id pair
      refine ⟨_, (accepted (cellKey cell)).mpr ⟨cell, Or.inl pair, rfl⟩, rfl, cellKey_kind cell, ?_⟩
      rw [cellKey_name inside]
      exact parseKeyToken_pairWord inside
    · intro noPair
      apply reportsUnknown comma
      rw [Option.eq_none_iff_forall_ne_some]
      intro key parsed
      obtain ⟨cell, pair | lax, _⟩ := (accepted key).mp parsed
      · exact noPair cell pair
      · exact noLax cell lax

theorem parsesExactly_iff_tight : ParsesExactly (str "-3,+1") := by
  refine (parsesExactly_iff (by decide)).mpr fun cell lax => ?_
  have three : Digits (str "3") := ⟨by decide, by decide⟩
  have one : Digits (str "1") := ⟨by decide, by decide⟩
  have row : SignedDecimal (str "-3") (-3) := .minus three
  have col : SignedDecimal (str "+1") 1 := .plus one
  have pair : PairToken (str "-3,+1") (-3, 1) := ⟨_, _, rfl, row, col, by decide⟩
  exact lax.not_pair pair

/-- A row and a comma press the key in column zero. -/
theorem column_missing :
    parseKeyToken (str "3,") = some ⟨3, 0, .matrix, str "3,0"⟩ ∧ ¬ParsesExactly (str "3,") := by
  have key : parseKeyToken (str "3,") = some ⟨3, 0, .matrix, str "3,0"⟩ := by decide +kernel
  refine ⟨key, fun exactly => ?_⟩
  obtain ⟨cell, pair⟩ := exactly.accepts.mp (by rw [key]; rfl)
  have row : SignedDecimal (str "3") 3 := .unsigned ⟨by decide, by decide⟩
  have lax : LaxPair (str "3,") (3, 0) := .noColumn spaces_nil row (by decide)
  exact lax.not_pair pair

end Revice.Keymatrix

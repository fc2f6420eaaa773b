/- Module: Revice/Keymatrix/Key
   source: libs/keymatrix/src/keymatrix_core.c, libs/keymatrix/include/revice_keymatrix.h
   digest: Keys, the C64 key table, and the parser of key lists. -/

import Revice.General.Text

set_option autoImplicit false
set_option relaxedAutoImplicit false

namespace Revice.Keymatrix

open Revice.General

abbrev kmMaxKeys : Nat := 16

def kmRowRestore1 : Int := -3
def kmColRestore1 : Int := 0
def kmRowRestore2 : Int := -3
def kmColRestore2 : Int := 1
def kmRow4080Column : Int := -4
def kmCol4080Column : Int := 0
def kmRowCapslock : Int := -4
def kmColCapslock : Int := 1

/-- A bit of the keyboard matrix, or a custom key behind a negative row. -/
inductive KeyKind
  | matrix
  | custom
  deriving DecidableEq

structure KmKey where
  row : Int
  col : Int
  kind : KeyKind
  name : Text
  deriving DecidableEq

/-- The place of a key, which is all that a matrix write sees of it. -/
def KmKey.cell (key : KmKey) : Int × Int := (key.row, key.col)

/-- A string stored in the 16 bytes of a key's name. -/
def keyName (s : Text) : Text := s.take 15

/-- One entry of the key table; aliases are separate entries. -/
structure KmxKeydef where
  name : String
  row : Int
  col : Int
  kind : KeyKind

def c64Keys : List KmxKeydef := [
    ⟨"INSTDEL", 0, 0, .matrix⟩, ⟨"DEL", 0, 0, .matrix⟩, ⟨"INST", 0, 0, .matrix⟩,
    ⟨"BACKSPACE", 0, 0, .matrix⟩, ⟨"BS", 0, 0, .matrix⟩, ⟨"RETURN", 0, 1, .matrix⟩,
    ⟨"ENTER", 0, 1, .matrix⟩, ⟨"RTN", 0, 1, .matrix⟩, ⟨"CRSRLR", 0, 2, .matrix⟩,
    ⟨"CR", 0, 2, .matrix⟩, ⟨"RIGHT", 0, 2, .matrix⟩, ⟨"F7", 0, 3, .matrix⟩, ⟨"F1", 0, 4, .matrix⟩,
    ⟨"F3", 0, 5, .matrix⟩, ⟨"F5", 0, 6, .matrix⟩, ⟨"CRSRUD", 0, 7, .matrix⟩,
    ⟨"CD", 0, 7, .matrix⟩, ⟨"DOWN", 0, 7, .matrix⟩,
    ⟨"3", 1, 0, .matrix⟩, ⟨"W", 1, 1, .matrix⟩, ⟨"A", 1, 2, .matrix⟩, ⟨"4", 1, 3, .matrix⟩,
    ⟨"Z", 1, 4, .matrix⟩, ⟨"S", 1, 5, .matrix⟩, ⟨"E", 1, 6, .matrix⟩, ⟨"LSHIFT", 1, 7, .matrix⟩,
    ⟨"SHIFT", 1, 7, .matrix⟩, ⟨"LEFTSHIFT", 1, 7, .matrix⟩,
    ⟨"5", 2, 0, .matrix⟩, ⟨"R", 2, 1, .matrix⟩, ⟨"D", 2, 2, .matrix⟩, ⟨"6", 2, 3, .matrix⟩,
    ⟨"C", 2, 4, .matrix⟩, ⟨"F", 2, 5, .matrix⟩, ⟨"T", 2, 6, .matrix⟩, ⟨"X", 2, 7, .matrix⟩,
    ⟨"7", 3, 0, .matrix⟩, ⟨"Y", 3, 1, .matrix⟩, ⟨"G", 3, 2, .matrix⟩, ⟨"8", 3, 3, .matrix⟩,
    ⟨"B", 3, 4, .matrix⟩, ⟨"H", 3, 5, .matrix⟩, ⟨"U", 3, 6, .matrix⟩, ⟨"V", 3, 7, .matrix⟩,
    ⟨"9", 4, 0, .matrix⟩, ⟨"I", 4, 1, .matrix⟩, ⟨"J", 4, 2, .matrix⟩, ⟨"0", 4, 3, .matrix⟩,
    ⟨"M", 4, 4, .matrix⟩, ⟨"K", 4, 5, .matrix⟩, ⟨"O", 4, 6, .matrix⟩, ⟨"N", 4, 7, .matrix⟩,
    ⟨"PLUS", 5, 0, .matrix⟩, ⟨"P", 5, 1, .matrix⟩, ⟨"L", 5, 2, .matrix⟩, ⟨"MINUS", 5, 3, .matrix⟩,
    ⟨"PERIOD", 5, 4, .matrix⟩, ⟨"DOT", 5, 4, .matrix⟩, ⟨"COLON", 5, 5, .matrix⟩,
    ⟨"AT", 5, 6, .matrix⟩, ⟨"COMMA", 5, 7, .matrix⟩,
    ⟨"POUND", 6, 0, .matrix⟩, ⟨"STERLING", 6, 0, .matrix⟩, ⟨"TIMES", 6, 1, .matrix⟩,
    ⟨"STAR", 6, 1, .matrix⟩, ⟨"ASTERISK", 6, 1, .matrix⟩, ⟨"SEMICOLON", 6, 2, .matrix⟩,
    ⟨"SEMI", 6, 2, .matrix⟩, ⟨"CLR", 6, 3, .matrix⟩, ⟨"HOME", 6, 3, .matrix⟩,
    ⟨"CLRHOME", 6, 3, .matrix⟩, ⟨"RSHIFT", 6, 4, .matrix⟩, ⟨"RIGHTSHIFT", 6, 4, .matrix⟩,
    ⟨"EQUALS", 6, 5, .matrix⟩, ⟨"EQ", 6, 5, .matrix⟩, ⟨"UPARROW", 6, 6, .matrix⟩,
    ⟨"UP", 6, 6, .matrix⟩, ⟨"EXPONENT", 6, 6, .matrix⟩, ⟨"SLASH", 6, 7, .matrix⟩,
    ⟨"1", 7, 0, .matrix⟩, ⟨"LEFTARROW", 7, 1, .matrix⟩, ⟨"LEFT", 7, 1, .matrix⟩,
    ⟨"CTRL", 7, 2, .matrix⟩, ⟨"2", 7, 3, .matrix⟩, ⟨"SPACE", 7, 4, .matrix⟩,
    ⟨"SP", 7, 4, .matrix⟩, ⟨"CBM", 7, 5, .matrix⟩, ⟨"COMMODORE", 7, 5, .matrix⟩,
    ⟨"Q", 7, 6, .matrix⟩, ⟨"RUNSTOP", 7, 7, .matrix⟩, ⟨"STOP", 7, 7, .matrix⟩,
    ⟨"RUN", 7, 7, .matrix⟩,
    ⟨"RESTORE", kmRowRestore1, kmColRestore1, .custom⟩,
    ⟨"CAPSLOCK", kmRowCapslock, kmColCapslock, .custom⟩,
    ⟨"CAPS", kmRowCapslock, kmColCapslock, .custom⟩,
    ⟨"4080", kmRow4080Column, kmCol4080Column, .custom⟩]

def kmStrcasecmp : Text → Text → Int
  | a :: as, b :: bs =>
    let ca : Int := (toLower a).toNat
    let cb : Int := (toLower b).toNat
    if ca ≠ cb then ca - cb else kmStrcasecmp as bs
  | [], [] => 0
  | a :: _, [] => (toLower a).toNat
  | [], b :: _ => -(toLower b).toNat

def isBlank (b : U8) : Bool := b = chr ' ' || b = chr '\t'

/-- The next token of a buffer and the position after its delimiter. -/
def kmTok (s : Text) : Option (Text × Text) :=
  let tok := s.dropWhile isBlank
  if tok = [] then none
  else some (tok.takeWhile fun b => !isBlank b, (tok.dropWhile fun b => !isBlank b).drop 1)

def findKeyByName (name : Text) : Option KmKey :=
  (c64Keys.find? fun entry => kmStrcasecmp name (str entry.name) = 0).map fun entry =>
    ⟨entry.row, entry.col, entry.kind, keyName (str entry.name)⟩

def parseRcPair (tok : Text) : Option KmKey :=
  let (r, afterRow) := strtol tok 10
  if afterRow = tok || afterRow.head? ≠ some (chr ',') then none
  else
    let (c, afterCol) := strtol (afterRow.drop 1) 10
    if afterCol ≠ [] then none
    else if r < -8 || r > 15 || c < 0 || c > 7 then none
    else some ⟨r, c, if r < 0 then .custom else .matrix,
      keyName (decimal r ++ chr ',' :: decimal c)⟩

def parseKeyToken (tok : Text) : Option KmKey :=
  if chr ',' ∈ tok then parseRcPair tok else findKeyByName tok

/-- The token loop of the key-list parser; every round consumes at least a byte. -/
def parseKeyListLoop (maxKeys : Nat) :
    Nat → Text → List KmKey → Int → Except Text (List KmKey × Int)
  | 0, _, keys, forFrames => .ok (keys, forFrames)
  | fuel + 1, saveptr, keys, forFrames =>
    match kmTok saveptr with
    | none => .ok (keys, forFrames)
    | some (tok, saveptr) =>
      if kmStrcasecmp tok (str "for") = 0 then
        match kmTok saveptr with
        | none => .error (str "error: 'for' must be followed by a frame count\n")
        | some (framesTok, saveptr) =>
          let (v, rest) := strtol framesTok 0
          if rest = framesTok || rest ≠ [] || v < 1 || v > 65535 then
            .error (str "error: invalid frame count '" ++ framesTok ++ str "'\n")
          else parseKeyListLoop maxKeys fuel saveptr keys v
      else if keys.length ≥ maxKeys then
        .error (str "error: too many keys (max " ++ decimal maxKeys ++ str ")\n")
      else
        match parseKeyToken tok with
        | none => .error (str "error: unknown key '" ++ tok ++ str "' (try 'keymatrix names')\n")
        | some key => parseKeyListLoop maxKeys fuel saveptr (keys ++ [key]) forFrames

def parseKeyList (buf : Text) (maxKeys : Nat) : Except Text (List KmKey × Int) :=
  parseKeyListLoop maxKeys (buf.length + 1) buf [] (-1)

def kmCopyArgs (args : CString) (bufsize : Nat) : Option Text :=
  if args.bytes.length ≥ bufsize then none else some args.bytes

example : (parseKeyList (str "lshift\ta  for 0x10") kmMaxKeys).toOption.map
    (fun parsed => (parsed.1.map KmKey.cell, parsed.2)) = some ([(1, 7), (1, 2)], 16) := by
  decide +kernel

/-- The range that the row,col parser and poke enforce. -/
def CellInRange (cell : Int × Int) : Prop :=
  -8 ≤ cell.1 ∧ cell.1 ≤ 15 ∧ 0 ≤ cell.2 ∧ cell.2 ≤ 7

instance (cell : Int × Int) : Decidable (CellInRange cell) := by
  unfold CellInRange
  infer_instance

private theorem c64Keys_inRange : ∀ entry ∈ c64Keys, CellInRange (entry.row, entry.col) := by
  decide

private theorem findKeyByName_inRange {name : Text} {key : KmKey}
    (found : findKeyByName name = some key) :
    CellInRange key.cell := by
  rw [findKeyByName, Option.map_eq_some_iff] at found
  obtain ⟨entry, entryFound, rfl⟩ := found
  exact c64Keys_inRange entry (List.mem_of_find?_eq_some entryFound)

private theorem parseRcPair_inRange {tok : Text} {key : KmKey}
    (parsed : parseRcPair tok = some key) :
    CellInRange key.cell := by
  simp only [parseRcPair] at parsed
  split at parsed
  · cases parsed
  · split at parsed
    · cases parsed
    · split at parsed
      · cases parsed
      · rename_i inside
        simp only [Bool.or_eq_true, decide_eq_true_eq, not_or] at inside
        cases parsed
        simp only [CellInRange, KmKey.cell]
        omega

theorem parseKeyToken_inRange {tok : Text} {key : KmKey} (parsed : parseKeyToken tok = some key) :
    CellInRange key.cell := by
  rw [parseKeyToken] at parsed
  split at parsed
  · exact parseRcPair_inRange parsed
  · exact findKeyByName_inRange parsed

theorem kmTok_shorter {s tok rest : Text} (found : kmTok s = some (tok, rest)) :
    rest.length < s.length := by
  simp only [kmTok] at found
  split at found
  · cases found
  · rename_i some
    cases found
    have first := (List.dropWhile_suffix isBlank (l := s)).length_le
    obtain ⟨b, tail, split⟩ := List.exists_cons_of_ne_nil some
    have head : isBlank b = false := by
      have stopped := List.head_dropWhile_not (p := isBlank) some
      simpa [split] using stopped
    have second := (List.dropWhile_suffix (fun b => !isBlank b) (l := tail)).length_le
    rw [split] at first ⊢
    rw [List.dropWhile_cons_of_pos (by simp [head]), List.length_drop]
    simp only [List.length_cons] at first
    omega

theorem parseKeyListLoop_enough (maxKeys : Nat) {fuel more : Nat} {s : Text}
    (enough : s.length < fuel) (still : s.length < more) (keys : List KmKey) (forFrames : Int) :
    parseKeyListLoop maxKeys fuel s keys forFrames =
      parseKeyListLoop maxKeys more s keys forFrames := by
  induction fuel generalizing more s keys forFrames with
  | zero => omega
  | succ fuel ih =>
    obtain ⟨more, rfl⟩ : ∃ n, more = n + 1 := ⟨more - 1, by omega⟩
    rw [parseKeyListLoop, parseKeyListLoop]
    cases first : kmTok s with
    | none => rfl
    | some found =>
      have shorter := kmTok_shorter first
      simp only
      split
      · cases second : kmTok found.2 with
        | none => rfl
        | some frames =>
          have shorterStill := kmTok_shorter second
          simp only
          rw [ih (show frames.2.length < fuel by omega) (show frames.2.length < more by omega)]
      · split
        · rfl
        · split
          · rfl
          · exact ih (by omega) (by omega) _ _

theorem count_rejected {count left : Text} {v : Int} (read : strtol count 0 = (v, left)) :
    (left = count || left ≠ [] || v < 1 || v > 65535) = true ↔
      ¬(left = [] ∧ 1 ≤ v ∧ v ≤ 65535) := by
  simp only [Bool.or_eq_true, decide_eq_true_eq]
  constructor
  · rintro bad ⟨rfl, low, high⟩
    rcases bad with ((empty | more) | small) | large
    · rw [← empty] at read
      cases read
      omega
    · exact more rfl
    · omega
    · omega
  · intro bad
    by_cases whole : left = []
    · simp only [whole, true_and] at bad
      omega
    · exact Or.inl (Or.inl (Or.inr whole))

section Round

variable {maxKeys fuel : Nat} {s tok rest : Text} {keys : List KmKey} {forFrames : Int}

theorem parseKeyListLoop_key {key : KmKey} (found : kmTok s = some (tok, rest))
    (other : kmStrcasecmp tok (str "for") ≠ 0) (room : keys.length < maxKeys)
    (parsed : parseKeyToken tok = some key) :
    parseKeyListLoop maxKeys (fuel + 1) s keys forFrames =
      parseKeyListLoop maxKeys fuel rest (keys ++ [key]) forFrames := by
  rw [parseKeyListLoop, found]
  simp only [other, if_false, Nat.not_le.mpr room, parsed]

theorem parseKeyListLoop_for {count last : Text} {v : Int} (found : kmTok s = some (tok, rest))
    (named : kmStrcasecmp tok (str "for") = 0) (counted : kmTok rest = some (count, last))
    (number : strtol count 0 = (v, [])) (inside : 1 ≤ v ∧ v ≤ 65535) :
    parseKeyListLoop maxKeys (fuel + 1) s keys forFrames =
      parseKeyListLoop maxKeys fuel last keys v := by
  rw [parseKeyListLoop, found]
  simp only [named, if_true, counted, number]
  rw [if_neg ((count_rejected number).not.mpr (not_not.mpr ⟨rfl, inside⟩))]

end Round

/-- What an accepted key list promises. -/
structure KeyListOk (maxKeys : Nat) (keys : List KmKey) (forFrames : Int) : Prop where
  few : keys.length ≤ maxKeys
  inRange : ∀ key ∈ keys, CellInRange key.cell
  frames : forFrames = -1 ∨ 1 ≤ forFrames ∧ forFrames ≤ 65535

private theorem parseKeyListLoop_ok {maxKeys fuel : Nat} {s : Text} {keys parsed : List KmKey}
    {forFrames frames : Int} (sofar : KeyListOk maxKeys keys forFrames)
    (accepted : parseKeyListLoop maxKeys fuel s keys forFrames = .ok (parsed, frames)) :
    KeyListOk maxKeys parsed frames := by
  induction fuel generalizing s keys forFrames with
  | zero =>
    cases accepted
    exact sofar
  | succ fuel ih =>
    rw [parseKeyListLoop] at accepted
    split at accepted
    · cases accepted
      exact sofar
    · split at accepted
      · split at accepted
        · cases accepted
        · simp only at accepted
          split at accepted
          · cases accepted
          · rename_i inside
            simp only [Bool.or_eq_true, decide_eq_true_eq, not_or] at inside
            exact ih ⟨sofar.few, sofar.inRange, Or.inr (by omega)⟩ accepted
      · split at accepted
        · cases accepted
        · rename_i room
          split at accepted
          · cases accepted
          · rename_i key keyParsed
            refine ih ⟨?_, ?_, sofar.frames⟩ accepted
            · rw [List.length_append]
              exact Nat.lt_of_not_le room
            · intro other member
              rcases List.mem_append.mp member with old | new
              · exact sofar.inRange other old
              · rw [List.mem_singleton.mp new]
                exact parseKeyToken_inRange keyParsed

theorem parseKeyList_ok {buf : Text} {maxKeys : Nat} {keys : List KmKey} {forFrames : Int}
    (accepted : parseKeyList buf maxKeys = .ok (keys, forFrames)) :
    KeyListOk maxKeys keys forFrames :=
  parseKeyListLoop_ok ⟨Nat.zero_le _, by simp, Or.inl rfl⟩ accepted

end Revice.Keymatrix

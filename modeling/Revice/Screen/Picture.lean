/- Module: Revice/Screen/Picture
   source: libs/screen/src/screen_core.c, libs/screen/tests/test_screen.c
   digest: The rendered text of a packed response shows the screen memory it was taken from. -/

import Revice.Screen.Bounds
import Revice.Screen.Client

set_option autoImplicit false
set_option relaxedAutoImplicit false

namespace Revice.Screen

open Revice.General

def shownText (events : List RenderEvent) : Text := (emittedTexts events).flatten

def readCells : Text → Option (List U8)
  | [] => some []
  | blank :: a :: b :: rest =>
    if blank = chr ' ' ∧ digitValue a < 16 ∧ digitValue b < 16 then
      (readCells rest).map (BitVec.ofNat 8 (16 * digitValue a + digitValue b) :: ·)
    else none
  | _ => none

def readRow : Text → Option (Nat × List U8)
  | a :: b :: c :: rest =>
    let digits := rest.takeWhile fun d => digitValue d < 16
    if [a, b, c] = str "  +" ∧ digits ≠ [] ∧ (rest.drop digits.length).head? = some (chr ':') then
      (readCells (rest.drop (digits.length + 1))).map fun bytes => (digitsValue 16 digits, bytes)
    else none
  | _ => none

example : readRow (str "  +010: 0f a0") = some (16, [0x0f#8, 0xa0#8]) := by decide +kernel

private theorem shownText_append (first second : List RenderEvent) :
    shownText (first ++ second) = shownText first ++ shownText second := by
  rw [shownText, emittedTexts, List.filterMap_append, List.flatten_append]
  rfl

private theorem shownText_flatMap {α : Type} (events : α → List RenderEvent) (rounds : List α) :
    shownText (rounds.flatMap events) = rounds.flatMap fun a => shownText (events a) := by
  induction rounds with
  | nil => rfl
  | cons a rounds ih => rw [List.flatMap_cons, List.flatMap_cons, shownText_append, ih]

private theorem hexByte_eq (b : U8) :
    hexByte b = [hexDigit (b.toNat / 16), hexDigit (b.toNat % 16)] := by
  have all : ∀ b : U8, hexByte b = [hexDigit (b.toNat / 16), hexDigit (b.toNat % 16)] := by
    decide +kernel
  exact all b

private theorem readCells_flatMap (bytes : List U8) :
    readCells (bytes.flatMap hexCell) = some bytes := by
  induction bytes with
  | nil => rfl
  | cons b bytes ih =>
    have bound := b.isLt
    have high := (hexDigit_spec (d := b.toNat / 16) (by omega)).1
    have low := (hexDigit_spec (d := b.toNat % 16) (by omega)).1
    have value : BitVec.ofNat 8 (16 * (b.toNat / 16) + b.toNat % 16) = b := by
      rw [Nat.div_add_mod, BitVec.ofNat_toNat, BitVec.setWidth_eq]
    rw [List.flatMap_cons, hexCell, hexByte_eq, List.cons_append, List.cons_append,
      List.cons_append, List.nil_append, readCells, high, low, ih, value]
    exact if_pos ⟨rfl, by omega, by omega⟩

def dumpRow (offset : Nat) (bytes : List U8) : Text := dumpLabel offset ++ bytes.flatMap hexCell

private theorem readRow_dumpRow (offset : Nat) (bytes : List U8) :
    readRow (dumpRow offset bytes) = some (offset, bytes) := by
  have digits : ∀ d ∈ zeroPad 3 (hexNat offset), digitValue d < 16 := by
    intro d member
    rcases mem_zeroPad member with rfl | member
    · decide
    · obtain ⟨value, small, rfl⟩ := mem_hexNat member
      rw [(hexDigit_spec small).1]
      exact small
  have split : dumpRow offset bytes = chr ' ' :: chr ' ' :: chr '+' ::
      (zeroPad 3 (hexNat offset) ++ chr ':' :: bytes.flatMap hexCell) := by
    rw [dumpRow, dumpLabel, List.append_assoc, List.append_assoc]
    rfl
  have run : (zeroPad 3 (hexNat offset) ++ chr ':' :: bytes.flatMap hexCell).takeWhile
      (fun d => decide (digitValue d < 16)) = zeroPad 3 (hexNat offset) := by
    rw [List.takeWhile_append_of_pos (by simpa using digits),
      List.takeWhile_cons_of_neg (by decide), List.append_nil]
  have colon : (zeroPad 3 (hexNat offset) ++ chr ':' :: bytes.flatMap hexCell).drop
      (zeroPad 3 (hexNat offset)).length = chr ':' :: bytes.flatMap hexCell := List.drop_left
  have cells : (zeroPad 3 (hexNat offset) ++ chr ':' :: bytes.flatMap hexCell).drop
      ((zeroPad 3 (hexNat offset)).length + 1) = bytes.flatMap hexCell := by
    rw [← List.drop_drop, colon]
    rfl
  rw [split, readRow]
  simp only [run, colon, cells]
  rw [if_pos ⟨by decide, zeroPad_ne_nil (by decide) _, rfl⟩, readCells_flatMap,
    digitsValue_zeroPad, digitsValue_hexNat]
  rfl

def rowBytes (buf : List U8) (k m : Nat) : List U8 :=
  (List.range m).map fun j => buf.getD (screenHeaderBytes + (k * 16 + j)) 0

/-- The rows of a dump of `n` bytes: full ones, and a last one for the rest. -/
def dumpRows (buf : List U8) (n : Nat) : List (Nat × List U8) :=
  (List.range (n / 16)).map (fun k => (k * 16, rowBytes buf k 16)) ++
    if n % 16 = 0 then [] else [(n / 16 * 16, rowBytes buf (n / 16) (n % 16))]

private def dumpPiece (buf : List U8) (r : Nat) : Text :=
  (if r % 16 = 0 then chr '\n' :: dumpLabel r else []) ++
    hexCell (buf.getD (screenHeaderBytes + r) 0)

private theorem dumpPiece_row (buf : List U8) (k : Nat) {m : Nat} (positive : 0 < m)
    (short : m ≤ 16) :
    ((List.range m).flatMap fun j => dumpPiece buf (k * 16 + j)) =
      chr '\n' :: dumpRow (k * 16) (rowBytes buf k m) := by
  obtain ⟨m, rfl⟩ := Nat.exists_eq_add_one_of_ne_zero positive.ne'
  have first : dumpPiece buf (k * 16 + 0) = chr '\n' :: dumpLabel (k * 16) ++
      hexCell (buf.getD (screenHeaderBytes + (k * 16 + 0)) 0) := by
    rw [dumpPiece, if_pos (by omega)]
    rfl
  have later : ∀ j ∈ List.range m, dumpPiece buf (k * 16 + (j + 1)) =
      hexCell (buf.getD (screenHeaderBytes + (k * 16 + (j + 1))) 0) := by
    intro j member
    have inside := List.mem_range.mp member
    rw [dumpPiece, if_neg (by omega), List.nil_append]
  rw [dumpRow, rowBytes, List.range_succ_eq_map, List.flatMap_cons, List.flatMap_map, first,
    List.map_cons, List.map_map, List.flatMap_cons, List.flatMap_map]
  simp only [List.cons_append, List.append_assoc, Function.comp_apply]
  rw [List.flatMap_congr later]

private theorem dumpPiece_rows (buf : List U8) (n : Nat) :
    (List.range n).flatMap (dumpPiece buf) =
      (dumpRows buf n).flatMap fun row => chr '\n' :: dumpRow row.1 row.2 := by
  have full : ∀ k ∈ List.range (n / 16),
      ((List.range 16).flatMap fun j => dumpPiece buf (k * 16 + j)) =
        chr '\n' :: dumpRow (k * 16) (rowBytes buf k 16) :=
    fun k _ => dumpPiece_row buf k (by decide) le_rfl
  have whole : n = n / 16 * 16 + n % 16 := by omega
  conv_lhs => rw [whole]
  rw [flatMap_range_add, flatMap_range_mul, List.flatMap_congr full, dumpRows, List.flatMap_append,
    List.flatMap_map]
  by_cases rest : n % 16 = 0
  · rw [if_pos rest, rest]
    rfl
  · rw [if_neg rest, dumpPiece_row buf (n / 16) (by omega) (by omega), List.flatMap_singleton]

theorem dumpRows_bytes (buf : List U8) (n : Nat) :
    (dumpRows buf n).flatMap Prod.snd =
      (List.range n).map fun i => buf.getD (screenHeaderBytes + i) 0 := by
  have whole : n = n / 16 * 16 + n % 16 := by omega
  conv_rhs => rw [whole]
  rw [List.map_eq_flatMap, flatMap_range_add, flatMap_range_mul, dumpRows, List.flatMap_append,
    List.flatMap_map]
  simp only [rowBytes, ← List.map_eq_flatMap]
  by_cases rest : n % 16 = 0
  · rw [if_pos rest, rest]
    rfl
  · rw [if_neg rest, List.flatMap_singleton]

def rawLines (buf : List U8) (n : Nat) : List Text :=
  [[], dumpTitle n, []] ++ (dumpRows buf n).map fun row => dumpRow row.1 row.2

def gridRow (buf : List U8) (cols r : Nat) : Text :=
  rowLabel r ++ (List.range cols).map (fun c =>
    screenScreencodeToAscii (buf.getD (screenHeaderBytes + (r * cols + c)) 0)) ++ str "|"

def borderLine (cols : Nat) : Text := borderStart ++ List.replicate cols (chr '-') ++ str "+"

def gridLines (buf : List U8) (rows cols : Nat) : List Text :=
  [[], borderLine cols] ++ (List.range rows).map (gridRow buf cols) ++
    [borderLine cols, approximation]

private theorem shownText_raw (buf : List U8) (n : Nat) :
    shownText (rawEvents buf n) = (rawLines buf n).flatMap endLine := by
  -- the newline in front of a row ends the line before it
  have shift : ∀ rows : List Text, rows.flatMap (fun row => chr '\n' :: row) ++ [chr '\n'] =
      chr '\n' :: rows.flatMap endLine := by
    intro rows
    induction rows with
    | nil => rfl
    | cons row rows ih =>
      rw [List.flatMap_cons, List.append_assoc, ih, List.flatMap_cons, endLine, List.append_assoc]
      rfl
  have pieces : ∀ r, shownText ((if r % 16 = 0 then [.emit (chr '\n' :: dumpLabel r)] else []) ++
      cellEvents buf hexCell r) = dumpPiece buf r := by
    intro r
    rw [shownText_append, dumpPiece]
    split <;> simp [shownText, emittedTexts, cellEvents]
  have rows := shift ((dumpRows buf n).map fun row => dumpRow row.1 row.2)
  rw [List.flatMap_map] at rows
  have title : shownText [.emit (chr '\n' :: endLine (dumpTitle n))] =
      chr '\n' :: endLine (dumpTitle n) := List.append_nil _
  have last : shownText [.emit (endLine [])] = [chr '\n'] := rfl
  rw [rawEvents, shownText_append, shownText_append, shownText_flatMap]
  simp only [pieces]
  rw [dumpPiece_rows, title, last, List.append_assoc, rows, rawLines, List.flatMap_append]
  simp [endLine]

private theorem shownText_grid (buf : List U8) (rows cols : Nat) :
    shownText (gridEvents buf rows cols) = (gridLines buf rows cols).flatMap endLine := by
  have text : ∀ t, shownText [.emit t] = t := fun t => List.append_nil t
  have border : shownText (borderEvents cols) =
      List.replicate cols (chr '-') ++ endLine (str "+") := by
    have dashes : ∀ k, (List.range k).flatMap (fun _ => str "-") = List.replicate k (chr '-') := by
      intro k
      induction k with
      | zero => rfl
      | succ k ih =>
        rw [List.range_succ, List.flatMap_append, ih, List.replicate_succ', List.flatMap_singleton]
        rfl
    rw [borderEvents, shownText_append, shownText_flatMap, text, dashes, text]
  have row : ∀ r, shownText ([.emit (rowLabel r)] ++
      (List.range cols).flatMap (fun c => cellEvents buf asciiCell (r * cols + c)) ++
      [.emit (endLine (str "|"))]) = endLine (gridRow buf cols r) := by
    intro r
    have cell : ∀ c, shownText (cellEvents buf asciiCell (r * cols + c)) =
        asciiCell (buf.getD (screenHeaderBytes + (r * cols + c)) 0) := fun c => List.append_nil _
    simp only [shownText_append, shownText_flatMap, text, cell, asciiCell, gridRow, endLine,
      ← List.map_eq_flatMap, List.append_assoc]
  simp only [gridEvents, shownText_append, shownText_flatMap, row, border, text]
  simp [gridLines, borderLine, endLine, List.flatMap_map]

/-- Nothing but printable characters, hence no newline. -/
def PrintableText (text : Text) : Prop := ∀ b ∈ text, Printable b

theorem PrintableText.append {s t : Text} (first : PrintableText s) (second : PrintableText t) :
    PrintableText (s ++ t) := by
  intro b member
  rcases List.mem_append.mp member with member | member
  · exact first b member
  · exact second b member

private theorem printable_rawLines (buf : List U8) {n : Nat} (small : n < 16 ^ 4) :
    ∀ l ∈ rawLines buf n, PrintableText l := by
  have empty : PrintableText [] := fun b member => absurd member List.not_mem_nil
  have row : ∀ offset < 16 ^ 4, ∀ bytes, PrintableText (dumpRow offset bytes) := by
    intro offset inside bytes
    refine PrintableText.append (shown_dumpLabel inside).printable ?_
    intro b member
    obtain ⟨byte, -, member⟩ := List.mem_flatMap.mp member
    exact (shown_hexCell byte).printable b member
  intro l member
  simp only [rawLines, dumpRows, List.map_append, List.map_map, List.mem_append, List.mem_cons,
    List.not_mem_nil, or_false, List.mem_map, List.mem_range] at member
  rcases member with (rfl | rfl | rfl) | ⟨k, inside, rfl⟩ | ⟨last, member, rfl⟩
  · exact empty
  · exact (shown_dumpTitle (by omega)).printable
  · exact empty
  · have start : k * 16 < 16 ^ 4 := by omega
    exact row _ start _
  · split at member
    · exact absurd member List.not_mem_nil
    · rw [List.mem_singleton.mp member]
      exact row _ (by omega) _

private theorem printable_gridLines (buf : List U8) {rows : Nat} (small : rows < 256) (cols : Nat) :
    ∀ l ∈ gridLines buf rows cols, PrintableText l := by
  have border : PrintableText (borderLine cols) := by
    have start : PrintableText borderStart :=
      (Shown.literal 9 (by rfl) : Shown 9 borderStart).printable
    have dashes : PrintableText (List.replicate cols (chr '-')) := by
      intro b member
      rw [List.eq_of_mem_replicate member]
      decide
    exact (start.append dashes).append (Shown.literal 1 (by rfl)).printable
  have row : ∀ r < rows, PrintableText (gridRow buf cols r) := by
    intro r inside
    have cells : PrintableText ((List.range cols).map fun c =>
        screenScreencodeToAscii (buf.getD (screenHeaderBytes + (r * cols + c)) 0)) := by
      intro b member
      obtain ⟨c, -, rfl⟩ := List.mem_map.mp member
      exact screencode_printable _
    have label : PrintableText (rowLabel r) := (shown_rowLabel (by omega)).printable
    exact (label.append cells).append (Shown.literal 1 (by rfl)).printable
  intro l member
  simp only [gridLines, List.mem_append, List.mem_cons, List.not_mem_nil, or_false, List.mem_map,
    List.mem_range] at member
  rcases member with ((rfl | rfl) | ⟨r, inside, rfl⟩) | rfl | rfl
  · exact fun b member => absurd member List.not_mem_nil
  · exact border
  · exact row r inside
  · exact border
  · exact (Shown.literal 70 (by rfl) : Shown 70 approximation).printable

theorem lines_render {bytes : List U8} {len : U32} (long : 24 ≤ len.toNat)
    (fits : CellsFit bytes len) (raw : Bool) :
    lines (shownText (screenRender (some bytes) len raw).events) =
      stateLines bytes ++
        (if raw then rawLines bytes ((bytes.getD 1 0).toNat * (bytes.getD 2 0).toNat)
          else gridLines bytes (bytes.getD 1 0).toNat (bytes.getD 2 0).toNat) ++ [[]] := by
  have rowsFit := (bytes.getD 1 0).isLt
  have small : (bytes.getD 1 0).toNat * (bytes.getD 2 0).toNat ≤ 255 * 255 :=
    Nat.mul_le_mul (by omega) (by have colsFit := (bytes.getD 2 0).isLt; omega)
  have header : shownText (headerEvents ((stateLines bytes).map endLine)) =
      (stateLines bytes).flatMap endLine := by
    rw [List.flatMap_def]
    rfl
  have text : ∀ body : List Text, (∀ l ∈ body, PrintableText l) →
      lines ((stateLines bytes).flatMap endLine ++ body.flatMap endLine) =
        stateLines bytes ++ body ++ [[]] := by
    intro body printable
    have clean : ∀ l ∈ stateLines bytes ++ body, chr '\n' ∉ l := by
      intro l member newline
      rcases List.mem_append.mp member with member | member
      · exact absurd ((shown_stateLines bytes l member).printable _ newline) (by decide)
      · exact absurd (printable l member _ newline) (by decide)
    have split := lines_flatMap clean []
    rw [List.append_nil, List.flatMap_append] at split
    exact split
  rw [(logs_screenRender bytes long raw).events_eq, shownText_append, header]
  change lines (_ ++ shownText (bodyEvents bytes len raw)) = _
  rw [bodyEvents, if_pos fits]
  cases raw with
  | true =>
    simp only [if_true, shownText_raw]
    exact text _ (printable_rawLines bytes (by omega))
  | false =>
    simp only [Bool.false_eq_true, if_false, shownText_grid]
    exact text _ (printable_gridLines bytes rowsFit _)

theorem dumpRows_get {buf : List U8} {n k : Nat} {row : Nat × List U8}
    (found : (dumpRows buf n)[k]? = some row) : row.1 = 16 * k ∧ row.2.length ≤ 16 := by
  have length : ∀ k m, (rowBytes buf k m).length = m := by
    intro k m
    rw [rowBytes, List.length_map, List.length_range]
  rw [dumpRows] at found
  by_cases full : k < n / 16
  · rw [List.getElem?_append_left (by simpa using full), List.getElem?_map,
      List.getElem?_range full, Option.map_some, Option.some.injEq] at found
    rw [← found]
    exact ⟨Nat.mul_comm k 16, (length k 16).le⟩
  · rw [List.getElem?_append_right (by simpa using full), List.length_map,
      List.length_range] at found
    split at found
    · simp at found
    · obtain ⟨last, rfl⟩ := List.getElem?_eq_some_iff.mp found
      rw [List.length_singleton] at last
      obtain rfl : k = n / 16 := by omega
      simp only [Nat.sub_self, List.getElem_cons_zero, length]
      omega

theorem readRows (rows : List (Nat × List U8)) :
    (rows.map fun row => dumpRow row.1 row.2).mapM readRow = some rows := by
  induction rows with
  | nil => rfl
  | cons row rows ih =>
    rw [List.map_cons, List.mapM_cons, readRow_dumpRow, ih]
    rfl

theorem encodeScreen_cell (r : ScreenResponse) {i : Nat} (inside : i < 1000) {b : U8}
    (cell : r.screen[i]? = some b) : (encodeScreen r).getD (screenHeaderBytes + i) 0 = b := by
  have header : r.header.length = screenHeaderBytes := length_header r
  have small : i < r.screen.length := by rw [r.screenSize]; exact inside
  rw [List.getD_eq_getElem?_getD, encodeScreen, List.getElem?_append_right (by omega), header,
    Nat.add_sub_cancel_left, List.append_assoc, List.getElem?_append_left small, cell]
  rfl

theorem gridRow_cells {buf : List U8} {cols r : Nat} {held : Nat → U8}
    (cells : ∀ c < cols, buf.getD (screenHeaderBytes + (r * cols + c)) 0 = held c) :
    gridRow buf cols r =
      rowLabel r ++ (List.range cols).map (fun c => screenScreencodeToAscii (held c)) ++
        str "|" := by
  have row : (List.range cols).map (fun c =>
      screenScreencodeToAscii (buf.getD (screenHeaderBytes + (r * cols + c)) 0)) =
      (List.range cols).map fun c => screenScreencodeToAscii (held c) := by
    refine List.map_congr_left fun c member => ?_
    rw [cells c (List.mem_range.mp member)]
  rw [gridRow, row]

/-- What a reader of the rendered response sees of the memory: the dump parses back to the
1000 bytes, sixteen to a row, and the grid has one printable character for each cell. -/
structure Shows (inp : ScreenInputs) (body : List U8) (r : ScreenResponse) : Prop where
  dump : ∃ rows parsed, lines (shownText (screenRender (some body) 4072#32 true).events) =
      stateLines body ++ [[], dumpTitle 1000, []] ++ rows ++ [[]] ∧
    rows.mapM readRow = some parsed ∧
    (∀ k row, parsed[k]? = some row → row.1 = 16 * k ∧ row.2.length ≤ 16) ∧
    parsed.flatMap Prod.snd = (List.range 1000).map fun i =>
      inp.readRam (BitVec.ofNat 16 (r.screenAddr.toNat + i))
  grid : lines (shownText (screenRender (some body) 4072#32 false).events) =
    stateLines body ++ [[], borderLine 40] ++
      ((List.range 25).map fun row => rowLabel row ++
        ((List.range 40).map fun col => screenScreencodeToAscii
          (inp.readRam (BitVec.ofNat 16 (r.screenAddr.toNat + 40 * row + col)))) ++ str "|") ++
      [borderLine 40, approximation, []]
  printable : ∀ screencode, Printable (screenScreencodeToAscii screencode)

end Revice.Screen

/- Module: Revice/Screen/Cells
   source: libs/screen/src/screen_core.c
   digest: What rendering reads and emits: the state header, then the cells or a diagnostic. -/

import Revice.Screen.Render

set_option autoImplicit false
set_option relaxedAutoImplicit false

namespace Revice.Screen

open Revice.General

def readIndices (events : List RenderEvent) : List Nat :=
  events.filterMap fun
    | .read i => some i
    | .emit _ => none

def emittedTexts (events : List RenderEvent) : List Text :=
  events.filterMap fun
    | .read _ => none
    | .emit text => some text

/-- The cells: a byte behind the header is read and the next string shows it. -/
def cellsDrawn : List RenderEvent → List (Nat × Text)
  | .read i :: .emit text :: events =>
    if screenHeaderBytes ≤ i then (i, text) :: cellsDrawn events else cellsDrawn events
  | _ :: events => cellsDrawn events
  | [] => []

def le16At (hdr : List U8) (i : Nat) : U16 :=
  (hdr.getD i 0).setWidth 16 ||| (hdr.getD (i + 1) 0).setWidth 16 <<< 8

def le32At (hdr : List U8) (i : Nat) : U32 :=
  (hdr.getD i 0).setWidth 32 ||| (hdr.getD (i + 1) 0).setWidth 32 <<< 8 |||
    (hdr.getD (i + 2) 0).setWidth 32 <<< 16 ||| (hdr.getD (i + 3) 0).setWidth 32 <<< 24

def decimalAt (hdr : List U8) (i : Nat) : Text := decimalNat (hdr.getD i 0).toNat

def hexByte (b : U8) : Text := zeroPad 2 (hexNat b.toNat)

def hexWord (w : U16) : Text := zeroPad 4 (hexNat w.toNat)

def stateLines (hdr : List U8) : List Text :=
  [str "screen: vic_mode=" ++ vicModeName (hdr.getD 0 0) ++ str " rows=" ++ decimalAt hdr 1 ++
      str " cols=" ++ decimalAt hdr 2 ++ str " vic_bank=" ++ decimalAt hdr 4,
    str "        screen=$" ++ hexWord (le16At hdr 14) ++ str " charset=$" ++
      hexWord (le16At hdr 16) ++ str " bitmap=$" ++ hexWord (le16At hdr 18),
    str "        charset_kind=" ++ charsetKindName (hdr.getD 3 0) ++ str "   payload_bytes=" ++
      decimalNat (le32At hdr 20).toNat,
    str "        D011=$" ++ hexByte (hdr.getD 10 0) ++ str " D016=$" ++ hexByte (hdr.getD 11 0) ++
      str " D018=$" ++ hexByte (hdr.getD 12 0),
    str "        border=" ++ decimalAt hdr 5 ++ str " bg0=" ++ decimalAt hdr 6 ++ str " bg1=" ++
      decimalAt hdr 7 ++ str " bg2=" ++ decimalAt hdr 8 ++ str " bg3=" ++ decimalAt hdr 9]

def headerEvents : List Text → List RenderEvent
  | [mode, addresses, kind, registers, colours] =>
    [14, 15, 16, 17, 18, 19, 20, 21, 22, 23, 0, 1, 2, 4].map .read ++
      [.emit mode, .emit addresses, .read 3, .emit kind] ++
      [10, 11, 12].map .read ++ [.emit registers] ++
      [5, 6, 7, 8, 9].map .read ++ [.emit colours]
  | _ => []

def endLine (line : Text) : Text := line ++ [chr '\n']

private theorem shown_byte (b : U8) : Shown 3 (decimalNat b.toNat) :=
  Shown.decimalNat (by decide) (by have bound := b.isLt; omega)

private theorem shown_hexByte (b : U8) : Shown 2 (hexByte b) :=
  (Shown.hexNat (k := 2) (by decide) (by have bound := b.isLt; omega)).zeroPad 2

private theorem shown_hexWord (w : U16) : Shown 4 (hexWord w) :=
  (Shown.hexNat (k := 4) (by decide) (by have bound := w.isLt; omega)).zeroPad 4

private theorem shown_u32 (x : U32) : Shown 10 (decimalNat x.toNat) :=
  Shown.decimalNat (by decide) (by have bound := x.isLt; omega)

private theorem shown_vicModeName (m : U8) : Shown 17 (vicModeName m) := by
  rw [vicModeName]
  split <;> exact Shown.literal 17 (by rfl)

private theorem shown_charsetKindName (k : U8) : Shown 19 (charsetKindName k) := by
  rw [charsetKindName]
  split_ifs <;> exact Shown.literal 19 (by rfl)

theorem shown_stateLines (hdr : List U8) : ∀ l ∈ stateLines hdr, Shown 200 l := by
  intro l member
  simp only [stateLines, List.mem_cons, List.not_mem_nil, or_false] at member
  rcases member with rfl | rfl | rfl | rfl | rfl
  · exact ((((Shown.literal 23 (by rfl)).append (shown_vicModeName _)).field 23 (by rfl)
      (shown_byte _)).field 23 (by rfl) (shown_byte _)).field 23 (by rfl) (shown_byte _)
      |>.mono (by decide)
  · exact (((Shown.literal 23 (by rfl)).append (shown_hexWord _)).field 23 (by rfl)
      (shown_hexWord _)).field 23 (by rfl) (shown_hexWord _) |>.mono (by decide)
  · exact ((Shown.literal 23 (by rfl)).append (shown_charsetKindName _)).field 23 (by rfl)
      (shown_u32 _) |>.mono (by decide)
  · exact (((Shown.literal 23 (by rfl)).append (shown_hexByte _)).field 23 (by rfl)
      (shown_hexByte _)).field 23 (by rfl) (shown_hexByte _) |>.mono (by decide)
  · exact (((((Shown.literal 23 (by rfl)).append (shown_byte _)).field 23 (by rfl)
      (shown_byte _)).field 23 (by rfl) (shown_byte _)).field 23 (by rfl) (shown_byte _)).field 23
      (by rfl) (shown_byte _) |>.mono (by decide)

theorem logs_read {buf : List U8} {i : Nat} {next : U8 → Logged RenderEvent Unit}
    {later : List RenderEvent} (rest : Logs (next (buf.getD i 0)) () later) :
    Logs (readByte buf i >>= next) () (.read i :: later) :=
  Logs.bind (fun _ => rfl : Logs (readByte buf i) (buf.getD i 0) [.read i]) rest

private theorem logs_eOutf {text : Text} (fits : text.length < 256) (nulFree : (0 : U8) ∉ text) :
    Logs (eOutf text) () [.emit text] := by
  rw [eOutf, cBuffer_eq fits nulFree]
  exact logs_note _

theorem logs_endLine {k : Nat} {line : Text} (shown : Shown k line) (small : k < 255) :
    Logs (eOutf (endLine line)) () [.emit (endLine line)] := by
  have short := shown.short
  refine logs_eOutf ?_ ?_
  · rw [endLine, List.length_append, List.length_singleton]
    omega
  · rw [endLine, List.mem_append, not_or]
    exact ⟨shown.not_mem (by decide), by decide⟩

theorem logs_showStateHeader (hdr : List U8) :
    Logs (showStateHeader hdr) () (headerEvents ((stateLines hdr).map endLine)) := by
  have sent : ∀ l ∈ stateLines hdr, Logs (eOutf (endLine l)) () [.emit (endLine l)] :=
    fun l member => logs_endLine (shown_stateLines hdr l member) (by decide)
  simp only [stateLines, List.forall_mem_cons] at sent
  obtain ⟨mode, addresses, kind, registers, colours, -⟩ := sent
  iterate 14 refine logs_read ?_
  refine mode.bind (addresses.bind (logs_read (kind.bind ?_)))
  iterate 3 refine logs_read ?_
  refine registers.bind ?_
  iterate 5 refine logs_read ?_
  exact colours

def cellEvents (buf : List U8) (cell : U8 → Text) (k : Nat) : List RenderEvent :=
  [.read (screenHeaderBytes + k), .emit (cell (buf.getD (screenHeaderBytes + k) 0))]

def cellAt (buf : List U8) (cell : U8 → Text) (k : Nat) : Nat × Text :=
  (screenHeaderBytes + k, cell (buf.getD (screenHeaderBytes + k) 0))

def hexCell (b : U8) : Text := chr ' ' :: hexByte b

def asciiCell (b : U8) : Text := [screenScreencodeToAscii b]

def dumpTitle (n : Nat) : Text := str "screen RAM hex (first " ++ decimalNat n ++ str " bytes):"

def dumpLabel (r : Nat) : Text := str "  +" ++ zeroPad 3 (hexNat r) ++ str ":"

def rowLabel (r : Nat) : Text := str "  r" ++ zeroPad 2 (decimalNat r) ++ str ":  |"

def borderStart : Text := str "        +"

def approximation : Text := str "(approximate ASCII; '.' = unmappable. Use 'screen raw' for hex.)"

def misfitLine (rows cols len : Nat) : Text :=
  str "screen: header reports rows=" ++ decimalNat rows ++ str " cols=" ++ decimalNat cols ++
    str " which doesn't fit in " ++ decimalNat len ++ str "-byte response"

def shortLine (len : Nat) : Text :=
  str "screen: response too short (" ++ decimalNat len ++ str " bytes)"

def rawEvents (buf : List U8) (n : Nat) : List RenderEvent :=
  [.emit (chr '\n' :: endLine (dumpTitle n))] ++
    (List.range n).flatMap (fun r =>
      (if r % 16 = 0 then [.emit (chr '\n' :: dumpLabel r)] else []) ++
        cellEvents buf hexCell r) ++
    [.emit (endLine [])]

def borderEvents (cols : Nat) : List RenderEvent :=
  (List.range cols).flatMap (fun _ => [.emit (str "-")]) ++ [.emit (endLine (str "+"))]

def gridEvents (buf : List U8) (rows cols : Nat) : List RenderEvent :=
  [.emit (chr '\n' :: borderStart)] ++ borderEvents cols ++
    (List.range rows).flatMap (fun r =>
      [.emit (rowLabel r)] ++
        (List.range cols).flatMap (fun c => cellEvents buf asciiCell (r * cols + c)) ++
        [.emit (endLine (str "|"))]) ++
    [.emit borderStart] ++ borderEvents cols ++ [.emit (endLine approximation)]

theorem screencode_printable (sc : U8) : Printable (screenScreencodeToAscii sc) := by
  have all : ∀ sc : U8, Printable (screenScreencodeToAscii sc) := by decide +kernel
  exact all sc

theorem shown_dumpTitle {n : Nat} (small : n < 10 ^ 5) : Shown 70 (dumpTitle n) :=
  ((Shown.literal 30 (by rfl)).append
    (Shown.decimalNat (by decide) small)).append (Shown.literal 30 (by rfl))
    |>.mono (by decide)

theorem shown_dumpLabel {r : Nat} (small : r < 16 ^ 4) : Shown 70 (dumpLabel r) :=
  ((Shown.literal 30 (by rfl)).append
    ((Shown.hexNat (by decide) small).zeroPad 3)).append (Shown.literal 30 (by rfl))
    |>.mono (by decide)

theorem shown_rowLabel {r : Nat} (small : r < 10 ^ 3) : Shown 70 (rowLabel r) :=
  ((Shown.literal 30 (by rfl)).append
    ((Shown.decimalNat (by decide) small).zeroPad 2)).append
    (Shown.literal 30 (by rfl)) |>.mono (by decide)

theorem shown_misfitLine (rows cols : U8) (len : U32) :
    Shown 200 (misfitLine rows.toNat cols.toNat len.toNat) :=
  ((((Shown.literal 30 (by rfl)).append (shown_byte rows)).field 30 (by rfl)
    (shown_byte cols)).field 30 (by rfl) (shown_u32 len)).append (Shown.literal 30 (by rfl))
    |>.mono (by decide)

theorem shown_shortLine (len : U32) : Shown 200 (shortLine len.toNat) :=
  ((Shown.literal 30 (by rfl)).append
    (shown_u32 len)).append (Shown.literal 30 (by rfl)) |>.mono (by decide)

theorem shown_hexCell (b : U8) : Shown 3 (hexCell b) :=
  (Shown.literal 1 (by rfl) : Shown 1 (str " ")).append (shown_hexByte b)

private theorem shown_asciiCell (b : U8) : Shown 3 (asciiCell b) := by
  refine ⟨Nat.le_add_left 1 2, ?_⟩
  intro c member
  rw [List.mem_singleton.mp member]
  exact screencode_printable b

private theorem logs_newline {k : Nat} {text : Text} (short : text.length ≤ k)
    (nulFree : (0 : U8) ∉ text) (small : k < 255) :
    Logs (eOutf (chr '\n' :: text)) () [.emit (chr '\n' :: text)] := by
  refine logs_eOutf ?_ ?_
  · rw [List.length_cons]
    omega
  · rw [List.mem_cons, not_or]
    exact ⟨by decide, nulFree⟩

private theorem logs_shown {k : Nat} {text : Text} (shown : Shown k text) (small : k < 256) :
    Logs (eOutf text) () [.emit text] :=
  logs_eOutf (lt_of_le_of_lt shown.short small) (shown.not_mem (by decide))

private theorem logs_cell {buf : List U8} {cell : U8 → Text} (shown : ∀ b, Shown 3 (cell b))
    (k : Nat) :
    Logs (readByte buf (screenHeaderBytes + k) >>= fun b => eOutf (cell b)) ()
      (cellEvents buf cell k) :=
  logs_read (logs_shown (shown _) (by decide))

theorem logs_renderRaw (buf : List U8) {rows cols : Nat} (rowsFit : rows < 256)
    (colsFit : cols < 256) : Logs (renderRaw buf rows cols) () (rawEvents buf (rows * cols)) := by
  have small : rows * cols ≤ 255 * 255 :=
    Nat.mul_le_mul (Nat.le_of_lt_succ rowsFit) (Nat.le_of_lt_succ colsFit)
  have title := shown_dumpTitle (n := rows * cols) (by omega)
  rw [rawEvents, List.append_assoc]
  refine Logs.bind (a := ()) ?_ (Logs.bind (a := ()) (logs_forM ?_) ?_)
  · have text : str "\nscreen RAM hex (first " ++ decimalNat (rows * cols) ++ str " bytes):\n" =
        chr '\n' :: endLine (dumpTitle (rows * cols)) := by
      rw [endLine, dumpTitle, List.append_assoc, List.append_assoc, List.append_assoc]
      rfl
    have titleShort := title.short
    rw [text]
    refine logs_newline (k := 100) ?_ ?_ (by decide)
    · rw [endLine, List.length_append, List.length_singleton]
      omega
    · rw [endLine, List.mem_append, not_or]
      exact ⟨title.not_mem (by decide), by decide⟩
  · intro r member
    have inside : r < rows * cols := List.mem_range.mp member
    have label := shown_dumpLabel (r := r) (by omega)
    have cell : Logs (readByte buf (screenHeaderBytes + r) >>= fun b => eOutf (hexCell b)) ()
        (cellEvents buf hexCell r) := logs_cell shown_hexCell r
    by_cases first : r % 16 = 0
    · rw [if_pos first, if_pos first]
      exact (logs_newline label.short (label.not_mem (by decide)) (by decide)).bind cell
    · rw [if_neg first, if_neg first]
      exact cell
  · exact logs_endLine (Shown.literal 0 (by rfl) : Shown 0 (str "")) (by decide)

private theorem logs_gridRow (buf : List U8) (cols : Nat) {r : Nat} (inside : r < 256) :
    Logs (do
      eOutf (rowLabel r)
      (List.range cols).forM fun c => do
        eOutf [screenScreencodeToAscii (← readByte buf (screenHeaderBytes + (r * cols + c)))]
      eOutf (endLine (str "|"))) ()
      ([RenderEvent.emit (rowLabel r)] ++
        (List.range cols).flatMap (fun c => cellEvents buf asciiCell (r * cols + c)) ++
        [RenderEvent.emit (endLine (str "|"))]) := by
  have cells : Logs ((List.range cols).forM fun c => do
      eOutf [screenScreencodeToAscii (← readByte buf (screenHeaderBytes + (r * cols + c)))]) ()
      ((List.range cols).flatMap fun c => cellEvents buf asciiCell (r * cols + c)) :=
    logs_forM fun c _ => logs_cell shown_asciiCell (r * cols + c)
  rw [List.append_assoc]
  refine (logs_shown (shown_rowLabel (by omega)) (by decide)).bind (cells.bind ?_)
  exact logs_endLine (Shown.literal 1 (by rfl)) (by decide)

private theorem logs_dashes (cols : Nat) : Logs ((List.range cols).forM fun _ => eOutf (str "-")) ()
    ((List.range cols).flatMap fun _ => [.emit (str "-")]) :=
  logs_forM fun _ _ => logs_shown (Shown.literal 1 (by rfl)) (by decide)

private theorem logs_approximation :
    Logs (eOutf (str "(approximate ASCII; '.' = unmappable. Use 'screen raw' for hex.)\n")) ()
      [.emit (endLine approximation)] := by
  have closing : str "(approximate ASCII; '.' = unmappable. Use 'screen raw' for hex.)\n" =
      endLine approximation := by
    simp [endLine, approximation, str]
  rw [closing]
  exact logs_endLine (Shown.literal 70 (by rfl)) (by decide)

theorem logs_renderGrid (buf : List U8) {rows : Nat} (rowsFit : rows < 256) (cols : Nat) :
    Logs (renderGrid buf rows cols) () (gridEvents buf rows cols) := by
  have start : Shown 9 borderStart := Shown.literal 9 (by rfl)
  have plus : Logs (eOutf (endLine (str "+"))) () [.emit (endLine (str "+"))] :=
    logs_endLine (Shown.literal 1 (by rfl)) (by decide)
  have rowLines := logs_forM fun r (member : r ∈ List.range rows) =>
    logs_gridRow buf cols ((List.mem_range.mp member).trans rowsFit)
  simp only [gridEvents, borderEvents, List.append_assoc] at rowLines ⊢
  refine (logs_newline start.short (start.not_mem (by decide)) (by decide)).bind ?_
  refine (logs_dashes cols).bind (plus.bind ?_)
  refine rowLines.bind ?_
  exact (logs_shown start (by decide)).bind
    ((logs_dashes cols).bind (plus.bind logs_approximation))

end Revice.Screen

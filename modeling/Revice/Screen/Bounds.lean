/- Module: Revice/Screen/Bounds
   source: libs/screen/src/screen_core.c
   digest: Rendering stays inside the buffer and draws the cells its header announces. -/

import Revice.Screen.Cells

set_option autoImplicit false
set_option relaxedAutoImplicit false

namespace Revice.Screen

open Revice.General

/-- Events that draw these cells, whatever follows them. -/
def Draws (events : List RenderEvent) (cells : List (Nat × Text)) : Prop :=
  ∀ later, cellsDrawn (events ++ later) = cells ++ cellsDrawn later

private theorem Draws.cells_eq {events : List RenderEvent} {cells : List (Nat × Text)}
    (draws : Draws events cells) : cellsDrawn events = cells := by
  have alone := draws []
  rw [List.append_nil] at alone
  rw [alone, cellsDrawn, List.append_nil]

private theorem draws_nil : Draws [] [] := fun _ => rfl

private theorem draws_emit (text : Text) : Draws [.emit text] [] := fun later => by
  cases later <;> rfl

private theorem draws_read {i : Nat} (header : i < screenHeaderBytes) : Draws [.read i] [] := by
  intro later
  rw [List.singleton_append, List.nil_append]
  cases later with
  | nil => rfl
  | cons event later =>
    cases event with
    | read j => rfl
    | emit text =>
      rw [cellsDrawn, if_neg (Nat.not_le.mpr header)]
      rfl

private theorem draws_cell (buf : List U8) (cell : U8 → Text) (k : Nat) :
    Draws (cellEvents buf cell k) [cellAt buf cell k] := by
  intro later
  have behind : screenHeaderBytes ≤ screenHeaderBytes + k := Nat.le_add_right _ _
  rw [cellEvents, List.cons_append, List.singleton_append, cellsDrawn, if_pos behind]
  rfl

theorem Draws.append {events events' : List RenderEvent} {cells cells' : List (Nat × Text)}
    (first : Draws events cells) (second : Draws events' cells') :
    Draws (events ++ events') (cells ++ cells') := by
  intro later
  rw [List.append_assoc, first, second, List.append_assoc]

private theorem draws_flatMap {α : Type} {events : α → List RenderEvent}
    {cells : α → List (Nat × Text)} (each : ∀ a, Draws (events a) (cells a)) (rounds : List α) :
    Draws (rounds.flatMap events) (rounds.flatMap cells) := by
  induction rounds with
  | nil => exact draws_nil
  | cons a rounds ih => exact (each a).append ih

private theorem draws_header (mode addresses kind registers colours : Text) :
    Draws (headerEvents [mode, addresses, kind, registers, colours]) [] := by
  intro later
  rfl

private theorem draws_raw (buf : List U8) (n : Nat) :
    Draws (rawEvents buf n) ((List.range n).map (cellAt buf hexCell)) := by
  have body : ∀ r, Draws ((if r % 16 = 0 then [.emit (chr '\n' :: dumpLabel r)] else []) ++
      cellEvents buf hexCell r) [cellAt buf hexCell r] := by
    intro r
    split
    · exact (draws_emit _).append (draws_cell buf hexCell r)
    · exact draws_nil.append (draws_cell buf hexCell r)
  have cells := ((draws_emit (chr '\n' :: endLine (dumpTitle n))).append
    (draws_flatMap body (List.range n))).append (draws_emit (endLine []))
  rw [List.nil_append, List.append_nil, ← List.map_eq_flatMap] at cells
  exact cells

private theorem draws_grid (buf : List U8) (rows cols : Nat) :
    Draws (gridEvents buf rows cols) ((List.range (rows * cols)).map (cellAt buf asciiCell)) := by
  have border : Draws (borderEvents cols) [] := by
    have dashes := draws_flatMap (fun _ : Nat => draws_emit (str "-")) (List.range cols)
    rw [List.flatMap_eq_nil_iff.mpr fun _ _ => rfl] at dashes
    exact dashes.append (draws_emit (endLine (str "+")))
  have body : ∀ r, Draws ([.emit (rowLabel r)] ++
      (List.range cols).flatMap (fun c => cellEvents buf asciiCell (r * cols + c)) ++
      [.emit (endLine (str "|"))])
      ((List.range cols).flatMap fun c => [cellAt buf asciiCell (r * cols + c)]) := by
    intro r
    have row := draws_flatMap (fun c => draws_cell buf asciiCell (r * cols + c)) (List.range cols)
    have whole := ((draws_emit (rowLabel r)).append row).append (draws_emit (endLine (str "|")))
    rw [List.nil_append, List.append_nil] at whole
    exact whole
  have cells := (((((draws_emit (chr '\n' :: borderStart)).append border).append
    (draws_flatMap body (List.range rows))).append (draws_emit borderStart)).append border).append
    (draws_emit (endLine approximation))
  simp only [List.nil_append, List.append_nil] at cells
  rw [List.map_eq_flatMap, flatMap_range_mul]
  exact cells

private theorem mem_readIndices {events : List RenderEvent} {i : Nat} :
    i ∈ readIndices events ↔ .read i ∈ events := by
  rw [readIndices, List.mem_filterMap]
  constructor
  · rintro ⟨event, member, shape⟩
    cases event with
    | read j =>
      obtain rfl : j = i := Option.some.inj shape
      exact member
    | emit text => cases shape
  · intro member
    exact ⟨.read i, member, rfl⟩

private theorem read_mem_raw {buf : List U8} {n i : Nat} (member : .read i ∈ rawEvents buf n) :
    i < screenHeaderBytes + n := by
  simp only [rawEvents, List.mem_append, List.mem_flatMap, List.mem_range, cellEvents,
    List.mem_cons, List.not_mem_nil, or_false, reduceCtorEq, false_or,
    RenderEvent.read.injEq] at member
  obtain ⟨r, inside, label | cell⟩ := member
  · split at label
    · simp at label
    · simp at label
  · omega

private theorem read_mem_grid {buf : List U8} {rows cols i : Nat}
    (member : .read i ∈ gridEvents buf rows cols) : i < screenHeaderBytes + rows * cols := by
  simp only [gridEvents, borderEvents, List.mem_append, List.mem_flatMap, List.mem_range,
    cellEvents, List.mem_cons, List.not_mem_nil, or_false, reduceCtorEq,
    false_or, RenderEvent.read.injEq, and_false, exists_false] at member
  obtain ⟨r, row, c, column, rfl⟩ := member
  have before : r * cols + c < (r + 1) * cols := by
    rw [Nat.succ_mul]
    omega
  have last : (r + 1) * cols ≤ rows * cols := Nat.mul_le_mul_right cols row
  omega

private theorem read_mem_header {mode addresses kind registers colours : Text} {i : Nat}
    (member : .read i ∈ headerEvents [mode, addresses, kind, registers, colours]) :
    i < screenHeaderBytes := by
  have indices : i ∈ readIndices (headerEvents [mode, addresses, kind, registers, colours]) :=
    mem_readIndices.mpr member
  have all : ∀ i ∈
      [14, 15, 16, 17, 18, 19, 20, 21, 22, 23, 0, 1, 2, 4, 3, 10, 11, 12, 5, 6, 7, 8, 9],
      i < screenHeaderBytes := by decide
  exact all i indices

/-- The header's announcement: there are cells, and all of them lie in the response. -/
def CellsFit (bytes : List U8) (len : U32) : Prop :=
  (bytes.getD 1 0).toNat ≠ 0 ∧ (bytes.getD 2 0).toNat ≠ 0 ∧
    24 + (bytes.getD 1 0).toNat * (bytes.getD 2 0).toNat ≤ len.toNat

instance (bytes : List U8) (len : U32) : Decidable (CellsFit bytes len) :=
  inferInstanceAs (Decidable (_ ∧ _))

private theorem misfit_iff (bytes : List U8) (len : U32) :
    ((bytes.getD 1 0).toNat ≤ 0 ∨ (bytes.getD 2 0).toNat ≤ 0 ∨
      BitVec.ofNat 32 (screenHeaderBytes + (bytes.getD 1 0).toNat * (bytes.getD 2 0).toNat) > len) ↔
      ¬CellsFit bytes len := by
  have rowsFit := (bytes.getD 1 0).isLt
  have colsFit := (bytes.getD 2 0).isLt
  have small : (bytes.getD 1 0).toNat * (bytes.getD 2 0).toNat ≤ 255 * 255 :=
    Nat.mul_le_mul (by omega) (by omega)
  have word : BitVec.ofNat 32 (screenHeaderBytes +
      (bytes.getD 1 0).toNat * (bytes.getD 2 0).toNat) > len ↔
      len.toNat < 24 + (bytes.getD 1 0).toNat * (bytes.getD 2 0).toNat := by
    rw [gt_iff_lt, BitVec.lt_def, BitVec.toNat_ofNat, screenHeaderBytes,
      Nat.mod_eq_of_lt (by omega)]
  rw [CellsFit, word]
  omega

def bodyEvents (bytes : List U8) (len : U32) (raw : Bool) : List RenderEvent :=
  let rows := (bytes.getD 1 0).toNat
  let cols := (bytes.getD 2 0).toNat
  if CellsFit bytes len then
    if raw then rawEvents bytes (rows * cols) else gridEvents bytes rows cols
  else [.emit (endLine (misfitLine rows cols len.toNat))]

theorem logs_screenRender (bytes : List U8) {len : U32} (long : 24 ≤ len.toNat) (raw : Bool) :
    Logs (screenRender (some bytes) len raw) ()
      (headerEvents ((stateLines bytes).map endLine) ++
        .read 1 :: .read 2 :: bodyEvents bytes len raw) := by
  have rowsFit := (bytes.getD 1 0).isLt
  have colsFit := (bytes.getD 2 0).isLt
  have enough : ¬len.toNat < screenHeaderBytes := Nat.not_lt.mpr long
  rw [screenRender, if_neg enough]
  refine (logs_showStateHeader bytes).bind (logs_read (logs_read ?_))
  rw [bodyEvents]
  by_cases fits : CellsFit bytes len
  · rw [if_neg fun misfit => (misfit_iff bytes len).mp misfit fits, if_pos fits]
    cases raw with
    | true => exact logs_renderRaw bytes rowsFit colsFit
    | false => exact logs_renderGrid bytes rowsFit _
  · have text : ∀ rows cols n : Nat, str "screen: header reports rows=" ++ decimalNat rows ++
        str " cols=" ++ decimalNat cols ++ str " which doesn't fit in " ++ decimalNat n ++
        str "-byte response\n" = endLine (misfitLine rows cols n) := by
      intro rows cols n
      rw [endLine, misfitLine, List.append_assoc _ (str "-byte response")]
      rfl
    rw [if_pos ((misfit_iff bytes len).mpr fits), if_neg fits, text]
    exact logs_endLine (shown_misfitLine _ _ len) (by decide)

private theorem logs_screenRender_short {buf : Option (List U8)} {len : U32} (raw : Bool)
    (short : buf = none ∨ len.toNat < 24) :
    Logs (screenRender buf len raw) () [.emit (endLine (shortLine len.toNat))] := by
  have text : str "screen: response too short (" ++ decimalNat len.toNat ++ str " bytes)\n" =
      endLine (shortLine len.toNat) := by
    rw [endLine, shortLine, List.append_assoc _ (str " bytes)")]
    rfl
  have line : Logs (eOutf (str "screen: response too short (" ++ decimalNat len.toNat ++
      str " bytes)\n")) () [.emit (endLine (shortLine len.toNat))] := by
    rw [text]
    exact logs_endLine (shown_shortLine len) (by decide)
  cases buf with
  | none => exact line
  | some bytes =>
    have small : len.toNat < screenHeaderBytes := short.resolve_left (by simp)
    rw [screenRender, if_pos small]
    exact line

private theorem read_mem_body {bytes : List U8} {len : U32} {raw : Bool} {i : Nat}
    (member : .read i ∈ bodyEvents bytes len raw) : i < len.toNat := by
  have start : screenHeaderBytes = 24 := rfl
  rw [bodyEvents] at member
  split at member
  · rename_i fits
    have inside := fits.2.2
    cases raw with
    | true =>
      have cell := read_mem_raw member
      omega
    | false =>
      have cell := read_mem_grid member
      omega
  · simp at member

private theorem draws_body {bytes : List U8} {len : U32} (raw : Bool) (fits : CellsFit bytes len) :
    Draws (bodyEvents bytes len raw)
      ((List.range ((bytes.getD 1 0).toNat * (bytes.getD 2 0).toNat)).map
        (cellAt bytes (if raw then hexCell else asciiCell))) := by
  rw [bodyEvents, if_pos fits]
  cases raw with
  | true => exact draws_raw bytes _
  | false => exact draws_grid bytes _ _

end Revice.Screen

/- Module: Revice/Keymatrix/Monitors
   source: libs/keymatrix/src/keymatrix_core.c, README.md
   digest: The text monitor and the binary monitor ask for the same taps and raw writes. -/

import Revice.Keymatrix.Effect
import Revice.Keymatrix.Words

set_option autoImplicit false
set_option relaxedAutoImplicit false

namespace Revice.Keymatrix

open Revice.General

def bodyByte (n : Int) : U8 := BitVec.ofInt 8 n

private theorem toInt_bodyByte {n : Int} (small : -128 ≤ n ∧ n ≤ 127) : (bodyByte n).toInt = n := by
  rw [bodyByte, BitVec.toInt_ofInt]
  simp only [Int.bmod]
  omega

private theorem toNat_count {n : Nat} (small : n ≤ 255) : (BitVec.ofNat 8 n).toNat = n := by
  rw [BitVec.toNat_ofNat]
  omega

section Tap

def forWords : Option Int → List Text
  | none => []
  | some n => [str "for", decimal n]

def tapWords (cells : List (Int × Int)) (frames : Option Int) : List Text :=
  cells.map pairWord ++ forWords frames

private theorem mem_forWords {frames : Option Int} {word : Text} (member : word ∈ forWords frames) :
    word = str "for" ∨ ∃ n ∈ frames, word = decimal n := by
  cases frames with
  | none => cases member
  | some n => simpa [forWords] using member

private theorem isWord_tapWords (cells : List (Int × Int)) (frames : Option Int) :
    ∀ word ∈ tapWords cells frames, IsWord word := by
  intro word member
  rw [tapWords, List.mem_append] at member
  rcases member with pair | tail
  · obtain ⟨cell, _, rfl⟩ := List.mem_map.mp pair
    exact isWord_pair cell
  · rcases mem_forWords tail with rfl | ⟨n, _, rfl⟩
    · exact ⟨by decide, by decide⟩
    · exact isWord_decimal n

/-- The argument `r1,c1 r2,c2 … for n` of a tap; without a count it ends before `for`. -/
def tapArgs (cells : List (Int × Int)) (frames : Option Int) : CString :=
  ⟨line (tapWords cells frames), nulFree_line (isWord_tapWords cells frames)⟩

/-- The body of a binary tap: mode, frames, count, and the places. -/
def tapRequest (mode : U8) (frames : U16) (cells : List (Int × Int)) : List U8 :=
  mode :: leBytes 2 frames ++ BitVec.ofNat 8 cells.length ::
    cells.flatMap fun cell => [bodyByte cell.1, bodyByte cell.2]

private theorem pairKey_bodyByte {cell : Int × Int} (inRange : CellInRange cell) :
    pairKey (bodyByte cell.1) (bodyByte cell.2) = cellKey cell := by
  obtain ⟨rowLow, rowHigh, colLow, colHigh⟩ := inRange
  rw [pairKey, toInt_bodyByte ⟨by omega, by omega⟩, toInt_bodyByte ⟨by omega, by omega⟩]
  rfl

variable {cells : List (Int × Int)} (few : cells.length ≤ kmMaxKeys)
  (inRange : ∀ cell ∈ cells, CellInRange cell)

include few inRange

private theorem length_tapArgs {frames : Option Int} (counts : ∀ n ∈ frames, 1 ≤ n ∧ n ≤ 65535) :
    (tapArgs cells frames).bytes.length < 256 := by
  have short : ∀ word ∈ tapWords cells frames, word.length ≤ 7 := by
    intro word member
    rw [tapWords, List.mem_append] at member
    rcases member with pair | tail
    · obtain ⟨cell, place, rfl⟩ := List.mem_map.mp pair
      exact length_pairWord_le (inRange cell place)
    · rcases mem_forWords tail with rfl | ⟨n, member, rfl⟩
      · decide
      · have count := counts n member
        have digits : (decimalNat n.natAbs).length ≤ 5 :=
          length_decimalNat_le (by decide) (by omega)
        rw [decimal, if_neg (by omega)]
        omega
  have bound := length_line_le short
  have ending : (forWords frames).length ≤ 2 := by
    cases frames <;> simp [forWords]
  have words : (tapWords cells frames).length ≤ 18 := by
    rw [tapWords, List.length_append, List.length_map]
    exact Nat.add_le_add few ending
  change (line (tapWords cells frames)).length < 256
  omega

variable (some_cell : cells ≠ [])

include some_cell

theorem argKeys_tapArgs {frames : Option Int} (counts : ∀ n ∈ frames, 1 ≤ n ∧ n ≤ 65535) :
    argKeys (some (tapArgs cells frames)) = some (cells.map cellKey, frames.getD (-1)) := by
  have short := length_tapArgs few inRange counts
  have someWord : line (tapWords cells frames) ≠ [] := by
    obtain ⟨cell, rest, rfl⟩ := List.exists_cons_of_ne_nil some_cell
    exact line_ne_nil (isWord_pair cell) _
  have given : givenArgs (some (tapArgs cells frames)) = some (tapArgs cells frames) := by
    simp [givenArgs, tapArgs, someWord]
  have copied : kmCopyArgs (tapArgs cells frames) 256 = some (line (tapWords cells frames)) := by
    rw [kmCopyArgs, if_neg (by omega)]
    rfl
  have parsed : parseKeyList (line (tapWords cells frames)) kmMaxKeys =
      .ok (cells.map cellKey, frames.getD (-1)) := by
    have room : ([] : List KmKey).length + cells.length ≤ kmMaxKeys := by simpa using few
    refine (readKeys_pairs inRange (forWords frames) room (-1)).trans ?_
    cases frames with
    | none => exact readKeys_nil _ _
    | some n => exact readKeys_for (counts n rfl) _ _
  have keys : cells.map cellKey ≠ [] := by simpa using some_cell
  simp only [argKeys, given, parseArgs, copied, parsed, keys, if_false]

private theorem tapBody_tapRequest (mode : U8) (frames : U16) :
    tapBody (tapRequest mode frames cells) =
      some (if mode = 1 then .tapFixed else .tapObserved,
        if frames.toNat > 0 then (frames.toNat : Int) else kmDefaultTimeoutFrames,
        cells.map cellKey) := by
  have positive := List.length_pos_iff.mpr some_cell
  have width : ∀ cell : Int × Int, [bodyByte cell.1, bodyByte cell.2].length = 2 := by
    intro cell
    rfl
  have count : ((tapRequest mode frames cells).getD 3 0).toNat = cells.length := by
    change (BitVec.ofNat 8 cells.length).toNat = cells.length
    exact toNat_count (Nat.le_trans few (by decide))
  have length : (tapRequest mode frames cells).length = 4 + cells.length * 2 := by
    simp only [tapRequest, List.length_append, List.length_cons, length_groups,
      length_flatMap_width width]
    omega
  have word : ((tapRequest mode frames cells).getD 1 0).toNat +
      ((tapRequest mode frames cells).getD 2 0).toNat * 256 = frames.toNat := by
    change ((frames.setWidth 8).setWidth 8).toNat +
      (((frames >>> 8).setWidth 8).setWidth 8).toNat * 256 = frames.toNat
    have bound := frames.isLt
    simp only [BitVec.toNat_setWidth, BitVec.toNat_ushiftRight, Nat.shiftRight_eq_div_pow]
    omega
  have keys : (List.range cells.length).map (fun i =>
      pairKey ((tapRequest mode frames cells).getD (4 + i * 2) 0)
        ((tapRequest mode frames cells).getD (4 + i * 2 + 1) 0)) = cells.map cellKey := by
    apply map_range_eq
    intro i inside
    have places : ∀ j, (tapRequest mode frames cells).getD (4 + j) 0 =
        (cells.flatMap fun cell => [bodyByte cell.1, bodyByte cell.2]).getD j 0 := by
      intro j
      rw [Nat.add_comm]
      rfl
    have row := getD_flatMap width cells 0 (j := 0) inside (by decide)
    have col := getD_flatMap width cells 0 (j := 1) inside (by decide)
    rw [places, Nat.add_assoc, places, col]
    rw [Nat.add_zero] at row
    rw [row]
    exact pairKey_bodyByte (inRange _ (List.getElem_mem inside))
  simp only [tapBody, count, length, word, keys]
  rw [if_neg (by omega), if_neg (by omega), if_neg (by simpa using ⟨some_cell, few⟩)]
  rfl

omit few inRange some_cell in
private theorem startAction_congr {first second : Option Injection} {mode : KmMode}
    {keys : List KmKey} {frames : Option Int} (left : ∃ ok, first = some ⟨mode, keys, frames, ok⟩)
    (right : ∃ ok, second = some ⟨mode, keys, frames, ok⟩) :
    startAction first = startAction second := by
  obtain ⟨_, rfl⟩ := left
  obtain ⟨_, rfl⟩ := right
  rfl

private theorem tapInjection_tapArgs {frames : Option Int}
    (counts : ∀ n ∈ frames, 1 ≤ n ∧ n ≤ 65535) :
    ∃ ok, tapInjection (some (tapArgs cells frames)) =
      some ⟨(tapFrames (frames.getD (-1))).1, cells.map cellKey,
        some (tapFrames (frames.getD (-1))).2, ok⟩ := by
  have keys := argKeys_tapArgs few inRange some_cell counts
  rw [tapInjection, Option.pmap_some' keys]
  exact ⟨_, rfl⟩

private theorem bodyInjection_tapRequest (mode : U8) (frames : U16) :
    ∃ ok, bodyInjection (tapRequest mode frames cells) =
      some ⟨if mode = 1 then .tapFixed else .tapObserved, cells.map cellKey,
        some (if frames.toNat > 0 then (frames.toNat : Int) else kmDefaultTimeoutFrames), ok⟩ := by
  have accepted := tapBody_tapRequest few inRange some_cell mode frames
  rw [bodyInjection, Option.pmap_some' accepted]
  exact ⟨_, rfl⟩

private theorem tap_action_fixed {n : Int} (count : 1 ≤ n ∧ n ≤ 65535) :
    (KmOp.tap (some (tapArgs cells (some n)))).action =
      (KmOp.binmonTap (tapRequest 1 (BitVec.ofInt 16 n) cells)).action := by
  have word : ((BitVec.ofInt 16 n).toNat : Int) = n := by
    rw [BitVec.toNat_ofInt]
    omega
  have asked : tapFrames n = (.tapFixed, n) := by
    rw [tapFrames, if_pos (by omega)]
  have counts : ∀ m ∈ some n, 1 ≤ m ∧ m ≤ 65535 := by
    intro m same
    cases same
    exact count
  have text := tapInjection_tapArgs few inRange some_cell counts
  have body := bodyInjection_tapRequest few inRange some_cell 1 (BitVec.ofInt 16 n)
  have positive : (BitVec.ofInt 16 n).toNat > 0 := by omega
  simp only [Option.getD_some, asked] at text
  simp only [if_true, positive, word] at body
  exact startAction_congr text body

private theorem tap_action_observed {frames : U16} (default : frames = 0 ∨ frames = 60) :
    (KmOp.tap (some (tapArgs cells none))).action =
      (KmOp.binmonTap (tapRequest 0 frames cells)).action := by
  have counts : ∀ m ∈ (none : Option Int), 1 ≤ m ∧ m ≤ 65535 := by simp
  have text := tapInjection_tapArgs few inRange some_cell counts
  have body := bodyInjection_tapRequest few inRange some_cell 0 frames
  have asked : tapFrames (-1) = (.tapObserved, kmDefaultTimeoutFrames) := rfl
  have same : (if frames.toNat > 0 then (frames.toNat : Int) else kmDefaultTimeoutFrames) =
      kmDefaultTimeoutFrames := by
    rcases default with rfl | rfl <;> decide
  simp only [Option.getD_none, asked] at text
  simp only [same] at body
  exact startAction_congr text body

end Tap

section Writes

abbrev RawWrite := Int × Int × Bool

def valueDigit (value : Bool) : Int := if value then 1 else 0

def pokeWords (write : RawWrite) : List Text :=
  [decimal write.1, decimal write.2.1, decimal (valueDigit write.2.2)]

private theorem isWord_pokeWords (write : RawWrite) : ∀ word ∈ pokeWords write, IsWord word := by
  intro word member
  simp only [pokeWords, List.mem_cons, List.not_mem_nil, or_false] at member
  rcases member with rfl | rfl | rfl
  · exact isWord_decimal _
  · exact isWord_decimal _
  · exact isWord_decimal _

def pokeArgs (write : RawWrite) : CString :=
  ⟨line (pokeWords write), nulFree_line (isWord_pokeWords write)⟩

def setRequest (writes : List RawWrite) : List U8 :=
  BitVec.ofNat 8 writes.length :: writes.flatMap fun write =>
    [bodyByte write.1, bodyByte write.2.1, if write.2.2 then 1 else 0]

private theorem kmTokNumber_line {n : Int} (small : -65535 ≤ n ∧ n ≤ 65535) (words : List Text) :
    kmTokNumber (line (decimal n :: words)) = some (n, line words) := by
  simp [kmTokNumber, kmTok_line (isWord_decimal n), strtol_decimal_auto (fits_long small)]

private theorem pokeWrite_pokeArgs {write : RawWrite} (inRange : CellInRange (write.1, write.2.1)) :
    pokeWrite (some (pokeArgs write)) = some write := by
  obtain ⟨row, col, value⟩ := write
  obtain ⟨rowLow, rowHigh, colLow, colHigh⟩ := inRange
  simp only at rowLow rowHigh colLow colHigh
  have digit : 0 ≤ valueDigit value ∧ valueDigit value ≤ 1 := by
    cases value <;> decide
  have short : (line (pokeWords (row, col, value))).length < 256 := by
    have shortWords : ∀ word ∈ pokeWords (row, col, value), word.length ≤ 3 := by
      intro word member
      simp only [pokeWords, List.mem_cons, List.not_mem_nil, or_false] at member
      rcases member with rfl | rfl | rfl
      · exact length_decimal_le ⟨by omega, by omega⟩
      · exact length_decimal_le ⟨by omega, by omega⟩
      · exact length_decimal_le ⟨by omega, by omega⟩
    have bound := length_line_le shortWords
    simp only [pokeWords, List.length_cons, List.length_nil] at bound ⊢
    omega
  have given : givenArgs (some (pokeArgs (row, col, value))) =
      some (pokeArgs (row, col, value)) := by
    have someWord : line (pokeWords (row, col, value)) ≠ [] := line_ne_nil (isWord_decimal row) _
    simp [givenArgs, pokeArgs, someWord]
  have copied : kmCopyArgs (pokeArgs (row, col, value)) 256 =
      some (line (pokeWords (row, col, value))) := by
    have fits : ¬(pokeArgs (row, col, value)).bytes.length ≥ 256 := Nat.not_le.mpr short
    rw [kmCopyArgs, if_neg fits]
    rfl
  have operands : pokeOperands (line (pokeWords (row, col, value))) =
      some (row, col, valueDigit value) := by
    have allowed : (decide (valueDigit value ≠ 0) && decide (valueDigit value ≠ 1)) = false := by
      cases value <;> decide
    simp only [pokeOperands, pokeWords, kmTokNumber_line (n := row) ⟨by omega, by omega⟩,
      kmTokNumber_line (n := col) ⟨by omega, by omega⟩,
      kmTokNumber_line (n := valueDigit value) ⟨by omega, by omega⟩, allowed, Bool.false_eq_true,
      if_false]
  have inside : (decide (col < 0) || decide (col > 7) || decide (row < -8) || decide (row > 15)) =
      false := by
    simp only [Bool.or_eq_false_iff, decide_eq_false_iff_not]
    omega
  simp only [pokeWrite, given, copied, operands, inside, Bool.false_eq_true, if_false]
  cases value <;> rfl

variable {writes : List RawWrite}

private theorem setTriples_setRequest (few : writes.length ≤ 255)
    (inRange : ∀ write ∈ writes, CellInRange (write.1, write.2.1)) :
    setTriples (setRequest writes) = some writes := by
  have width : ∀ write : RawWrite,
      ([bodyByte write.1, bodyByte write.2.1, if write.2.2 then 1 else 0] : List U8).length =
        3 := by
    intro write
    rfl
  have count : ((setRequest writes).getD 0 0).toNat = writes.length := toNat_count few
  have length : (setRequest writes).length = 1 + writes.length * 3 := by
    rw [setRequest, List.length_cons, length_flatMap_width width, Nat.add_comm]
  have triples : (List.range writes.length).map (fun i =>
      (((setRequest writes).getD (1 + i * 3) 0).toInt,
        ((setRequest writes).getD (1 + i * 3 + 1) 0).toInt,
        decide ((setRequest writes).getD (1 + i * 3 + 2) 0 ≠ 0))) = writes.map id := by
    apply map_range_eq
    intro i inside
    have places : ∀ j, (setRequest writes).getD (1 + j) 0 =
        (writes.flatMap fun write =>
          [bodyByte write.1, bodyByte write.2.1, if write.2.2 then 1 else 0]).getD j 0 := by
      intro j
      rw [Nat.add_comm]
      rfl
    have row := getD_flatMap width writes 0 (j := 0) inside (by decide)
    have col := getD_flatMap width writes 0 (j := 1) inside (by decide)
    have value := getD_flatMap width writes 0 (j := 2) inside (by decide)
    obtain ⟨rowLow, rowHigh, colLow, colHigh⟩ := inRange _ (List.getElem_mem inside)
    rw [places, Nat.add_assoc, places, Nat.add_assoc, places, col, value]
    rw [Nat.add_zero] at row
    rw [row]
    simp only [List.getD_cons_zero, List.getD_cons_succ]
    rw [toInt_bodyByte ⟨by omega, by omega⟩, toInt_bodyByte ⟨by omega, by omega⟩]
    cases set : writes[i].2.2 <;> simp [← set]
  rw [List.map_id] at triples
  simp only [setTriples, count, length, triples]
  rw [if_neg (by omega), if_neg (by omega)]

private theorem poke_step (sys : KmSys) {tick : KmTick} {write : RawWrite}
    (inRange : CellInRange (write.1, write.2.1)) (poke : tick.op = .poke (some (pokeArgs write))) :
    (kmStep sys tick).1 =
      ⟨sys.km, { sys.env with matrix := writeCells sys.env.matrix [write] }⟩ := by
  rw [kmStep_eq, poke, KmOp.action, pokeWrite_pokeArgs inRange]
  rfl

private theorem pokes_run (sys : KmSys)
    (inRange : ∀ write ∈ writes, CellInRange (write.1, write.2.1)) {pokes : List KmTick}
    (ops : pokes.map KmTick.op = writes.map fun write => .poke (some (pokeArgs write))) :
    kmMachine.exec sys pokes =
      ⟨sys.km, { sys.env with matrix := writeCells sys.env.matrix writes }⟩ := by
  induction writes generalizing sys pokes with
  | nil =>
    rw [List.map_nil, List.map_eq_nil_iff] at ops
    subst ops
    rfl
  | cons write writes ih =>
    rw [List.map_cons, List.map_eq_cons_iff] at ops
    obtain ⟨tick, rest, rfl, poke, later⟩ := ops
    have here := poke_step sys (inRange write List.mem_cons_self) poke
    rw [Machine.exec_cons]
    change kmMachine.exec (kmStep sys tick).1 rest = _
    rw [here, ih _ (fun other member => inRange other (List.mem_cons_of_mem write member)) later]
    rfl

end Writes

/-- The two monitors agree. From every reachable state and at every clock a tap
line and the tap body of the same places and frames leave the same system, and so
do a SET body and the pokes of its writes, one after the other. -/
theorem monitors_agree (ticks : List KmTick) (now cyclesPerFrame : U64) :
    (∀ cells : List (Int × Int), cells ≠ [] → cells.length ≤ kmMaxKeys →
      (∀ cell ∈ cells, CellInRange cell) →
        (∀ n : Int, 1 ≤ n → n ≤ 65535 →
          (kmStep (kmRun ticks)
              ⟨now, cyclesPerFrame, .tap (some (tapArgs cells (some n)))⟩).1 =
            (kmStep (kmRun ticks)
              ⟨now, cyclesPerFrame, .binmonTap (tapRequest 1 (BitVec.ofInt 16 n) cells)⟩).1) ∧
        ∀ frames : U16, frames = 0 ∨ frames = 60 →
          (kmStep (kmRun ticks) ⟨now, cyclesPerFrame, .tap (some (tapArgs cells none))⟩).1 =
            (kmStep (kmRun ticks)
              ⟨now, cyclesPerFrame, .binmonTap (tapRequest 0 frames cells)⟩).1) ∧
      ∀ writes : List RawWrite, writes.length ≤ 255 →
        (∀ write ∈ writes, CellInRange (write.1, write.2.1)) →
        ∀ pokes : List KmTick,
          pokes.map KmTick.op = writes.map (fun write => .poke (some (pokeArgs write))) →
          (kmStep (kmRun ticks) ⟨now, cyclesPerFrame, .binmonSet (setRequest writes)⟩).1 =
            kmMachine.exec (kmRun ticks) pokes := by
  constructor
  · intro cells some_cell few inRange
    constructor
    · intro n low high
      rw [kmStep_eq, kmStep_eq]
      simp only [tap_action_fixed few inRange some_cell ⟨low, high⟩]
    · intro frames default
      rw [kmStep_eq, kmStep_eq]
      simp only [tap_action_observed few inRange some_cell default]
  · intro writes few inRange pokes ops
    rw [kmStep_eq, pokes_run (kmRun ticks) inRange ops, KmOp.action,
      setTriples_setRequest few inRange]
    simp only [KmSys.act, KmAction.perform, run_writes]

theorem monitors_agree_restore :
    (kmStep (kmRun []) ⟨0, 19656, .tap (some (tapArgs [(1, 7), (-3, 0)] (some 300)))⟩).1 =
      (kmStep (kmRun [])
        ⟨0, 19656, .binmonTap (tapRequest 1 (BitVec.ofInt 16 300) [(1, 7), (-3, 0)])⟩).1 :=
  ((monitors_agree [] 0 19656).1 [(1, 7), (-3, 0)] (by decide) (by decide) (by decide)).1 300
    (by decide) (by decide)

/-- The words and the body of a tap of two places for 300 frames. -/
example : (tapArgs [(1, 7), (-3, 0)] (some 300)).bytes = str "1,7 -3,0 for 300" ∧
    tapRequest 1 300 [(1, 7), (-3, 0)] = [1, 44, 1, 2, 1, 7, 0xfd, 0] := by
  decide +kernel

end Revice.Keymatrix

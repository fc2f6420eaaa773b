/- Module: Revice/Screen/Core
   source: libs/screen/src/screen_core.c, libs/screen/include/revice_screen.h
   digest: Packing a snapshot of the video chip and its memory into the screen response. -/

import Revice.General.Bytes
import Revice.General.Cursor

set_option autoImplicit false
set_option relaxedAutoImplicit false

namespace Revice.Screen

open Revice.General

def screenHeaderBytes : Nat := 24
def screenTextCols : Nat := 40
def screenTextRows : Nat := 25
def screenTextCells : Nat := screenTextCols * screenTextRows
def screenCharsetBytes : Nat := 2048
def screenResponseSize : Nat := screenHeaderBytes + screenTextCells * 2 + screenCharsetBytes

def screenCharsetRomUpperGfx : U8 := 0#8
def screenCharsetRomUpperLower : U8 := 1#8
def screenCharsetRam : U8 := 2#8

/-- The register snapshot, the two bank bases, the chargen window and the three
memory readers. -/
structure ScreenInputs where
  d011 : U8
  d016 : U8
  d018 : U8
  d020 : U8
  d021 : U8
  d022 : U8
  d023 : U8
  d024 : U8
  vbankPhi1 : U16
  vbankPhi2 : U16
  chargenMaskPhi1 : U16
  chargenValuePhi1 : U16
  readRam : U16 → U8
  readColorram : U16 → U8
  readChargen : U16 → U8

inductive MemRead
  | ram (addr : U16)
  | colorram (addr : U16)
  | chargen (offset : U16)
  deriving DecidableEq

def ScreenInputs.read (inp : ScreenInputs) : MemRead → U8
  | .ram addr => inp.readRam addr
  | .colorram addr => inp.readColorram addr
  | .chargen offset => inp.readChargen offset

/-- The response buffer being filled, and the reads made so far, each with the
buffer index its value went to. -/
structure Packing where
  buf : List U8
  reads : List (Nat × MemRead)

def memset (buf : List U8) (val : U8) (n : Nat) : List U8 := List.replicate n val ++ buf.drop n

def putLe16 (buf : List U8) (p : Nat) (v : U16) : List U8 :=
  (buf.set p (v.setWidth 8)).set (p + 1) ((v >>> 8).setWidth 8)

def putLe32 (buf : List U8) (p : Nat) (v : U32) : List U8 :=
  (((buf.set p (v.setWidth 8)).set (p + 1) ((v >>> 8).setWidth 8)).set (p + 2)
    ((v >>> 16).setWidth 8)).set (p + 3) ((v >>> 24).setWidth 8)

def deriveVicMode (inp : ScreenInputs) : U8 :=
  ((inp.d011 &&& 0x60#8) ||| (inp.d016 &&& 0x10#8)) >>> 4

def deriveVicBank (inp : ScreenInputs) : U8 := ((inp.vbankPhi2 >>> 14) &&& 0x03#16).setWidth 8

/-- The local variables of `screen_pack` that are computed before the first store. -/
def screenAddr (inp : ScreenInputs) : U16 :=
  inp.vbankPhi2 + ((inp.d018 &&& 0xf0#8).setWidth 16 <<< 6)

def charsetVicAddr (inp : ScreenInputs) : U16 :=
  ((inp.d018 &&& 0x0e#8).setWidth 16 <<< 10) + inp.vbankPhi1

def charsetAddr (inp : ScreenInputs) : U16 := charsetVicAddr inp

def bitmapAddr (inp : ScreenInputs) : U16 :=
  inp.vbankPhi1 + ((inp.d018 &&& 0x08#8).setWidth 16 <<< 10)

def charsetInChargenWindow (inp : ScreenInputs) : Bool :=
  charsetVicAddr inp &&& inp.chargenMaskPhi1 = inp.chargenValuePhi1

def charsetKind (inp : ScreenInputs) : U8 :=
  if charsetInChargenWindow inp then
    if charsetVicAddr inp &&& 0x0800#16 = 0 then screenCharsetRomUpperGfx
    else screenCharsetRomUpperLower
  else screenCharsetRam

def packHeader (inp : ScreenInputs) (buf : List U8) : List U8 :=
  let buf := memset buf 0 screenHeaderBytes
  let buf := buf.set 0 (deriveVicMode inp)
  let buf := buf.set 1 (BitVec.ofNat 8 screenTextRows)
  let buf := buf.set 2 (BitVec.ofNat 8 screenTextCols)
  let buf := buf.set 3 (charsetKind inp)
  let buf := buf.set 4 (deriveVicBank inp)
  let buf := buf.set 5 (inp.d020 &&& 0x0f#8)
  let buf := buf.set 6 (inp.d021 &&& 0x0f#8)
  let buf := buf.set 7 (inp.d022 &&& 0x0f#8)
  let buf := buf.set 8 (inp.d023 &&& 0x0f#8)
  let buf := buf.set 9 (inp.d024 &&& 0x0f#8)
  let buf := buf.set 10 inp.d011
  let buf := buf.set 11 inp.d016
  let buf := buf.set 12 inp.d018
  -- index 13 keeps the zero of the memset
  let buf := putLe16 buf 14 (screenAddr inp)
  let buf := putLe16 buf 16 (charsetAddr inp)
  let buf := putLe16 buf 18 (if deriveVicMode inp &&& 0x02#8 ≠ 0 then bitmapAddr inp else 0)
  putLe32 buf 20 (BitVec.ofNat 32 (screenTextCells + screenTextCells + screenCharsetBytes))

/-- One copy loop: `n` reads, each value stored, as `cell` has it, at its own index. -/
def copyLoop (inp : ScreenInputs) (dst n : Nat) (source : Nat → MemRead) (cell : U8 → U8)
    (packing : Packing) : Packing :=
  (List.range n).foldl (fun packing i =>
    ⟨packing.buf.set (dst + i) (cell (inp.read (source i))),
      packing.reads ++ [(dst + i, source i)]⟩) packing

def screenRead (inp : ScreenInputs) (i : Nat) : MemRead :=
  .ram (screenAddr inp + BitVec.ofNat 16 i)

def colorRead (i : Nat) : MemRead := .colorram (0xd800#16 + BitVec.ofNat 16 i)

/-- Read `i` of the character loop: the ROM inside the chargen window, RAM elsewhere. -/
def charsetRead (inp : ScreenInputs) (i : Nat) : MemRead :=
  if charsetInChargenWindow inp then
    .chargen ((charsetVicAddr inp &&& 0x0800#16) + BitVec.ofNat 16 i)
  else .ram (charsetAddr inp + BitVec.ofNat 16 i)

def screenDst : Nat := screenHeaderBytes
def colorDst : Nat := screenDst + screenTextCells
def charsetDst : Nat := colorDst + screenTextCells

def packAll (inp : ScreenInputs) (buf : List U8) : Packing :=
  let packing : Packing := ⟨packHeader inp buf, []⟩
  let packing := copyLoop inp screenDst screenTextCells (screenRead inp) id packing
  let packing := copyLoop inp colorDst screenTextCells colorRead (· &&& 0x0f#8) packing
  copyLoop inp charsetDst screenCharsetBytes (charsetRead inp) id packing

/-- What a call leaves behind: the return value, the two objects behind the
pointers, and the memory that was read. -/
structure PackResult where
  rc : Int
  buf : Option (List U8)
  outLen : Option U32
  reads : List (Nat × MemRead)

/-- A null pointer is `none`. -/
def screenPack (inp : Option ScreenInputs) (buf : Option (List U8)) (buflen : U32)
    (outLen : Option U32) : PackResult :=
  match inp, buf, outLen with
  | some inp, some bytes, some _ =>
    if buflen.toNat < screenResponseSize then ⟨-1, buf, outLen, []⟩
    else
      let packed := packAll inp bytes
      ⟨0, some packed.buf, some (BitVec.ofNat 32 screenResponseSize), packed.reads⟩
  | _, _, _ => ⟨-1, buf, outLen, []⟩

def loopValues (inp : ScreenInputs) (n : Nat) (source : Nat → MemRead) (cell : U8 → U8) :
    List U8 :=
  (List.range n).map fun i => cell (inp.read (source i))

@[simp] theorem length_loopValues (inp : ScreenInputs) (n : Nat) (source : Nat → MemRead)
    (cell : U8 → U8) : (loopValues inp n source cell).length = n := by
  rw [loopValues, List.length_map, List.length_range]

theorem loopValues_get (inp : ScreenInputs) {n i : Nat} (source : Nat → MemRead)
    (cell : U8 → U8) (inside : i < n) :
    (loopValues inp n source cell)[i]? = some (cell (inp.read (source i))) := by
  rw [loopValues, List.getElem?_map, List.getElem?_range inside, Option.map_some]

private theorem copyLoop_succ (inp : ScreenInputs) (dst n : Nat) (source : Nat → MemRead)
    (cell : U8 → U8) (packing : Packing) :
    copyLoop inp dst (n + 1) source cell packing =
      ⟨(copyLoop inp dst n source cell packing).buf.set (dst + n) (cell (inp.read (source n))),
        (copyLoop inp dst n source cell packing).reads ++ [(dst + n, source n)]⟩ := by
  rw [copyLoop, List.range_succ, List.foldl_append]
  rfl

private theorem copyLoop_buf (inp : ScreenInputs) (dst n : Nat) (source : Nat → MemRead)
    (cell : U8 → U8) (packing : Packing) :
    (copyLoop inp dst n source cell packing).buf =
      (Cursor.puts ⟨packing.buf, dst⟩ (loopValues inp n source cell)).buf := by
  induction n with
  | zero => rfl
  | succ n ih =>
    have reached : (Cursor.puts ⟨packing.buf, dst⟩ (loopValues inp n source cell)).pos =
        dst + n := by
      rw [Cursor.puts_pos, length_loopValues]
    have values : loopValues inp (n + 1) source cell =
        loopValues inp n source cell ++ [cell (inp.read (source n))] := by
      rw [loopValues, List.range_succ, List.map_append]
      rfl
    rw [copyLoop_succ, values, Cursor.puts_append, ih]
    change _ = (Cursor.put _ _).buf
    rw [Cursor.put, reached]

private theorem copyLoop_reads (inp : ScreenInputs) (dst n : Nat) (source : Nat → MemRead)
    (cell : U8 → U8) (packing : Packing) :
    (copyLoop inp dst n source cell packing).reads =
      packing.reads ++ (List.range n).map fun i => (dst + i, source i) := by
  induction n with
  | zero => exact (List.append_nil _).symm
  | succ n ih =>
    rw [copyLoop_succ, List.range_succ, List.map_append, ih, List.append_assoc]
    rfl

def screenSection (inp : ScreenInputs) : List U8 :=
  loopValues inp screenTextCells (screenRead inp) id

def colorSection (inp : ScreenInputs) : List U8 :=
  loopValues inp screenTextCells colorRead (· &&& 0x0f#8)

def charsetSection (inp : ScreenInputs) : List U8 :=
  loopValues inp screenCharsetBytes (charsetRead inp) id

@[simp] theorem length_screenSection (inp : ScreenInputs) :
    (screenSection inp).length = screenTextCells := length_loopValues _ _ _ _

@[simp] theorem length_colorSection (inp : ScreenInputs) :
    (colorSection inp).length = screenTextCells := length_loopValues _ _ _ _

@[simp] theorem length_charsetSection (inp : ScreenInputs) :
    (charsetSection inp).length = screenCharsetBytes := length_loopValues _ _ _ _

def payload (inp : ScreenInputs) : List U8 :=
  screenSection inp ++ colorSection inp ++ charsetSection inp

@[simp] theorem length_payload (inp : ScreenInputs) :
    (payload inp).length = screenTextCells + screenTextCells + screenCharsetBytes := by
  rw [payload, List.length_append, List.length_append, length_screenSection, length_colorSection,
    length_charsetSection]

private theorem packHeader_eq (inp : ScreenInputs) (buf : List U8) :
    packHeader inp buf = packHeader inp [] ++ buf.drop screenHeaderBytes := by
  simp [packHeader, memset, putLe16, putLe32, screenHeaderBytes, List.replicate]

@[simp] theorem length_packHeader (inp : ScreenInputs) :
    (packHeader inp []).length = screenHeaderBytes := by
  simp [packHeader, memset, putLe16, putLe32, screenHeaderBytes]

private theorem packAll_puts (inp : ScreenInputs) (buf : List U8) :
    (packAll inp buf).buf =
      (Cursor.puts ⟨packHeader inp buf, screenHeaderBytes⟩ (payload inp)).buf := by
  have color : colorDst = screenHeaderBytes + (screenSection inp).length := by
    rw [length_screenSection]
    rfl
  have charset : charsetDst =
      screenHeaderBytes + (screenSection inp ++ colorSection inp).length := by
    rw [List.length_append, length_screenSection, length_colorSection]
    rfl
  rw [packAll, copyLoop_buf, copyLoop_buf, copyLoop_buf, payload, ← Cursor.puts_resume,
    ← Cursor.puts_resume, ← charset, ← color]
  simp only [screenSection, colorSection, charsetSection, screenDst]

theorem packAll_buf (inp : ScreenInputs) (buf : List U8)
    (room : screenResponseSize ≤ buf.length) :
    (packAll inp buf).buf =
      packHeader inp [] ++ payload inp ++ buf.drop screenResponseSize := by
  have filled : screenHeaderBytes + (payload inp).length = screenResponseSize := by
    rw [length_payload]
    rfl
  have fits : screenHeaderBytes ≤ buf.length := Nat.le_trans (by decide) room
  have header : (packHeader inp buf).length = buf.length := by
    rw [packHeader_eq, List.length_append, length_packHeader, List.length_drop,
      Nat.add_sub_cancel' fits]
  have front : (packHeader inp buf).take screenHeaderBytes = packHeader inp [] := by
    rw [packHeader_eq]
    exact List.take_left' (length_packHeader inp)
  have behind : (packHeader inp buf).drop screenResponseSize = buf.drop screenResponseSize := by
    rw [packHeader_eq, ← filled, ← List.drop_drop, List.drop_left' (length_packHeader inp),
      List.drop_drop]
  rw [packAll_puts, Cursor.puts_buf]
  · simp only [filled, front, behind]
  · simp only [filled, header]
    exact room

theorem packAll_reads (inp : ScreenInputs) (buf : List U8) :
    (packAll inp buf).reads =
      ((List.range screenTextCells).map fun i => (screenDst + i, screenRead inp i)) ++
        ((List.range screenTextCells).map fun i => (colorDst + i, colorRead i)) ++
        ((List.range screenCharsetBytes).map fun i => (charsetDst + i, charsetRead inp i)) := by
  rw [packAll, copyLoop_reads, copyLoop_reads, copyLoop_reads, List.nil_append]

end Revice.Screen

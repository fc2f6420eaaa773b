/- Module: Revice/Screen/Client
   source: README.md, libs/screen/src/screen_core.c
   digest: What a client reads out of a screen response is what the machine held. -/

import Revice.Screen.Core

set_option autoImplicit false
set_option relaxedAutoImplicit false

namespace Revice.Screen

open Revice.General

/-- A response by the documented fields; the sections have their documented sizes. -/
structure ScreenResponse where
  vicMode : U8
  rows : U8
  cols : U8
  charsetKind : U8
  vicBank : U8
  borderColor : U8
  bgColor0 : U8
  bgColor1 : U8
  bgColor2 : U8
  bgColor3 : U8
  d011 : U8
  d016 : U8
  d018 : U8
  reserved : U8
  screenAddr : U16
  charsetAddr : U16
  bitmapAddr : U16
  payloadLen : U32
  screen : List U8
  color : List U8
  charset : List U8
  screenSize : screen.length = 1000
  colorSize : color.length = 1000
  charsetSize : charset.length = 2048

def ScreenResponse.header (r : ScreenResponse) : List U8 :=
  [r.vicMode, r.rows, r.cols, r.charsetKind, r.vicBank, r.borderColor, r.bgColor0, r.bgColor1,
    r.bgColor2, r.bgColor3, r.d011, r.d016, r.d018, r.reserved] ++ leBytes 2 r.screenAddr ++
    leBytes 2 r.charsetAddr ++ leBytes 2 r.bitmapAddr ++ leBytes 4 r.payloadLen

/-- The documented wire form. -/
def encodeScreen (r : ScreenResponse) : List U8 := r.header ++ (r.screen ++ r.color ++ r.charset)

def fieldAt (body : List U8) (offset size : Nat) : List U8 := (body.drop offset).take size

/-- Reading a response by the documented offsets. -/
def decodeScreen (body : List U8) : Option ScreenResponse :=
  if whole : body.length = 4072 then
    some
      { vicMode := body.getD 0 0
        rows := body.getD 1 0
        cols := body.getD 2 0
        charsetKind := body.getD 3 0
        vicBank := body.getD 4 0
        borderColor := body.getD 5 0
        bgColor0 := body.getD 6 0
        bgColor1 := body.getD 7 0
        bgColor2 := body.getD 8 0
        bgColor3 := body.getD 9 0
        d011 := body.getD 10 0
        d016 := body.getD 11 0
        d018 := body.getD 12 0
        reserved := body.getD 13 0
        screenAddr := ofLeBytes 16 (fieldAt body 14 2)
        charsetAddr := ofLeBytes 16 (fieldAt body 16 2)
        bitmapAddr := ofLeBytes 16 (fieldAt body 18 2)
        payloadLen := ofLeBytes 32 (fieldAt body 20 4)
        screen := fieldAt body 24 1000
        color := fieldAt body 1024 1000
        charset := fieldAt body 2024 2048
        screenSize := by simp [fieldAt, whole]
        colorSize := by simp [fieldAt, whole]
        charsetSize := by simp [fieldAt, whole] }
  else none

private theorem fieldAt_append {before field after : List U8} {offset size : Nat}
    (starts : before.length = offset) (fills : field.length = size) :
    fieldAt (before ++ (field ++ after)) offset size = field := by
  rw [fieldAt, List.drop_left' starts, List.take_left' fills]

@[simp] theorem length_header (r : ScreenResponse) : r.header.length = 24 := by
  simp [ScreenResponse.header]

private theorem length_encodeScreen (r : ScreenResponse) : (encodeScreen r).length = 4072 := by
  simp only [encodeScreen, List.length_append, length_header, r.screenSize, r.colorSize,
    r.charsetSize]

theorem decode_encodeScreen (r : ScreenResponse) : decodeScreen (encodeScreen r) = some r := by
  have screenAddr : fieldAt (encodeScreen r) 14 2 = leBytes 2 r.screenAddr := rfl
  have charsetAddr : fieldAt (encodeScreen r) 16 2 = leBytes 2 r.charsetAddr := rfl
  have bitmapAddr : fieldAt (encodeScreen r) 18 2 = leBytes 2 r.bitmapAddr := rfl
  have payloadLen : fieldAt (encodeScreen r) 20 4 = leBytes 4 r.payloadLen := rfl
  have screen : fieldAt (encodeScreen r) 24 1000 = r.screen := by
    rw [encodeScreen, List.append_assoc]
    exact fieldAt_append (length_header r) r.screenSize
  have color : fieldAt (encodeScreen r) 1024 1000 = r.color := by
    rw [encodeScreen, List.append_assoc, ← List.append_assoc]
    exact fieldAt_append (by rw [List.length_append, length_header, r.screenSize]) r.colorSize
  have charset : fieldAt (encodeScreen r) 2024 2048 = r.charset := by
    have starts : (r.header ++ (r.screen ++ r.color)).length = 2024 := by
      rw [List.length_append, List.length_append, length_header, r.screenSize, r.colorSize]
    have last : fieldAt (r.header ++ (r.screen ++ r.color) ++ (r.charset ++ [])) 2024 2048 =
        r.charset := fieldAt_append starts r.charsetSize
    rw [List.append_nil, List.append_assoc] at last
    exact last
  have word : ∀ x : U16, ofLeBytes 16 (leBytes 2 x) = x := ofLeBytes_leBytes (by decide)
  have long : ∀ x : U32, ofLeBytes 32 (leBytes 4 x) = x := ofLeBytes_leBytes (by decide)
  rw [decodeScreen, dif_pos (length_encodeScreen r)]
  simp only [screenAddr, charsetAddr, bitmapAddr, payloadLen, screen, color, charset, word, long]
  rfl

/-- The state the core packs for the snapshot. Its character section is read, in every mode, at
the character set's address or from the chargen ROM. -/
def screenState (inp : ScreenInputs) : ScreenResponse where
  vicMode := deriveVicMode inp
  rows := 25#8
  cols := 40#8
  charsetKind := charsetKind inp
  vicBank := deriveVicBank inp
  borderColor := inp.d020 &&& 0x0f#8
  bgColor0 := inp.d021 &&& 0x0f#8
  bgColor1 := inp.d022 &&& 0x0f#8
  bgColor2 := inp.d023 &&& 0x0f#8
  bgColor3 := inp.d024 &&& 0x0f#8
  d011 := inp.d011
  d016 := inp.d016
  d018 := inp.d018
  reserved := 0#8
  screenAddr := screenAddr inp
  charsetAddr := charsetAddr inp
  bitmapAddr := if deriveVicMode inp &&& 0x02#8 ≠ 0 then bitmapAddr inp else 0
  payloadLen := 4048#32
  screen := screenSection inp
  color := colorSection inp
  charset := charsetSection inp
  screenSize := length_screenSection inp
  colorSize := length_colorSection inp
  charsetSize := length_charsetSection inp

theorem packHeader_documented (inp : ScreenInputs) :
    packHeader inp [] = (screenState inp).header := by
  simp [packHeader, ScreenResponse.header, screenState, memset, putLe16, putLe32, groups,
    screenHeaderBytes, screenTextRows, screenTextCols, screenTextCells, screenCharsetBytes]

/-- What a call sends: as much of the buffer as it reports. -/
def PackResult.body (result : PackResult) : Option (List U8) :=
  result.buf.bind fun buf => result.outLen.map fun outLen => buf.take outLen.toNat

theorem screenPack_body (inp : ScreenInputs) (buf : List U8) (buflen outLen : U32)
    (large : screenResponseSize ≤ buflen.toNat) (room : buflen.toNat ≤ buf.length) :
    (screenPack (some inp) (some buf) buflen (some outLen)).rc = 0 ∧
      (screenPack (some inp) (some buf) buflen (some outLen)).reads = (packAll inp buf).reads ∧
      (screenPack (some inp) (some buf) buflen (some outLen)).body =
        some (encodeScreen (screenState inp)) := by
  have packed : screenPack (some inp) (some buf) buflen (some outLen) =
      ⟨0, some (packAll inp buf).buf, some (BitVec.ofNat 32 screenResponseSize),
        (packAll inp buf).reads⟩ := by
    simp only [screenPack, if_neg (Nat.not_lt.mpr large)]
  have size : (BitVec.ofNat 32 screenResponseSize).toNat = screenResponseSize := by decide
  have documented : packHeader inp [] ++ payload inp = encodeScreen (screenState inp) := by
    rw [packHeader_documented, encodeScreen, payload, screenState]
  have cut : (encodeScreen (screenState inp) ++ buf.drop screenResponseSize).take
      screenResponseSize = encodeScreen (screenState inp) :=
    List.take_left' (length_encodeScreen _)
  simp only [packed, PackResult.body, Option.bind_some, Option.map_some, size,
    packAll_buf inp buf (Nat.le_trans large room), documented, cut, and_self]

def ScreenResponse.bitmapMode (r : ScreenResponse) : Bool := r.vicMode.toNat ∈ [2, 3, 6, 7]

/-- The address lies in the 16 KiB bank of that number. -/
def InBank (bank : Nat) (addr : U16) : Prop := addr.toNat / 0x4000 = bank

private theorem inBank_add {base offset : U16} (aligned : base.toNat % 0x4000 = 0)
    (small : offset.toNat < 0x4000) : InBank (base.toNat / 0x4000) (base + offset) := by
  have bound := base.isLt
  rw [InBank, BitVec.toNat_add]
  omega

private theorem vicBank_eq (inp : ScreenInputs) :
    (deriveVicBank inp).toNat = inp.vbankPhi2.toNat / 0x4000 := by
  have bound := inp.vbankPhi2.isLt
  have kept : ∀ x : U16, x.toNat < 4 → ((x &&& 0x03#16).setWidth 8).toNat = x.toNat := by
    intro x small
    have low : (x &&& 0x03#16).toNat = x.toNat := by
      rw [BitVec.toNat_and]
      exact Nat.and_two_pow_sub_one_of_lt_two_pow (n := 2) small
    rw [BitVec.toNat_setWidth, low]
    omega
  have shifted : (inp.vbankPhi2 >>> 14).toNat = inp.vbankPhi2.toNat / 0x4000 := by
    rw [BitVec.toNat_ushiftRight, Nat.shiftRight_eq_div_pow]
  rw [deriveVicBank, kept _ (by omega), shifted]

/-- What the response says agrees with the machine it was taken from. The screen and
character addresses are those of the header; the RAM reads are classed by the
section their values went to. -/
structure Agrees (inp : ScreenInputs) (result : PackResult) (body : List U8)
    (r : ScreenResponse) : Prop where
  screen : ∀ i < 1000, r.screen[i]? =
    some (inp.readRam (BitVec.ofNat 16 (r.screenAddr.toNat + i)))
  color : ∀ i < 1000, r.color[i]? =
    some (inp.readColorram (BitVec.ofNat 16 (0xd800 + i)) &&& 0x0f#8)
  charsetKind : r.charsetKind.toNat ≤ 2
  charsetRam : r.charsetKind.toNat = 2 → ∀ i < 2048, r.charset[i]? =
    some (inp.readRam (BitVec.ofNat 16 (r.charsetAddr.toNat + i)))
  charsetRom : r.charsetKind.toNat < 2 → ∀ i < 2048, r.charset[i]? =
    some (inp.readChargen (BitVec.ofNat 16 (0x800 * r.charsetKind.toNat + i)))
  textMode : r.bitmapMode = false → r.bitmapAddr.toNat = 0
  bitmapMode : r.bitmapMode = true → r.bitmapAddr.toNat =
    (inp.vbankPhi1.toNat + 0x2000 * (inp.d018.getLsbD 3).toNat) % 2 ^ 16
  payloadLen : body.length = 24 + r.payloadLen.toNat
  banks : inp.vbankPhi1.toNat % 0x4000 = 0 → inp.vbankPhi2.toNat % 0x4000 = 0 →
    ∀ k addr, (k, MemRead.ram addr) ∈ result.reads →
      (24 ≤ k ∧ k < 1024 ∧ InBank r.vicBank.toNat addr) ∨
        (2024 ≤ k ∧ k < 4072 ∧ InBank (inp.vbankPhi1.toNat / 0x4000) addr)
  selectedBank : inp.vbankPhi1.toNat % 0x4000 = 0 → inp.vbankPhi1 = inp.vbankPhi2 →
    ∀ k addr, (k, MemRead.ram addr) ∈ result.reads → InBank r.vicBank.toNat addr

private theorem add_ofNat (addr : U16) (i : Nat) :
    addr + BitVec.ofNat 16 i = BitVec.ofNat 16 (addr.toNat + i) := by
  apply BitVec.eq_of_toNat_eq
  simp

theorem screen_agrees (inp : ScreenInputs) {i : Nat} (inside : i < screenTextCells) :
    (screenSection inp)[i]? =
      some (inp.readRam (BitVec.ofNat 16 ((screenAddr inp).toNat + i))) := by
  rw [screenSection, loopValues_get inp _ _ inside, ← add_ofNat]
  rfl

private theorem color_agrees (inp : ScreenInputs) {i : Nat} (inside : i < screenTextCells) :
    (colorSection inp)[i]? =
      some (inp.readColorram (BitVec.ofNat 16 (0xd800 + i)) &&& 0x0f#8) := by
  have base : BitVec.ofNat 16 (0xd800 + i) = 0xd800#16 + BitVec.ofNat 16 i :=
    (add_ofNat 0xd800#16 i).symm
  rw [colorSection, loopValues_get inp _ _ inside, base]
  rfl

theorem charsetKind_window (inp : ScreenInputs) (window : charsetInChargenWindow inp = true) :
    (charsetKind inp).toNat < 2 ∧
      charsetVicAddr inp &&& 0x0800#16 = BitVec.ofNat 16 (0x800 * (charsetKind inp).toNat) := by
  have half : charsetVicAddr inp &&& 0x0800#16 =
      if (charsetVicAddr inp).getLsbD 11 then 0x0800#16 else 0#16 :=
    BitVec.and_twoPow (charsetVicAddr inp) 11
  rw [charsetKind, if_pos window, half]
  cases (charsetVicAddr inp).getLsbD 11 <;> decide

theorem charsetRead_ram (inp : ScreenInputs) (outside : charsetInChargenWindow inp = false)
    (i : Nat) : charsetKind inp = screenCharsetRam ∧
      charsetRead inp i = .ram (BitVec.ofNat 16 ((charsetAddr inp).toNat + i)) := by
  constructor
  · simp [charsetKind, outside]
  · simp [charsetRead, outside, add_ofNat]

private theorem charsetRead_rom (inp : ScreenInputs) (window : charsetInChargenWindow inp = true)
    (i : Nat) :
    charsetRead inp i = .chargen (BitVec.ofNat 16 (0x800 * (charsetKind inp).toNat + i)) := by
  have base : BitVec.ofNat 16 (0x800 * (charsetKind inp).toNat) + BitVec.ofNat 16 i =
      BitVec.ofNat 16 (0x800 * (charsetKind inp).toNat + i) := (BitVec.ofNat_add _ _).symm
  rw [charsetRead, if_pos window, (charsetKind_window inp window).2, base]

private theorem charsetKind_le (inp : ScreenInputs) : (charsetKind inp).toNat ≤ 2 := by
  cases window : charsetInChargenWindow inp with
  | false =>
    rw [(charsetRead_ram inp window 0).1]
    decide
  | true =>
    have small := (charsetKind_window inp window).1
    omega

theorem charset_ram_agrees (inp : ScreenInputs) (ram : (charsetKind inp).toNat = 2) {i : Nat}
    (inside : i < screenCharsetBytes) : (charsetSection inp)[i]? =
      some (inp.readRam (BitVec.ofNat 16 ((charsetAddr inp).toNat + i))) := by
  cases window : charsetInChargenWindow inp with
  | false =>
    rw [charsetSection, loopValues_get inp _ _ inside, (charsetRead_ram inp window i).2]
    rfl
  | true =>
    have small := (charsetKind_window inp window).1
    omega

theorem charset_rom_agrees (inp : ScreenInputs) (rom : (charsetKind inp).toNat < 2) {i : Nat}
    (inside : i < screenCharsetBytes) : (charsetSection inp)[i]? =
      some (inp.readChargen (BitVec.ofNat 16 (0x800 * (charsetKind inp).toNat + i))) := by
  cases window : charsetInChargenWindow inp with
  | false =>
    rw [(charsetRead_ram inp window i).1] at rom
    exact absurd rom (by decide)
  | true =>
    rw [charsetSection, loopValues_get inp _ _ inside, charsetRead_rom inp window i]
    rfl

theorem deriveVicMode_bits (inp : ScreenInputs) : (deriveVicMode inp).toNat =
    4 * (inp.d011.getLsbD 6).toNat + 2 * (inp.d011.getLsbD 5).toNat +
      (inp.d016.getLsbD 4).toNat := by
  have high : ∀ x : U8, x &&& 0x60#8 =
      (if x.getLsbD 6 then 0x40#8 else 0#8) ||| (if x.getLsbD 5 then 0x20#8 else 0#8) := by
    decide +kernel
  have low : inp.d016 &&& 0x10#8 = if inp.d016.getLsbD 4 then 0x10#8 else 0#8 :=
    BitVec.and_twoPow inp.d016 4
  rw [deriveVicMode, high, low]
  cases inp.d011.getLsbD 6 <;> cases inp.d011.getLsbD 5 <;> cases inp.d016.getLsbD 4 <;> rfl

theorem bitmapMode_iff (inp : ScreenInputs) :
    (screenState inp).bitmapMode = true ↔ deriveVicMode inp &&& 0x02#8 ≠ 0 := by
  have bits := deriveVicMode_bits inp
  have small : (deriveVicMode inp).toNat < 8 := by
    have one := Bool.toNat_le (inp.d011.getLsbD 6)
    have two := Bool.toNat_le (inp.d011.getLsbD 5)
    have three := Bool.toNat_le (inp.d016.getLsbD 4)
    omega
  have modes : ∀ m : U8, m.toNat < 8 → (m.toNat ∈ [2, 3, 6, 7] ↔ m &&& 0x02#8 ≠ 0) := by
    decide +kernel
  rw [ScreenResponse.bitmapMode, decide_eq_true_iff]
  exact modes _ small

private theorem bitmapAddr_eq (inp : ScreenInputs) : (bitmapAddr inp).toNat =
    (inp.vbankPhi1.toNat + 0x2000 * (inp.d018.getLsbD 3).toNat) % 2 ^ 16 := by
  have bit : inp.d018 &&& 0x08#8 = if inp.d018.getLsbD 3 then 0x08#8 else 0#8 :=
    BitVec.and_twoPow inp.d018 3
  rw [bitmapAddr, bit, BitVec.toNat_add]
  cases inp.d018.getLsbD 3 <;> rfl

private theorem mem_ram_reads (inp : ScreenInputs) (buf : List U8) (k : Nat) (addr : U16) :
    (k, MemRead.ram addr) ∈ (packAll inp buf).reads ↔
      (∃ i < screenTextCells, screenDst + i = k ∧ screenAddr inp + BitVec.ofNat 16 i = addr) ∨
        (charsetInChargenWindow inp = false ∧ ∃ i < screenCharsetBytes, charsetDst + i = k ∧
          charsetAddr inp + BitVec.ofNat 16 i = addr) := by
  have outside : ∀ i, (charsetRead inp i = .ram addr ↔ charsetInChargenWindow inp = false ∧
      charsetAddr inp + BitVec.ofNat 16 i = addr) := by
    intro i
    cases window : charsetInChargenWindow inp <;> simp [charsetRead, window]
  rw [packAll_reads]
  simp only [List.mem_append, List.mem_map, List.mem_range, Prod.mk.injEq, screenRead, colorRead,
    outside, MemRead.ram.injEq]
  grind

private theorem screen_in_bank (inp : ScreenInputs) (aligned : inp.vbankPhi2.toNat % 0x4000 = 0)
    {i : Nat} (inside : i < screenTextCells) :
    InBank (deriveVicBank inp).toNat (screenAddr inp + BitVec.ofNat 16 i) := by
  have pointer : (inp.d018 &&& 0xf0#8).toNat ≤ 0xf0 := by
    rw [BitVec.toNat_and]
    exact Nat.and_le_right
  have cells : i < 1000 := inside
  rw [vicBank_eq, screenAddr, BitVec.add_assoc]
  apply inBank_add aligned
  rw [BitVec.toNat_add, BitVec.toNat_shiftLeft, BitVec.toNat_setWidth, BitVec.toNat_ofNat,
    Nat.shiftLeft_eq]
  omega

private theorem charset_in_bank (inp : ScreenInputs) (aligned : inp.vbankPhi1.toNat % 0x4000 = 0)
    {i : Nat} (inside : i < screenCharsetBytes) :
    InBank (inp.vbankPhi1.toNat / 0x4000) (charsetAddr inp + BitVec.ofNat 16 i) := by
  have pointer : (inp.d018 &&& 0x0e#8).toNat ≤ 0x0e := by
    rw [BitVec.toNat_and]
    exact Nat.and_le_right
  have bytes : i < 2048 := inside
  rw [charsetAddr, charsetVicAddr, BitVec.add_comm _ inp.vbankPhi1, BitVec.add_assoc]
  apply inBank_add aligned
  rw [BitVec.toNat_add, BitVec.toNat_shiftLeft, BitVec.toNat_setWidth, BitVec.toNat_ofNat,
    Nat.shiftLeft_eq]
  omega

private theorem ram_reads_in_banks (inp : ScreenInputs) (buf : List U8)
    (aligned : inp.vbankPhi1.toNat % 0x4000 = 0) (aligned' : inp.vbankPhi2.toNat % 0x4000 = 0)
    {k : Nat} {addr : U16} (read : (k, MemRead.ram addr) ∈ (packAll inp buf).reads) :
    (24 ≤ k ∧ k < 1024 ∧ InBank (deriveVicBank inp).toNat addr) ∨
      (2024 ≤ k ∧ k < 4072 ∧ InBank (inp.vbankPhi1.toNat / 0x4000) addr) := by
  rw [mem_ram_reads] at read
  rcases read with ⟨i, inside, rfl, rfl⟩ | ⟨_, i, inside, rfl, rfl⟩
  · have cells : i < 1000 := inside
    have start : screenDst = 24 := rfl
    exact Or.inl ⟨by omega, by omega, screen_in_bank inp aligned' inside⟩
  · have bytes : i < 2048 := inside
    have start : charsetDst = 2024 := rfl
    exact Or.inr ⟨by omega, by omega, charset_in_bank inp aligned inside⟩

/-- The response agrees with the machine, whatever the registers, the bank bases, the
chargen window and the memory hold. -/
theorem screen_response_agrees (inp : ScreenInputs) (buf : List U8) (buflen outLen : U32)
    (large : 4072 ≤ buflen.toNat) (room : buflen.toNat ≤ buf.length) :
    (screenPack (some inp) (some buf) buflen (some outLen)).rc = 0 ∧
      ∃ body r, (screenPack (some inp) (some buf) buflen (some outLen)).body = some body ∧
        decodeScreen body = some r ∧
        Agrees inp (screenPack (some inp) (some buf) buflen (some outLen)) body r := by
  obtain ⟨rc, reads, sent⟩ := screenPack_body inp buf buflen outLen large room
  refine ⟨rc, encodeScreen (screenState inp), screenState inp, sent, decode_encodeScreen _, ?_⟩
  constructor
  · intro i (inside : i < screenTextCells)
    simpa only [screenState] using screen_agrees inp inside
  · intro i (inside : i < screenTextCells)
    simpa only [screenState] using color_agrees inp inside
  · exact charsetKind_le inp
  · intro ram i (inside : i < screenCharsetBytes)
    simpa only [screenState] using charset_ram_agrees inp ram inside
  · intro rom i (inside : i < screenCharsetBytes)
    simpa only [screenState] using charset_rom_agrees inp rom inside
  · intro text
    have still : ¬ deriveVicMode inp &&& 0x02#8 ≠ 0 := by
      rw [← bitmapMode_iff, text]
      decide
    exact congrArg BitVec.toNat (if_neg still)
  · intro bitmap
    rw [← bitmapAddr_eq]
    exact congrArg BitVec.toNat (if_pos ((bitmapMode_iff inp).mp bitmap))
  · rw [length_encodeScreen]
    rfl
  · intro aligned aligned' k addr read
    rw [reads] at read
    exact ram_reads_in_banks inp buf aligned aligned' read
  · intro aligned same k addr read
    rw [reads] at read
    rcases ram_reads_in_banks inp buf aligned (same ▸ aligned) read with ⟨_, _, lies⟩ | ⟨_, _, lies⟩
    · exact lies
    · rw [same, ← vicBank_eq] at lies
      exact lies

def splitBanks : ScreenInputs where
  d011 := 0x1b#8
  d016 := 0x08#8
  d018 := 0x18#8
  d020 := 0x0e#8
  d021 := 0x06#8
  d022 := 0#8
  d023 := 0#8
  d024 := 0#8
  vbankPhi1 := 0#16
  vbankPhi2 := 0x4000#16
  chargenMaskPhi1 := 0x7000#16
  chargenValuePhi1 := 0x1000#16
  readRam := fun addr => addr.setWidth 8
  readColorram := fun _ => 0xa3#8
  readChargen := fun _ => 0#8

theorem screen_response_agrees_split :
    (screenPack (some splitBanks) (some (List.replicate 4072 0)) 4072#32 (some 0)).rc = 0 ∧
      ∃ body r, (screenPack (some splitBanks) (some (List.replicate 4072 0)) 4072#32
        (some 0)).body = some body ∧ decodeScreen body = some r ∧
        Agrees splitBanks (screenPack (some splitBanks) (some (List.replicate 4072 0)) 4072#32
          (some 0)) body r :=
  screen_response_agrees splitBanks (List.replicate 4072 0) 4072#32 0 (by decide)
    (by rw [List.length_replicate]; decide)

/-- With both bases on bank boundaries, no single bank need hold all the RAM reads. -/
theorem reads_leave_bank :
    splitBanks.vbankPhi1.toNat % 0x4000 = 0 ∧ splitBanks.vbankPhi2.toNat % 0x4000 = 0 ∧
      ¬ ∃ bank, ∀ k addr, (k, MemRead.ram addr) ∈ (screenPack (some splitBanks)
        (some (List.replicate 4072 0)) 4072#32 (some 0)).reads → InBank bank addr := by
  refine ⟨by decide, by decide, ?_⟩
  rintro ⟨bank, every⟩
  have reads := (screenPack_body splitBanks (List.replicate 4072 0) 4072#32 0 (by decide)
    (by rw [List.length_replicate]; decide)).2.1
  rw [reads] at every
  have screen : InBank bank 0x4400#16 := by
    refine every screenDst _ ((mem_ram_reads _ _ _ _).mpr (Or.inl ⟨0, by decide, rfl, ?_⟩))
    decide
  have charset : InBank bank 0x2000#16 := by
    refine every charsetDst _ ((mem_ram_reads _ _ _ _).mpr
      (Or.inr ⟨by decide, 0, by decide, rfl, ?_⟩))
    decide
  have differ : (0x4400#16).toNat / 0x4000 ≠ (0x2000#16).toNat / 0x4000 := by decide
  exact differ (screen.trans charset.symm)

end Revice.Screen

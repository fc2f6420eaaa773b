/- Module: Revice/Screen/Bitmap
   source: README.md, libs/screen/src/screen_core.c
   digest: When the character section of a bitmap screen is the documented bitmap memory. -/

import Revice.Screen.Client

set_option autoImplicit false
set_option relaxedAutoImplicit false

namespace Revice.Screen

open Revice.General

/-- The character section of the response is the lower 2 KiB of bitmap memory, counted from
the bitmap address of its own header. -/
def BitmapPayload (inp : ScreenInputs) (body : List U8) : Prop :=
  ∃ r, decodeScreen body = some r ∧ ∀ i < 2048, r.charset[i]? =
    some (inp.readRam (BitVec.ofNat 16 (r.bitmapAddr.toNat + i)))

def ScreenInputs.withMemory (inp : ScreenInputs) (ram colorram chargen : U16 → U8) : ScreenInputs :=
  { inp with readRam := ram, readColorram := colorram, readChargen := chargen }

private theorem bitmap_vicMode (inp : ScreenInputs) (bitmap : inp.d011.getLsbD 5 = true) :
    deriveVicMode inp &&& 0x02#8 ≠ 0 := by
  have bits := deriveVicMode_bits inp
  rw [bitmap] at bits
  rw [← bitmapMode_iff, ScreenResponse.bitmapMode, decide_eq_true_iff]
  change (deriveVicMode inp).toNat ∈ [2, 3, 6, 7]
  rw [bits]
  cases inp.d011.getLsbD 6 <;> cases inp.d016.getLsbD 4 <;> decide

private theorem charsetAddr_eq_bitmapAddr_iff (inp : ScreenInputs) :
    charsetAddr inp = bitmapAddr inp ↔ inp.d018 &&& 0x06#8 = 0 := by
  have offsets : ∀ d018 : U8, (d018 &&& 0x0e#8).setWidth 16 <<< 10 =
      (d018 &&& 0x08#8).setWidth 16 <<< 10 ↔ d018 &&& 0x06#8 = 0 := by
    decide +kernel
  rw [charsetAddr, charsetVicAddr, bitmapAddr, BitVec.add_comm inp.vbankPhi1,
    BitVec.add_left_inj]
  exact offsets inp.d018

section Memory

variable (inp : ScreenInputs) (ram colorram chargen : U16 → U8)

private theorem charsetSection_ram (outside : charsetInChargenWindow inp = false) {i : Nat}
    (inside : i < screenCharsetBytes) :
    (charsetSection (inp.withMemory ram colorram chargen))[i]? =
      some (ram (BitVec.ofNat 16 ((charsetAddr inp).toNat + i))) := by
  refine charset_ram_agrees (inp.withMemory ram colorram chargen) ?_ inside
  rw [(charsetRead_ram (inp.withMemory ram colorram chargen) outside 0).1]
  decide

private theorem charsetSection_rom (window : charsetInChargenWindow inp = true) {i : Nat}
    (inside : i < screenCharsetBytes) :
    (charsetSection (inp.withMemory ram colorram chargen))[i]? =
      some (chargen (BitVec.ofNat 16 (0x800 * (charsetKind inp).toNat + i))) :=
  charset_rom_agrees (inp.withMemory ram colorram chargen)
    (charsetKind_window (inp.withMemory ram colorram chargen) window).1 inside

end Memory

private theorem charsetSection_bitmap_iff (inp : ScreenInputs) :
    (∀ ram colorram chargen, ∀ i < screenCharsetBytes,
      (charsetSection (inp.withMemory ram colorram chargen))[i]? =
        some (ram (BitVec.ofNat 16 ((bitmapAddr inp).toNat + i)))) ↔
      inp.d018 &&& 0x06#8 = 0 ∧ charsetInChargenWindow inp = false := by
  have first : ∀ addr : U16, BitVec.ofNat 16 (addr.toNat + 0) = addr := fun addr => by simp
  have nonempty : 0 < screenCharsetBytes := by decide
  constructor
  · intro always
    have outside : charsetInChargenWindow inp = false := by
      cases window : charsetInChargenWindow inp with
      | false => rfl
      | true =>
        -- a ROM that differs from an empty RAM everywhere
        have blank := always (fun _ => 0) (fun _ => 0) (fun _ => 1) 0 nonempty
        rw [charsetSection_rom inp _ _ _ window nonempty] at blank
        exact absurd (Option.some.inj blank) (by decide : ¬ (1 : U8) = 0)
    refine ⟨?_, outside⟩
    rw [← charsetAddr_eq_bitmapAddr_iff]
    by_contra differ
    -- a RAM with a mark at the bitmap's first byte only
    have marked := always (fun addr => if addr = bitmapAddr inp then 1 else 0) (fun _ => 0)
      (fun _ => 0) 0 nonempty
    rw [charsetSection_ram inp _ _ _ outside nonempty, first, first] at marked
    have absent : (if charsetAddr inp = bitmapAddr inp then (1 : U8) else 0) =
        if bitmapAddr inp = bitmapAddr inp then 1 else 0 := Option.some.inj marked
    rw [if_neg differ, if_pos rfl] at absent
    exact absurd absent (by decide)
  · rintro ⟨clear, outside⟩ ram colorram chargen i inside
    rw [charsetSection_ram inp _ _ _ outside inside, (charsetAddr_eq_bitmapAddr_iff inp).mpr clear]

/-- In a bitmap mode the response carries the documented bitmap memory, for every memory,
exactly if the pointer register selects no character set above the bitmap base and that base
lies outside the chargen window. -/
theorem bitmap_payload_iff (inp : ScreenInputs) (buf : List U8) (buflen outLen : U32)
    (bitmap : inp.d011.getLsbD 5 = true)
    (large : 4072 ≤ buflen.toNat) (room : buflen.toNat ≤ buf.length) :
    (∀ ram colorram chargen, ∃ body,
      (screenPack (some (inp.withMemory ram colorram chargen)) (some buf) buflen
        (some outLen)).body = some body ∧
      BitmapPayload (inp.withMemory ram colorram chargen) body) ↔
      inp.d018 &&& 0x06#8 = 0 ∧
        (inp.vbankPhi1 + if inp.d018.getLsbD 3 then 0x2000#16 else 0#16) &&& inp.chargenMaskPhi1 ≠
          inp.chargenValuePhi1 := by
  have base : (inp.vbankPhi1 + if inp.d018.getLsbD 3 then 0x2000#16 else 0#16) =
      bitmapAddr inp := by
    have bit : inp.d018 &&& 0x08#8 = if inp.d018.getLsbD 3 then 0x08#8 else 0#8 :=
      BitVec.and_twoPow inp.d018 3
    rw [bitmapAddr, bit]
    cases inp.d018.getLsbD 3 <;> rfl
  have header : ∀ ram colorram chargen,
      (screenState (inp.withMemory ram colorram chargen)).bitmapAddr = bitmapAddr inp :=
    fun _ _ _ => if_pos (bitmap_vicMode inp bitmap)
  have sent : ∀ ram colorram chargen body,
      (screenPack (some (inp.withMemory ram colorram chargen)) (some buf) buflen
        (some outLen)).body = some body ↔
        encodeScreen (screenState (inp.withMemory ram colorram chargen)) = body := by
    intro ram colorram chargen body
    rw [(screenPack_body _ buf buflen outLen large room).2.2, Option.some.injEq]
  have payload : ∀ ram colorram chargen, (∃ body,
      (screenPack (some (inp.withMemory ram colorram chargen)) (some buf) buflen
        (some outLen)).body = some body ∧
      BitmapPayload (inp.withMemory ram colorram chargen) body) ↔
      ∀ i < screenCharsetBytes, (charsetSection (inp.withMemory ram colorram chargen))[i]? =
        some (ram (BitVec.ofNat 16 ((bitmapAddr inp).toNat + i))) := by
    intro ram colorram chargen
    simp only [sent, BitmapPayload, exists_eq_left', decode_encodeScreen, Option.some.injEq,
      header]
    simp only [screenState, ScreenInputs.withMemory, screenCharsetBytes]
  have window : charsetInChargenWindow inp = false ↔
      charsetAddr inp &&& inp.chargenMaskPhi1 ≠ inp.chargenValuePhi1 := decide_eq_false_iff_not
  simp only [payload]
  rw [charsetSection_bitmap_iff, base, window]
  constructor
  · rintro ⟨clear, outside⟩
    rw [(charsetAddr_eq_bitmapAddr_iff inp).mpr clear] at outside
    exact ⟨clear, outside⟩
  · rintro ⟨clear, outside⟩
    rw [(charsetAddr_eq_bitmapAddr_iff inp).mpr clear]
    exact ⟨clear, outside⟩

/-- A bitmap screen whose pointer register also has a character bit set, which puts the
character address into the chargen window. -/
def bitmapOverRom : ScreenInputs where
  d011 := 0x3b#8
  d016 := 0x08#8
  d018 := 0x14#8
  d020 := 0x0e#8
  d021 := 0x06#8
  d022 := 0#8
  d023 := 0#8
  d024 := 0#8
  vbankPhi1 := 0#16
  vbankPhi2 := 0#16
  chargenMaskPhi1 := 0x7000#16
  chargenValuePhi1 := 0x1000#16
  readRam := fun _ => 0#8
  readColorram := fun _ => 0#8
  readChargen := fun _ => 0x3c#8

theorem bitmap_payload_iff_rom :
    (∀ ram colorram chargen, ∃ body,
      (screenPack (some (bitmapOverRom.withMemory ram colorram chargen))
        (some (List.replicate 4072 0)) 4072#32 (some 0)).body = some body ∧
      BitmapPayload (bitmapOverRom.withMemory ram colorram chargen) body) ↔
      bitmapOverRom.d018 &&& 0x06#8 = 0 ∧
        (bitmapOverRom.vbankPhi1 + if bitmapOverRom.d018.getLsbD 3 then 0x2000#16 else 0#16) &&&
          bitmapOverRom.chargenMaskPhi1 ≠ bitmapOverRom.chargenValuePhi1 :=
  bitmap_payload_iff bitmapOverRom (List.replicate 4072 0) 4072#32 0 (by decide) (by decide)
    (by rw [List.length_replicate]; decide)

/-- There the section is chargen ROM, not bitmap memory. -/
theorem bitmap_payload_from_rom : ¬ ∀ (inp : ScreenInputs) (buf body : List U8)
    (buflen outLen : U32), inp.d011.getLsbD 5 = true → inp.vbankPhi1.toNat % 0x4000 = 0 →
      inp.vbankPhi1 = inp.vbankPhi2 → 4072 ≤ buflen.toNat → buflen.toNat ≤ buf.length →
        (screenPack (some inp) (some buf) buflen (some outLen)).body = some body →
          BitmapPayload inp body := by
  intro claim
  have room : (4072#32).toNat ≤ (List.replicate 4072 (0 : U8)).length := by
    rw [List.length_replicate]
    decide
  have sent := (screenPack_body bitmapOverRom (List.replicate 4072 0) 4072#32 0 (by decide)
    room).2.2
  obtain ⟨r, decoded, same⟩ := claim bitmapOverRom (List.replicate 4072 0) _ 4072#32 0 (by decide)
    (by decide) rfl (by decide) room sent
  rw [decode_encodeScreen, Option.some.injEq] at decoded
  have rom : (charsetSection bitmapOverRom)[0]? = some (0x3c#8 : U8) :=
    charset_rom_agrees bitmapOverRom (by decide) (by decide)
  have first := same 0 (by decide)
  rw [← decoded] at first
  simp only [screenState, rom] at first
  exact absurd (Option.some.inj first) (by decide : ¬ (0x3c#8 : U8) = 0#8)

end Revice.Screen

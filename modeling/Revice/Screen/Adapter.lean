/- Module: Revice/Screen/Adapter
   source: libs/screen/vice/mon_screen.c, libs/screen/vice/c64screen.c
   digest: The two monitor commands on top of the provider show one and the same screen. -/

import Revice.Screen.Picture

set_option autoImplicit false
set_option relaxedAutoImplicit false

namespace Revice.Screen

open Revice.General

structure C64 where
  regs : Nat → U8
  vbankPhi1 : U32
  vbankPhi2 : U32
  vaddrChargenMaskPhi1 : U32
  vaddrChargenValuePhi1 : U32
  memRam : U16 → U8
  colorramRead : U16 → U8
  memChargenRom : U16 → U8

def cbReadRam (m : C64) (addr : U16) : U8 := m.memRam (addr &&& 0xffff#16)

def cbReadColorram (m : C64) (addr : U16) : U8 := m.colorramRead addr

def cbReadChargen (m : C64) (offset : U16) : U8 := m.memChargenRom (offset &&& 0x0fff#16)

def C64.inputs (m : C64) : ScreenInputs where
  d011 := m.regs 0x11
  d016 := m.regs 0x16
  d018 := m.regs 0x18
  d020 := m.regs 0x20
  d021 := m.regs 0x21
  d022 := m.regs 0x22
  d023 := m.regs 0x23
  d024 := m.regs 0x24
  vbankPhi1 := m.vbankPhi1.setWidth 16
  vbankPhi2 := m.vbankPhi2.setWidth 16
  chargenMaskPhi1 := m.vaddrChargenMaskPhi1.setWidth 16
  chargenValuePhi1 := m.vaddrChargenValuePhi1.setWidth 16
  readRam := cbReadRam m
  readColorram := cbReadColorram m
  readChargen := cbReadChargen m

/-- The return code of a provider, and what it leaves behind its two pointers. -/
structure Provided where
  rc : Int
  buf : Option (List U8)
  outLen : Option U32

/-- A provider reads the emulated machine. -/
abbrev MonScreenProvider := C64 → Option (List U8) → U32 → Option U32 → Provided

def c64screenGetState : MonScreenProvider := fun m buf bufLen outLen =>
  let result := screenPack (some m.inputs) buf bufLen outLen
  ⟨result.rc, result.buf, result.outLen⟩

structure MonScreen where
  sProvider : Option MonScreenProvider

def monScreenInit : MonScreen := ⟨none⟩

def monScreenRegisterProvider (_ : MonScreen) (provider : Option MonScreenProvider) : MonScreen :=
  ⟨provider⟩

def c64screenInit (s : MonScreen) : MonScreen :=
  monScreenRegisterProvider s (some c64screenGetState)

def monScreenBinmonGet (s : MonScreen) (m : C64) (out : Option (List U8))
    (outLength : Option U32) : Provided :=
  match out, outLength with
  | some bytes, some length =>
    if length.toNat < screenResponseSize then ⟨-1, out, outLength⟩
    else
      match s.sProvider with
      | none => ⟨-1, out, outLength⟩
      | some provider => provider m (some bytes) length (some length)
  | _, _ => ⟨-1, out, outLength⟩

/-- `buf` is the uninitialised local; every chunk goes to the monitor as it is. -/
def monScreenShow (s : MonScreen) (m : C64) (buf : List U8) (args : Option CString) :
    List RenderEvent :=
  let raw := args.any fun args => args.bytes ≠ []
  match s.sProvider with
  | none =>
    [.emit (str ("screen: not supported on this machine " ++
      "(provider registered only by C64 builds)\n"))]
  | some provider =>
    let provided := provider m (some buf) (BitVec.ofNat 32 screenResponseSize)
      (some (BitVec.ofNat 32 screenResponseSize))
    let got := provided.outLen.getD 0
    if provided.rc ≠ 0 ∨ got.toNat < screenHeaderBytes then
      [.emit (str "screen: provider returned error " ++ decimal provided.rc ++ str " (got " ++
        decimalNat got.toNat ++ str " bytes)\n")]
    else (screenRender provided.buf got raw).events

def C64.body (m : C64) : List U8 := encodeScreen (screenState m.inputs)

private theorem c64screenGetState_eq (m : C64) (buf : List U8) {bufLen : U32}
    (large : screenResponseSize ≤ bufLen.toNat) (room : bufLen.toNat ≤ buf.length) (outLen : U32) :
    c64screenGetState m (some buf) bufLen (some outLen) =
      ⟨0, some (m.body ++ buf.drop screenResponseSize),
        some (BitVec.ofNat 32 screenResponseSize)⟩ := by
  have packed := packAll_buf m.inputs buf (large.trans room)
  have documented : packHeader m.inputs [] ++ payload m.inputs = m.body := by
    rw [packHeader_documented, C64.body, encodeScreen, payload, screenState]
  simp only [c64screenGetState, screenPack, if_neg (Nat.not_lt.mpr large), packed, documented]

theorem monScreenBinmonGet_c64 (s : MonScreen) (m : C64) (out : List U8) {outLength : U32}
    (large : screenResponseSize ≤ outLength.toNat) (room : outLength.toNat ≤ out.length) :
    monScreenBinmonGet (c64screenInit s) m (some out) (some outLength) =
      ⟨0, some (m.body ++ out.drop screenResponseSize),
        some (BitVec.ofNat 32 screenResponseSize)⟩ := by
  simp only [monScreenBinmonGet, if_neg (Nat.not_lt.mpr large)]
  exact c64screenGetState_eq m out large room outLength

private theorem monScreenShow_c64 (s : MonScreen) (m : C64) {buf : List U8}
    (size : buf.length = screenResponseSize) (args : Option CString) :
    monScreenShow (c64screenInit s) m buf args =
      (screenRender (some m.body) 4072#32 (args.any fun args => args.bytes ≠ [])).events := by
  have whole : (BitVec.ofNat 32 screenResponseSize).toNat = screenResponseSize := by decide
  have provided := c64screenGetState_eq m buf (Nat.le_of_eq whole.symm)
    (Nat.le_of_eq (whole.trans size.symm)) (BitVec.ofNat 32 screenResponseSize)
  have nothing : buf.drop screenResponseSize = [] := List.drop_eq_nil_of_le (Nat.le_of_eq size)
  rw [nothing, List.append_nil] at provided
  have fine : ¬((0 : Int) ≠ 0 ∨ (4072#32).toNat < screenHeaderBytes) := by decide
  have code : BitVec.ofNat 32 screenResponseSize = 4072#32 := rfl
  rw [code] at provided
  simp only [monScreenShow, c64screenInit, monScreenRegisterProvider, code, provided,
    Option.getD_some]
  exact if_neg fine

section Picture

variable (r : ScreenResponse)

private theorem screen_cell {i : Nat} (inside : i < 1000) :
    (encodeScreen r).getD (screenHeaderBytes + i) 0 = r.screen.getD i 0 := by
  have small : i < r.screen.length := by rw [r.screenSize]; exact inside
  refine encodeScreen_cell r inside ?_
  rw [List.getD_eq_getElem _ _ small]
  exact List.getElem?_eq_getElem small

/-- What the text command says of the screen that the binary command has sent. -/
structure Prints (body : List U8) (r : ScreenResponse) (grid raw : Text) : Prop where
  grid : lines grid = stateLines body ++ [[], borderLine 40] ++
    ((List.range 25).map fun row => rowLabel row ++
      ((List.range 40).map fun col =>
        screenScreencodeToAscii (r.screen.getD (row * 40 + col) 0)) ++ str "|") ++
    [borderLine 40, approximation, []]
  raw : ∃ rows parsed, lines raw = stateLines body ++ [[], dumpTitle 1000, []] ++ rows ++ [[]] ∧
    rows.mapM readRow = some parsed ∧
    (∀ k row, parsed[k]? = some row → row.1 = 16 * k ∧ row.2.length ≤ 16) ∧
    parsed.flatMap Prod.snd = r.screen

private theorem prints_encoded (rows : r.rows = 25#8) (cols : r.cols = 40#8) :
    Prints (encodeScreen r) r
      (shownText (screenRender (some (encodeScreen r)) 4072#32 false).events)
      (shownText (screenRender (some (encodeScreen r)) 4072#32 true).events) := by
  have rowsByte : (encodeScreen r).getD 1 0 = 25#8 := rows
  have colsByte : (encodeScreen r).getD 2 0 = 40#8 := cols
  have fits : CellsFit (encodeScreen r) 4072#32 := by
    rw [CellsFit, rowsByte, colsByte]
    decide
  have text := lines_render (by decide) fits
  rw [rowsByte, colsByte] at text
  constructor
  · have picture : (List.range 25).map (gridRow (encodeScreen r) 40) =
        (List.range 25).map fun row => rowLabel row ++
          ((List.range 40).map fun col =>
            screenScreencodeToAscii (r.screen.getD (row * 40 + col) 0)) ++ str "|" := by
      refine List.map_congr_left fun row member => ?_
      have inside := List.mem_range.mp member
      exact gridRow_cells fun col column => screen_cell r (by omega)
    have grid := text false
    rw [if_neg Bool.false_ne_true] at grid
    change _ = _ ++ ([[], borderLine 40] ++ (List.range 25).map (gridRow (encodeScreen r) 40) ++
      [borderLine 40, approximation]) ++ [[]] at grid
    rw [grid, picture]
    simp only [List.append_assoc]
    rfl
  · refine ⟨_, dumpRows (encodeScreen r) 1000, ?_, readRows _, fun k row => dumpRows_get, ?_⟩
    · have raw := text true
      rw [if_pos rfl, rawLines, ← List.append_assoc] at raw
      exact raw
    · rw [dumpRows_bytes]
      refine (List.map_congr_left fun i member =>
        screen_cell r (List.mem_range.mp member)).trans ?_
      apply List.ext_getElem (by simp [r.screenSize])
      intro i _ small
      rw [List.getElem_map, List.getElem_range, List.getD_eq_getElem _ _ small]

end Picture

def blankC64 : C64 where
  regs := fun _ => 0
  vbankPhi1 := 0
  vbankPhi2 := 0
  vaddrChargenMaskPhi1 := 0x7000
  vaddrChargenValuePhi1 := 0x1000
  memRam := fun addr => addr.setWidth 8
  colorramRead := fun _ => 0
  memChargenRom := fun _ => 0

end Revice.Screen

/- Module: Revice/Asid/Core
   source: libs/asid/src/asid_core.c, libs/asid/include/revice_asid.h
   digest: The ASID codec: register tracking, forced flushes, and both SysEx encodings. -/

import Mathlib.Data.List.FinRange
import Mathlib.Logic.Function.Basic
import Revice.General.Bytes
import Revice.General.Cursor
import Revice.General.Machine

set_option autoImplicit false
set_option relaxedAutoImplicit false

namespace Revice.Asid

open Revice.General

def asidSysexStart : U8 := 0xf0#8
def asidSysexManId : U8 := 0x2d#8
def asidSysexStop : U8 := 0xf7#8

abbrev asidChips : Nat := 2
abbrev asidNumRegs : Nat := 25
def asidMaxSidReg : Nat := 24
def asidBufferSize : Nat := 256

def asidCyclePad : Nat := 20000
def asidIrqFlushThreshold : Nat := 256
def asidPalCyclesPerSec : Nat := 985248

abbrev Chip := Fin asidChips
abbrev Reg := Fin asidNumRegs

def asidPrefix : List U8 := [asidSysexStart, asidSysexManId]

def asidUpdate (c : Chip) : U8 := [0x4e#8, 0x50#8].get c

def asidUpdateReg (c : Chip) : U8 := [0x6c#8, 0x6d#8].get c

/-- The order in which registers are packed; the control registers come last. -/
def regmap (i : Reg) : Reg :=
  List.get
    [0, 1, 2, 3, 5, 6, 7, 8, 9, 10, 12, 13, 14,
      15, 16, 17, 19, 20, 21, 22, 23, 24, 4, 11, 18] i

def regmask (r : Reg) : U8 :=
  List.get
    [255, 255, 255, 15, 255, 255, 255, 255,
      255, 255, 15, 255, 255, 255, 255, 255,
      255, 15, 255, 255, 255, 7, 255, 255, 255] r

def isControl (r : Reg) : Bool := r == 4 || r == 11 || r == 18

/-- Both working buffers persist between flushes and are rewritten from byte 3 on. -/
structure AsidChip where
  updateBuffer : List U8
  updateRegBuffer : List U8
  sidRegister : Reg → U8
  sidModified : Reg → Bool
  sidModifiedFlag : Bool

structure AsidCore where
  chip : Chip → AsidChip
  useUpdateReg : Bool
  bytesSaved : U32

structure AsidMsg where
  chip : Chip
  bytes : List U8
  nsec : U64
  deriving DecidableEq

def seedBuffer (opcode : U8) : List U8 :=
  (Cursor.puts ⟨List.replicate asidBufferSize 0, 0⟩ (asidPrefix ++ [opcode])).buf

def asidCoreInit (useUpdateReg : Int) : AsidCore where
  chip c :=
    { updateBuffer := seedBuffer (asidUpdate c)
      updateRegBuffer := seedBuffer (asidUpdateReg c)
      sidRegister := fun _ => 0
      sidModified := fun _ => false
      sidModifiedFlag := false }
  useUpdateReg := useUpdateReg != 0
  bytesSaved := 0

/-- The per-register byte pair: the top bit of the value moves into bit 6. -/
def updateRegStep (state : AsidChip) (out : Cursor U8) (i : Reg) : Cursor U8 :=
  let reg := regmap i
  if state.sidModified reg then
    let val := state.sidRegister reg
    let enc : U8 := BitVec.ofNat 8 reg.val
    let enc := if val > 0x7f#8 then enc ||| (1#8 <<< 6) else enc
    (out.put enc).put (val &&& 0x7f#8)
  else out

def buildUpdateReg (state : AsidChip) : Cursor U8 :=
  let out := (List.finRange asidNumRegs).foldl (updateRegStep state)
    ⟨state.updateRegBuffer, asidPrefix.length + 1⟩
  out.put asidSysexStop

structure UpdateLoop where
  mask : U32
  msb : U32
  out : Cursor U8

def updateStep (state : AsidChip) (acc : UpdateLoop) (i : Reg) : UpdateLoop :=
  let mappedReg := regmap i
  if state.sidModified mappedReg then
    let val := state.sidRegister mappedReg
    { mask := acc.mask ||| (1#32 <<< i.val)
      msb := if val > 0x7f#8 then acc.msb ||| (1#32 <<< i.val) else acc.msb
      out := acc.out.put (val &&& 0x7f#8) }
  else acc

/-- The header loop with its remaining rounds: seven bits of the word per byte. -/
def writeHeader : Nat → U32 → Cursor U8 → Cursor U8
  | 0, _, out => out
  | rounds + 1, word, out =>
    writeHeader rounds (word >>> 7) (out.put ((word &&& 0x7f#32).setWidth 8))

/-- The standard form; the header words are written behind the payload cursor `p`. -/
def buildUpdate (state : AsidChip) : Cursor U8 :=
  let m := asidPrefix.length + 1
  let loop := (List.finRange asidNumRegs).foldl (updateStep state)
    ⟨0, 0, ⟨state.updateBuffer, m + 8⟩⟩
  let header := writeHeader 4 loop.msb (writeHeader 4 loop.mask ⟨loop.out.buf, m⟩)
  Cursor.put ⟨header.buf, loop.out.pos⟩ asidSysexStop

/-- `chip->sid_modified` and its flag are cleared before the message is emitted. -/
def clearModified (state : AsidChip) : AsidChip :=
  { state with
    updateRegBuffer := (buildUpdateReg state).buf
    updateBuffer := (buildUpdate state).buf
    sidModified := fun _ => false
    sidModifiedFlag := false }

def asidCoreFlush (core : AsidCore) (chip : U8) (nsec : U64) : AsidCore × List AsidMsg :=
  if inside : chip.toNat < asidChips then
    let c : Chip := ⟨chip.toNat, inside⟩
    let state := core.chip c
    if state.sidModifiedFlag then
      let t := buildUpdateReg state
      let p := buildUpdate state
      let core := { core with chip := Function.update core.chip c (clearModified state) }
      if core.useUpdateReg && decide (t.pos < p.pos) then
        ({ core with bytesSaved := core.bytesSaved + BitVec.ofNat 32 (p.pos - t.pos) },
          [⟨c, t.buf.take t.pos, nsec⟩])
      else
        (core, [⟨c, p.buf.take p.pos, nsec⟩])
    else (core, [])
  else (core, [])

def markModified (state : AsidChip) (reg : Reg) (byte : U8) : AsidChip :=
  { state with
    sidRegister := Function.update state.sidRegister reg byte
    sidModified := Function.update state.sidModified reg true
    sidModifiedFlag := true }

def asidCoreSetReg (core : AsidCore) (chip reg byte : U8) : AsidCore × List AsidMsg :=
  if inside : chip.toNat < asidChips ∧ reg.toNat < asidNumRegs then
    let c : Chip := ⟨chip.toNat, inside.1⟩
    let r : Reg := ⟨reg.toNat, inside.2⟩
    let byte := regmask r &&& byte
    if (core.chip c).sidRegister r = byte then (core, [])
    else
      -- the previous edge of a control register is sent before the new one is stored
      let flushed := if isControl r && (core.chip c).sidModified r
        then asidCoreFlush core chip 0 else (core, [])
      let core := flushed.1
      ({ core with chip := Function.update core.chip c (markModified (core.chip c) r byte) },
        flushed.2)
  else (core, [])

inductive AsidCall
  | setReg (chip reg byte : U8)
  | flush (chip : U8) (nsec : U64)

def AsidCall.perform (core : AsidCore) : AsidCall → AsidCore × List AsidMsg
  | .setReg chip reg byte => asidCoreSetReg core chip reg byte
  | .flush chip nsec => asidCoreFlush core chip nsec

def asidMachine : Machine AsidCore AsidCall AsidMsg where
  step := AsidCall.perform
  enabled := fun _ _ => True

theorem asidMachine_legal (core : AsidCore) (calls : List AsidCall) :
    asidMachine.Legal core calls := by
  induction calls generalizing core with
  | nil => trivial
  | cons call calls ih => exact ⟨trivial, ih _⟩

/-- The single-register update of the standard form: header, one payload byte, stop. -/
example : asidMachine.emitted (asidCoreInit 0) [.setReg 0 0 0x42, .flush 0 0] =
    [⟨0, [0xf0, 0x2d, 0x4e, 1, 0, 0, 0, 0, 0, 0, 0, 0x42, 0xf7], 0⟩] := by
  decide

end Revice.Asid

/- Module: Revice/Bustrace/Core
   source: libs/bustrace/src/bustrace_core.c, libs/bustrace/include/revice_bustrace.h
   digest: The bus-trace serializer: header, delta-encoded records, trailer, running CRC. -/

import Mathlib.Logic.Function.Iterate
import Revice.General.Bytes
import Revice.General.Machine

set_option autoImplicit false
set_option relaxedAutoImplicit false

namespace Revice.Bustrace

open Revice.General

def bustraceMagic : List U8 := [0x52#8, 0x42#8, 0x54#8, 0x31#8]

/-- The trailer's magic ends in `e` instead of the version digit. -/
def bustraceEndMagic : List U8 := [0x52#8, 0x42#8, 0x54#8, 0x65#8]

def bustraceVersion : U16 := 1#16
def bustraceHeaderSize : Nat := 16
def bustraceRecSize : Nat := 10
def bustraceTrailerSize : Nat := 16
def bustraceFlagHasPc : U8 := 0x01#8

def putU16 (v : U16) : List U8 :=
  [(v &&& 0xff#16).setWidth 8, (v >>> 8 &&& 0xff#16).setWidth 8]

def putU32 (v : U32) : List U8 :=
  [(v &&& 0xff#32).setWidth 8, (v >>> 8 &&& 0xff#32).setWidth 8,
    (v >>> 16 &&& 0xff#32).setWidth 8, (v >>> 24 &&& 0xff#32).setWidth 8]

def putU64 (v : U64) : List U8 :=
  (List.range 8).map fun i => (v >>> (8 * i) &&& 0xff#64).setWidth 8

/-- One shift of the reflected register; the mask is the low bit, negated. -/
def crc32Bit (crc : U32) : U32 :=
  let mask := -(crc &&& 1#32)
  (crc >>> 1) ^^^ (0xedb88320#32 &&& mask)

def crc32Byte (crc : U32) (byte : U8) : U32 := crc32Bit^[8] (crc ^^^ byte.setWidth 32)

def reviceBustraceCrc32 (seed : U32) (buf : List U8) : U32 := ~~~(buf.foldl crc32Byte (~~~seed))

/-- The serializer state; `emit` tells whether a callback is installed. -/
structure ReviceBustrace where
  emit : Bool
  lastCycle : U64
  recCount : U64
  crc : U32
  started : Bool
  deriving DecidableEq

structure Access where
  cycle : U64
  addr : U16
  val : U8
  rwFlags : U8
  pc : U16
  deriving DecidableEq

/-- Each element of the output is one call of the emit callback. -/
def reviceBustraceBegin (cyclesPerSec : U64) (emit : Bool) : ReviceBustrace × List (List U8) :=
  let hdr := bustraceMagic ++ putU16 bustraceVersion ++
    [BitVec.ofNat 8 bustraceRecSize, bustraceFlagHasPc] ++ putU64 cyclesPerSec
  (⟨emit, 0, 0, 0, true⟩, if emit then [hdr] else [])

/-- The delta of one record: backwards steps become zero, long ones saturate. -/
def cycleDelta (lastCycle cycle : U64) : U64 :=
  let delta := if cycle ≥ lastCycle then cycle - lastCycle else 0#64
  if delta > 0xffffffff#64 then 0xffffffff#64 else delta

def recordBytes (lastCycle : U64) (a : Access) : List U8 :=
  putU32 ((cycleDelta lastCycle a.cycle).setWidth 32) ++ putU16 a.addr ++
    [a.val, a.rwFlags] ++ putU16 a.pc

def reviceBustraceAccess (bt : ReviceBustrace) (a : Access) : ReviceBustrace × List (List U8) :=
  if bt.started then
    let record := recordBytes bt.lastCycle a
    ({ bt with
        lastCycle := a.cycle
        crc := reviceBustraceCrc32 bt.crc record
        recCount := bt.recCount + 1 },
      if bt.emit then [record] else [])
  else (bt, [])

def reviceBustraceEnd (bt : ReviceBustrace) : ReviceBustrace × List (List U8) :=
  if bt.started then
    let tr := bustraceEndMagic ++ putU64 bt.recCount ++ putU32 bt.crc
    ({ bt with started := false }, if bt.emit then [tr] else [])
  else (bt, [])

def bustraceMachine : Machine ReviceBustrace Access (List U8) where
  step := reviceBustraceAccess
  enabled := fun _ _ => True

def traceChunks (cyclesPerSec : U64) (accesses : List Access) : List (List U8) :=
  let begun := reviceBustraceBegin cyclesPerSec true
  begun.2 ++ bustraceMachine.emitted begun.1 accesses ++
    (reviceBustraceEnd (bustraceMachine.exec begun.1 accesses)).2

def traceBytes (cyclesPerSec : U64) (accesses : List Access) : List U8 :=
  (traceChunks cyclesPerSec accesses).flatten

theorem reviceBustraceCrc32_append (seed : U32) (first later : List U8) :
    reviceBustraceCrc32 (reviceBustraceCrc32 seed first) later =
      reviceBustraceCrc32 seed (first ++ later) := by
  simp only [reviceBustraceCrc32, BitVec.not_not, List.foldl_append]

/-- The standard check vector. -/
example : reviceBustraceCrc32 0 [0x31, 0x32, 0x33, 0x34, 0x35, 0x36, 0x37, 0x38, 0x39] =
    0xcbf43926 := by
  decide +kernel

end Revice.Bustrace

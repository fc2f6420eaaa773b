/- Module: Revice/Bustrace/Reader
   source: libs/bustrace/include/revice_bustrace.h
   digest: A reader of the documented trace format recovers what was fed to the serializer. -/

import Mathlib.Data.List.Chain
import Revice.Bustrace.Core

set_option autoImplicit false
set_option relaxedAutoImplicit false

namespace Revice.Bustrace

open Revice.General

structure Record where
  cycleDelta : U32
  addr : U16
  val : U8
  rwFlags : U8
  pc : U16
  deriving DecidableEq

structure TraceFile where
  cyclesPerSec : U64
  records : List Record
  recCount : U64
  crc : U32
  deriving DecidableEq

def readRecord (b : List U8) : Record where
  cycleDelta := ofLeBytes 32 (b.take 4)
  addr := ofLeBytes 16 ((b.drop 4).take 2)
  val := b.getD 6 0
  rwFlags := b.getD 7 0
  pc := ofLeBytes 16 ((b.drop 8).take 2)

def readRecords : Nat → List U8 → List Record
  | 0, _ => []
  | n + 1, b => readRecord (b.take bustraceRecSize) :: readRecords n (b.drop bustraceRecSize)

/-- The first sixteen bytes are the header, the last sixteen the trailer. -/
def readTrace (bytes : List U8) : Option TraceFile :=
  let hdr := bytes.take bustraceHeaderSize
  let body := (bytes.drop bustraceHeaderSize).take
    (bytes.length - (bustraceHeaderSize + bustraceTrailerSize))
  let tr := bytes.drop (bytes.length - bustraceTrailerSize)
  if bustraceHeaderSize + bustraceTrailerSize ≤ bytes.length ∧
      hdr.take 4 = bustraceMagic ∧
      ofLeBytes 16 ((hdr.drop 4).take 2) = bustraceVersion ∧
      (hdr.getD 6 0).toNat = bustraceRecSize ∧
      hdr.getD 7 0 = bustraceFlagHasPc ∧
      body.length % bustraceRecSize = 0 ∧
      tr.take 4 = bustraceEndMagic then
    some
      { cyclesPerSec := ofLeBytes 64 (hdr.drop 8)
        records := readRecords (body.length / bustraceRecSize) body
        recCount := ofLeBytes 64 ((tr.drop 4).take 8)
        crc := ofLeBytes 32 (tr.drop 12) }
  else none

/-- Absolute cycles as the format documents them: a running sum of the deltas. -/
def runningCycles : Nat → List Record → List Nat
  | _, [] => []
  | total, r :: rs =>
    (total + r.cycleDelta.toNat) :: runningCycles (total + r.cycleDelta.toNat) rs

theorem putU16_leBytes (v : U16) : putU16 v = leBytes 2 v := by
  have low (x : U16) : (x &&& 0xff#16).setWidth 8 = (x.setWidth 8).setWidth 8 :=
    setWidth_and_low 8 x
  simp [putU16, leBytes, groups_eq_map, List.range_succ, low]

theorem putU32_leBytes (v : U32) : putU32 v = leBytes 4 v := by
  have low (x : U32) : (x &&& 0xff#32).setWidth 8 = (x.setWidth 8).setWidth 8 :=
    setWidth_and_low 8 x
  simp [putU32, leBytes, groups_eq_map, List.range_succ, low]

theorem putU64_leBytes (v : U64) : putU64 v = leBytes 8 v := by
  have low (x : U64) : (x &&& 0xff#64).setWidth 8 = (x.setWidth 8).setWidth 8 :=
    setWidth_and_low 8 x
  simp only [putU64, leBytes, groups_eq_map, low]

@[simp] theorem ofLeBytes_putU16 (v : U16) : ofLeBytes 16 (putU16 v) = v := by
  rw [putU16_leBytes, ofLeBytes_leBytes (by decide)]

@[simp] theorem ofLeBytes_putU32 (v : U32) : ofLeBytes 32 (putU32 v) = v := by
  rw [putU32_leBytes, ofLeBytes_leBytes (by decide)]

@[simp] theorem ofLeBytes_putU64 (v : U64) : ofLeBytes 64 (putU64 v) = v := by
  rw [putU64_leBytes, ofLeBytes_leBytes (by decide)]

@[simp] theorem length_recordBytes (lastCycle : U64) (a : Access) :
    (recordBytes lastCycle a).length = bustraceRecSize := rfl

def recordOf (lastCycle : U64) (a : Access) : Record where
  cycleDelta := (cycleDelta lastCycle a.cycle).setWidth 32
  addr := a.addr
  val := a.val
  rwFlags := a.rwFlags
  pc := a.pc

theorem readRecord_recordBytes (lastCycle : U64) (a : Access) :
    readRecord (recordBytes lastCycle a) = recordOf lastCycle a := by
  have delta := ofLeBytes_putU32 ((cycleDelta lastCycle a.cycle).setWidth 32)
  have addr := ofLeBytes_putU16 a.addr
  have pc := ofLeBytes_putU16 a.pc
  rw [recordOf, ← delta]
  rw [readRecord]
  congr 1

def recordChunks : U64 → List Access → List (List U8)
  | _, [] => []
  | lastCycle, a :: as => recordBytes lastCycle a :: recordChunks a.cycle as

def recordsOf : U64 → List Access → List Record
  | _, [] => []
  | lastCycle, a :: as => recordOf lastCycle a :: recordsOf a.cycle as

@[simp] theorem length_recordChunks (lastCycle : U64) (accesses : List Access) :
    (recordChunks lastCycle accesses).length = accesses.length := by
  induction accesses generalizing lastCycle with
  | nil => rfl
  | cons a as ih => simp [recordChunks, ih]

private theorem length_of_mem_recordChunks {lastCycle : U64} {accesses : List Access}
    {chunk : List U8}
    (member : chunk ∈ recordChunks lastCycle accesses) : chunk.length = bustraceRecSize := by
  induction accesses generalizing lastCycle with
  | nil => simp [recordChunks] at member
  | cons a as ih =>
    rcases List.mem_cons.mp member with rfl | member
    · rfl
    · exact ih member

theorem length_flatten_recordChunks (lastCycle : U64) (accesses : List Access) :
    (recordChunks lastCycle accesses).flatten.length = bustraceRecSize * accesses.length := by
  induction accesses generalizing lastCycle with
  | nil => rfl
  | cons a as ih =>
    rw [recordChunks, List.flatten_cons, List.length_append, ih, length_recordBytes,
      List.length_cons, Nat.mul_succ, Nat.add_comm]

private theorem readRecords_flatten (lastCycle : U64) (accesses : List Access) :
    readRecords accesses.length (recordChunks lastCycle accesses).flatten =
      recordsOf lastCycle accesses := by
  induction accesses generalizing lastCycle with
  | nil => rfl
  | cons a as ih =>
    rw [recordChunks, List.flatten_cons, List.length_cons, readRecords,
      List.take_left' (length_recordBytes lastCycle a),
      List.drop_left' (length_recordBytes lastCycle a), readRecord_recordBytes, ih]
    rfl

theorem run_access {bt : ReviceBustrace} (started : bt.started = true) (emit : bt.emit = true)
    (accesses : List Access) :
    bustraceMachine.emitted bt accesses = recordChunks bt.lastCycle accesses ∧
      (bustraceMachine.exec bt accesses).recCount =
        bt.recCount + BitVec.ofNat 64 accesses.length ∧
      (bustraceMachine.exec bt accesses).crc =
        reviceBustraceCrc32 bt.crc (recordChunks bt.lastCycle accesses).flatten ∧
      (bustraceMachine.exec bt accesses).started = true ∧
      (bustraceMachine.exec bt accesses).emit = true := by
  induction accesses generalizing bt with
  | nil => simp [recordChunks, reviceBustraceCrc32, started, emit]
  | cons a as ih =>
    have stepped : bustraceMachine.step bt a =
        ({ bt with
            lastCycle := a.cycle
            crc := reviceBustraceCrc32 bt.crc (recordBytes bt.lastCycle a)
            recCount := bt.recCount + 1 }, [recordBytes bt.lastCycle a]) := by
      change reviceBustraceAccess bt a = _
      simp [reviceBustraceAccess, started, emit]
    obtain ⟨chunks, count, crc, rest⟩ := @ih (bustraceMachine.step bt a).1
      (by rw [stepped]; exact started) (by rw [stepped]; exact emit)
    rw [Machine.emitted_cons, Machine.exec_cons]
    refine ⟨?_, ?_, ?_, rest⟩
    · rw [chunks, stepped]
      rfl
    · rw [count, stepped, List.length_cons]
      apply BitVec.eq_of_toNat_eq
      simp
      omega
    · rw [crc, stepped, reviceBustraceCrc32_append]
      rfl

theorem cycleDelta_toNat (lastCycle cycle : U64) :
    ((cycleDelta lastCycle cycle).setWidth 32).toNat =
      if lastCycle.toNat ≤ cycle.toNat then min (cycle.toNat - lastCycle.toNat) 0xffffffff
      else 0 := by
  have small := cycle.isLt
  rw [cycleDelta, BitVec.toNat_setWidth]
  by_cases forward : lastCycle.toNat ≤ cycle.toNat
  · have difference : (cycle - lastCycle).toNat = cycle.toNat - lastCycle.toNat := by
      rw [BitVec.toNat_sub]
      omega
    by_cases long : 0xffffffff < cycle.toNat - lastCycle.toNat
    · simp [BitVec.le_def, BitVec.lt_def, forward, difference, long]
      omega
    · simp [BitVec.le_def, BitVec.lt_def, forward, difference, long]
      omega
  · simp [BitVec.le_def, BitVec.lt_def, forward]

/-- The cycles never go back and no step, the first one counted from `start`,
overflows a record's delta. -/
def CyclesFit (start : Nat) (cycles : List Nat) : Prop :=
  (start :: cycles).IsChain fun previous cycle =>
    previous ≤ cycle ∧ cycle - previous ≤ 0xffffffff

private theorem runningCycles_eq_iff (lastCycle : U64) (accesses : List Access) :
    runningCycles lastCycle.toNat (recordsOf lastCycle accesses) =
        accesses.map (fun a => a.cycle.toNat) ↔
      CyclesFit lastCycle.toNat (accesses.map fun a => a.cycle.toNat) := by
  induction accesses generalizing lastCycle with
  | nil => simp [runningCycles, recordsOf, CyclesFit]
  | cons a as ih =>
    have head : lastCycle.toNat + ((cycleDelta lastCycle a.cycle).setWidth 32).toNat =
        a.cycle.toNat ↔
        lastCycle.toNat ≤ a.cycle.toNat ∧ a.cycle.toNat - lastCycle.toNat ≤ 0xffffffff := by
      rw [cycleDelta_toNat]
      split <;> omega
    simp only [recordsOf, runningCycles, recordOf, List.map_cons, List.cons.injEq, CyclesFit,
      List.isChain_cons_cons]
    constructor
    · rintro ⟨here, rest⟩
      rw [here] at rest
      exact ⟨head.mp here, (ih a.cycle).mp rest⟩
    · rintro ⟨here, rest⟩
      have sum := head.mpr here
      rw [sum]
      exact ⟨rfl, (ih a.cycle).mpr rest⟩

def Access.fields (a : Access) : U16 × U8 × U8 × U16 := (a.addr, a.val, a.rwFlags, a.pc)

def Record.fields (r : Record) : U16 × U8 × U8 × U16 := (r.addr, r.val, r.rwFlags, r.pc)

private theorem fields_recordsOf (lastCycle : U64) (accesses : List Access) :
    (recordsOf lastCycle accesses).map Record.fields = accesses.map Access.fields := by
  induction accesses generalizing lastCycle with
  | nil => rfl
  | cons a as ih =>
    rw [recordsOf, List.map_cons, List.map_cons, ih]
    rfl

def headerBytes (cyclesPerSec : U64) : List U8 :=
  bustraceMagic ++ putU16 bustraceVersion ++
    [BitVec.ofNat 8 bustraceRecSize, bustraceFlagHasPc] ++ putU64 cyclesPerSec

def trailerBytes (recCount : U64) (crc : U32) : List U8 :=
  bustraceEndMagic ++ putU64 recCount ++ putU32 crc

theorem traceChunks_eq (cyclesPerSec : U64) (accesses : List Access) :
    traceChunks cyclesPerSec accesses = headerBytes cyclesPerSec :: recordChunks 0 accesses ++
      [trailerBytes (BitVec.ofNat 64 accesses.length)
        (reviceBustraceCrc32 0 (recordChunks 0 accesses).flatten)] := by
  obtain ⟨chunks, count, crc, started, emit⟩ :=
    @run_access (reviceBustraceBegin cyclesPerSec true).1 rfl rfl accesses
  have ended : (reviceBustraceEnd (bustraceMachine.exec
      (reviceBustraceBegin cyclesPerSec true).1 accesses)).2 =
      [trailerBytes (bustraceMachine.exec (reviceBustraceBegin cyclesPerSec true).1
          accesses).recCount
        (bustraceMachine.exec (reviceBustraceBegin cyclesPerSec true).1 accesses).crc] := by
    simp [reviceBustraceEnd, started, emit, trailerBytes]
  have zero : (reviceBustraceBegin cyclesPerSec true).1.recCount +
      BitVec.ofNat 64 accesses.length = BitVec.ofNat 64 accesses.length := BitVec.zero_add _
  rw [traceChunks, ended, chunks, count, crc, zero]
  rfl

theorem readTrace_body (cyclesPerSec recCount : U64) (crc : U32) {body : List U8}
    (whole : body.length % bustraceRecSize = 0) :
    readTrace (headerBytes cyclesPerSec ++ body ++ trailerBytes recCount crc) =
      some ⟨cyclesPerSec, readRecords (body.length / bustraceRecSize) body, recCount, crc⟩ := by
  have total : (headerBytes cyclesPerSec ++ body ++ trailerBytes recCount crc).length =
      32 + body.length := by
    simp only [List.length_append]
    change 16 + body.length + 16 = _
    omega
  have hdr : (headerBytes cyclesPerSec ++ body ++ trailerBytes recCount crc).take 16 =
      headerBytes cyclesPerSec := by
    rw [List.append_assoc]
    exact List.take_left' rfl
  have tr : (headerBytes cyclesPerSec ++ body ++ trailerBytes recCount crc).drop
      (32 + body.length - 16) = trailerBytes recCount crc := by
    refine List.drop_left' ?_
    rw [List.length_append]
    change 16 + body.length = _
    omega
  have mid : ((headerBytes cyclesPerSec ++ body ++ trailerBytes recCount crc).drop 16).take
      (32 + body.length - 32) = body := by
    rw [List.append_assoc, List.drop_left' (show (headerBytes cyclesPerSec).length = 16 from rfl)]
    exact List.take_left' (by omega)
  have version : ofLeBytes 16 (((headerBytes cyclesPerSec).drop 4).take 2) = bustraceVersion :=
    ofLeBytes_putU16 bustraceVersion
  have rate : ofLeBytes 64 ((headerBytes cyclesPerSec).drop 8) = cyclesPerSec :=
    ofLeBytes_putU64 cyclesPerSec
  have count : ofLeBytes 64 (((trailerBytes recCount crc).drop 4).take 8) = recCount :=
    ofLeBytes_putU64 recCount
  have check : ofLeBytes 32 ((trailerBytes recCount crc).drop 12) = crc := ofLeBytes_putU32 crc
  simp only [readTrace, bustraceHeaderSize, bustraceTrailerSize, total, hdr, tr, mid]
  rw [if_pos]
  · rw [rate, count, check]
  · exact ⟨by omega, rfl, version, rfl, rfl, whole, rfl⟩

theorem readTrace_file (cyclesPerSec recCount : U64) (crc : U32) (accesses : List Access) :
    readTrace (headerBytes cyclesPerSec ++ (recordChunks 0 accesses).flatten ++
        trailerBytes recCount crc) =
      some ⟨cyclesPerSec, recordsOf 0 accesses, recCount, crc⟩ := by
  have bodyLength := length_flatten_recordChunks 0 accesses
  have whole : (recordChunks 0 accesses).flatten.length % bustraceRecSize = 0 := by
    rw [bodyLength, Nat.mul_mod_right]
  have strides : (recordChunks 0 accesses).flatten.length / bustraceRecSize = accesses.length := by
    rw [bodyLength, bustraceRecSize]
    omega
  rw [readTrace_body cyclesPerSec recCount crc whole, strides, readRecords_flatten]

/-- The round trip: the bytes of a trace are a header, one ten-byte record per
access and a trailer; reading them gives back the rate and every access, the
count modulo `2 ^ 64` and the checksum of the record bytes; and the running sum
of the deltas is the absolute cycle at every record exactly when the cycles
never go back and no step exceeds 32 bits. -/
theorem trace_round_trip (cyclesPerSec : U64) (accesses : List Access) :
    ∃ hdr records tr,
      traceChunks cyclesPerSec accesses = hdr :: records ++ [tr] ∧
      hdr.length = 16 ∧ records.length = accesses.length ∧
      (∀ chunk ∈ records, chunk.length = 10) ∧ tr.length = 16 ∧
      ∃ file, readTrace (traceBytes cyclesPerSec accesses) = some file ∧
        file.cyclesPerSec = cyclesPerSec ∧
        file.records.map Record.fields = accesses.map Access.fields ∧
        file.recCount.toNat = accesses.length % 2 ^ 64 ∧
        file.crc = reviceBustraceCrc32 0 records.flatten ∧
        (runningCycles 0 file.records = accesses.map (fun a => a.cycle.toNat) ↔
          CyclesFit 0 (accesses.map fun a => a.cycle.toNat)) := by
  refine ⟨_, _, _, traceChunks_eq cyclesPerSec accesses, rfl, length_recordChunks 0 accesses,
    ?_, rfl, ?_⟩
  · intro chunk member
    exact length_of_mem_recordChunks member
  · refine ⟨⟨cyclesPerSec, recordsOf 0 accesses, BitVec.ofNat 64 accesses.length,
        reviceBustraceCrc32 0 (recordChunks 0 accesses).flatten⟩, ?_, rfl,
      fields_recordsOf 0 accesses, BitVec.toNat_ofNat _ _, rfl,
      runningCycles_eq_iff 0#64 accesses⟩
    rw [traceBytes, traceChunks_eq, List.flatten_append, List.flatten_cons,
      List.flatten_singleton]
    exact readTrace_file _ _ _ _

end Revice.Bustrace

/- Module: Revice/Bustrace/Strict
   source: libs/bustrace/include/revice_bustrace.h, libs/bustrace/src/bustrace_core.c
   digest: A reader that checks count and checksum accepts what the serializer writes, only. -/

import Revice.Bustrace.Burst

set_option autoImplicit false
set_option relaxedAutoImplicit false

namespace Revice.Bustrace

open Revice.General

/-- The reader of the format, with the two checks its trailer is for. -/
def strictTrace (bytes : List U8) : Option TraceFile :=
  (readTrace bytes).filter fun file =>
    file.recCount.toNat = file.records.length ∧ file.crc = reviceBustraceCrc32 0 (recordPart bytes)

private theorem putU16_ofLeBytes {b : List U8} (length : b.length = 2) :
    putU16 (ofLeBytes 16 b) = b := by
  rw [putU16_leBytes, ← length, leBytes_ofLeBytes (by omega)]

private theorem putU32_ofLeBytes {b : List U8} (length : b.length = 4) :
    putU32 (ofLeBytes 32 b) = b := by
  rw [putU32_leBytes, ← length, leBytes_ofLeBytes (by omega)]

private theorem putU64_ofLeBytes {b : List U8} (length : b.length = 8) :
    putU64 (ofLeBytes 64 b) = b := by
  rw [putU64_leBytes, ← length, leBytes_ofLeBytes (by omega)]

private theorem take_two {b : List U8} {i : Nat} (inside : i + 1 < b.length) :
    (b.drop i).take 2 = [b.getD i 0, b.getD (i + 1) 0] := by
  rw [List.drop_eq_getElem_cons (by omega), List.drop_eq_getElem_cons inside,
    List.getD_eq_getElem _ _ (by omega), List.getD_eq_getElem _ _ inside]
  rfl

private theorem headerBytes_of_checks {hdr : List U8} (length : hdr.length = 16)
    (magic : hdr.take 4 = bustraceMagic)
    (version : ofLeBytes 16 ((hdr.drop 4).take 2) = bustraceVersion)
    (recSize : (hdr.getD 6 0).toNat = bustraceRecSize) (flags : hdr.getD 7 0 = bustraceFlagHasPc) :
    hdr = headerBytes (ofLeBytes 64 (hdr.drop 8)) := by
  have versionBytes := putU16_ofLeBytes (b := (hdr.drop 4).take 2) (by simp [length])
  have rate := putU64_ofLeBytes (b := hdr.drop 8) (by simp [length])
  have size : hdr.getD 6 0 = BitVec.ofNat 8 bustraceRecSize := by
    rw [← recSize, BitVec.ofNat_toNat, BitVec.setWidth_eq]
  have pair : (hdr.drop 6).take 2 = [hdr.getD 6 0, hdr.getD 7 0] := take_two (by omega)
  rw [headerBytes, rate, ← version, versionBytes, ← magic, ← size, ← flags, ← pair]
  have first := List.take_append_drop 4 hdr
  have second := List.take_append_drop 2 (hdr.drop 4)
  have third := List.take_append_drop 2 (hdr.drop 6)
  rw [List.drop_drop] at second third
  rw [List.append_assoc, List.append_assoc, third, second, first]

private theorem trailerBytes_of_checks {tr : List U8} (length : tr.length = 16)
    (magic : tr.take 4 = bustraceEndMagic) :
    tr = trailerBytes (ofLeBytes 64 ((tr.drop 4).take 8)) (ofLeBytes 32 (tr.drop 12)) := by
  have count := putU64_ofLeBytes (b := (tr.drop 4).take 8) (by simp [length])
  have crc := putU32_ofLeBytes (b := tr.drop 12) (by simp [length])
  have first := List.take_append_drop 4 tr
  have second := List.take_append_drop 8 (tr.drop 4)
  rw [List.drop_drop] at second
  rw [trailerBytes, count, crc, ← magic, List.append_assoc, second, first]

/-- What the reader takes apart can be put together again. -/
private theorem readTrace_inverse {bytes : List U8} {file : TraceFile}
    (read : readTrace bytes = some file) :
    bytes = headerBytes file.cyclesPerSec ++ recordPart bytes ++
        trailerBytes file.recCount file.crc ∧
      (recordPart bytes).length % bustraceRecSize = 0 ∧
      file.records = readRecords ((recordPart bytes).length / bustraceRecSize)
        (recordPart bytes) := by
  rw [readTrace] at read
  split at read
  · rename_i checks
    obtain ⟨long, magic, version, recSize, flags, whole, endMagic⟩ := checks
    have parts := Option.some.inj read
    simp only [bustraceHeaderSize, bustraceTrailerSize] at long magic version recSize flags endMagic
    have hdrLength : (bytes.take 16).length = 16 := by
      rw [List.length_take]
      omega
    have trLength : (bytes.drop (bytes.length - 16)).length = 16 := by
      rw [List.length_drop]
      omega
    have hdr := headerBytes_of_checks hdrLength magic version recSize flags
    have tr := trailerBytes_of_checks trLength endMagic
    rw [← parts]
    refine ⟨?_, whole, rfl⟩
    simp only [bustraceHeaderSize, bustraceTrailerSize]
    rw [← hdr, ← tr]
    have window := window_split bytes 16 (bytes.length - (16 + 16))
    rw [show 16 + (bytes.length - (16 + 16)) = bytes.length - 16 by omega] at window
    rw [List.append_assoc]
    exact window
  · cases read

/-- A record count is exact when it fits its field. -/
private def Counted (body : List U8) : Prop :=
  body.length % bustraceRecSize = 0 ∧ body.length / bustraceRecSize < 2 ^ 64

def fileAround (cyclesPerSec : U64) (body : List U8) : List U8 :=
  headerBytes cyclesPerSec ++ body ++ trailerBytes
    (BitVec.ofNat 64 (body.length / bustraceRecSize)) (reviceBustraceCrc32 0 body)

private theorem length_fileAround (cyclesPerSec : U64) (body : List U8) :
    (fileAround cyclesPerSec body).length = 32 + body.length := by
  rw [fileAround, List.length_append, List.length_append]
  change 16 + body.length + 16 = _
  omega

private theorem length_readRecords (n : Nat) (b : List U8) : (readRecords n b).length = n := by
  induction n generalizing b with
  | zero => rfl
  | succ n ih => rw [readRecords, List.length_cons, ih]

private theorem strictTrace_iff (bytes : List U8) :
    (strictTrace bytes).isSome = true ↔
      ∃ cyclesPerSec body, Counted body ∧ bytes = fileAround cyclesPerSec body := by
  rw [Option.isSome_iff_exists]
  constructor
  · rintro ⟨file, accepted⟩
    rw [strictTrace, Option.filter_eq_some_iff, decide_eq_true_iff] at accepted
    obtain ⟨read, count, crc⟩ := accepted
    obtain ⟨inverse, whole, records⟩ := readTrace_inverse read
    have counted : file.recCount.toNat = (recordPart bytes).length / bustraceRecSize := by
      rw [count, records, length_readRecords]
    refine ⟨file.cyclesPerSec, recordPart bytes, ⟨whole, ?_⟩, ?_⟩
    · rw [← counted]
      exact file.recCount.isLt
    · rw [fileAround, ← counted, ← crc, BitVec.ofNat_toNat, BitVec.setWidth_eq]
      exact inverse
  · rintro ⟨cyclesPerSec, body, ⟨whole, few⟩, rfl⟩
    refine ⟨_, Option.filter_eq_some_iff.mpr ⟨readTrace_body _ _ _ whole, decide_eq_true ⟨?_, ?_⟩⟩⟩
    · rw [length_readRecords, BitVec.toNat_ofNat, Nat.mod_eq_of_lt few]
    · change _ = reviceBustraceCrc32 0 (recordPart (headerBytes _ ++ _ ++ trailerBytes _ _))
      rw [recordPart_file]

/-- The accesses that records stand for: the clock is the running sum of the deltas. -/
def accessesOf : U64 → List Record → List Access
  | _, [] => []
  | clock, r :: rs =>
    let cycle := clock + r.cycleDelta.setWidth 64
    ⟨cycle, r.addr, r.val, r.rwFlags, r.pc⟩ :: accessesOf cycle rs

private theorem cycleDelta_add {clock : U64} {delta : U32}
    (room : clock.toNat + delta.toNat < 2 ^ 64) :
    (clock + delta.setWidth 64).toNat = clock.toNat + delta.toNat ∧
      (cycleDelta clock (clock + delta.setWidth 64)).setWidth 32 = delta := by
  have small := delta.isLt
  have moved : (clock + delta.setWidth 64).toNat = clock.toNat + delta.toNat := by
    rw [BitVec.toNat_add, BitVec.toNat_setWidth]
    omega
  refine ⟨moved, BitVec.eq_of_toNat_eq ?_⟩
  rw [cycleDelta_toNat, moved, if_pos (Nat.le_add_right _ _)]
  omega

private theorem recordBytes_readRecord {b : List U8} (length : b.length = 10) {clock : U64}
    {cycle : U64} (delta : (cycleDelta clock cycle).setWidth 32 = (readRecord b).cycleDelta) :
    recordBytes clock ⟨cycle, (readRecord b).addr, (readRecord b).val, (readRecord b).rwFlags,
      (readRecord b).pc⟩ = b := by
  have deltaBytes := putU32_ofLeBytes (b := b.take 4) (by simp [length])
  have addr := putU16_ofLeBytes (b := (b.drop 4).take 2) (by simp [length])
  have pc := putU16_ofLeBytes (b := (b.drop 8).take 2) (by simp [length])
  have pair : (b.drop 6).take 2 = [b.getD 6 0, b.getD 7 0] := take_two (by omega)
  have last : (b.drop 8).take 2 = b.drop 8 := List.take_of_length_le (by simp [length])
  rw [recordBytes]
  simp only [delta]
  rw [readRecord]
  simp only
  rw [deltaBytes, addr, pc, ← pair, last]
  have first := List.take_append_drop 4 b
  have second := List.take_append_drop 2 (b.drop 4)
  have third := List.take_append_drop 2 (b.drop 6)
  rw [List.drop_drop] at second third
  rw [List.append_assoc, List.append_assoc, third, second, first]

private theorem recordChunks_accessesOf (n : Nat) (clock : U64) {body : List U8}
    (length : body.length = 10 * n) (room : clock.toNat + n * (2 ^ 32 - 1) < 2 ^ 64) :
    (recordChunks clock (accessesOf clock (readRecords n body))).flatten = body ∧
      CyclesFit clock.toNat
        ((accessesOf clock (readRecords n body)).map fun a => a.cycle.toNat) := by
  induction n generalizing clock body with
  | zero =>
    rw [List.length_eq_zero_iff.mp length]
    exact ⟨rfl, List.isChain_singleton _⟩
  | succ n ih =>
    have small := (readRecord (body.take 10)).cycleDelta.isLt
    have next : clock.toNat + (readRecord (body.take 10)).cycleDelta.toNat < 2 ^ 64 := by omega
    obtain ⟨moved, delta⟩ := cycleDelta_add next
    have shorter : (body.drop 10).length = 10 * n := by
      rw [List.length_drop]
      omega
    obtain ⟨rest, fit⟩ := ih (clock + (readRecord (body.take 10)).cycleDelta.setWidth 64) shorter
      (by rw [moved]; omega)
    have first := recordBytes_readRecord (b := body.take 10) (by rw [List.length_take]; omega) delta
    have step : clock.toNat ≤ (clock + (readRecord (body.take 10)).cycleDelta.setWidth 64).toNat ∧
        (clock + (readRecord (body.take 10)).cycleDelta.setWidth 64).toNat - clock.toNat ≤
          0xffffffff := by
      rw [moved]
      omega
    refine ⟨?_, List.isChain_cons_cons.mpr ⟨step, fit⟩⟩
    change recordBytes clock _ ++ (recordChunks _ (accessesOf _ (readRecords n _))).flatten = body
    exact (congrArg₂ _ first rest).trans (List.take_append_drop 10 body)

private theorem traceBytes_around (cyclesPerSec : U64) {accesses : List Access}
    (few : accesses.length < 2 ^ 64) :
    Counted (recordChunks 0 accesses).flatten ∧
      traceBytes cyclesPerSec accesses =
        fileAround cyclesPerSec (recordChunks 0 accesses).flatten := by
  have length := length_flatten_recordChunks 0 accesses
  rw [bustraceRecSize] at length
  constructor
  · rw [Counted, length, bustraceRecSize]
    omega
  · rw [traceBytes_eq, fileAround, length, bustraceRecSize, Nat.mul_div_cancel_left _ (by decide)]

/-- The format is exact. The strict reader accepts every finished trace whose count fits, and
every file it accepts, up to 2^32 records, is byte for byte what the serializer writes for some
accesses whose cycles never go back. -/
theorem strict_reader :
    (∀ cyclesPerSec accesses, accesses.length < 2 ^ 64 →
      (strictTrace (traceBytes cyclesPerSec accesses)).isSome = true) ∧
    ∀ bytes, bytes.length < 10 * 2 ^ 32 → (strictTrace bytes).isSome = true →
      ∃ cyclesPerSec accesses, CyclesFit 0 (accesses.map fun a => a.cycle.toNat) ∧
        bytes = traceBytes cyclesPerSec accesses := by
  constructor
  · intro cyclesPerSec accesses few
    obtain ⟨counted, around⟩ := traceBytes_around cyclesPerSec few
    exact (strictTrace_iff _).mpr ⟨cyclesPerSec, _, counted, around⟩
  · intro bytes short accepted
    obtain ⟨cyclesPerSec, body, ⟨whole, _⟩, rfl⟩ := (strictTrace_iff bytes).mp accepted
    rw [bustraceRecSize] at whole
    rw [length_fileAround] at short
    have records : body.length = 10 * (body.length / 10) := by omega
    obtain ⟨written, fit⟩ := recordChunks_accessesOf (body.length / 10) 0 records (by
      simp only [BitVec.ofNat_eq_ofNat, BitVec.toNat_ofNat]
      omega)
    refine ⟨cyclesPerSec, _, fit, ?_⟩
    have length := length_flatten_recordChunks 0
      (accessesOf 0 (readRecords (body.length / 10) body))
    rw [written, bustraceRecSize] at length
    have count : body.length / 10 =
        (accessesOf 0 (readRecords (body.length / 10) body)).length := by omega
    rw [traceBytes_eq, fileAround, written, bustraceRecSize, ← count]

private theorem exists_apart {first second : List U8} (differ : first ≠ second) :
    ∃ i : Nat, first[i]? ≠ second[i]? := by
  by_contra agree
  push Not at agree
  exact differ (List.ext_getElem? agree)

private theorem burst_keeps_body {rate otherRate : U64} {body other : List U8} {start : Nat}
    (burst : ShortBurst start (fileAround rate body) (fileAround otherRate other)) :
    body = other := by
  have length : body.length = other.length := by
    have whole := burst.length
    rw [length_fileAround, length_fileAround] at whole
    omega
  by_contra differ
  have inBody : ∀ i, body[i]? ≠ other[i]? → start ≤ 16 + i ∧ 16 + i < start + 4 ∧
      i < body.length := by
    intro i apart
    have inside : i < body.length := by
      by_contra outside
      rw [List.getElem?_eq_none (by omega), List.getElem?_eq_none (by omega)] at apart
      exact apart rfl
    have window := burst.window (16 + i) (by
      have here : (fileAround rate body)[16 + i]? = body[i]? := getElem?_middle inside
      have there : (fileAround otherRate other)[16 + i]? = other[i]? :=
        getElem?_middle (length ▸ inside)
      exact fun same => apart (here.symm.trans (same.trans there)))
    exact ⟨window.1, window.2, inside⟩
  have bodies : ShortBurst (start - 16) body other := by
    refine ⟨length, differ, ?_⟩
    intro i apart
    have window := inBody i apart
    omega
  have checksums := crc32_burst 0 bodies
  have words : putU32 (reviceBustraceCrc32 0 body) ≠ putU32 (reviceBustraceCrc32 0 other) := by
    intro same
    have read := congrArg (ofLeBytes 32) same
    rw [ofLeBytes_putU32, ofLeBytes_putU32] at read
    exact checksums read
  obtain ⟨i, here⟩ := exists_apart differ
  obtain ⟨j, there⟩ := exists_apart words
  have early := inBody i here
  have late := burst.window (16 + body.length + 12 + j) (by
    have tail (r : U64) (b : List U8) : (fileAround r b)[16 + b.length + 12 + j]? =
        (putU32 (reviceBustraceCrc32 0 b))[j]? := by
      have front : (headerBytes r ++ b ++ (bustraceEndMagic ++ putU64
          (BitVec.ofNat 64 (b.length / bustraceRecSize)))).length = 16 + b.length + 12 := by
        rw [List.length_append, List.length_append]
        rfl
      rw [fileAround, trailerBytes, ← List.append_assoc, ← front,
        List.getElem?_append_right (Nat.le_add_right _ _), Nat.add_sub_cancel_left]
    rw [tail rate body, length, tail otherRate other]
    exact there)
  omega

private theorem fileAround_fixed (rate : U64) (body : List U8) :
    (fileAround rate body).take 8 = bustraceMagic ++ putU16 bustraceVersion ++
        [BitVec.ofNat 8 bustraceRecSize, bustraceFlagHasPc] ∧
      (fileAround rate body).drop 16 = body ++ trailerBytes
        (BitVec.ofNat 64 (body.length / bustraceRecSize)) (reviceBustraceCrc32 0 body) := by
  rw [fileAround, List.append_assoc]
  exact ⟨rfl, rfl⟩

/-- Corruption is noticed. Of all files of the right length that differ from a finished trace
within four consecutive bytes, the strict reader accepts exactly those that keep everything but
the clock rate, the one field that nothing checks. -/
theorem strict_burst (cyclesPerSec : U64) (accesses : List Access)
    (few : accesses.length < 2 ^ 64) (start : Nat) (corrupted : List U8)
    (burst : ShortBurst start (traceBytes cyclesPerSec accesses) corrupted) :
    (strictTrace corrupted).isSome = true ↔
      corrupted.take 8 = (traceBytes cyclesPerSec accesses).take 8 ∧
        corrupted.drop 16 = (traceBytes cyclesPerSec accesses).drop 16 := by
  obtain ⟨counted, around⟩ := traceBytes_around cyclesPerSec few
  rw [around] at burst ⊢
  generalize (recordChunks 0 accesses).flatten = body at counted burst ⊢
  obtain ⟨front, back⟩ := fileAround_fixed cyclesPerSec body
  rw [strictTrace_iff, front, back]
  constructor
  · rintro ⟨otherRate, other, _, rfl⟩
    obtain rfl := burst_keeps_body burst
    exact fileAround_fixed otherRate body
  · rintro ⟨sameFront, sameBack⟩
    have length := burst.length
    rw [length_fileAround] at length
    have parts := window_split corrupted 8 8
    have rate := putU64_ofLeBytes (b := (corrupted.drop 8).take 8) (by
      rw [List.length_take, List.length_drop]
      omega)
    refine ⟨ofLeBytes 64 ((corrupted.drop 8).take 8), body, counted, ?_⟩
    rw [fileAround, headerBytes, rate]
    rw [sameFront, sameBack] at parts
    simpa only [List.append_assoc] using parts

theorem strict_burst_record :
    (strictTrace ((traceBytes 985248 [⟨5, 0xd404, 0x11, 1, 0x1000⟩]).set 22 0x10)).isSome = true ↔
      ((traceBytes 985248 [⟨5, 0xd404, 0x11, 1, 0x1000⟩]).set 22 0x10).take 8 =
          (traceBytes 985248 [⟨5, 0xd404, 0x11, 1, 0x1000⟩]).take 8 ∧
        ((traceBytes 985248 [⟨5, 0xd404, 0x11, 1, 0x1000⟩]).set 22 0x10).drop 16 =
          (traceBytes 985248 [⟨5, 0xd404, 0x11, 1, 0x1000⟩]).drop 16 := by
  refine strict_burst 985248 [⟨5, 0xd404, 0x11, 1, 0x1000⟩] (by decide) 22 _ ⟨?_, ?_, ?_⟩
  · rw [List.length_set]
  · intro same
    have written : (traceBytes 985248 [⟨5, 0xd404, 0x11, 1, 0x1000⟩])[22]? = some 0x11 := rfl
    have byte := congrArg (fun bytes : List U8 => bytes[22]?) same
    simp only [List.getElem?_set_self', written] at byte
    exact absurd byte (by decide)
  · intro i apart
    by_cases here : 22 = i
    · omega
    · rw [List.getElem?_set_ne here] at apart
      exact absurd rfl apart

end Revice.Bustrace

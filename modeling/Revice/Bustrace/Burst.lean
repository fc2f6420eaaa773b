/- Module: Revice/Bustrace/Burst
   source: libs/bustrace/src/bustrace_core.c, libs/bustrace/include/revice_bustrace.h
   digest: The trace checksum tells a short burst of corrupted bytes from the original. -/

import Revice.Bustrace.Reader
import Revice.General.Crc

set_option autoImplicit false
set_option relaxedAutoImplicit false

namespace Revice.Bustrace

open Revice.General

def crc32Poly : U32 := 0xedb88320#32

private theorem crc32Bit_shiftBit (crc : U32) : crc32Bit crc = shiftBit crc32Poly crc := by
  have low : crc &&& 1#32 = if crc.getLsbD 0 then 1#32 else 0#32 := BitVec.and_twoPow crc 0
  simp only [crc32Bit, low, shiftBit, crc32Poly]
  cases crc.getLsbD 0 <;> rfl

private theorem crc32Byte_feedByte : crc32Byte = feedByte crc32Poly := by
  have bit : crc32Bit = shiftBit crc32Poly := funext crc32Bit_shiftBit
  funext crc byte
  rw [crc32Byte, feedByte, bit]

theorem crc32_feed (seed : U32) (buf : List U8) :
    reviceBustraceCrc32 seed buf = ~~~feed crc32Poly (~~~seed) buf := by
  rw [reviceBustraceCrc32, crc32Byte_feedByte]
  rfl

/-- The two inputs have one length and differ, in a window of four bytes only. -/
structure ShortBurst (start : Nat) (first second : List U8) : Prop where
  length : first.length = second.length
  differ : first ≠ second
  window : ∀ i, first[i]? ≠ second[i]? → start ≤ i ∧ i < start + 4

theorem crc32_burst (seed : U32) {start : Nat} {first second : List U8}
    (burst : ShortBurst start first second) :
    reviceBustraceCrc32 seed first ≠ reviceBustraceCrc32 seed second := by
  have top : crc32Poly.getLsbD (32 - 1) = true := by decide
  have agree : ∀ i, i < start ∨ start + 4 ≤ i → first[i]? = second[i]? := by
    intro i outside
    by_contra apart
    have inside := burst.window i apart
    omega
  rw [crc32_feed, crc32_feed]
  intro equal
  exact feed_burst top _ burst.length (by decide) agree burst.differ (BitVec.not_inj.mp equal)

def recordPart (bytes : List U8) : List U8 :=
  (bytes.drop bustraceHeaderSize).take (bytes.length - (bustraceHeaderSize + bustraceTrailerSize))

theorem recordPart_file (cyclesPerSec recCount : U64) (crc : U32) (body : List U8) :
    recordPart (headerBytes cyclesPerSec ++ body ++ trailerBytes recCount crc) = body := by
  have header : (headerBytes cyclesPerSec).length = 16 := rfl
  have trailer : (trailerBytes recCount crc).length = 16 := rfl
  simp only [recordPart, bustraceHeaderSize, bustraceTrailerSize, List.append_assoc,
    List.drop_left' header, List.length_append, header, trailer]
  exact List.take_left' (by omega)

theorem traceBytes_eq (cyclesPerSec : U64) (accesses : List Access) :
    traceBytes cyclesPerSec accesses = headerBytes cyclesPerSec ++
      (recordChunks 0 accesses).flatten ++ trailerBytes (BitVec.ofNat 64 accesses.length)
        (reviceBustraceCrc32 0 (recordChunks 0 accesses).flatten) := by
  rw [traceBytes, traceChunks_eq, List.flatten_append, List.flatten_cons, List.flatten_singleton]

private theorem split_of_agree {header body trailer bytes : List U8}
    (length : bytes.length = (header ++ body ++ trailer).length)
    (agree : ∀ i, i < header.length ∨ header.length + body.length ≤ i →
      bytes[i]? = (header ++ body ++ trailer)[i]?) :
    ∃ other, bytes = header ++ other ++ trailer ∧ other.length = body.length := by
  have front : bytes.take header.length = header := by
    rw [take_eq_of_agree fun i inside => agree i (Or.inl inside), List.append_assoc]
    exact List.take_left
  have back : bytes.drop (header.length + body.length) = trailer := by
    rw [drop_eq_of_agree fun i past => agree i (Or.inr past)]
    exact List.drop_left' List.length_append
  refine ⟨(bytes.drop header.length).take body.length, ?_, ?_⟩
  · have parts := window_split bytes header.length body.length
    rw [front, back, ← List.append_assoc] at parts
    exact parts
  · rw [List.length_take, List.length_drop, length, List.length_append, List.length_append]
    omega

theorem getElem?_middle {header body trailer : List U8} {i : Nat} (inside : i < body.length) :
    (header ++ body ++ trailer)[header.length + i]? = body[i]? := by
  rw [List.append_assoc, List.getElem?_append_right (Nat.le_add_right _ _),
    Nat.add_sub_cancel_left, List.getElem?_append_left inside]

theorem ShortBurst.middle {start : Nat} {header body other trailer : List U8}
    (burst : ShortBurst start (header ++ body ++ trailer) (header ++ other ++ trailer)) :
    ShortBurst (start - header.length) body other := by
  have length : body.length = other.length := by
    have whole := burst.length
    simp only [List.length_append] at whole
    omega
  refine ⟨length, ?_, ?_⟩
  · rintro rfl
    exact burst.differ rfl
  · intro i apart
    by_cases inside : i < body.length
    · have window := burst.window (header.length + i) (by
        rw [getElem?_middle inside, getElem?_middle (length ▸ inside)]
        exact apart)
      omega
    · rw [List.getElem?_eq_none (by omega), List.getElem?_eq_none (by omega)] at apart
      exact absurd rfl apart

/-- Short bursts are detected: two inputs that differ within four consecutive bytes
only have different checksums under every seed, and a finished trace whose record
bytes are corrupted so no longer has the checksum that its trailer gives. -/
theorem burst_detected :
    (∀ (seed : U32) (start : Nat) (first second : List U8), ShortBurst start first second →
        reviceBustraceCrc32 seed first ≠ reviceBustraceCrc32 seed second) ∧
      ∀ (cyclesPerSec : U64) (accesses : List Access) (start : Nat) (corrupted : List U8),
        ShortBurst start (traceBytes cyclesPerSec accesses) corrupted →
        (∀ i, (traceBytes cyclesPerSec accesses)[i]? ≠ corrupted[i]? →
          16 ≤ i ∧ i < 16 + 10 * accesses.length) →
        ∃ file, readTrace corrupted = some file ∧
          file.crc ≠ reviceBustraceCrc32 0 (recordPart corrupted) := by
  constructor
  · intro seed start first second burst
    exact crc32_burst seed burst
  · intro cyclesPerSec accesses start corrupted burst records
    have bodyLength := length_flatten_recordChunks 0 accesses
    rw [traceBytes_eq] at burst records
    generalize (recordChunks 0 accesses).flatten = body at burst records bodyLength
    have size : body.length = 10 * accesses.length := bodyLength
    obtain ⟨other, rfl, otherLength⟩ := split_of_agree burst.length.symm (by
      intro i outside
      by_contra apart
      have inside := records i (Ne.symm apart)
      change i < 16 ∨ 16 + body.length ≤ i at outside
      omega)
    have whole : other.length % bustraceRecSize = 0 := by
      rw [otherLength, bodyLength, Nat.mul_mod_right]
    refine ⟨_, readTrace_body _ _ _ whole, ?_⟩
    rw [recordPart_file]
    exact crc32_burst 0 burst.middle

end Revice.Bustrace

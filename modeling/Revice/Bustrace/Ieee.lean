/- Module: Revice/Bustrace/Ieee
   source: libs/bustrace/src/bustrace_core.c, libs/bustrace/include/revice_bustrace.h
   digest: The trace checksum is the CRC-32 of IEEE 802.3, computed by polynomial division. -/

import Revice.Bustrace.Burst
import Revice.General.Remainder

set_option autoImplicit false
set_option relaxedAutoImplicit false

namespace Revice.Bustrace

open Polynomial
open Revice.General

/-- The generator polynomial of the standard. -/
noncomputable def ieeePoly : (ZMod 2)[X] :=
  X ^ 32 + X ^ 26 + X ^ 23 + X ^ 22 + X ^ 16 + X ^ 12 + X ^ 11 + X ^ 10 + X ^ 8 + X ^ 7 + X ^ 5 +
    X ^ 4 + X ^ 2 + X + 1

/-- The message, followed by 32 zeros, with its first 32 bits complemented. -/
noncomputable def ieeeDividend (buf : List U8) : (ZMod 2)[X] :=
  bitsPoly (complementFirst 32 (messageBits buf ++ List.replicate 32 false))

/-- The checksum as the standard defines it: the remainder, bit-reflected and complemented. -/
noncomputable def ieeeCrc32 (buf : List U8) : U32 :=
  ~~~reflected 32 (ieeeDividend buf %ₘ ieeePoly)

private theorem generator_crc32Poly : generator crc32Poly = ieeePoly := by
  have bits : lsbBits crc32Poly = [false, false, false, false, false, true, false, false,
      true, true, false, false, false, false, false, true,
      false, false, false, true, true, true, false, true,
      true, false, true, true, false, true, true, true] := by decide
  rw [generator, registerPoly, bits, ieeePoly]
  simp only [bitsPoly, List.foldl_cons, List.foldl_nil, bitCoeff, if_true, Bool.false_eq_true,
    if_false, C_0, C_1]
  ring

/-- The source computes the standard's checksum, and can be continued over the next string. -/
theorem crc32_ieee : (∀ buf, reviceBustraceCrc32 0 buf = ieeeCrc32 buf) ∧
    ∀ seed first later, reviceBustraceCrc32 (reviceBustraceCrc32 seed first) later =
      reviceBustraceCrc32 seed (first ++ later) := by
  constructor
  · intro buf
    have remainder : registerPoly (feed crc32Poly (BitVec.allOnes 32) buf) =
        ieeeDividend buf %ₘ ieeePoly := by
      rw [← generator_crc32Poly]
      exact registerPoly_feed_ones (by decide) buf
    have ones : ~~~(0 : U32) = BitVec.allOnes 32 := rfl
    rw [crc32_feed, ieeeCrc32, ← remainder, reflected_registerPoly, ones]
  · exact reviceBustraceCrc32_append

end Revice.Bustrace

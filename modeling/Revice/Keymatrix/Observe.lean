/- Module: Revice/Keymatrix/Observe
   source: libs/keymatrix/src/keymatrix_core.c, integration/vice/patches/02-c64-hooks.patch
   digest: What a keyboard scan of CIA 1 can see, and what the read hooks count. -/

import Revice.Keymatrix.Invariant

set_option autoImplicit false
set_option relaxedAutoImplicit false

namespace Revice.Keymatrix

open Revice.General

def lineByte (bit : Nat → Bool) : U8 :=
  (List.range 8).foldl (fun byte i => if bit i then byte ||| 1#8 <<< i else byte) 0#8

/-- A port read while the other port drives the mask: the lines whose bit is
low are wired together, and a set bit pulls its bit of the byte low. -/
def scanLines (line : Nat → U8) (mask : U8) : U8 :=
  (List.range 8).foldl (fun byte i => if mask.getLsbD i then byte else byte &&& ~~~line i) 0xff#8

/-- Port B reads columns of the rows that port A drives; port A reads rows of the
columns that port B drives. -/
def CiaPort.read (matrix : Int × Int → Bool) (mask : U8) : CiaPort → U8
  | .pb => scanLines (fun row => lineByte fun col => matrix (row, col)) mask
  | .pa => scanLines (fun col => lineByte fun row => matrix (row, col)) mask

def CiaPort.hook : CiaPort → U8 → KmOp
  | .pa => .paRead
  | .pb => .pbRead

/-- A key of the 8×8 matrix, not a custom key and not outside it. -/
def KmKey.OnMatrix (key : KmKey) : Prop :=
  key.kind = .matrix ∧ (0 ≤ key.row ∧ key.row ≤ 7) ∧ 0 ≤ key.col ∧ key.col ≤ 7

instance (key : KmKey) : Decidable key.OnMatrix := by
  unfold KmKey.OnMatrix
  infer_instance

/-- The held key alone pulls a bit of the byte low. -/
def PullsLow (port : CiaPort) (mask : U8) (key : KmKey) : Prop :=
  ∃ bit : Fin 8, (port.read (fun cell => cell = key.cell) mask).getLsbD bit = false

def CiaPort.driven : CiaPort → KmKey → Int
  | .pa => KmKey.col
  | .pb => KmKey.row

def DrivenLow (mask : U8) (line : Int) : Prop :=
  0 ≤ line ∧ line ≤ 7 ∧ mask.getLsbD line.toNat = false

private theorem getLsbD_lineByte (bit : Nat → Bool) {i : Nat} (inside : i < 8) :
    (lineByte bit).getLsbD i = bit i := by
  have bits := getLsbD_foldBits (w := 8) bit 8 inside
  rw [decide_eq_true inside, Bool.true_and] at bits
  exact bits

private theorem getLsbD_scanLines (line : Nat → U8) (mask : U8) {i : Nat} (inside : i < 8) :
    (scanLines line mask).getLsbD i = false ↔
      ∃ j < 8, mask.getLsbD j = false ∧ (line j).getLsbD i = true := by
  have partly : ∀ n, ((List.range n).foldl
      (fun byte i => if mask.getLsbD i then byte else byte &&& ~~~line i) 0xff#8).getLsbD i =
        false ↔ ∃ j < n, mask.getLsbD j = false ∧ (line j).getLsbD i = true := by
    intro n
    induction n with
    | zero =>
      have full : (0xff#8).getLsbD i = true := by
        revert i
        decide
      simp [full]
    | succ n ih =>
      rw [List.range_succ, List.foldl_append, List.foldl_cons, List.foldl_nil]
      simp only [Nat.exists_lt_succ_right, ← ih]
      cases driven : mask.getLsbD n with
      | true => simp
      | false =>
        simp only [Bool.false_eq_true, if_false, true_and, BitVec.getLsbD_and, BitVec.getLsbD_not,
          inside, decide_true, Bool.true_and, Bool.and_eq_false_iff, Bool.not_eq_false']
  exact partly 8

private theorem scanLines_low (line : Nat → Nat → Bool) (mask : U8) :
    (∃ bit : Fin 8, (scanLines (fun j => lineByte (line j)) mask).getLsbD bit = false) ↔
      ∃ j < 8, mask.getLsbD j = false ∧ ∃ i < 8, line j i = true := by
  constructor
  · rintro ⟨bit, low⟩
    obtain ⟨j, inside, driven, set⟩ := (getLsbD_scanLines _ mask bit.isLt).mp low
    rw [getLsbD_lineByte _ bit.isLt] at set
    exact ⟨j, inside, driven, bit, bit.isLt, set⟩
  · rintro ⟨j, inside, driven, i, bitInside, set⟩
    refine ⟨⟨i, bitInside⟩, (getLsbD_scanLines _ mask bitInside).mpr ⟨j, inside, driven, ?_⟩⟩
    rwa [getLsbD_lineByte _ bitInside]

private theorem scanLines_single (line : Nat → Nat → Bool) {driven other : Int}
    (drivenInside : 0 ≤ driven ∧ driven ≤ 7) (otherInside : 0 ≤ other ∧ other ≤ 7)
    (only : ∀ j i : Nat, line j i = true ↔ (j : Int) = driven ∧ (i : Int) = other) (mask : U8) :
    (∃ bit : Fin 8, (scanLines (fun j => lineByte (line j)) mask).getLsbD bit = false) ↔
      DrivenLow mask driven := by
  rw [scanLines_low]
  constructor
  · rintro ⟨j, _, low, i, _, set⟩
    obtain ⟨rfl, _⟩ := (only j i).mp set
    exact ⟨drivenInside.1, drivenInside.2, low⟩
  · rintro ⟨_, _, low⟩
    refine ⟨driven.toNat, by omega, low, other.toNat, by omega, (only _ _).mpr ?_⟩
    omega

private theorem pullsLow_iff {key : KmKey} (onMatrix : key.OnMatrix) (port : CiaPort) (mask : U8) :
    PullsLow port mask key ↔ DrivenLow mask (port.driven key) := by
  obtain ⟨_, rowInside, colInside⟩ := onMatrix
  cases port with
  | pa =>
    refine scanLines_single (fun col row => decide (((row : Int), (col : Int)) = key.cell))
      colInside rowInside (fun j i => ?_) mask
    simp [KmKey.cell, and_comm]
  | pb =>
    refine scanLines_single (fun row col => decide (((row : Int), (col : Int)) = key.cell))
      rowInside colInside (fun j i => ?_) mask
    simp [KmKey.cell]

private theorem scanSamples_iff (coord : KmKey → Int) (keys : List KmKey) (mask : U8) :
    scanSamples coord keys mask = true ↔
      ∃ key ∈ keys, key.kind = .matrix ∧ DrivenLow mask (coord key) := by
  simp only [scanSamples, List.any_eq_true, Bool.and_eq_true, decide_eq_true_eq,
    Bool.not_eq_true', Bool.or_eq_false_iff, decide_eq_false_iff_not, DrivenLow]
  constructor
  · rintro ⟨key, member, ⟨kind, low, high⟩, driven⟩
    exact ⟨key, member, kind, by omega, by omega, driven⟩
  · rintro ⟨key, member, kind, low, high, driven⟩
    exact ⟨key, member, ⟨kind, by omega, by omega⟩, driven⟩

/-- The hook counts the read as sampled exactly when a tracked matrix key shows in its byte. -/
def Truthful (sys : KmSys) (now cpf : U64) (port : CiaPort) (mask : U8) : Prop :=
  (kmStep sys ⟨now, cpf, port.hook mask⟩).1.km.cia1ReadsSampling =
      sys.km.cia1ReadsSampling + 1 ↔
    ∃ key ∈ sys.km.keys, key.OnMatrix ∧ PullsLow port mask key

private theorem hook_action (port : CiaPort) (mask : U8) :
    (port.hook mask).action = .scan port mask := by
  cases port <;> rfl

private theorem sampling_step {sys : KmSys} (active : sys.km.active = true) (now cpf : U64)
    (port : CiaPort) (mask : U8) :
    (kmStep sys ⟨now, cpf, port.hook mask⟩).1.km.cia1ReadsSampling =
        sys.km.cia1ReadsSampling + 1 ↔
      scanSamples port.coord sys.km.keys mask = true := by
  rw [kmStep_eq, hook_action]
  simp only [KmSys.act, KmAction.perform]
  cases sampled : scanSamples port.coord sys.km.keys mask with
  | false =>
    rw [kmScan_missed active sampled]
    simp
  | true =>
    by_cases first : sys.km.mode = .tapObserved ∧ sys.km.lastReason = .none
    · rw [kmScan_first active sampled first]
      simp
    · rw [kmScan_later active sampled first]
      simp

/-- A hook is truthful exactly when the mask is low at the tested coordinate of a
tracked key and at the driven line of one, or at neither. -/
theorem observation_truthful (ticks : List KmTick) (active : (kmRun ticks).km.active = true)
    (now cpf : U64) (port : CiaPort) (mask : U8) :
    Truthful (kmRun ticks) now cpf port mask ↔
      ((∃ key ∈ (kmRun ticks).km.keys, key.kind = .matrix ∧ DrivenLow mask (port.coord key)) ↔
        ∃ key ∈ (kmRun ticks).km.keys, key.OnMatrix ∧ DrivenLow mask (port.driven key)) := by
  rw [Truthful, sampling_step active, scanSamples_iff]
  have shows : (∃ key ∈ (kmRun ticks).km.keys, key.OnMatrix ∧ PullsLow port mask key) ↔
      ∃ key ∈ (kmRun ticks).km.keys, key.OnMatrix ∧ DrivenLow mask (port.driven key) := by
    constructor
    · rintro ⟨key, member, onMatrix, pulls⟩
      exact ⟨key, member, onMatrix, (pullsLow_iff onMatrix port mask).mp pulls⟩
    · rintro ⟨key, member, onMatrix, low⟩
      exact ⟨key, member, onMatrix, (pullsLow_iff onMatrix port mask).mpr low⟩
  rw [shows]

def tapRowOneColTwo : List KmTick := [⟨0, 19656, .binmonTap [0, 60, 0, 1, 1, 2]⟩]

/-- With only column 2 driven low, the key shows at port A, and the hook does not count it. -/
theorem observation_untruthful :
    (kmRun tapRowOneColTwo).km.active = true ∧
      ¬Truthful (kmRun tapRowOneColTwo) 1 19656 .pa 0xfb := by
  refine ⟨by decide, ?_⟩
  intro truthful
  have shows : ∃ key ∈ (kmRun tapRowOneColTwo).km.keys, key.OnMatrix ∧ PullsLow .pa 0xfb key :=
    ⟨pairKey 1 2, by decide, by decide, 1, by decide⟩
  have counted := truthful.mpr shows
  revert counted
  decide

theorem observation_truthful_tap :
    Truthful (kmRun tapRowOneColTwo) 1 19656 .pa 0x00 ↔
      ((∃ key ∈ (kmRun tapRowOneColTwo).km.keys,
          key.kind = .matrix ∧ DrivenLow 0x00 (CiaPort.pa.coord key)) ↔
        ∃ key ∈ (kmRun tapRowOneColTwo).km.keys,
          key.OnMatrix ∧ DrivenLow 0x00 (CiaPort.pa.driven key)) :=
  observation_truthful tapRowOneColTwo (by decide) 1 19656 .pa 0x00

end Revice.Keymatrix

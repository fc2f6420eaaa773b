/- Module: Revice/General/Bytes
   digest: Fixed-width words, their little-endian digit groups, and the bits a group list holds. -/

import Mathlib.Algebra.Ring.Int.Defs
import Mathlib.Algebra.Ring.Nat
import Mathlib.Data.List.Basic
import Mathlib.Data.List.GetD
import Mathlib.Tactic.Common

set_option autoImplicit false
set_option relaxedAutoImplicit false

namespace Revice.General

abbrev U8 := BitVec 8
abbrev U16 := BitVec 16
abbrev U32 := BitVec 32
abbrev U64 := BitVec 64

/-- The `n` low groups of `k` bits of a word, least significant group first, one
group per byte. -/
def groups (k : Nat) : {w : Nat} → Nat → BitVec w → List U8
  | _, 0, _ => []
  | _, n + 1, x => (x.setWidth k).setWidth 8 :: groups k n (x >>> k)

/-- Bit `i` of the word a list of `k`-bit groups stands for. -/
def groupBit (k : Nat) (bytes : List U8) (i : Nat) : Bool :=
  (bytes.getD (i / k) 0).getLsbD (i % k)

@[simp] theorem length_groups (k n : Nat) {w : Nat} (x : BitVec w) :
    (groups k n x).length = n := by
  induction n generalizing x with
  | zero => rfl
  | succ n ih => simp [groups, ih]

theorem groups_eq_map (k n : Nat) {w : Nat} (x : BitVec w) :
    groups k n x = (List.range n).map fun i => ((x >>> (k * i)).setWidth k).setWidth 8 := by
  induction n generalizing x with
  | zero => rfl
  | succ n ih =>
    rw [groups, ih, List.range_succ_eq_map, List.map_cons, List.map_map]
    congr 1
    apply List.map_congr_left
    intro i _
    rw [← BitVec.shiftRight_add, Function.comp_apply, Nat.mul_succ, Nat.add_comm]

private theorem groupBit_cons_low {k i : Nat} (b : U8) (bytes : List U8) (low : i < k) :
    groupBit k (b :: bytes) i = b.getLsbD i := by
  simp [groupBit, Nat.div_eq_of_lt low, Nat.mod_eq_of_lt low]

private theorem groupBit_cons_high {k : Nat} (positive : 0 < k) (b : U8) (bytes : List U8)
    (i : Nat) :
    groupBit k (b :: bytes) (i + k) = groupBit k bytes i := by
  simp [groupBit, Nat.add_div_right i positive]

theorem groupBit_groups {k : Nat} (positive : 0 < k) (narrow : k ≤ 8) (n : Nat) {w : Nat}
    (x : BitVec w) {i : Nat} (inside : i < k * n) :
    groupBit k (groups k n x) i = x.getLsbD i := by
  induction n generalizing x i with
  | zero => omega
  | succ n ih =>
    rw [groups]
    rcases Nat.lt_or_ge i k with low | high
    · rw [groupBit_cons_low _ _ low]
      simp [low, Nat.lt_of_lt_of_le low narrow]
    · obtain ⟨j, rfl⟩ := Nat.exists_eq_add_of_le' high
      have below : j < k * n := by
        rw [Nat.mul_succ] at inside
        omega
      rw [groupBit_cons_high positive, ih (x >>> k) below, BitVec.getLsbD_ushiftRight,
        Nat.add_comm]

theorem setWidth_and_low {w : Nat} (k : Nat) (x : BitVec w) :
    (x &&& BitVec.ofNat w (2 ^ k - 1)).setWidth 8 = (x.setWidth k).setWidth 8 := by
  apply BitVec.eq_of_getLsbD_eq
  intro i _
  have bit : (BitVec.ofNat w (2 ^ k - 1)).getLsbD i = (decide (i < w) && decide (i < k)) := by
    rw [BitVec.getLsbD_ofNat, Nat.testBit_two_pow_sub_one]
  simp only [BitVec.getLsbD_setWidth, BitVec.getLsbD_and, bit]
  by_cases inside : i < w
  · by_cases low : i < k <;> simp [inside, low]
  · simp [BitVec.getLsbD_of_ge x i (by omega)]

theorem getLsbD_foldBits {w : Nat} (bit : Nat → Bool) (n : Nat) {i : Nat} (inside : i < w) :
    ((List.range n).foldl
      (fun (bits : BitVec w) j => if bit j then bits ||| 1#w <<< j else bits) 0).getLsbD i =
        (decide (i < n) && bit i) := by
  induction n with
  | zero => simp
  | succ n ih =>
    have single : (1#w <<< n).getLsbD i = decide (i = n) := by
      rw [← BitVec.twoPow_eq, BitVec.getLsbD_twoPow]
      by_cases same : n = i
      · simp [same, inside]
      · simp [same, Ne.symm same]
    have order : decide (i < n + 1) = (decide (i < n) || decide (i = n)) := by
      rw [← Bool.decide_or]
      exact decide_eq_decide.mpr Nat.lt_succ_iff_lt_or_eq
    rw [List.range_succ, List.foldl_append, List.foldl_cons, List.foldl_nil, order]
    by_cases set : bit n = true
    · rw [if_pos set, BitVec.getLsbD_or, ih, single]
      by_cases same : i = n
      · simp [same, set]
      · simp [same]
    · rw [if_neg set, ih]
      by_cases same : i = n
      · simp [same, set]
      · simp [same]

abbrev leBytes {w : Nat} (n : Nat) (x : BitVec w) : List U8 := groups 8 n x

def ofLeBytes (w : Nat) (bytes : List U8) : BitVec w :=
  bytes.foldr (fun b rest => b.setWidth w ||| rest <<< 8) 0

theorem getLsbD_ofLeBytes (w : Nat) (bytes : List U8) (i : Nat) :
    (ofLeBytes w bytes).getLsbD i = (decide (i < w) && groupBit 8 bytes i) := by
  induction bytes generalizing i with
  | nil => simp [ofLeBytes, groupBit]
  | cons b bytes ih =>
    have unfolded : ofLeBytes w (b :: bytes) = b.setWidth w ||| ofLeBytes w bytes <<< 8 := rfl
    rw [unfolded, BitVec.getLsbD_or, BitVec.getLsbD_setWidth, BitVec.getLsbD_shiftLeft]
    rcases Nat.lt_or_ge i 8 with low | high
    · simp [groupBit_cons_low b bytes low, low]
    · obtain ⟨j, rfl⟩ := Nat.exists_eq_add_of_le' high
      rw [groupBit_cons_high (by decide), Nat.add_sub_cancel, ih,
        BitVec.getLsbD_of_ge b (j + 8) (by omega)]
      by_cases inside : j + 8 < w
      · simp [inside, show j < w by omega]
      · simp [inside]

theorem ofLeBytes_leBytes {w n : Nat} (wide : w ≤ 8 * n) (x : BitVec w) :
    ofLeBytes w (leBytes n x) = x := by
  apply BitVec.eq_of_getLsbD_eq
  intro i inside
  rw [getLsbD_ofLeBytes, groupBit_groups (by decide) (le_refl 8) n x (by omega)]
  simp [inside]

theorem leBytes_ofLeBytes {w : Nat} {bytes : List U8} (fits : 8 * bytes.length ≤ w) :
    leBytes bytes.length (ofLeBytes w bytes) = bytes := by
  rw [leBytes, groups_eq_map]
  apply List.ext_getElem (by simp)
  intro i inside _
  rw [List.getElem_map, List.getElem_range]
  apply BitVec.eq_of_getLsbD_eq
  intro j small
  rw [List.length_map, List.length_range] at inside
  have bit : groupBit 8 bytes (8 * i + j) = bytes[i].getLsbD j := by
    rw [groupBit, show (8 * i + j) / 8 = i by omega, show (8 * i + j) % 8 = j by omega,
      List.getD_eq_getElem _ _ inside]
  simp only [BitVec.getLsbD_setWidth, BitVec.getLsbD_ushiftRight, getLsbD_ofLeBytes, bit, small,
    decide_true, Bool.true_and, show 8 * i + j < w by omega]

theorem getD_flatMap {α β : Type*} {f : α → List β} {k : Nat} (width : ∀ a, (f a).length = k)
    (as : List α) (d : β) {i j : Nat} (inside : i < as.length) (within : j < k) :
    (as.flatMap f).getD (i * k + j) d = (f as[i]).getD j d := by
  induction as generalizing i with
  | nil => simp at inside
  | cons a as ih =>
    rw [List.flatMap_cons]
    cases i with
    | zero =>
      rw [Nat.zero_mul, Nat.zero_add, List.getD_append _ _ _ _ (by rw [width]; exact within)]
      rfl
    | succ i =>
      have past : (f a).length ≤ (i + 1) * k + j := by
        rw [width, Nat.succ_mul]
        omega
      have offset : (i + 1) * k + j - (f a).length = i * k + j := by
        rw [width, Nat.succ_mul]
        omega
      rw [List.getD_append_right _ _ _ _ past, offset]
      exact ih (Nat.lt_of_succ_lt_succ inside)

theorem length_flatMap_width {α β : Type*} {f : α → List β} {k : Nat}
    (width : ∀ a, (f a).length = k) (as : List α) : (as.flatMap f).length = as.length * k := by
  induction as with
  | nil => simp
  | cons a as ih =>
    rw [List.flatMap_cons, List.length_append, ih, width, List.length_cons, Nat.succ_mul,
      Nat.add_comm]

theorem map_range_eq {α β : Type*} (as : List α) {read : Nat → β} {f : α → β}
    (reads : ∀ i (inside : i < as.length), read i = f as[i]) :
    (List.range as.length).map read = as.map f := by
  apply List.ext_getElem
  · simp
  · intro i _ inside
    rw [List.length_map] at inside
    simp [reads i inside]

section Agree

variable {α : Type*} {first second : List α}

theorem take_eq_of_agree {n : Nat} (agree : ∀ i < n, first[i]? = second[i]?) :
    first.take n = second.take n := by
  apply List.ext_getElem?
  intro i
  by_cases inside : i < n
  · rw [List.getElem?_take_of_lt inside, List.getElem?_take_of_lt inside, agree i inside]
  · rw [List.getElem?_take_eq_none (by omega), List.getElem?_take_eq_none (by omega)]

theorem drop_eq_of_agree {n : Nat} (agree : ∀ i, n ≤ i → first[i]? = second[i]?) :
    first.drop n = second.drop n := by
  apply List.ext_getElem?
  intro i
  rw [List.getElem?_drop, List.getElem?_drop, agree _ (Nat.le_add_right n i)]

theorem window_split (as : List α) (start k : Nat) :
    as = as.take start ++ ((as.drop start).take k ++ as.drop (start + k)) := by
  rw [← List.drop_drop, List.take_append_drop, List.take_append_drop]

end Agree

section Blocks

variable {α : Type*} (f : Nat → List α)

theorem flatMap_range_add (a b : Nat) :
    (List.range (a + b)).flatMap f =
      (List.range a).flatMap f ++ (List.range b).flatMap fun j => f (a + j) := by
  rw [List.range_add, List.flatMap_append, List.flatMap_map]

theorem flatMap_range_mul (rows cols : Nat) :
    (List.range (rows * cols)).flatMap f =
      (List.range rows).flatMap fun r => (List.range cols).flatMap fun c => f (r * cols + c) := by
  induction rows with
  | zero => simp
  | succ rows ih =>
    rw [Nat.succ_mul, flatMap_range_add, ih, List.range_succ, List.flatMap_append,
      List.flatMap_singleton]

end Blocks

end Revice.General

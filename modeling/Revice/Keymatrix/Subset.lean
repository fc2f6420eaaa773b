/- Module: Revice/Keymatrix/Subset
   source: libs/keymatrix/src/keymatrix_core.c
   digest: A release of listed keys is the release of the set of their places. -/

import Mathlib.Data.Finset.Basic
import Mathlib.Data.Finset.Dedup
import Revice.Keymatrix.Grammar
import Revice.Keymatrix.Monitors

set_option autoImplicit false
set_option relaxedAutoImplicit false

namespace Revice.Keymatrix

open Revice.General

/-- An argument string lists these keys, at least one. -/
def Lists (args : CString) (keys : List KmKey) : Prop :=
  ∃ forFrames, argKeys (some args) = some (keys, forFrames)

private theorem lists_iff {args : CString} {keys : List KmKey} :
    Lists args keys ↔ args.bytes.length ≤ 255 ∧ keys ≠ [] ∧ keys.length ≤ 16 ∧
      ∃ frames, Reads (tokens args.bytes) keys frames := by
  have parsed : ∀ forFrames, args.bytes.length ≤ 255 →
      (parseArgs args = .ok (keys, forFrames) ↔ ∃ frames, Reads (tokens args.bytes) keys frames ∧
        keys.length ≤ 16 ∧ forFrames = frames.getLastD (-1)) := by
    intro forFrames short
    rw [parseArgs, kmCopyArgs, if_neg (by omega)]
    exact parseKeyList_iff args.nulFree
  constructor
  · rintro ⟨forFrames, listed⟩
    obtain ⟨given, present, accepted, some_key⟩ := argKeys_some _ listed
    obtain rfl : args = given := Option.some.inj (Option.filter_eq_some_iff.mp present).1
    have short : args.bytes.length ≤ 255 := by
      by_contra long
      rw [parseArgs, kmCopyArgs, if_pos (by omega)] at accepted
      cases accepted
    obtain ⟨frames, reading, few, _⟩ := (parsed forFrames short).mp accepted
    exact ⟨short, some_key, few, frames, reading⟩
  · rintro ⟨short, some_key, few, frames, reading⟩
    have some_char : args.bytes ≠ [] := by
      intro empty
      rw [empty, tokens, runs_nil] at reading
      exact some_key (reads_nil.mp reading).1
    have given : givenArgs (some args) = some args := by
      simp [givenArgs, some_char]
    refine ⟨frames.getLastD (-1), ?_⟩
    simp only [argKeys, given, (parsed _ short).mpr ⟨frames, reading, few, rfl⟩, some_key, if_false]

def joined (first second : CString) : CString where
  bytes := first.bytes ++ chr ' ' :: second.bytes
  nulFree := by
    rw [List.mem_append, List.mem_cons]
    rintro (early | space | late)
    · exact first.nulFree early
    · revert space
      decide
    · exact second.nulFree late

private theorem lists_joined {first second : CString} {A B : List KmKey} (listsA : Lists first A)
    (listsB : Lists second B) (few : A.length + B.length ≤ 16)
    (short : first.bytes.length + second.bytes.length < 255) :
    Lists (joined first second) (A ++ B) := by
  obtain ⟨_, some_key, _, frames, readsA⟩ := lists_iff.mp listsA
  obtain ⟨_, _, _, more, readsB⟩ := lists_iff.mp listsB
  refine lists_iff.mpr ⟨?_, by simp [some_key], by rwa [List.length_append], frames ++ more, ?_⟩
  · simp only [joined, List.length_append, List.length_cons]
    omega
  · rw [joined, tokens_append]
    exact readsA.append readsB

variable (sys : KmSys) (now cyclesPerFrame : U64)

/-- The release of the keys at a set of places: their bits go, the tracked keys elsewhere
stay, and the injection ends if there are none. -/
def KmSys.releaseCells (cells : Finset (Int × Int)) : KmSys :=
  let left := sys.km.keys.filter fun key => key.cell ∉ cells
  let matrix := fun cell => if cell ∈ cells then false else sys.env.matrix cell
  if sys.km.active then
    if left = [] then
      ⟨sys.km.ended (endReport (sys.env.host now cyclesPerFrame) .manual
        { sys.km with keys := [] }), ⟨matrix, none⟩⟩
    else ⟨{ sys.km with keys := left }, ⟨matrix, sys.env.alarm⟩⟩
  else ⟨sys.km, ⟨matrix, sys.env.alarm⟩⟩

def releaseStep (args : CString) : KmSys :=
  (kmStep sys ⟨now, cyclesPerFrame, .release (some args)⟩).1

private theorem survivingKeys_eq_filter (tracked listed : List KmKey) :
    survivingKeys tracked listed =
      tracked.filter fun key => key.cell ∉ (cellsOf listed).toFinset := by
  apply List.filter_congr
  intro key _
  rw [Bool.eq_iff_iff, unlisted_iff, decide_eq_true_eq, List.mem_toFinset]

private theorem releaseStep_eq {args : CString} {keys : List KmKey} (lists : Lists args keys) :
    releaseStep sys now cyclesPerFrame args =
      sys.releaseCells now cyclesPerFrame (cellsOf keys).toFinset := by
  obtain ⟨forFrames, listed⟩ := lists
  have action : (KmOp.release (some args)).action = .releaseListed keys := by
    obtain ⟨given, present, _⟩ := argKeys_some _ listed
    simp [KmOp.action, present, listed]
  have cleared : setCells sys.env.matrix (cellsOf keys) false =
      fun cell => if cell ∈ (cellsOf keys).toFinset then false else sys.env.matrix cell := by
    funext cell
    simp only [setCells, List.mem_toFinset]
  rw [releaseStep, kmStep_eq]
  simp only [action, KmSys.act, KmAction.perform, KmSys.releaseCells, ← survivingKeys_eq_filter,
    ← cleared]
  by_cases ends : sys.km.active = true ∧ survivingKeys sys.km.keys keys = []
  · obtain ⟨active, none_left⟩ := ends
    rw [releaseListed_ends active none_left, run_append, run_applyBits, if_pos active,
      if_pos none_left]
    rfl
  · have survives : sys.km.active = false ∨ survivingKeys sys.km.keys keys ≠ [] := by
      cases active : sys.km.active with
      | false => exact Or.inl rfl
      | true => exact Or.inr fun none_left => ends ⟨active, none_left⟩
    rw [releaseListed_survives survives, run_applyBits]
    cases active : sys.km.active with
    | false => rfl
    | true =>
      have some_left : survivingKeys sys.km.keys keys ≠ [] := by
        simpa [active] using survives
      rw [if_pos rfl, if_pos rfl, if_neg some_left]

private theorem releaseCells_union (s t : Finset (Int × Int)) :
    (sys.releaseCells now cyclesPerFrame s).releaseCells now cyclesPerFrame t =
      sys.releaseCells now cyclesPerFrame (s ∪ t) := by
  have filters : (sys.km.keys.filter fun key => key.cell ∉ s).filter (fun key => key.cell ∉ t) =
      sys.km.keys.filter fun key => key.cell ∉ s ∪ t := by
    rw [List.filter_filter]
    apply List.filter_congr
    intro key _
    rw [Bool.eq_iff_iff]
    simp only [Finset.mem_union, not_or, Bool.and_eq_true, decide_eq_true_eq, and_comm]
  have matrices : (fun cell => if cell ∈ t then false else if cell ∈ s then false
      else sys.env.matrix cell) = fun cell => if cell ∈ s ∪ t then false
        else sys.env.matrix cell := by
    funext cell
    by_cases first : cell ∈ s
    · simp [first]
    · simp [first]
  cases active : sys.km.active with
  | false => simp only [KmSys.releaseCells, active, Bool.false_eq_true, if_false, matrices]
  | true =>
    by_cases none_left : (sys.km.keys.filter fun key => key.cell ∉ s) = []
    · have none_either : (sys.km.keys.filter fun key => key.cell ∉ s ∪ t) = [] := by
        rw [← filters, none_left]
        rfl
      simp only [KmSys.releaseCells, active, if_true, none_left, none_either]
      simp only [KmCore.ended, Bool.false_eq_true, if_false, matrices]
    · simp only [KmSys.releaseCells, active, if_true, none_left, if_false, filters, matrices]
      rfl

private theorem releaseStep_congr {args other : CString} {keys more : List KmKey}
    (lists : Lists args keys) (also : Lists other more)
    (same : ∀ cell, cell ∈ cellsOf keys ↔ cell ∈ cellsOf more) :
    releaseStep sys now cyclesPerFrame args = releaseStep sys now cyclesPerFrame other := by
  have cells : (cellsOf keys).toFinset = (cellsOf more).toFinset := by
    ext cell
    rw [List.mem_toFinset, List.mem_toFinset]
    exact same cell
  rw [releaseStep_eq _ _ _ lists, releaseStep_eq _ _ _ also, cells]

private theorem releaseStep_twice {first second : CString} {A B : List KmKey}
    (listsA : Lists first A) (listsB : Lists second B) :
    releaseStep (releaseStep sys now cyclesPerFrame first) now cyclesPerFrame second =
      sys.releaseCells now cyclesPerFrame (cellsOf (A ++ B)).toFinset := by
  rw [releaseStep_eq _ _ _ listsB, releaseStep_eq _ _ _ listsA, releaseCells_union,
    ← List.toFinset_append, cellsOf, cellsOf, cellsOf, List.map_append]

private theorem releaseCells_active (active : sys.km.active = true) (cells : Finset (Int × Int)) :
    (sys.releaseCells now cyclesPerFrame cells).km.keys =
        (sys.km.keys.filter fun key => key.cell ∉ cells) ∧
      ((sys.releaseCells now cyclesPerFrame cells).km.active = false ↔
        (sys.km.keys.filter fun key => key.cell ∉ cells) = []) := by
  by_cases none_left : (sys.km.keys.filter fun key => key.cell ∉ cells) = []
  · simp only [KmSys.releaseCells, active, if_true, none_left]
    exact ⟨rfl, iff_of_true rfl trivial⟩
  · simp only [KmSys.releaseCells, active, if_true, none_left, if_false, true_and, iff_false]
    exact Bool.noConfusion

private theorem lists_spelled {keys : List KmKey} (some_key : keys ≠ []) (few : keys.length ≤ 16)
    (inRange : ∀ key ∈ keys, CellInRange key.cell) :
    ∃ args spelled, Lists args spelled ∧ cellsOf spelled = cellsOf keys := by
  have places : ∀ cell ∈ cellsOf keys, CellInRange cell := by
    intro cell member
    obtain ⟨key, here, rfl⟩ := List.mem_map.mp member
    exact inRange key here
  have listed : argKeys (some (tapArgs (cellsOf keys) none)) =
      some ((cellsOf keys).map cellKey, -1) :=
    argKeys_tapArgs (by simpa [cellsOf] using few) places (by simpa [cellsOf] using some_key)
      (by simp)
  refine ⟨_, _, ⟨_, listed⟩, ?_⟩
  rw [cellsOf, List.map_map]
  exact List.map_id _

/-- The release of two lists of keys, one after the other or together. -/
structure SetRelease (sys : KmSys) (now cyclesPerFrame : U64) (first second : CString)
    (A B : List KmKey) : Prop where
  joins : first.bytes.length + second.bytes.length < 255 → Lists (joined first second) (A ++ B)
  spelled : ∃ both keys, Lists both keys ∧ cellsOf keys = cellsOf (A ++ B)
  splits : ∀ both keys, Lists both keys →
    (∀ cell, cell ∈ cellsOf keys ↔ cell ∈ cellsOf (A ++ B)) →
    releaseStep (releaseStep sys now cyclesPerFrame first) now cyclesPerFrame second =
      releaseStep sys now cyclesPerFrame both
  anyOrder : ∀ args keys other more, Lists args keys → Lists other more →
    (∀ cell, cell ∈ cellsOf keys ↔ cell ∈ cellsOf more) →
    releaseStep sys now cyclesPerFrame args = releaseStep sys now cyclesPerFrame other
  survivors : ∀ args keys, Lists args keys → sys.km.active = true →
    (releaseStep sys now cyclesPerFrame args).km.keys =
      sys.km.keys.filter fun key => key.cell ∉ cellsOf keys
  ends : ∀ args keys, Lists args keys → sys.km.active = true →
    ((releaseStep sys now cyclesPerFrame args).km.active = false ↔
      ∀ key ∈ sys.km.keys, key.cell ∈ cellsOf keys)

theorem release_sets {first second : CString} {A B : List KmKey} (listsA : Lists first A)
    (listsB : Lists second B) (few : A.length + B.length ≤ 16) :
    SetRelease sys now cyclesPerFrame first second A B where
  joins := lists_joined listsA listsB few
  spelled := by
    obtain ⟨_, some_key, _⟩ := lists_iff.mp listsA
    obtain ⟨_, listedA⟩ := listsA
    obtain ⟨_, listedB⟩ := listsB
    refine lists_spelled (by simp [some_key]) (by rwa [List.length_append]) fun key member => ?_
    rcases List.mem_append.mp member with early | late
    · exact (argKeys_ok listedA).1.inRange key early
    · exact (argKeys_ok listedB).1.inRange key late
  splits := by
    intro both keys lists same
    have cells : (cellsOf keys).toFinset = (cellsOf (A ++ B)).toFinset := by
      ext cell
      rw [List.mem_toFinset, List.mem_toFinset]
      exact same cell
    rw [releaseStep_twice _ _ _ listsA listsB, releaseStep_eq _ _ _ lists, cells]
  anyOrder := by
    intro args keys other more lists also same
    exact releaseStep_congr _ _ _ lists also same
  survivors := by
    intro args keys lists active
    rw [releaseStep_eq _ _ _ lists, (releaseCells_active _ _ _ active _).1]
    simp only [List.mem_toFinset]
  ends := by
    intro args keys lists active
    rw [releaseStep_eq _ _ _ lists, (releaseCells_active _ _ _ active _).2]
    simp [List.filter_eq_nil_iff]

theorem release_sets_split :
    let pressed := kmRun [⟨100, 19656, .press (some ⟨str "a s d", by decide⟩)⟩]
    SetRelease pressed 200 19656 ⟨str "a s", by decide⟩ ⟨str "s d", by decide⟩
      [⟨1, 2, .matrix, str "A"⟩, ⟨1, 5, .matrix, str "S"⟩]
      [⟨1, 5, .matrix, str "S"⟩, ⟨2, 2, .matrix, str "D"⟩] :=
  release_sets _ 200 19656 ⟨-1, by decide +kernel⟩ ⟨-1, by decide +kernel⟩ (by decide)

end Revice.Keymatrix

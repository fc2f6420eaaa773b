/- Module: Revice/Keymatrix/Range
   digest: The places a run writes are the places its operations name. -/

import Revice.Keymatrix.Effect

set_option autoImplicit false
set_option relaxedAutoImplicit false

namespace Revice.Keymatrix

open Revice.General

def touched (calls : List HostCall) : List (Int × Int) :=
  calls.filterMap fun
    | .setKeyarrAny row col _ => some (row, col)
    | _ => none

def KmAction.cells : KmAction → List (Int × Int)
  | .start injection => cellsOf injection.keys
  | .releaseListed keys => cellsOf keys
  | .raw writes => writes.map fun (row, col, _) => (row, col)
  | _ => []

def KmOp.binaryCells : KmOp → List (Int × Int)
  | .binmonSet body =>
    match setTriples body with
    | none => []
    | some triples => triples.map fun (row, col, _) => (row, col)
  | .binmonTap body =>
    match tapBody body with
    | none => []
    | some (_, _, keys) => cellsOf keys
  | _ => []

private theorem touched_append (first later : List HostCall) :
    touched (first ++ later) = touched first ++ touched later := List.filterMap_append

@[simp] theorem touched_applyBits (keys : List KmKey) (value : Bool) :
    touched (kmApplyBits keys value) = cellsOf keys := by
  rw [touched, kmApplyBits, List.filterMap_map, cellsOf, ← List.filterMap_eq_map]
  rfl

@[simp] theorem touched_setAlarm (clk : U64) (calls : List HostCall) :
    touched (.setAlarm clk :: calls) = touched calls := rfl

@[simp] theorem touched_cancelAlarm (calls : List HostCall) :
    touched (.cancelAlarm :: calls) = touched calls := rfl

@[simp] theorem touched_clearKeymatrix (calls : List HostCall) :
    touched (.clearKeymatrix :: calls) = touched calls := rfl

@[simp] theorem touched_nil : touched [] = [] := rfl

private theorem touched_silentCalls (calls : List HostCall) :
    touched (silentCalls calls) = touched calls := by
  induction calls with
  | nil => rfl
  | cons call calls ih =>
    cases call with
    | setKeyarrAny row col value => exact congrArg (List.cons (row, col)) ih
    | _ => exact ih

variable {host : KmHost} {km : KmCore} {cell : Int × Int}

private theorem touched_releaseNow {reason : KmReleaseReason}
    (writes : cell ∈ touched (kmReleaseNow host reason km).2) : cell ∈ cellsOf km.keys := by
  cases active : km.active with
  | true =>
    rw [releaseNow_active active, touched_append, touched_applyBits] at writes
    simpa using writes
  | false =>
    rw [releaseNow_idle active] at writes
    cases writes

private theorem tracked_releaseNow {reason : KmReleaseReason}
    (tracks : cell ∈ cellsOf (kmReleaseNow host reason km).1.keys) : cell ∈ cellsOf km.keys := by
  cases active : km.active with
  | true =>
    rw [releaseNow_active active] at tracks
    cases tracks
  | false =>
    rw [releaseNow_idle active] at tracks
    exact tracks

private theorem touched_scan (coord : KmKey → Int) (mask : U8) :
    touched (kmScan coord host mask km).2 = [] := by
  obtain ⟨_, _, _, _, calls⟩ := kmScan_frame coord host mask km
  rcases calls with none | alarm
  · rw [none, touched_nil]
  · rw [alarm, touched_setAlarm, touched_nil]

private theorem tracked_act {action : KmAction}
    (tracks : cell ∈ cellsOf (action.perform host km).1.keys) :
    cell ∈ cellsOf km.keys ∨ cell ∈ action.cells := by
  cases action with
  | none => exact Or.inl tracks
  | start injection =>
    rw [KmAction.perform, kmStart_eq] at tracks
    cases frames : injection.frames <;>
    · rw [frames] at tracks
      exact Or.inr tracks
  | releaseAll => exact Or.inl (tracked_releaseNow tracks)
  | releaseListed listed =>
    rw [KmAction.perform] at tracks
    cases active : km.active with
    | false =>
      rw [releaseListed_survives (Or.inl active)] at tracks
      simp only [active, Bool.false_eq_true, if_false] at tracks
      exact Or.inl tracks
    | true =>
      by_cases none_left : survivingKeys km.keys listed = []
      · rw [releaseListed_ends active none_left] at tracks
        cases tracks
      · rw [releaseListed_survives (Or.inr none_left)] at tracks
        simp only [active, if_true] at tracks
        exact Or.inl (mem_cellsOf_surviving.mp tracks).1
  | raw writes => exact Or.inl tracks
  | scan port mask =>
    obtain ⟨_, _, _, frame, _⟩ := kmScan_frame port.coord host mask km
    rw [KmAction.perform, frame] at tracks
    exact Or.inl tracks
  | fire => exact Or.inl (tracked_releaseNow tracks)

private theorem touched_act {action : KmAction}
    (writes : cell ∈ touched (action.perform host km).2) :
    cell ∈ cellsOf km.keys ∨ cell ∈ action.cells := by
  cases action with
  | none => cases writes
  | start injection =>
    rw [KmAction.perform, kmStart_eq] at writes
    have split : cell ∈ touched (kmReleaseNow host .manual km).2 ∨
        cell ∈ cellsOf injection.keys := by
      cases frames : injection.frames <;> simpa [frames, touched_append] using writes
    rcases split with ended | pressed
    · exact Or.inl (touched_releaseNow ended)
    · exact Or.inr pressed
  | releaseAll =>
    rw [KmAction.perform, touched_append] at writes
    exact Or.inl (touched_releaseNow (by simpa using writes))
  | releaseListed listed =>
    rw [KmAction.perform] at writes
    simp only [kmReleaseListed] at writes
    split at writes
    · split at writes
      · rename_i none_left
        rw [touched_append, touched_applyBits] at writes
        rcases List.mem_append.mp writes with listedCell | ended
        · exact Or.inr listedCell
        · have tracks := touched_releaseNow ended
          rw [none_left] at tracks
          cases tracks
      · rw [touched_applyBits] at writes
        exact Or.inr writes
    · rw [touched_applyBits] at writes
      exact Or.inr writes
  | raw writes' =>
    refine Or.inr ?_
    rw [KmAction.perform, touched, List.filterMap_map] at writes
    rw [KmAction.cells, ← List.filterMap_eq_map]
    exact writes
  | scan port mask =>
    rw [KmAction.perform, touched_scan] at writes
    cases writes
  | fire => exact Or.inl (touched_releaseNow writes)

private theorem touched_of_cells {action : KmAction} (names : cell ∈ action.cells) :
    cell ∈ touched (action.perform host km).2 := by
  cases action with
  | start injection =>
    rw [KmAction.perform, kmStart_eq]
    have pressed : cell ∈ cellsOf injection.keys := names
    cases frames : injection.frames <;> simp [touched_append, pressed]
  | releaseListed listed =>
    have cleared : cell ∈ cellsOf listed := names
    simp only [KmAction.perform, kmReleaseListed]
    repeat' split
    all_goals simp [touched_append, cleared]
  | raw writes =>
    rw [KmAction.perform, touched, List.filterMap_map]
    rw [KmAction.cells, ← List.filterMap_eq_map] at names
    exact names
  | _ => cases names

private theorem touched_step (sys : KmSys) (tick : KmTick) :
    touched (kmStep sys tick).2 = touched
      (tick.op.action.perform (sys.env.host tick.now tick.cyclesPerFrame) sys.km).2 := by
  rw [← (perform_does _ _ tick.op).2, touched_silentCalls]
  rfl

private theorem run_cells (ticks : List KmTick) (cell : Int × Int) :
    (cell ∈ cellsOf (kmRun ticks).km.keys → ∃ tick ∈ ticks, cell ∈ tick.op.action.cells) ∧
      (cell ∈ touched (kmMachine.emitted kmSysInit ticks) ↔
        ∃ tick ∈ ticks, cell ∈ tick.op.action.cells) := by
  induction ticks using List.reverseRecOn with
  | nil =>
    refine ⟨?_, ?_, ?_⟩
    · intro tracks
      cases tracks
    · intro writes
      cases writes
    · simp
  | append_singleton ticks tick ih =>
    obtain ⟨tracked, touchedBefore⟩ := ih
    have widen : (∃ t ∈ ticks, cell ∈ t.op.action.cells) →
        ∃ t ∈ ticks ++ [tick], cell ∈ t.op.action.cells := by
      rintro ⟨t, member, names⟩
      exact ⟨t, List.mem_append_left _ member, names⟩
    have here : cell ∈ tick.op.action.cells →
        ∃ t ∈ ticks ++ [tick], cell ∈ t.op.action.cells := by
      intro names
      exact ⟨tick, by simp, names⟩
    refine ⟨?_, ?_, ?_⟩
    · intro tracks
      rw [kmRun_snoc, kmStep_eq] at tracks
      rcases tracked_act tracks with before | named
      · exact widen (tracked before)
      · exact here named
    · intro writes
      rw [Machine.emitted_snoc, touched_append] at writes
      rcases List.mem_append.mp writes with earlier | now
      · exact widen (touchedBefore.mp earlier)
      · change cell ∈ touched (kmStep (kmRun ticks) tick).2 at now
        rw [touched_step] at now
        rcases touched_act now with before | named
        · exact widen (tracked before)
        · exact here named
    · rintro ⟨t, member, names⟩
      rw [Machine.emitted_snoc, touched_append, List.mem_append]
      rcases List.mem_append.mp member with earlier | now
      · exact Or.inl (touchedBefore.mpr ⟨t, earlier, names⟩)
      · refine Or.inr ?_
        rw [List.mem_singleton.mp now] at names
        change cell ∈ touched (kmStep (kmRun ticks) tick).2
        rw [touched_step]
        exact touched_of_cells names

private theorem argKeys_inRange {args : Option CString} {parsed : List KmKey × Int}
    (listed : argKeys args = some parsed) (names : cell ∈ cellsOf parsed.1) : CellInRange cell := by
  obtain ⟨key, member, rfl⟩ := List.mem_map.mp names
  exact (argKeys_ok listed).1.inRange key member

private theorem binmonTap_cells (body : List U8) :
    (KmOp.binmonTap body).action.cells = (KmOp.binmonTap body).binaryCells := by
  cases accepted : tapBody body with
  | none =>
    rw [KmOp.action, bodyInjection, Option.pmap_none' accepted, KmOp.binaryCells, accepted]
    rfl
  | some parsed =>
    rw [KmOp.action, bodyInjection, Option.pmap_some' accepted, KmOp.binaryCells, accepted]
    rfl

private theorem binmonSet_cells (body : List U8) :
    (KmOp.binmonSet body).action.cells = (KmOp.binmonSet body).binaryCells := by
  simp only [KmOp.action, KmOp.binaryCells]
  cases setTriples body <;> rfl

private theorem named_inRange {op : KmOp} (names : cell ∈ op.action.cells) :
    CellInRange cell ∨ cell ∈ op.binaryCells := by
  cases op with
  | tap args =>
    rw [KmOp.action] at names
    cases keys : argKeys args with
    | none =>
      rw [tapInjection, Option.pmap_none' keys] at names
      cases names
    | some parsed =>
      rw [tapInjection, Option.pmap_some' keys] at names
      exact Or.inl (argKeys_inRange keys names)
  | press args =>
    rw [KmOp.action] at names
    cases keys : argKeys args with
    | none =>
      rw [pressInjection, Option.pmap_none' keys] at names
      cases names
    | some parsed =>
      rw [pressInjection, Option.pmap_some' keys] at names
      exact Or.inl (argKeys_inRange keys names)
  | release args =>
    rw [KmOp.action] at names
    cases given : givenArgs args with
    | none =>
      rw [given] at names
      cases names
    | some present =>
      cases keys : argKeys args with
      | none =>
        rw [given, keys] at names
        cases names
      | some parsed =>
        rw [given, keys] at names
        exact Or.inl (argKeys_inRange keys names)
  | poke args =>
    rw [KmOp.action] at names
    cases write : pokeWrite args with
    | none =>
      rw [write] at names
      cases names
    | some accepted =>
      rw [write] at names
      have here : cell = (accepted.1, accepted.2.1) := by simpa [KmAction.cells] using names
      rw [here]
      exact Or.inl (pokeWrite_inRange write)
  | binmonSet body => exact Or.inr (binmonSet_cells body ▸ names)
  | binmonTap body => exact Or.inr (binmonTap_cells body ▸ names)
  | _ => cases names

private theorem binaryCells_named {op : KmOp} (asked : cell ∈ op.binaryCells) :
    cell ∈ op.action.cells := by
  cases op with
  | binmonSet body => exact binmonSet_cells body ▸ asked
  | binmonTap body => exact binmonTap_cells body ▸ asked
  | _ => cases asked

private theorem mem_touched {calls : List HostCall} {row col : Int} :
    (row, col) ∈ touched calls ↔ ∃ value, .setKeyarrAny row col value ∈ calls := by
  rw [touched, List.mem_filterMap]
  constructor
  · rintro ⟨call, member, found⟩
    cases call with
    | setKeyarrAny r c value =>
      cases found
      exact ⟨value, member⟩
    | _ => cases found
  · rintro ⟨value, member⟩
    exact ⟨_, member, rfl⟩

/-- The matrix writes of a run are in range exactly when every place that its
binary SET and TAP requests name is. -/
theorem matrix_writes_in_range (ticks : List KmTick) :
    (∀ row col value, .setKeyarrAny row col value ∈ kmMachine.emitted kmSysInit ticks →
        CellInRange (row, col)) ↔
      ∀ tick ∈ ticks, ∀ cell ∈ tick.op.binaryCells, CellInRange cell := by
  constructor
  · intro inRange tick member cell asked
    have writes := (run_cells ticks cell).2.mpr ⟨tick, member, binaryCells_named asked⟩
    obtain ⟨value, call⟩ := mem_touched.mp writes
    exact inRange _ _ value call
  · intro asked row col value call
    have writes := mem_touched.mpr ⟨value, call⟩
    obtain ⟨tick, member, names⟩ := (run_cells ticks (row, col)).2.mp writes
    rcases named_inRange names with inRange | binary
    · exact inRange
    · exact asked tick member _ binary

/-- A SET of row 100 reaches the matrix, though poke and the parser stop at 15. -/
theorem matrix_write_out_of_range :
    HostCall.setKeyarrAny 100 0 true ∈
        kmMachine.emitted kmSysInit [⟨0, 19656, .binmonSet [1, 100, 0, 1]⟩] ∧
      ¬CellInRange (100, 0) := by
  decide

end Revice.Keymatrix

/- Module: Revice/Keymatrix/Effect
   digest: What each action does to the core, the matrix and the alarm. -/

import Revice.Keymatrix.Action

set_option autoImplicit false
set_option relaxedAutoImplicit false

namespace Revice.Keymatrix

open Revice.General

def setCells (matrix : Int × Int → Bool) (cells : List (Int × Int)) (value : Bool) :
    Int × Int → Bool :=
  fun cell => if cell ∈ cells then value else matrix cell

def cellsOf (keys : List KmKey) : List (Int × Int) := keys.map KmKey.cell

@[simp] theorem setCells_nil (matrix : Int × Int → Bool) (value : Bool) :
    setCells matrix [] value = matrix := by
  funext cell
  simp [setCells]

@[simp] theorem cellsOf_nil : cellsOf [] = [] := rfl

@[simp] theorem run_nil (env : KmEnv) : env.run [] = env := rfl

theorem run_append (env : KmEnv) (first later : List HostCall) :
    env.run (first ++ later) = (env.run first).run later := List.foldl_append

theorem run_applyBits (env : KmEnv) (keys : List KmKey) (value : Bool) :
    env.run (kmApplyBits keys value) =
      { env with matrix := setCells env.matrix (cellsOf keys) value } := by
  induction keys generalizing env with
  | nil => simp [kmApplyBits]
  | cons key keys ih =>
    have step : env.run (kmApplyBits (key :: keys) value) =
        KmEnv.run { env with matrix := Function.update env.matrix key.cell value }
          (kmApplyBits keys value) := rfl
    rw [step, ih]
    congr 1
    funext cell
    simp only [setCells, cellsOf, List.map_cons, List.mem_cons]
    by_cases later : cell ∈ keys.map KmKey.cell
    · simp [later]
    · by_cases here : cell = key.cell
      · simp [here]
      · simp [later, here]

def writeCells (matrix : Int × Int → Bool) (writes : List (Int × Int × Bool)) : Int × Int → Bool :=
  writes.foldl (fun matrix write => Function.update matrix (write.1, write.2.1) write.2.2) matrix

theorem run_writes (env : KmEnv) (writes : List (Int × Int × Bool)) :
    env.run (writes.map fun (row, col, value) => .setKeyarrAny row col value) =
      { env with matrix := writeCells env.matrix writes } := by
  induction writes generalizing env with
  | nil => rfl
  | cons write writes ih => exact ih _

theorem unlisted_iff (listed : List KmKey) (key : KmKey) :
    (!listed.any fun other => key.row = other.row && key.col = other.col) = true ↔
      key.cell ∉ cellsOf listed := by
  simp only [Bool.not_eq_true', List.any_eq_false, Bool.and_eq_true, decide_eq_true_eq,
    cellsOf, List.mem_map, not_exists, not_and, KmKey.cell, Prod.mk.injEq]
  constructor
  · intro unlisted other member row col
    exact unlisted other member row.symm col.symm
  · intro unlisted other member row col
    exact unlisted other member row.symm col.symm

theorem mem_cellsOf_surviving {keys listed : List KmKey} {cell : Int × Int} :
    cell ∈ cellsOf (survivingKeys keys listed) ↔ cell ∈ cellsOf keys ∧ cell ∉ cellsOf listed := by
  simp only [cellsOf, survivingKeys, List.mem_map, List.mem_filter, unlisted_iff]
  constructor
  · rintro ⟨key, ⟨tracked, unlisted⟩, rfl⟩
    exact ⟨⟨key, tracked, rfl⟩, by simpa [cellsOf] using unlisted⟩
  · rintro ⟨⟨key, tracked, rfl⟩, unlisted⟩
    exact ⟨key, ⟨tracked, by simpa [cellsOf] using unlisted⟩, rfl⟩

def KmCore.ended (km : KmCore) (report : KmLast) : KmCore :=
  { km with
    last := report
    active := false
    keys := []
    mode := .idle
    cia1ReadsTotal := 0
    cia1ReadsSampling := 0
    lastReason := .none }

variable {host : KmHost} {km : KmCore}

theorem releaseNow_idle (idle : km.active = false) (reason : KmReleaseReason) :
    kmReleaseNow host reason km = (km, []) := by
  simp [kmReleaseNow, idle]

theorem releaseNow_active (active : km.active = true) (reason : KmReleaseReason) :
    kmReleaseNow host reason km =
      (km.ended (endReport host reason km), kmApplyBits km.keys false ++ [.cancelAlarm]) := by
  simp [kmReleaseNow, active, KmCore.ended]

theorem run_releaseNow_active (active : km.active = true) (reason : KmReleaseReason)
    (env : KmEnv) :
    env.run (kmReleaseNow host reason km).2 =
      ⟨setCells env.matrix (cellsOf km.keys) false, none⟩ := by
  rw [releaseNow_active active, run_append, run_applyBits]
  rfl

def KmCore.started (km : KmCore) (injection : Injection) (now timeoutClk : U64) : KmCore :=
  { km with
    keys := injection.keys
    mode := injection.mode
    cia1ReadsTotal := 0
    cia1ReadsSampling := 0
    lastReason := .none
    active := true
    pressClk := now
    timeoutClk := timeoutClk }

def deadline (host : KmHost) (frames : Int) : U64 :=
  host.now + BitVec.ofInt 64 frames * kmCpfOrPal host

theorem kmStart_eq (injection : Injection) :
    kmStart host injection.mode injection.keys injection.frames km =
      match injection.frames with
      | none =>
        ((kmReleaseNow host .manual km).1.started injection host.now
            (kmReleaseNow host .manual km).1.timeoutClk,
          (kmReleaseNow host .manual km).2 ++ kmApplyBits injection.keys true)
      | some frames =>
        ((kmReleaseNow host .manual km).1.started injection host.now (deadline host frames),
          (kmReleaseNow host .manual km).2 ++ kmApplyBits injection.keys true ++
            [.setAlarm (deadline host frames)]) := by
  unfold kmStart
  rw [kmSupersedeActive_eq]
  cases injection.frames <;> rfl

theorem releaseListed_survives {listed : List KmKey}
    (survives : km.active = false ∨ survivingKeys km.keys listed ≠ []) :
    kmReleaseListed host listed km =
      (if km.active then { km with keys := survivingKeys km.keys listed } else km,
        kmApplyBits listed false) := by
  simp only [kmReleaseListed]
  cases active : km.active with
  | false => rfl
  | true =>
    have some_left : survivingKeys km.keys listed ≠ [] := by
      rcases survives with idle | left
      · simp [active] at idle
      · exact left
    simp [some_left]

theorem releaseListed_ends {listed : List KmKey} (active : km.active = true)
    (none_left : survivingKeys km.keys listed = []) :
    kmReleaseListed host listed km =
      (km.ended (endReport host .manual { km with keys := [] }),
        kmApplyBits listed false ++ [.cancelAlarm]) := by
  simp only [kmReleaseListed, active, if_true, none_left]
  rw [releaseNow_active rfl]
  rfl

theorem kmScan_frame (coord : KmKey → Int) (host : KmHost) (mask : U8) (km : KmCore) :
    ∃ total sampling reason,
      (kmScan coord host mask km).1 =
          { km with
            cia1ReadsTotal := total
            cia1ReadsSampling := sampling
            lastReason := reason } ∧
        ((kmScan coord host mask km).2 = [] ∨
          (kmScan coord host mask km).2 = [.setAlarm (host.now + 1)]) := by
  simp only [kmScan, kmObserve]
  repeat' split
  · exact ⟨_, _, _, rfl, Or.inr rfl⟩
  all_goals exact ⟨_, _, _, rfl, Or.inl rfl⟩

theorem kmScan_idle (idle : km.active = false) (coord : KmKey → Int) (mask : U8) :
    kmScan coord host mask km = (km, []) := by
  simp [kmScan, idle]

section Scan

variable (active : km.active = true) {coord : KmKey → Int} {mask : U8}

include active

theorem kmScan_missed (missed : scanSamples coord km.keys mask = false) :
    kmScan coord host mask km = ({ km with cia1ReadsTotal := km.cia1ReadsTotal + 1 }, []) := by
  simp [kmScan, active, missed, kmObserve]

theorem kmScan_first (sampled : scanSamples coord km.keys mask = true)
    (first : km.mode = .tapObserved ∧ km.lastReason = .none) :
    kmScan coord host mask km =
      ({ km with
          cia1ReadsTotal := km.cia1ReadsTotal + 1
          cia1ReadsSampling := km.cia1ReadsSampling + 1
          lastReason := .observed },
        [.setAlarm (host.now + 1)]) := by
  simp [kmScan, active, sampled, kmObserve, first]

theorem kmScan_later (sampled : scanSamples coord km.keys mask = true)
    (later : ¬(km.mode = .tapObserved ∧ km.lastReason = .none)) :
    kmScan coord host mask km =
      ({ km with
          cia1ReadsTotal := km.cia1ReadsTotal + 1
          cia1ReadsSampling := km.cia1ReadsSampling + 1 }, []) := by
  simp only [kmScan, active, if_true, sampled, kmObserve]
  rw [if_neg later]

end Scan

end Revice.Keymatrix

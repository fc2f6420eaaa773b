/- Module: Revice/Keymatrix/Matrix
   digest: Which bits of the live matrix are set, and which write each of them goes back to. -/

import Revice.Keymatrix.Invariant

set_option autoImplicit false
set_option relaxedAutoImplicit false

namespace Revice.Keymatrix

open Revice.General

def Tracked (km : KmCore) (cell : Int × Int) : Prop :=
  km.active = true ∧ cell ∈ cellsOf km.keys

def lastWrite (writes : List (Int × Int × Bool)) (cell : Int × Int) : Option Bool :=
  writes.foldl (fun last write => if (write.1, write.2.1) = cell then some write.2.2 else last) none

/-- The last value an operation pokes or SETs at a place. -/
def KmOp.rawWrite (op : KmOp) (cell : Int × Int) : Option Bool :=
  match op.action with
  | .raw writes => lastWrite writes cell
  | _ => none

def KmOp.starts (op : KmOp) : Bool :=
  match op.action with
  | .start _ => true
  | _ => false

theorem starts_iff {op : KmOp} :
    op.starts = true ↔ ∃ injection, op.action = .start injection := by
  rw [KmOp.starts]
  cases op.action <;> simp

/-- The operation ends the active injection: it starts another one, or leaves none. -/
def Ends (sys : KmSys) (tick : KmTick) : Prop :=
  sys.km.active = true ∧ (tick.op.starts = true ∨ (kmStep sys tick).1.km.active = false)

/-- The operation lets go of a place: it lists the place in a release, releases all,
or ends an injection that tracks it. -/
def LetsGo (sys : KmSys) (tick : KmTick) (cell : Int × Int) : Prop :=
  (∃ keys, tick.op.action = .releaseListed keys ∧ cell ∈ cellsOf keys) ∨
    (tick.op.action = .releaseAll ∧ 0 ≤ cell.1) ∨ (Ends sys tick ∧ cell ∈ cellsOf sys.km.keys)

def Undisturbed (cell : Int × Int) : KmSys → List KmTick → Prop
  | _, [] => True
  | sys, tick :: ticks => tick.op.rawWrite cell = none ∧ ¬LetsGo sys tick cell ∧
      Undisturbed cell (kmStep sys tick).1 ticks

/-- The last raw write to the place wrote 1, and nothing has let go of it since. -/
def PokedSet (ticks : List KmTick) (cell : Int × Int) : Prop :=
  ∃ before tick after, ticks = before ++ tick :: after ∧ tick.op.rawWrite cell = some true ∧
    Undisturbed cell (kmRun (before ++ [tick])) after

private theorem undisturbed_snoc (cell : Int × Int) (sys : KmSys) (ticks : List KmTick)
    (tick : KmTick) :
    Undisturbed cell sys (ticks ++ [tick]) ↔ Undisturbed cell sys ticks ∧
      tick.op.rawWrite cell = none ∧ ¬LetsGo (kmMachine.exec sys ticks) tick cell := by
  induction ticks generalizing sys with
  | nil => simp [Undisturbed]
  | cons head ticks ih =>
    simp only [List.cons_append, Undisturbed, ih, and_assoc]
    rfl

private theorem PokedSet.snoc {ticks : List KmTick} {cell : Int × Int} (poked : PokedSet ticks cell)
    {tick : KmTick} (silent : tick.op.rawWrite cell = none)
    (kept : ¬LetsGo (kmRun ticks) tick cell) : PokedSet (ticks ++ [tick]) cell := by
  obtain ⟨before, write, after, rfl, wrote, undisturbed⟩ := poked
  refine ⟨before, write, after ++ [tick], by simp, wrote, ?_⟩
  rw [undisturbed_snoc]
  refine ⟨undisturbed, silent, ?_⟩
  rwa [← kmRun_append, List.append_assoc]

private theorem writeCells_apply (matrix : Int × Int → Bool) (writes : List (Int × Int × Bool))
    (cell : Int × Int) :
    writeCells matrix writes cell = (lastWrite writes cell).getD (matrix cell) := by
  induction writes using List.reverseRecOn with
  | nil => rfl
  | append_singleton writes write ih =>
    simp only [writeCells, lastWrite, List.foldl_append, List.foldl_cons, List.foldl_nil] at ih ⊢
    by_cases here : (write.1, write.2.1) = cell
    · rw [if_pos here, ← here, Function.update_self]
      rfl
    · rw [if_neg here, Function.update_of_ne (Ne.symm here)]
      exact ih

variable {sys : KmSys} {now cpf : U64} {cell : Int × Int}

private theorem matrix_released (host : KmHost) (reason : KmReleaseReason) :
    (sys.env.run (kmReleaseNow host reason sys.km).2).matrix cell = true ↔
      sys.env.matrix cell = true ∧ ¬Tracked sys.km cell := by
  cases active : sys.km.active with
  | true =>
    rw [run_releaseNow_active active]
    by_cases tracked : cell ∈ cellsOf sys.km.keys <;> simp [setCells, Tracked, active, tracked]
  | false =>
    rw [releaseNow_idle active]
    simp [Tracked, active]

theorem active_released (host : KmHost) (reason : KmReleaseReason) :
    (kmReleaseNow host reason sys.km).1.active = false := by
  cases active : sys.km.active with
  | true => rw [releaseNow_active active]; rfl
  | false => rwa [releaseNow_idle active]

private theorem matrix_start (injection : Injection) :
    (sys.act now cpf (.start injection)).env.matrix cell = true ↔
      cell ∈ cellsOf injection.keys ∨ (sys.env.matrix cell = true ∧ ¬Tracked sys.km cell) := by
  rw [← matrix_released (sys.env.host now cpf) .manual]
  simp only [KmSys.act, KmAction.perform, kmStart_eq]
  cases injection.frames <;> simp only [run_append, run_applyBits] <;>
    by_cases pressed : cell ∈ cellsOf injection.keys <;>
    simp [setCells, pressed, KmEnv.run, KmEnv.apply]

private theorem tracked_start (injection : Injection) :
    Tracked (sys.act now cpf (.start injection)).km cell ↔ cell ∈ cellsOf injection.keys := by
  simp only [KmSys.act, KmAction.perform, kmStart_eq]
  cases injection.frames <;> simp [Tracked, KmCore.started]

private theorem matrix_releaseAll :
    (sys.act now cpf .releaseAll).env.matrix cell = true ↔
      (sys.env.matrix cell = true ∧ ¬Tracked sys.km cell) ∧ ¬0 ≤ cell.1 := by
  rw [← matrix_released (sys.env.host now cpf) .manual]
  simp only [KmSys.act, KmAction.perform, run_append]
  by_cases positive : 0 ≤ cell.1 <;> simp [positive, KmEnv.run, KmEnv.apply]

private theorem matrix_releaseListed (listed : List KmKey) :
    (sys.act now cpf (.releaseListed listed)).env.matrix cell = true ↔
      sys.env.matrix cell = true ∧ cell ∉ cellsOf listed := by
  have cleared : (setCells sys.env.matrix (cellsOf listed) false) cell = true ↔
      sys.env.matrix cell = true ∧ cell ∉ cellsOf listed := by
    by_cases named : cell ∈ cellsOf listed <;> simp [setCells, named]
  rw [← cleared]
  simp only [KmSys.act, KmAction.perform]
  by_cases ends : sys.km.active = true ∧ survivingKeys sys.km.keys listed = []
  · rw [releaseListed_ends ends.1 ends.2, run_append, run_applyBits]
    rfl
  · rw [releaseListed_survives (by simpa [or_iff_not_imp_left] using ends), run_applyBits]

private theorem tracked_releaseListed (listed : List KmKey) :
    Tracked (sys.act now cpf (.releaseListed listed)).km cell ↔
      Tracked sys.km cell ∧ cell ∉ cellsOf listed := by
  have survives : Tracked sys.km cell ∧ cell ∉ cellsOf listed ↔
      sys.km.active = true ∧ cell ∈ cellsOf (survivingKeys sys.km.keys listed) := by
    rw [Tracked, mem_cellsOf_surviving, and_assoc]
  rw [survives]
  simp only [KmSys.act, KmAction.perform]
  by_cases ends : sys.km.active = true ∧ survivingKeys sys.km.keys listed = []
  · rw [releaseListed_ends ends.1 ends.2, ends.2]
    simp [Tracked, KmCore.ended]
  · rw [releaseListed_survives (by simpa [or_iff_not_imp_left] using ends)]
    cases active : sys.km.active <;> simp [Tracked, active]

private theorem tracked_scan (port : CiaPort) (mask : U8) :
    Tracked (sys.act now cpf (.scan port mask)).km cell ↔ Tracked sys.km cell := by
  obtain ⟨_, _, _, frame, _⟩ := kmScan_frame port.coord (sys.env.host now cpf) mask sys.km
  simp only [KmSys.act, KmAction.perform, frame, Tracked]

private theorem matrix_scan (port : CiaPort) (mask : U8) :
    (sys.act now cpf (.scan port mask)).env.matrix = sys.env.matrix := by
  obtain ⟨_, _, _, _, calls⟩ := kmScan_frame port.coord (sys.env.host now cpf) mask sys.km
  rcases calls with none | alarm
  · simp only [KmSys.act, KmAction.perform, none, run_nil]
  · simp only [KmSys.act, KmAction.perform, alarm]
    rfl

theorem rawWrite_plain {tick : KmTick} (plain : ∀ writes, tick.op.action ≠ .raw writes) :
    tick.op.rawWrite cell = none := by
  rw [KmOp.rawWrite]
  split
  · rename_i writes action
    exact absurd action (plain writes)
  · rfl

theorem tracked_raw {tick : KmTick} {writes : List (Int × Int × Bool)}
    (action : tick.op.action = .raw writes) :
    Tracked (kmStep sys tick).1.km cell ↔ Tracked sys.km cell := by
  rw [kmStep_eq, action]
  rfl

theorem matrix_raw {tick : KmTick} {writes : List (Int × Int × Bool)}
    (action : tick.op.action = .raw writes) :
    (kmStep sys tick).1.env.matrix cell = (tick.op.rawWrite cell).getD (sys.env.matrix cell) := by
  rw [kmStep_eq, KmOp.rawWrite, action]
  simp only [KmSys.act, KmAction.perform, run_writes, writeCells_apply]

/-- The bit was set before the operation, which neither writes nor lets go of it
and does not drop its place from tracking. -/
private structure Inherited (sys : KmSys) (tick : KmTick) (cell : Int × Int) : Prop where
  before : sys.env.matrix cell = true
  silent : tick.op.rawWrite cell = none
  kept : ¬LetsGo sys tick cell
  tracked : Tracked sys.km cell → Tracked (kmStep sys tick).1.km cell

private theorem Inherited.of_keeps {tick : KmTick} (before : sys.env.matrix cell = true)
    (silent : tick.op.rawWrite cell = none)
    (keeps : Tracked sys.km cell →
      tick.op.starts = false ∧ Tracked (kmStep sys tick).1.km cell)
    (unlisted : ∀ keys, tick.op.action = .releaseListed keys → cell ∉ cellsOf keys)
    (negative : tick.op.action = .releaseAll → ¬0 ≤ cell.1) : Inherited sys tick cell := by
  refine ⟨before, silent, ?_, ?_⟩
  · rintro (⟨keys, action, listed⟩ | ⟨action, positive⟩ | ⟨⟨active, ends⟩, tracked⟩)
    · exact unlisted keys action listed
    · exact negative action positive
    · obtain ⟨continues, after⟩ := keeps ⟨active, tracked⟩
      rcases ends with starts | idle
      · simp [continues] at starts
      · simp [after.1] at idle
  · intro tracked
    exact (keeps tracked).2

private theorem set_step {tick : KmTick} (set : (kmStep sys tick).1.env.matrix cell = true) :
    Tracked (kmStep sys tick).1.km cell ∨ tick.op.rawWrite cell = some true ∨
      Inherited sys tick cell := by
  have step := kmStep_eq sys tick
  cases action : tick.op.action with
  | none =>
    rw [action] at step
    have keeps : Tracked sys.km cell → Tracked (kmStep sys tick).1.km cell := by
      rw [step]
      exact id
    rw [step] at set
    refine Or.inr (Or.inr (.of_keeps set ?_ (fun tracked => ⟨?_, keeps tracked⟩) ?_ ?_))
    all_goals simp [KmOp.rawWrite, KmOp.starts, action]
  | start injection =>
    rw [action] at step
    rw [step] at set ⊢
    rcases (matrix_start injection).mp set with pressed | ⟨before, untracked⟩
    · exact Or.inl ((tracked_start injection).mpr pressed)
    · refine Or.inr (Or.inr (.of_keeps before ?_ (fun tracked => absurd tracked untracked) ?_ ?_))
      all_goals simp [KmOp.rawWrite, action]
  | releaseAll =>
    rw [action] at step
    rw [step] at set
    obtain ⟨⟨before, untracked⟩, negative⟩ := matrix_releaseAll.mp set
    refine Or.inr (Or.inr (.of_keeps before ?_ (fun tracked => absurd tracked untracked) ?_
      fun _ => negative))
    all_goals simp [KmOp.rawWrite, action]
  | releaseListed listed =>
    rw [action] at step
    rw [step] at set
    obtain ⟨before, unlisted⟩ := (matrix_releaseListed listed).mp set
    have keeps : Tracked sys.km cell → Tracked (kmStep sys tick).1.km cell := by
      intro tracked
      rw [step]
      exact (tracked_releaseListed listed).mpr ⟨tracked, unlisted⟩
    refine Or.inr (Or.inr (.of_keeps before ?_ (fun tracked => ⟨?_, keeps tracked⟩) ?_ ?_))
    · simp [KmOp.rawWrite, action]
    · simp [KmOp.starts, action]
    · intro keys same
      cases action.symm.trans same
      exact unlisted
    · simp [action]
  | raw writes =>
    have keeps : Tracked sys.km cell → Tracked (kmStep sys tick).1.km cell :=
      (tracked_raw action).mpr
    rw [matrix_raw action] at set
    cases wrote : tick.op.rawWrite cell with
    | some value =>
      rw [wrote, Option.getD_some] at set
      exact Or.inr (Or.inl (congrArg some set))
    | none =>
      rw [wrote, Option.getD_none] at set
      refine Or.inr (Or.inr (.of_keeps set wrote (fun tracked => ⟨?_, keeps tracked⟩) ?_ ?_))
      all_goals simp [KmOp.starts, action]
  | scan port mask =>
    rw [action] at step
    have keeps : Tracked sys.km cell → Tracked (kmStep sys tick).1.km cell := by
      rw [step]
      exact (tracked_scan port mask).mpr
    rw [step, matrix_scan] at set
    refine Or.inr (Or.inr (.of_keeps set ?_ (fun tracked => ⟨?_, keeps tracked⟩) ?_ ?_))
    all_goals simp [KmOp.rawWrite, KmOp.starts, action]
  | fire =>
    rw [action] at step
    rw [step] at set
    obtain ⟨before, untracked⟩ := (matrix_released _ _).mp set
    refine Or.inr (Or.inr (.of_keeps before ?_ (fun tracked => absurd tracked untracked) ?_ ?_))
    all_goals simp [KmOp.rawWrite, action]

theorem tracked_step {tick : KmTick} (plain : ∀ writes, tick.op.action ≠ .raw writes)
    (held : Tracked sys.km cell → sys.env.matrix cell = true)
    (tracked : Tracked (kmStep sys tick).1.km cell) :
    (kmStep sys tick).1.env.matrix cell = true := by
  rw [kmStep_eq] at tracked ⊢
  cases action : tick.op.action with
  | none =>
    rw [action] at tracked
    exact held tracked
  | start injection =>
    rw [action] at tracked
    exact (matrix_start injection).mpr (Or.inl ((tracked_start injection).mp tracked))
  | releaseAll =>
    rw [action] at tracked
    simp [Tracked, KmSys.act, KmAction.perform, active_released] at tracked
  | releaseListed listed =>
    rw [action] at tracked
    obtain ⟨before, unlisted⟩ := (tracked_releaseListed listed).mp tracked
    exact (matrix_releaseListed listed).mpr ⟨held before, unlisted⟩
  | raw writes => exact absurd action (plain writes)
  | scan port mask =>
    rw [action] at tracked
    rw [matrix_scan]
    exact held ((tracked_scan port mask).mp tracked)
  | fire =>
    rw [action] at tracked
    simp [Tracked, KmSys.act, KmAction.perform, kmCoreOnAlarm, active_released] at tracked

def KmOp.isRaw : KmOp → Bool
  | .poke _ => true
  | .binmonSet _ => true
  | _ => false

private theorem startAction_ne_raw (request : Option Injection) (writes : List (Int × Int × Bool)) :
    startAction request ≠ .raw writes := by
  cases request <;> simp [startAction]

private theorem not_raw {op : KmOp} (plain : op.isRaw = false) (writes : List (Int × Int × Bool)) :
    op.action ≠ .raw writes := by
  cases op with
  | tap args => exact startAction_ne_raw _ writes
  | press args => exact startAction_ne_raw _ writes
  | release args =>
    rw [KmOp.action]
    split
    · simp
    · split <;> simp
  | poke args => cases plain
  | binmonSet body => cases plain
  | binmonTap body => exact startAction_ne_raw _ writes
  | _ => simp [KmOp.action]

/-- Every set bit of a run is accounted for. -/
private theorem set_accounted (ticks : List KmTick) (set : (kmRun ticks).env.matrix cell = true) :
    Tracked (kmRun ticks).km cell ∨ PokedSet ticks cell := by
  induction ticks using List.reverseRecOn with
  | nil => cases set
  | append_singleton ticks tick ih =>
    rw [kmRun_snoc] at set ⊢
    rcases set_step set with tracked | wrote | inherited
    · exact Or.inl tracked
    · exact Or.inr ⟨ticks, tick, [], rfl, wrote, trivial⟩
    · rcases ih inherited.before with tracked | poked
      · exact Or.inl (inherited.tracked tracked)
      · exact Or.inr (poked.snoc inherited.silent inherited.kept)

private theorem tracked_set (ticks : List KmTick) (plain : ∀ tick ∈ ticks, tick.op.isRaw = false)
    (tracked : Tracked (kmRun ticks).km cell) : (kmRun ticks).env.matrix cell = true := by
  induction ticks using List.reverseRecOn with
  | nil => cases tracked.1
  | append_singleton ticks tick ih =>
    rw [kmRun_snoc] at tracked ⊢
    have quiet : ∀ t ∈ ticks, t.op.isRaw = false := by
      intro t member
      exact plain t (List.mem_append_left _ member)
    exact tracked_step (not_raw (plain tick (by simp))) (ih quiet) tracked

theorem PokedSet.raw {ticks : List KmTick} (poked : PokedSet ticks cell) :
    ∃ tick ∈ ticks, tick.op.isRaw = true := by
  obtain ⟨before, tick, after, rfl, wrote, _⟩ := poked
  refine ⟨tick, by simp, ?_⟩
  cases raw : tick.op.isRaw with
  | true => rfl
  | false =>
    rw [rawWrite_plain (not_raw raw)] at wrote
    cases wrote

/-- No key stays stuck: every set bit is tracked by the active injection or goes
back to a poke or SET that nothing has let go of; without those, the set bits
are the tracked ones. -/
theorem no_stuck_key (ticks : List KmTick) :
    (∀ cell, (kmRun ticks).env.matrix cell = true →
        Tracked (kmRun ticks).km cell ∨ PokedSet ticks cell) ∧
      ((∀ tick ∈ ticks, tick.op.isRaw = false) →
        ∀ cell, (kmRun ticks).env.matrix cell = true ↔ Tracked (kmRun ticks).km cell) := by
  constructor
  · intro cell set
    exact set_accounted ticks set
  · intro plain cell
    constructor
    · intro set
      rcases set_accounted ticks set with tracked | poked
      · exact tracked
      · obtain ⟨tick, member, raw⟩ := poked.raw
        simp [plain tick member] at raw
    · intro tracked
      exact tracked_set ticks plain tracked

end Revice.Keymatrix

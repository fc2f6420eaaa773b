/- Module: Revice/Keymatrix/Story
   source: libs/keymatrix/src/keymatrix_core.c, README.md
   digest: The injection that GET speaks of is the last one of the run, told from its operations. -/

import Revice.Keymatrix.Named
import Revice.Keymatrix.Timeout

set_option autoImplicit false
set_option relaxedAutoImplicit false

namespace Revice.Keymatrix

open Revice.General

/-- An injection of a run: the operations before its start, those under which it was held, and
the one that has ended it, if any. -/
structure Episode where
  before : List KmTick
  start : KmTick
  injection : Injection
  held : List KmTick
  fin : Option KmTick

/-- The last injection that a run has accepted, and how far it has come. -/
inductive LastEpisode (ticks : List KmTick) : Option Episode → Prop
  | never (plain : ∀ tick ∈ ticks, tick.op.starts = false) : LastEpisode ticks none
  | running (before held : List KmTick) (start : KmTick) (injection : Injection)
      (split : ticks = before ++ start :: held) (action : start.op.action = .start injection)
      (plain : ∀ tick ∈ held, tick.op.starts = false) (active : (kmRun ticks).km.active = true) :
      LastEpisode ticks (some ⟨before, start, injection, held, none⟩)
  | ended (before held after : List KmTick) (start fin : KmTick) (injection : Injection)
      (split : ticks = before ++ start :: held ++ fin :: after)
      (action : start.op.action = .start injection)
      (plain : ∀ tick ∈ held, tick.op.starts = false)
      (ends : Ends (kmRun (before ++ start :: held)) fin)
      (later : ∀ tick ∈ fin :: after, tick.op.starts = false) :
      LastEpisode ticks (some ⟨before, start, injection, held, some fin⟩)

def namedCells (ticks : List KmTick) : List (Int × Int) :=
  ticks.flatMap fun tick =>
    match tick.op.action with
    | .releaseListed keys => cellsOf keys
    | _ => []

/-- The keys at places that no release of listed keys has named. -/
def unreleased (keys : List KmKey) (ticks : List KmTick) : List KmKey :=
  keys.filter fun key => !(namedCells ticks).contains key.cell

/-- A read that selects one of the keys: its row in a PA read, its column in a PB read. -/
def KmOp.samples (op : KmOp) (keys : List KmKey) : Bool :=
  match op.action with
  | .scan port mask => scanSamples port.coord keys mask
  | _ => false

/-- The reads that select one of the keys that no earlier listed release has named. -/
def samplingReads (keys : List KmKey) : List KmTick → Nat
  | [] => 0
  | tick :: ticks =>
    (if tick.op.samples keys then 1 else 0) + samplingReads (unreleased keys [tick]) ticks

/-- Counters, reason and keys of an injection. -/
structure ShownInjection where
  cia1ReadsTotal : U32
  cia1ReadsSampling : U32
  reason : KmReleaseReason
  keys : List KmKey

namespace Episode

def samples (e : Episode) : Nat := samplingReads e.injection.keys e.held

def reason (e : Episode) : KmReleaseReason :=
  if e.injection.mode = .tapObserved ∧ 0 < e.samples then .observed
  else
    match e.fin with
    | none => .none
    | some fin => if fin.op.isAlarm then .timeout else .manual

/-- What the history says of an injection: the reads while it was held, why it ended, and its
keys that no listed release has named. -/
def told (e : Episode) : ShownInjection where
  cia1ReadsTotal := BitVec.ofNat 32 (hookCalls e.held)
  cia1ReadsSampling := BitVec.ofNat 32 e.samples
  reason := e.reason
  keys := unreleased e.injection.keys (e.held ++ e.fin.toList)

def deadline (e : Episode) (frames : Int) : Nat :=
  e.start.now.toNat + frames.toNat * e.start.frameLength.toNat

end Episode

/-- The whole frames until a clock, saturated. -/
def framesTo (clk now cyclesPerFrame : Nat) : Nat :=
  if now < clk then min 65535 ((clk - now) / cyclesPerFrame) else 0

/-- Before the first injection there is nothing to tell. -/
def toldOf : Option Episode → ShownInjection
  | none => ⟨0, 0, .none, []⟩
  | some e => e.told

/-- The injection that a response speaks of: the active one, the last one, or none. -/
def KmCore.shown (km : KmCore) : ShownInjection :=
  if km.active then ⟨km.cia1ReadsTotal, km.cia1ReadsSampling, km.lastReason, km.keys⟩
  else if km.last.valid then
    ⟨km.last.cia1ReadsTotal, km.last.cia1ReadsSampling, km.last.reason, km.last.keys⟩
  else ⟨0, 0, .none, []⟩

section Phases

variable {ticks : List KmTick} {tick : KmTick}

private theorem plain_snoc {held : List KmTick} (plain : ∀ t ∈ held, t.op.starts = false)
    (next : tick.op.starts = false) : ∀ t ∈ held ++ [tick], t.op.starts = false := by
  intro t member
  rcases List.mem_append.mp member with early | late
  · exact plain t early
  · rw [List.mem_singleton.mp late]
    exact next

theorem last_episode (ticks : List KmTick) : ∃ episode, LastEpisode ticks episode := by
  induction ticks using List.reverseRecOn with
  | nil => exact ⟨none, .never (by simp)⟩
  | append_singleton ticks tick ih =>
    cases starts : tick.op.starts with
    | true =>
      obtain ⟨injection, action⟩ := starts_iff.mp starts
      obtain ⟨timeoutClk, started, -⟩ := started_step (kmRun ticks) action
      refine ⟨_, .running ticks [] tick injection rfl action (by simp) ?_⟩
      rw [kmRun_snoc, started]
      rfl
    | false =>
      obtain ⟨episode, last⟩ := ih
      cases last with
      | never plain => exact ⟨none, .never (plain_snoc plain starts)⟩
      | running before held start injection split action plain active =>
        cases next : (kmRun (ticks ++ [tick])).km.active with
        | true =>
          refine ⟨_, .running before (held ++ [tick]) start injection ?_ action
            (plain_snoc plain starts) next⟩
          rw [split, List.append_assoc, List.cons_append]
        | false =>
          rw [kmRun_snoc] at next
          refine ⟨_, .ended before held [] start tick injection (by rw [split]) action plain ?_ ?_⟩
          · rw [← split]
            exact ⟨active, Or.inr next⟩
          · simpa using starts
      | ended before held after start fin injection split action plain ends later =>
        refine ⟨_, .ended before held (after ++ [tick]) start fin injection ?_ action plain ends
          (plain_snoc later starts)⟩
        rw [split, List.append_assoc, List.cons_append]

end Phases

section Keys

private theorem namedCells_append (first later : List KmTick) :
    namedCells (first ++ later) = namedCells first ++ namedCells later := List.flatMap_append

private theorem unreleased_none (keys : List KmKey) {ticks : List KmTick}
    (nothing : namedCells ticks = []) : unreleased keys ticks = keys := by
  rw [unreleased, nothing]
  exact List.filter_eq_self.mpr fun _ _ => rfl

private theorem unreleased_append (keys : List KmKey) (first later : List KmTick) :
    unreleased keys (first ++ later) = unreleased (unreleased keys first) later := by
  rw [unreleased, unreleased, unreleased, List.filter_filter]
  apply List.filter_congr
  intro key _
  rw [namedCells_append, List.contains_append, Bool.not_or]
  exact Bool.and_comm _ _

private theorem unreleased_plain (keys : List KmKey) {tick : KmTick}
    (plain : ∀ listed, tick.op.action ≠ .releaseListed listed) : unreleased keys [tick] = keys := by
  apply unreleased_none
  rw [namedCells, List.flatMap_singleton]
  split
  · rename_i action
    exact absurd action (plain _)
  · rfl

private theorem unreleased_listed (keys : List KmKey) {tick : KmTick} {listed : List KmKey}
    (action : tick.op.action = .releaseListed listed) :
    unreleased keys [tick] = survivingKeys keys listed := by
  have named : namedCells [tick] = cellsOf listed := by
    rw [namedCells, List.flatMap_singleton, action]
  rw [unreleased, survivingKeys, named]
  apply List.filter_congr
  intro key _
  rw [Bool.eq_iff_iff, unlisted_iff, Bool.not_eq_true', ← Bool.not_eq_true, List.contains_iff_mem]

variable {sys : KmSys} {tick : KmTick}

private theorem keys_step (plain : tick.op.starts = false)
    (active : (kmStep sys tick).1.km.active = true) :
    (kmStep sys tick).1.km.keys = unreleased sys.km.keys [tick] := by
  have before := (continues_step plain active).active
  by_cases lists : ∃ listed, tick.op.action = .releaseListed listed
  · obtain ⟨listed, action⟩ := lists
    rw [unreleased_listed _ action]
    rw [kmStep_eq, action] at active ⊢
    simp only [KmSys.act, KmAction.perform] at active ⊢
    by_cases none_left : survivingKeys sys.km.keys listed = []
    · rw [releaseListed_ends before none_left] at active
      cases active
    · rw [releaseListed_survives (Or.inr none_left), if_pos before]
  · rw [unreleased_plain _ fun listed action => lists ⟨listed, action⟩]
    rw [kmStep_eq] at active ⊢
    cases action : tick.op.action with
    | none => rfl
    | start injection => simp [KmOp.starts, action] at plain
    | releaseAll => simp [action, KmSys.act, KmAction.perform, active_released] at active
    | releaseListed listed => exact absurd ⟨listed, action⟩ lists
    | raw writes => rfl
    | scan port mask =>
      obtain ⟨_, _, _, frame, _⟩ := kmScan_frame port.coord
        (sys.env.host tick.now tick.cyclesPerFrame) mask sys.km
      rw [KmSys.act, KmAction.perform, frame]
    | fire => simp [action, KmSys.act, KmAction.perform, kmCoreOnAlarm, active_released] at active

private theorem keys_run {held : List KmTick} (plain : ∀ t ∈ held, t.op.starts = false)
    (active : (kmMachine.exec sys held).km.active = true) :
    (kmMachine.exec sys held).km.keys = unreleased sys.km.keys held := by
  induction held using List.reverseRecOn with
  | nil => exact (unreleased_none _ rfl).symm
  | append_singleton held tick ih =>
    rw [Machine.exec_snoc] at active ⊢
    have next : tick.op.starts = false := plain tick (by simp)
    have continues := continues_step next active
    rw [unreleased_append,
      ← ih (fun t member => plain t (List.mem_append_left _ member)) continues.active]
    exact keys_step next active

private theorem samplingReads_snoc (keys : List KmKey) (ticks : List KmTick) (tick : KmTick) :
    samplingReads keys (ticks ++ [tick]) =
      samplingReads keys ticks + if tick.op.samples (unreleased keys ticks) then 1 else 0 := by
  induction ticks generalizing keys with
  | nil =>
    rw [unreleased_none keys rfl]
    exact Nat.add_comm _ _
  | cons head ticks ih =>
    have split : unreleased keys (head :: ticks) = unreleased (unreleased keys [head]) ticks :=
      unreleased_append keys [head] ticks
    simp only [List.cons_append, samplingReads, ih, Nat.add_assoc, split]

/-- The hooks test the keys that are tracked at the time of the read. -/
private theorem samplingCalls_held {held : List KmTick}
    (plain : ∀ t ∈ held, t.op.starts = false)
    (active : (kmMachine.exec sys held).km.active = true) :
    samplingCalls sys held = samplingReads sys.km.keys held := by
  induction held using List.reverseRecOn with
  | nil => rfl
  | append_singleton held tick ih =>
    rw [Machine.exec_snoc] at active
    have earlier : ∀ t ∈ held, t.op.starts = false :=
      fun t member => plain t (List.mem_append_left _ member)
    have before := (continues_step (plain tick (by simp)) active).active
    rw [samplingCalls_snoc, samplingReads_snoc, ih earlier before, ← keys_run earlier before]
    rfl

private theorem last_keys_unreleased (ends : Ends sys tick) (stops : tick.op.starts = false) :
    (kmStep sys tick).1.km.last.keys = unreleased sys.km.keys [tick] := by
  by_cases lists : ∃ listed, tick.op.action = .releaseListed listed
  · obtain ⟨listed, action⟩ := lists
    rw [last_keys_listed ends action, unreleased_listed _ action]
    by_contra some_left
    have idle := ends.2.resolve_left (by simp [stops])
    rw [kmStep_eq, action] at idle
    simp [KmSys.act, KmAction.perform, releaseListed_survives (Or.inr (Ne.symm some_left)),
      ends.1] at idle
  · have plain : ∀ listed, tick.op.action ≠ .releaseListed listed :=
      fun listed action => lists ⟨listed, action⟩
    rw [last_keys ends plain, unreleased_plain _ plain]

end Keys

section Told

variable {ticks : List KmTick}

private theorem fresh_run {ticks : List KmTick} (plain : ∀ tick ∈ ticks, tick.op.starts = false) :
    (kmRun ticks).km = kmCoreInit :=
  @idle_run kmSysInit rfl _ plain

/-- After an injection has ended, the core stays as it is until the next one starts. -/
private theorem ended_run {fin : KmTick} {after : List KmTick} (ends : Ends (kmRun ticks) fin)
    (later : ∀ tick ∈ fin :: after, tick.op.starts = false) :
    (kmStep (kmRun ticks) fin).1.km.active = false ∧
      (kmRun (ticks ++ fin :: after)).km = (kmStep (kmRun ticks) fin).1.km := by
  have stops : fin.op.starts = false := later fin List.mem_cons_self
  have idle := ends.2.resolve_left (by simp [stops])
  refine ⟨idle, ?_⟩
  rw [kmRun_append, kmMachine.exec_cons]
  exact idle_run idle fun t member => later t (List.mem_cons_of_mem _ member)

private theorem keys_started (before : List KmTick) {start : KmTick} {injection : Injection}
    (action : start.op.action = .start injection) :
    (kmRun (before ++ [start])).km.keys = injection.keys := by
  obtain ⟨timeoutClk, started, -⟩ := started_step (kmRun before) action
  rw [kmRun_snoc, started]
  rfl

private theorem keys_held (before : List KmTick) {held : List KmTick} {start : KmTick}
    {injection : Injection} (action : start.op.action = .start injection)
    (plain : ∀ tick ∈ held, tick.op.starts = false)
    (active : (kmRun (before ++ start :: held)).km.active = true) :
    (kmRun (before ++ start :: held)).km.keys = unreleased injection.keys held := by
  rw [kmRun_held before held start] at active ⊢
  rw [keys_run plain active, keys_started before action]

private theorem samples_held (before : List KmTick) {held : List KmTick} {start : KmTick}
    {injection : Injection} (action : start.op.action = .start injection)
    (plain : ∀ tick ∈ held, tick.op.starts = false)
    (active : (kmRun (before ++ start :: held)).km.active = true) :
    samplingCalls (kmRun (before ++ [start])) held = samplingReads injection.keys held := by
  rw [kmRun_held before held start] at active
  rw [samplingCalls_held plain active, keys_started before action]

/-- A response speaks of the last injection of the run, and says of it what the operations of
the run have made of it. -/
theorem shown_told {episode : Option Episode} (last : LastEpisode ticks episode) :
    (kmRun ticks).km.shown = toldOf episode := by
  cases last with
  | never plain =>
    rw [fresh_run plain]
    rfl
  | running before held start injection split action plain active =>
    subst split
    have counts := counts_held before action plain active
    have keys := keys_held before action plain active
    have samples := samples_held before action plain active
    rw [KmCore.shown, if_pos active, counts.total, counts.sampling, counts.lastReason, keys,
      samples]
    simp only [toldOf, Episode.told, Option.toList_none, List.append_nil, Episode.reason,
      pendingReason]
    rfl
  | ended before held after start fin injection split action plain ends later =>
    subst split
    have stops : fin.op.starts = false := later fin List.mem_cons_self
    have counts := counts_held before action plain ends.1
    have reports := ends_step ends
    obtain ⟨idle, kept⟩ := ended_run ends later
    have samples := samples_held before action plain ends.1
    rw [kept, KmCore.shown, if_neg (by rw [idle]; decide), if_pos reports.valid, reports.total,
      reports.sampling, counts.total, counts.sampling, last_keys_unreleased ends stops,
      keys_held before action plain ends.1, ← unreleased_append, reports.reason, counts.lastReason]
    rw [ite_pendingReason, samples]
    rfl

theorem framesLeft_idle (host : KmHost) {km : KmCore} (idle : km.active = false) :
    framesLeft host km = 0 := by
  rw [framesLeft, idle]
  rfl

theorem idle_of_last {episode : Option Episode} (last : LastEpisode ticks episode)
    (past : ∀ e ∈ episode, e.fin ≠ none) : (kmRun ticks).km.active = false := by
  cases last with
  | never plain =>
    rw [fresh_run plain]
    rfl
  | running before held start injection split action plain active =>
    exact absurd rfl (past _ rfl)
  | ended before held after start fin injection split action plain ends later =>
    subst split
    obtain ⟨idle, kept⟩ := ended_run ends later
    rw [kept, idle]

theorem timeoutClk_held {e : Episode} (last : LastEpisode ticks (some e)) (held : e.fin = none)
    {frames : Int} (framed : frames ∈ e.injection.frames) (fits : e.deadline frames < 2 ^ 64) :
    (kmRun ticks).km.active = true ∧ (kmRun ticks).km.timeoutClk.toNat = e.deadline frames := by
  cases last with
  | running before held start injection split action plain active =>
    subst split
    have counts := counts_held before action plain active
    obtain ⟨timeoutClk, started, timeout⟩ := started_step (kmRun before) action
    have stored : (kmRun (before ++ [start])).km.timeoutClk = start.deadline frames := by
      rw [kmRun_snoc, started]
      exact timeout frames framed
    refine ⟨active, ?_⟩
    rw [counts.timeoutClk, stored]
    exact deadline_toNat (injection.ok.frames_pos frames framed) fits
  | ended => cases held

end Told

end Revice.Keymatrix

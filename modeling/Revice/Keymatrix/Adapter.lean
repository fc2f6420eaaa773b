/- Module: Revice/Keymatrix/Adapter
   source: libs/keymatrix/vice/mon_keymatrix.c
   digest: The adapter with the emulator's alarms runs the core as one host with one alarm. -/

import Revice.General.Cell
import Revice.Keymatrix.Vice

set_option autoImplicit false
set_option relaxedAutoImplicit false

namespace Revice.Keymatrix

open Revice.General

/-- The static variables of the adapter, in an emulator. -/
structure MonKm (ε α : Type) where
  kmx : KmCore
  kmxInited : Bool
  kmxAlarm : Option α
  vice : ε

section Adapter

variable {ε α : Type} [Vice ε α]

def monKmInit (e : ε) : MonKm ε α where
  kmx := kmCoreInit
  kmxInited := false
  kmxAlarm := none
  vice := e

namespace MonKm

variable (s : MonKm ε α)

def pending : Option U64 := s.kmxAlarm.bind (Vice.state s.vice).pending

def env : KmEnv := ⟨(Vice.state s.vice).matrix, s.pending⟩

def hSetKeyarrAny (row col : Int) (value : Bool) : MonKm ε α :=
  { s with vice := Vice.keyboardSetKeyarrAny row col value s.vice }

def hGetKeyarr (row : Nat) : U32 := Vice.keyarr s.vice row &&& 0xff#32

def hCustomKeyGet (id : KmCustom) : Bool := Vice.keyboardCustomKeyGet s.vice id

def hClearKeymatrix : MonKm ε α := { s with vice := Vice.keyboardClearKeymatrix s.vice }

/-- The alarm is allocated when it is needed for the first time. -/
def hSetAlarm (clk : U64) : MonKm ε α :=
  match s.kmxAlarm with
  | some alarm => { s with vice := Vice.alarmSet alarm clk s.vice }
  | none =>
    let (alarm, vice) := Vice.alarmNew s.vice
    { s with kmxAlarm := some alarm, vice := Vice.alarmSet alarm clk vice }

def hCancelAlarm : MonKm ε α :=
  match s.kmxAlarm with
  | some alarm => { s with vice := Vice.alarmUnset alarm s.vice }
  | none => s

def host (now cyclesPerFrame : U64) : KmHost where
  getKeyarr := s.hGetKeyarr
  customKeyGet := s.hCustomKeyGet
  now := now
  cyclesPerFrame := cyclesPerFrame

def apply : HostCall → MonKm ε α
  | .setKeyarrAny row col value => s.hSetKeyarrAny row col value
  | .clearKeymatrix => s.hClearKeymatrix
  | .setAlarm clk => s.hSetAlarm clk
  | .cancelAlarm => s.hCancelAlarm
  | .emit _ => s

def run (calls : List HostCall) : MonKm ε α := calls.foldl apply s

def kmxEnsure : MonKm ε α :=
  if s.kmxInited then s else { s with kmx := kmCoreInit, kmxInited := true }

/-- A call of the core on `kmx`, whose callbacks act on the emulator. -/
def enter (now cyclesPerFrame : U64) (core : KmHost → KmCore → KmCore × List HostCall) :
    MonKm ε α × List HostCall :=
  let done := core (s.host now cyclesPerFrame) s.kmx
  ({ s with kmx := done.1 }.run done.2, done.2)

end MonKm

section Api

variable (now cyclesPerFrame : U64)

def kmxAlarmCallback (s : MonKm ε α) : MonKm ε α × List HostCall :=
  s.enter now cyclesPerFrame kmCoreOnAlarm

def monKeymatrixTap (args : Option CString) (s : MonKm ε α) : MonKm ε α × List HostCall :=
  s.kmxEnsure.enter now cyclesPerFrame fun host => kmCoreTap host args

def monKeymatrixPress (args : Option CString) (s : MonKm ε α) : MonKm ε α × List HostCall :=
  s.kmxEnsure.enter now cyclesPerFrame fun host => kmCorePress host args

def monKeymatrixRelease (args : Option CString) (s : MonKm ε α) : MonKm ε α × List HostCall :=
  s.kmxEnsure.enter now cyclesPerFrame fun host => kmCoreRelease host args

def monKeymatrixPoke (args : Option CString) (s : MonKm ε α) : MonKm ε α × List HostCall :=
  s.kmxEnsure.enter now cyclesPerFrame fun _ => kmCorePoke args

def monKeymatrixShow (s : MonKm ε α) : MonKm ε α × List HostCall :=
  s.kmxEnsure.enter now cyclesPerFrame kmCoreShow

def monKeymatrixNames (s : MonKm ε α) : MonKm ε α × List HostCall :=
  s.kmxEnsure.enter now cyclesPerFrame fun _ => kmCoreNames

/-- Silent until the feature has been used. -/
def monKeymatrixCia1PaRead (rowScanMask : U8) (s : MonKm ε α) : MonKm ε α × List HostCall :=
  if s.kmxInited then
    s.enter now cyclesPerFrame fun host => kmCoreCia1PaRead host rowScanMask
  else (s, [])

def monKeymatrixCia1PbRead (colScanMask : U8) (s : MonKm ε α) : MonKm ε α × List HostCall :=
  if s.kmxInited then
    s.enter now cyclesPerFrame fun host => kmCoreCia1PbRead host colScanMask
  else (s, [])

/-- The return code with the effect. -/
def monKeymatrixBinmonSet (body : List U8) (s : MonKm ε α) : Int × MonKm ε α × List HostCall :=
  ((kmCoreBinmonSet s.kmxEnsure.kmx body).1,
    s.kmxEnsure.enter now cyclesPerFrame fun _ km => (kmCoreBinmonSet km body).2)

def monKeymatrixBinmonTap (body : List U8) (s : MonKm ε α) : Int × MonKm ε α × List HostCall :=
  ((kmCoreBinmonTap (s.kmxEnsure.host now cyclesPerFrame) s.kmxEnsure.kmx body).1,
    s.kmxEnsure.enter now cyclesPerFrame fun host km => (kmCoreBinmonTap host km body).2)

def monKeymatrixBinmonGet (buf : GetBuffer) (s : MonKm ε α) : (Int × GetBuffer) × MonKm ε α :=
  (kmCoreBinmonGet (s.kmxEnsure.host now cyclesPerFrame) s.kmxEnsure.kmx buf, s.kmxEnsure)

end Api

end Adapter

/-- What happens to the adapter: the monitor and the memory of the machine call it, its alarm
comes up; and other parts of the emulator use alarms of their own. -/
inductive MonKmOp (α : Type)
  | entry (tick : KmTick)
  | alarmNew
  | alarmSet (alarm : α) (clk : U64)
  | alarmUnset (alarm : α)

namespace MonKmOp

variable {α : Type}

def tick? : MonKmOp α → Option KmTick
  | .entry tick => some tick
  | .alarmNew => none
  | .alarmSet _ _ => none
  | .alarmUnset _ => none

/-- What an operation of another part stores as the pending time of an alarm. -/
def event : MonKmOp α → Option (CellEvent α (Option U64))
  | .entry _ => none
  | .alarmNew => none
  | .alarmSet alarm clk => some ⟨alarm, some clk, true⟩
  | .alarmUnset alarm => some ⟨alarm, none, true⟩

def allocates : MonKmOp α → Bool
  | .alarmNew => true
  | _ => false

end MonKmOp

section Adapter

variable {ε α : Type} [Vice ε α]

def KmOp.through (now cyclesPerFrame : U64) (s : MonKm ε α) : KmOp → MonKm ε α × List HostCall
  | .tap args => monKeymatrixTap now cyclesPerFrame args s
  | .press args => monKeymatrixPress now cyclesPerFrame args s
  | .release args => monKeymatrixRelease now cyclesPerFrame args s
  | .poke args => monKeymatrixPoke now cyclesPerFrame args s
  | .show => monKeymatrixShow now cyclesPerFrame s
  | .names => monKeymatrixNames now cyclesPerFrame s
  | .paRead mask => monKeymatrixCia1PaRead now cyclesPerFrame mask s
  | .pbRead mask => monKeymatrixCia1PbRead now cyclesPerFrame mask s
  | .binmonSet body => (monKeymatrixBinmonSet now cyclesPerFrame body s).2
  | .binmonTap body => (monKeymatrixBinmonTap now cyclesPerFrame body s).2
  | .binmonGet buf => ((monKeymatrixBinmonGet now cyclesPerFrame buf s).2, [])
  | .onAlarm => kmxAlarmCallback now cyclesPerFrame s

def MonKmOp.perform (s : MonKm ε α) : MonKmOp α → MonKm ε α × List HostCall
  | .entry tick => tick.op.through tick.now tick.cyclesPerFrame s
  | .alarmNew => ({ s with vice := (Vice.alarmNew s.vice).2 }, [])
  | .alarmSet alarm clk => ({ s with vice := Vice.alarmSet alarm clk s.vice }, [])
  | .alarmUnset alarm => ({ s with vice := Vice.alarmUnset alarm s.vice }, [])

/-- Another part of the emulator holds this alarm. -/
def MonKm.Foreign (s : MonKm ε α) (alarm : α) : Prop :=
  alarm ∈ (Vice.state s.vice).alarms ∧ s.kmxAlarm ≠ some alarm

def MonKmOp.enabled (s : MonKm ε α) : MonKmOp α → Prop
  | .entry tick => tick.op = .onAlarm → s.pending.isSome
  | .alarmNew => True
  | .alarmSet alarm _ => s.Foreign alarm
  | .alarmUnset alarm => s.Foreign alarm

def monKmMachine : Machine (MonKm ε α) (MonKmOp α) HostCall where
  step := MonKmOp.perform
  enabled := MonKmOp.enabled

/-- The core and its host, as the model of the core has them. -/
def MonKm.view (s : MonKm ε α) : KmSys := ⟨s.kmx, s.env⟩

/-- The core is cleared before its first use, and the alarm of the adapter is allocated. -/
structure MonKm.WellFormed (s : MonKm ε α) : Prop where
  cleared : s.kmxInited = false → s.kmx = kmCoreInit
  allocated : ∀ alarm, s.kmxAlarm = some alarm → alarm ∈ (Vice.state s.vice).alarms

/-- What a call leaves alone: the alarms of the other parts; and it allocates no alarm but the
adapter's. -/
structure MonKm.Spares (s t : MonKm ε α) : Prop where
  foreign : ∀ alarm, t.kmxAlarm ≠ some alarm → s.kmxAlarm ≠ some alarm ∧
    (Vice.state t.vice).pending alarm = (Vice.state s.vice).pending alarm
  count : (Vice.state t.vice).alarms.length + s.kmxAlarm.toList.length =
    (Vice.state s.vice).alarms.length + t.kmxAlarm.toList.length

namespace MonKm

variable {s t u : MonKm ε α}

theorem host_eq (s : MonKm ε α) (now cyclesPerFrame : U64) :
    s.host now cyclesPerFrame = s.env.host now cyclesPerFrame := by
  have rows (row : Nat) : s.hGetKeyarr row = s.env.keyarr row := by
    apply BitVec.eq_of_getLsbD_eq
    intro i inside
    have ones : ∀ i < 32, (0xff#32).getLsbD i = decide (i < 8) := by decide
    rw [hGetKeyarr, BitVec.getLsbD_and, ones i inside, getLsbD_keyarr _ _ inside, Bool.and_comm]
    by_cases small : i < 8
    · rw [Vice.keyarr_bit s.vice row i small]
      rfl
    · simp only [small, decide_false, Bool.false_and]
  have customs (id : KmCustom) : s.hCustomKeyGet id = s.env.matrix id.cell :=
    Vice.customKeyGet_cell s.vice id
  rw [host, funext rows, funext customs]
  rfl

theorem Spares.refl (s : MonKm ε α) : s.Spares s := ⟨fun _ other => ⟨other, rfl⟩, rfl⟩

theorem Spares.trans (first : s.Spares t) (later : t.Spares u) : s.Spares u := by
  constructor
  · intro alarm other
    obtain ⟨before, kept⟩ := later.foreign alarm other
    obtain ⟨start, first⟩ := first.foreign alarm before
    exact ⟨start, kept.trans first⟩
  · have sum := first.count
    have sum' := later.count
    omega

/-- The invariants that one callback keeps, with the effect it has on the host. -/
structure Performs (s t : MonKm ε α) (env : KmEnv) : Prop where
  kmx : t.kmx = s.kmx
  kmxInited : t.kmxInited = s.kmxInited
  env : t.env = env
  wellFormed : t.WellFormed
  spares : s.Spares t

theorem WellFormed.keep (formed : s.WellFormed) {e : ε}
    (alarms : (Vice.state e).alarms = (Vice.state s.vice).alarms) :
    MonKm.WellFormed { s with vice := e } := by
  refine ⟨formed.cleared, ?_⟩
  intro alarm own
  rw [alarms]
  exact formed.allocated alarm own

theorem WellFormed.new (formed : s.WellFormed) :
    MonKm.WellFormed { s with vice := (Vice.alarmNew s.vice).2 } := by
  refine ⟨formed.cleared, ?_⟩
  intro alarm own
  rw [Vice.alarmNew_state]
  exact List.mem_append_left _ (formed.allocated alarm own)

private theorem performs_set (formed : s.WellFormed) {alarm : α} (own : s.kmxAlarm = some alarm)
    {e : ε} {clk : Option U64} (sets : (Vice.state s.vice).Sets (Vice.state e) alarm clk) :
    s.Performs { s with vice := e } ⟨s.env.matrix, clk⟩ := by
  refine ⟨rfl, rfl, ?_, formed.keep sets.alarms, ⟨?_, ?_⟩⟩
  · simp only [env, pending, own, Option.bind_some, sets.here, sets.matrix]
  · intro other apart
    refine ⟨apart, sets.others other ?_⟩
    rintro rfl
    exact apart own
  · rw [sets.alarms]

private theorem performs_alloc (formed : s.WellFormed) (unused : s.kmxAlarm = none) :
    s.Performs { s with
      kmxAlarm := some (Vice.alarmNew s.vice).1
      vice := (Vice.alarmNew s.vice).2 } s.env := by
  have idle := Vice.unknown_idle s.vice _ (Vice.alarmNew_fresh s.vice)
  refine ⟨rfl, rfl, ?_, ⟨formed.cleared, ?_⟩, ⟨?_, ?_⟩⟩
  · simp only [env, pending, unused, Option.bind_some, Option.bind_none, Vice.alarmNew_state, idle]
  · intro alarm own
    obtain rfl := Option.some.inj own
    rw [Vice.alarmNew_state]
    exact List.mem_append_right _ (List.mem_singleton_self _)
  · intro alarm _
    rw [unused, Vice.alarmNew_state]
    exact ⟨(Option.some_ne_none _).symm, rfl⟩
  · simp only [unused, Vice.alarmNew_state, List.length_append, List.length_singleton,
      Option.toList_none, Option.toList_some, List.length_nil]

theorem Performs.trans {first later : KmEnv} (start : s.Performs t first)
    (next : t.Performs u later) : s.Performs u later where
  kmx := next.kmx.trans start.kmx
  kmxInited := next.kmxInited.trans start.kmxInited
  env := next.env
  wellFormed := next.wellFormed
  spares := start.spares.trans next.spares

private theorem performs_hSetAlarm (formed : s.WellFormed) (clk : U64) :
    s.Performs (s.hSetAlarm clk) (s.env.apply (.setAlarm clk)) := by
  obtain ⟨kmx, kmxInited, own, vice⟩ := s
  cases own with
  | some alarm =>
    exact performs_set formed rfl (Vice.alarmSet_sets _ _ (formed.allocated _ rfl) clk)
  | none =>
    have allocated := performs_alloc formed rfl
    have known := allocated.wellFormed.allocated _ rfl
    have set := performs_set allocated.wellFormed rfl (Vice.alarmSet_sets _ _ known clk)
    rw [allocated.env] at set
    exact allocated.trans set

private theorem performs_hCancelAlarm (formed : s.WellFormed) :
    s.Performs s.hCancelAlarm (s.env.apply .cancelAlarm) := by
  obtain ⟨kmx, kmxInited, own, vice⟩ := s
  cases own with
  | some alarm =>
    exact performs_set formed rfl (Vice.alarmUnset_sets _ _ (formed.allocated _ rfl))
  | none => exact ⟨rfl, rfl, rfl, formed, .refl _⟩

private theorem performs_matrix (formed : s.WellFormed) {e : ε} {matrix : Int × Int → Bool}
    (state : Vice.state e = { Vice.state s.vice with matrix := matrix }) :
    s.Performs { s with vice := e } ⟨matrix, s.pending⟩ := by
  refine ⟨rfl, rfl, ?_, formed.keep (by rw [state]), ⟨?_, ?_⟩⟩
  · simp only [env, pending, state]
  · intro alarm other
    exact ⟨other, by rw [state]⟩
  · simp only [state]

private theorem performs_apply (formed : s.WellFormed) (call : HostCall) :
    s.Performs (s.apply call) (s.env.apply call) := by
  cases call with
  | setKeyarrAny row col value =>
    exact performs_matrix formed (Vice.setKeyarrAny_state s.vice row col value)
  | clearKeymatrix => exact performs_matrix formed (Vice.clearKeymatrix_state s.vice)
  | setAlarm clk => exact performs_hSetAlarm formed clk
  | cancelAlarm => exact performs_hCancelAlarm formed
  | emit text => exact ⟨rfl, rfl, rfl, formed, .refl s⟩

private theorem performs_run (formed : s.WellFormed) (calls : List HostCall) :
    s.Performs (s.run calls) (s.env.run calls) := by
  induction calls generalizing s with
  | nil => exact ⟨rfl, rfl, rfl, formed, .refl s⟩
  | cons call calls ih =>
    have first := performs_apply formed call
    have later := ih first.wellFormed
    rw [first.env] at later
    exact first.trans later

/-- What one operation does: a step of the core on the adapter's view, and nothing to the
alarms of the other parts. -/
structure Steps (s t : MonKm ε α) (view : KmSys) : Prop where
  view : t.view = view
  wellFormed : t.WellFormed
  spares : s.Spares t

private theorem steps_enter (formed : s.WellFormed) (now cyclesPerFrame : U64)
    (core : KmHost → KmCore → KmCore × List HostCall)
    (unused : s.kmxInited = false →
      (core (s.env.host now cyclesPerFrame) kmCoreInit).1 = kmCoreInit) :
    let done := core (s.env.host now cyclesPerFrame) s.kmx
    s.Steps (s.enter now cyclesPerFrame core).1 ⟨done.1, s.env.run done.2⟩ := by
  intro done
  have stored : MonKm.WellFormed { s with kmx := done.1 } := by
    refine ⟨?_, formed.allocated⟩
    intro before
    exact (congrArg (fun km => (core _ km).1) (formed.cleared before)).trans (unused before)
  have ran := performs_run stored done.2
  rw [MonKm.enter, host_eq]
  refine ⟨?_, ran.wellFormed, ⟨ran.spares.foreign, ran.spares.count⟩⟩
  change KmSys.mk _ _ = _
  rw [ran.kmx, ran.env]
  rfl

theorem kmxEnsure_eq (formed : s.WellFormed) : s.kmxEnsure = { s with kmxInited := true } := by
  unfold kmxEnsure
  split_ifs with used
  · rw [← used]
  · rw [← formed.cleared (Bool.eq_false_iff.mpr used)]

theorem steps_ensured (formed : s.WellFormed) (now cyclesPerFrame : U64)
    (core : KmHost → KmCore → KmCore × List HostCall) :
    let done := core (s.env.host now cyclesPerFrame) s.kmx
    s.Steps (s.kmxEnsure.enter now cyclesPerFrame core).1 ⟨done.1, s.env.run done.2⟩ := by
  rw [kmxEnsure_eq formed]
  have ensured : MonKm.WellFormed { s with kmxInited := true } :=
    ⟨fun unused => Bool.noConfusion unused, formed.allocated⟩
  have entered := steps_enter ensured now cyclesPerFrame core fun unused => Bool.noConfusion unused
  exact ⟨entered.view, entered.wellFormed, ⟨entered.spares.foreign, entered.spares.count⟩⟩

private theorem steps_scan (formed : s.WellFormed) (now cyclesPerFrame : U64) (coord : KmKey → Int)
    (mask : U8) :
    let done := kmScan coord (s.env.host now cyclesPerFrame) mask s.kmx
    let entered := if s.kmxInited then
        s.enter now cyclesPerFrame fun host => kmScan coord host mask
      else (s, [])
    s.Steps entered.1 ⟨done.1, s.env.run done.2⟩ ∧ entered.2 = done.2 := by
  intro done entered
  cases used : s.kmxInited with
  | true =>
    refine ⟨?_, by simp only [entered, used, if_true, MonKm.enter, host_eq]; rfl⟩
    simp only [entered, used, if_true]
    exact steps_enter formed now cyclesPerFrame _ fun unused =>
      Bool.noConfusion (used.symm.trans unused)
  | false =>
    have idle : done = (s.kmx, []) := by
      simp only [done, formed.cleared used]
      rfl
    simp only [entered, used, idle, Bool.false_eq_true, if_false]
    exact ⟨⟨rfl, formed, .refl s⟩, trivial⟩

private theorem steps_through (formed : s.WellFormed) (tick : KmTick) :
    s.Steps (tick.op.through tick.now tick.cyclesPerFrame s).1 (kmStep s.view tick).1 ∧
      (tick.op.through tick.now tick.cyclesPerFrame s).2 = (kmStep s.view tick).2 := by
  have same : s.kmxEnsure.kmx = s.kmx := by rw [kmxEnsure_eq formed]
  have host : s.kmxEnsure.env = s.env := by
    rw [kmxEnsure_eq formed]
    rfl
  have ensured (core : KmHost → KmCore → KmCore × List HostCall) :
      s.Steps (s.kmxEnsure.enter tick.now tick.cyclesPerFrame core).1
          ⟨(core (s.env.host tick.now tick.cyclesPerFrame) s.kmx).1,
            s.env.run (core (s.env.host tick.now tick.cyclesPerFrame) s.kmx).2⟩ ∧
        (s.kmxEnsure.enter tick.now tick.cyclesPerFrame core).2 =
          (core (s.env.host tick.now tick.cyclesPerFrame) s.kmx).2 := by
    refine ⟨steps_ensured formed _ _ core, ?_⟩
    rw [MonKm.enter, host_eq, same, host]
  obtain ⟨now, cyclesPerFrame, op⟩ := tick
  cases op with
  | tap args => exact ensured _
  | press args => exact ensured _
  | release args => exact ensured _
  | poke args => exact ensured fun _ => kmCorePoke args
  | «show» => exact ensured _
  | names => exact ensured fun _ => kmCoreNames
  | paRead mask => exact steps_scan formed now cyclesPerFrame KmKey.row mask
  | pbRead mask => exact steps_scan formed now cyclesPerFrame KmKey.col mask
  | binmonSet body => exact ensured fun _ km => (kmCoreBinmonSet km body).2
  | binmonTap body => exact ensured _
  | binmonGet buf => exact ensured fun _ km => (km, [])
  | onAlarm =>
    refine ⟨steps_enter formed now cyclesPerFrame kmCoreOnAlarm fun _ => rfl, ?_⟩
    rw [KmOp.through, kmxAlarmCallback, MonKm.enter, host_eq]
    rfl

private theorem foreign_new (s : MonKm ε α) :
    MonKm.view { s with vice := (Vice.alarmNew s.vice).2 } = s.view := by
  unfold view env pending
  rw [Vice.alarmNew_state]

private theorem foreign_set {alarm : α} (other : s.kmxAlarm ≠ some alarm) {e : ε} {clk : Option U64}
    (sets : (Vice.state s.vice).Sets (Vice.state e) alarm clk) :
    MonKm.view { s with vice := e } = s.view := by
  unfold view env pending
  rw [sets.matrix]
  cases own : s.kmxAlarm with
  | none => rfl
  | some mine =>
    have apart : mine ≠ alarm := fun same => other (same ▸ own)
    rw [Option.bind_some, Option.bind_some, sets.others mine apart]

end MonKm

/-- What a run of the adapter comes to in the given emulator: the core runs as it does with a
host of its own, the other parts find in their alarms what they have set, and one alarm at
most is allocated beside theirs. -/
structure Adapted [DecidableEq α] (e : ε) (ops : List (MonKmOp α)) (s : MonKm ε α)
    (calls : List HostCall) : Prop where
  legal : KmLegal (ops.filterMap MonKmOp.tick?)
  view : s.view = kmRun (ops.filterMap MonKmOp.tick?)
  calls : calls = kmMachine.emitted kmSysInit (ops.filterMap MonKmOp.tick?)
  foreign : ∀ alarm, s.kmxAlarm ≠ some alarm →
    (Vice.state s.vice).pending alarm =
      lastWritten alarm ((Vice.state e).pending alarm) (ops.filterMap MonKmOp.event)
  count : (Vice.state s.vice).alarms.length =
    (Vice.state e).alarms.length + ops.countP MonKmOp.allocates + s.kmxAlarm.toList.length

section Run

variable [DecidableEq α] {e : ε} {ops : List (MonKmOp α)} {s : MonKm ε α} {calls : List HostCall}

private theorem adapted_entry (formed : s.WellFormed) (ran : Adapted e ops s calls) (tick : KmTick)
    (enabled : tick.op = .onAlarm → s.pending.isSome) :
    Adapted e (ops ++ [.entry tick]) (tick.op.through tick.now tick.cyclesPerFrame s).1
      (calls ++ (tick.op.through tick.now tick.cyclesPerFrame s).2) := by
  obtain ⟨stepped, same⟩ := MonKm.steps_through formed tick
  have ticks : (ops ++ [MonKmOp.entry tick]).filterMap MonKmOp.tick? =
      ops.filterMap MonKmOp.tick? ++ [tick] := filterMap_snoc _ _ _
  have events : (ops ++ [MonKmOp.entry tick]).filterMap MonKmOp.event =
      ops.filterMap MonKmOp.event := (filterMap_snoc _ _ _).trans (List.append_nil _)
  refine ⟨?_, ?_, ?_, ?_, ?_⟩
  · rw [ticks]
    refine (kmMachine.legal_snoc _ _ _).mpr ⟨ran.legal, ?_⟩
    change tick.op = .onAlarm → (kmRun _).env.alarm.isSome
    rw [← ran.view]
    exact enabled
  · rw [ticks, kmRun_snoc, ← ran.view]
    exact stepped.view
  · rw [ticks, kmMachine.emitted_snoc, same, ran.calls, ran.view]
    rfl
  · intro alarm other
    obtain ⟨before, kept⟩ := stepped.spares.foreign alarm other
    rw [kept, events]
    exact ran.foreign alarm before
  · have count := stepped.spares.count
    have sum := ran.count
    rw [List.countP_append]
    change _ = _ + (_ + 0) + _
    omega

private theorem adapted_set (ran : Adapted e ops s calls) {alarm : α} {clk : Option U64}
    (other : s.kmxAlarm ≠ some alarm) {later : ε}
    (sets : (Vice.state s.vice).Sets (Vice.state later) alarm clk) {op : MonKmOp α}
    (silent : op.tick? = none) (event : op.event = some ⟨alarm, clk, true⟩)
    (keeps : op.allocates = false) :
    Adapted e (ops ++ [op]) { s with vice := later } (calls ++ []) := by
  have ticks : (ops ++ [op]).filterMap MonKmOp.tick? = ops.filterMap MonKmOp.tick? := by
    rw [filterMap_snoc, silent]
    exact List.append_nil _
  have events : (ops ++ [op]).filterMap MonKmOp.event =
      ops.filterMap MonKmOp.event ++ [⟨alarm, clk, true⟩] := by
    rw [filterMap_snoc, event]
    rfl
  refine ⟨?_, ?_, ?_, ?_, ?_⟩
  · rw [ticks]
    exact ran.legal
  · rw [ticks, MonKm.foreign_set other sets]
    exact ran.view
  · rw [ticks, List.append_nil]
    exact ran.calls
  · intro target apart
    rw [events, lastWritten_append, ← ran.foreign target apart]
    by_cases here : alarm = target
    · subst here
      simpa [lastWritten] using sets.here
    · simpa [lastWritten, here] using sets.others target (Ne.symm here)
  · rw [List.countP_append, sets.alarms]
    simpa [keeps] using ran.count

private theorem adapted_new (ran : Adapted e ops s calls) :
    Adapted e (ops ++ [.alarmNew]) { s with vice := (Vice.alarmNew s.vice).2 } (calls ++ []) := by
  have ticks : (ops ++ [MonKmOp.alarmNew]).filterMap MonKmOp.tick? =
      ops.filterMap MonKmOp.tick? := (filterMap_snoc _ _ _).trans (List.append_nil _)
  have events : (ops ++ [MonKmOp.alarmNew]).filterMap MonKmOp.event =
      ops.filterMap MonKmOp.event := (filterMap_snoc _ _ _).trans (List.append_nil _)
  refine ⟨?_, ?_, ?_, ?_, ?_⟩
  · rw [ticks]
    exact ran.legal
  · rw [ticks, MonKm.foreign_new]
    exact ran.view
  · rw [ticks, List.append_nil]
    exact ran.calls
  · intro alarm other
    rw [events, ← ran.foreign alarm other, Vice.alarmNew_state]
  · have sum := ran.count
    rw [Vice.alarmNew_state, List.countP_append, List.length_append, List.length_singleton]
    change _ = _ + (_ + 1) + s.kmxAlarm.toList.length
    omega

theorem adapted_run {e : ε} (clear : ∀ cell, (Vice.state e).matrix cell = false)
    {ops : List (MonKmOp α)} (legal : monKmMachine.Legal (monKmInit e) ops) :
    (monKmMachine.exec (monKmInit e) ops).WellFormed ∧
      Adapted e ops (monKmMachine.exec (monKmInit e) ops)
        (monKmMachine.emitted (monKmInit e) ops) := by
  refine monKmMachine.run_induction
    (fun ops s calls => s.WellFormed ∧ Adapted e ops s calls) ?_ ?_ legal
  · refine ⟨⟨fun _ => rfl, fun _ own => absurd own (Option.some_ne_none _).symm⟩, ?_⟩
    refine ⟨trivial, ?_, rfl, fun _ _ => rfl, rfl⟩
    rw [MonKm.view, MonKm.env, monKmInit, funext clear]
    rfl
  · rintro ops op - enabled ⟨formed, ran⟩
    cases op with
    | entry tick =>
      exact ⟨(MonKm.steps_through formed tick).1.wellFormed, adapted_entry formed ran tick enabled⟩
    | alarmNew => exact ⟨formed.new, adapted_new ran⟩
    | alarmSet alarm clk =>
      have sets := Vice.alarmSet_sets _ alarm enabled.1 clk
      exact ⟨formed.keep sets.alarms, adapted_set ran enabled.2 sets rfl rfl rfl⟩
    | alarmUnset alarm =>
      have sets := Vice.alarmUnset_sets _ alarm enabled.1
      exact ⟨formed.keep sets.alarms, adapted_set ran enabled.2 sets rfl rfl rfl⟩

/-- In every run of the emulator, whatever the monitor, the machine and the other holders of
alarms do in between, the adapter does with the core what the core does with a host of its
own: same states, same calls in the same order. -/
theorem adapter_refines (e : ε) (clear : ∀ cell, (Vice.state e).matrix cell = false)
    (ops : List (MonKmOp α)) (legal : monKmMachine.Legal (monKmInit e) ops) :
    Adapted e ops (monKmMachine.exec (monKmInit e) ops)
      (monKmMachine.emitted (monKmInit e) ops) :=
  (adapted_run clear legal).2

end Run

end Adapter

/-- A tap is observed and released while another part of the emulator uses an alarm. -/
def tapAmongAlarms : List (MonKmOp Nat) :=
  [.alarmNew, .entry ⟨10, 19656, .binmonTap [0, 60, 0, 1, 1, 2]⟩, .alarmSet 0 100,
    .entry ⟨20, 19656, .paRead 0xfd⟩, .entry ⟨21, 19656, .onAlarm⟩]

theorem adapter_refines_tap :
    Adapted Bench.blank tapAmongAlarms (monKmMachine.exec (monKmInit Bench.blank) tapAmongAlarms)
      (monKmMachine.emitted (monKmInit Bench.blank) tapAmongAlarms) := by
  refine adapter_refines Bench.blank (fun _ => rfl) tapAmongAlarms
    ⟨trivial, ?_, ?_, ?_, ?_, trivial⟩
  · intro callback
    exact KmOp.noConfusion callback
  · exact ⟨by decide, by decide⟩
  · intro callback
    exact KmOp.noConfusion callback
  · intro _
    decide

end Revice.Keymatrix

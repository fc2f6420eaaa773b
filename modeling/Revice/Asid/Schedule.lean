/- Module: Revice/Asid/Schedule
   source: libs/asid/vice/soundasid.c, libs/asid/src/asid_core.c
   digest: The dump callback schedules IRQ flushes ahead and forced flushes at once. -/

import Revice.Asid.Receiver

set_option autoImplicit false
set_option relaxedAutoImplicit false

namespace Revice.Asid

open Revice.General

/-- A zero clock rate stands for PAL. The source computes in `double`; the exact floor is an
idealisation. -/
def asidClockToNanos (clock cyclesPerSec : U64) : Nat :=
  clock.toNat * 10 ^ 9 /
    (if cyclesPerSec = 0 then asidPalCyclesPerSec else cyclesPerSec.toNat)

def asidShouldFlushOnIrq (irqClk lastIrq : U64) : Bool :=
  (irqClk - lastIrq).toNat > asidIrqFlushThreshold

structure AsidTiming where
  lastIrq : U64
  startClock : U64

structure AsidDevice where
  core : AsidCore
  timing : Chip → AsidTiming

structure DumpCall where
  now : U64
  irqClk : U64
  chipno : U8
  addr : U16
  byte : U8

def DumpCall.reg (call : DumpCall) : U8 := (call.addr &&& 0x1f#16).setWidth 8

structure Delivery where
  now : U64
  msg : AsidMsg

/-- The instant for which the MIDI queue schedules a message. -/
def Delivery.instant (d : Delivery) : Nat := d.now.toNat + d.msg.nsec.toNat

def openDevice (useUpdateReg : Int) : AsidDevice := ⟨asidCoreInit useUpdateReg, fun _ => ⟨0, 0⟩⟩

/-- The host time that counts as emulated time zero. -/
def AsidTiming.anchor (timing : AsidTiming) (now : U64) : U64 :=
  if timing.startClock = 0 then now else timing.startClock

/-- The emulated clock plus a pad, less the elapsed host time, clipped at zero. -/
def irqDelay (cps start : U64) (call : DumpCall) : Int :=
  let nanos := asidClockToNanos (call.irqClk + BitVec.ofNat 64 asidCyclePad) cps
  let n := (BitVec.ofNat 64 nanos).toInt - (call.now - start).toInt
  if n < 0 then 0 else n

def asidIrqFlush (cps : U64) (dev : AsidDevice) (c : Chip) (call : DumpCall) :
    AsidDevice × List AsidMsg :=
  let start := (dev.timing c).anchor call.now
  let flushed := asidCoreFlush dev.core call.chipno (BitVec.ofInt 64 (irqDelay cps start call))
  (⟨flushed.1, Function.update dev.timing c ⟨call.irqClk, start⟩⟩, flushed.2)

def asidDump2 (cps : U64) (dev : AsidDevice) (call : DumpCall) : AsidDevice × List AsidMsg :=
  if inside : call.chipno.toNat < asidChips then
    let c : Chip := ⟨call.chipno.toNat, inside⟩
    let flushed := if asidShouldFlushOnIrq call.irqClk (dev.timing c).lastIrq
      then asidIrqFlush cps dev c call else (dev, [])
    if call.reg.toNat > asidMaxSidReg then flushed
    else
      let written := asidCoreSetReg flushed.1.core call.chipno call.reg call.byte
      (⟨written.1, flushed.1.timing⟩, flushed.2 ++ written.2)
  else (dev, [])

def deviceMachine (cps : U64) : Machine AsidDevice DumpCall Delivery where
  step dev call :=
    let dumped := asidDump2 cps dev call
    (dumped.1, dumped.2.map (Delivery.mk call.now))
  enabled := fun _ _ => True

def codecCalls (cps : U64) (dev : AsidDevice) (call : DumpCall) : List AsidCall :=
  if inside : call.chipno.toNat < asidChips then
    let timing := dev.timing ⟨call.chipno.toNat, inside⟩
    (if asidShouldFlushOnIrq call.irqClk timing.lastIrq then
      [.flush call.chipno (BitVec.ofInt 64 (irqDelay cps (timing.anchor call.now) call))]
    else []) ++
    (if call.reg.toNat > asidMaxSidReg then [] else [.setReg call.chipno call.reg call.byte])
  else []

theorem asidDump2_codec (cps : U64) (dev : AsidDevice) (call : DumpCall) :
    asidMachine.exec dev.core (codecCalls cps dev call) = (asidDump2 cps dev call).1.core ∧
      asidMachine.emitted dev.core (codecCalls cps dev call) = (asidDump2 cps dev call).2 := by
  by_cases inside : call.chipno.toNat < asidChips
  · rw [asidDump2, codecCalls, dif_pos inside, dif_pos inside]
    by_cases due : asidShouldFlushOnIrq call.irqClk (dev.timing ⟨call.chipno.toNat, inside⟩).lastIrq
    all_goals
      by_cases ignored : call.reg.toNat > asidMaxSidReg
      all_goals
        simp only [due, ignored, if_true, if_false]
        simp [Machine.exec_cons, Machine.emitted_cons, asidMachine, AsidCall.perform, asidIrqFlush]
  · rw [asidDump2, codecCalls, dif_neg inside, dif_neg inside]
    exact ⟨rfl, rfl⟩

def codecRun (cps : U64) : AsidDevice → List DumpCall → List AsidCall
  | _, [] => []
  | dev, call :: calls => codecCalls cps dev call ++ codecRun cps (asidDump2 cps dev call).1 calls

theorem codecRun_exec (cps : U64) (dev : AsidDevice) (calls : List DumpCall) :
    asidMachine.exec dev.core (codecRun cps dev calls) =
        ((deviceMachine cps).exec dev calls).core ∧
      asidMachine.emitted dev.core (codecRun cps dev calls) =
        ((deviceMachine cps).emitted dev calls).map Delivery.msg := by
  induction calls generalizing dev with
  | nil => exact ⟨rfl, rfl⟩
  | cons call calls ih =>
    have head := asidDump2_codec cps dev call
    have tail := ih (asidDump2 cps dev call).1
    have unwrap : (asidDump2 cps dev call).2 =
        ((asidDump2 cps dev call).2.map (Delivery.mk call.now)).map Delivery.msg := by
      rw [List.map_map]
      exact (List.map_id _).symm
    rw [codecRun, asidMachine.exec_append, asidMachine.emitted_append, head.1, head.2,
      tail.1, tail.2]
    refine ⟨rfl, ?_⟩
    rw [Machine.emitted_cons, List.map_append]
    exact congrArg (· ++ _) unwrap

theorem asidDump2_inv (cps : U64) {dev : AsidDevice} (inv : CoreInv dev.core)
    (call : DumpCall) : CoreInv (asidDump2 cps dev call).1.core := by
  rw [← (asidDump2_codec cps dev call).1]
  exact asidMachine.exec_invariant (fun core call inv _ => perform_inv core call inv) inv
    (asidMachine_legal _ _)

/-- A message is sent, with what decides its instant. -/
structure FlushEvent where
  forced : Bool
  now : U64
  irqClk : U64
  startClock : U64

/-- The write would change a control register that is still waiting to be sent. -/
def forcesFlush (state : AsidChip) (reg byte : U8) : Bool :=
  if inside : reg.toNat < asidNumRegs then
    let r : Reg := ⟨reg.toNat, inside⟩
    decide (state.sidRegister r ≠ regmask r &&& byte) && (isControl r && state.sidModified r)
  else false

/-- The flush of chip `c` that a callback causes, read off the state before it. -/
def flushEvent (dev : AsidDevice) (c : Chip) (call : DumpCall) : Option FlushEvent :=
  if asidShouldFlushOnIrq call.irqClk (dev.timing c).lastIrq then
    if (dev.core.chip c).sidModifiedFlag then
      some ⟨false, call.now, call.irqClk, (dev.timing c).anchor call.now⟩
    else none
  else if forcesFlush (dev.core.chip c) call.reg call.byte then
    some ⟨true, call.now, call.irqClk, (dev.timing c).startClock⟩
  else none

def flushEvents (cps : U64) (c : Chip) : AsidDevice → List DumpCall → List FlushEvent
  | _, [] => []
  | dev, call :: calls =>
    (flushEvent dev c call).toList ++ flushEvents cps c (asidDump2 cps dev call).1 calls

def scheduledFor (cps : U64) (e : FlushEvent) : Nat :=
  e.startClock.toNat + asidClockToNanos (e.irqClk + BitVec.ofNat 64 asidCyclePad) cps

/-- Forced flushes are due at once, IRQ flushes not before their schedule. -/
def FlushEvent.instant (cps : U64) (e : FlushEvent) : Nat :=
  if e.forced then e.now.toNat else max e.now.toNat (scheduledFor cps e)

/-- No forced flush comes while an earlier IRQ flush is still waiting for its instant. -/
def ForcedAfterSchedule (cps : U64) (e f : FlushEvent) : Prop :=
  e.forced = false → f.forced = true → scheduledFor cps e ≤ f.now.toNat

/-- Every conversion of this call's clocks is exact. -/
structure ClocksFit (cps : U64) (call : DumpCall) : Prop where
  pad : call.irqClk.toNat + asidCyclePad < 2 ^ 64
  nanos : asidClockToNanos (call.irqClk + BitVec.ofNat 64 asidCyclePad) cps < 2 ^ 63
  host : call.now.toNat < 2 ^ 63

def ClocksOrdered (calls : List DumpCall) : Prop :=
  calls.Pairwise fun a b => a.now.toNat ≤ b.now.toNat ∧ a.irqClk.toNat ≤ b.irqClk.toNat

variable {cps : U64} {dev : AsidDevice} {c : Chip} {call : DumpCall}

private theorem timing_of_due (same : call.chipno.toNat = c.val)
    (due : asidShouldFlushOnIrq call.irqClk (dev.timing c).lastIrq = true) :
    (asidDump2 cps dev call).1.timing c = ⟨call.irqClk, (dev.timing c).anchor call.now⟩ := by
  have selected : (⟨call.chipno.toNat, same ▸ c.isLt⟩ : Chip) = c := Fin.ext same
  rw [asidDump2, dif_pos (same ▸ c.isLt)]
  simp only [selected, due, if_true]
  split <;> simp [asidIrqFlush]

private theorem timing_of_not_due (same : call.chipno.toNat = c.val)
    (early : asidShouldFlushOnIrq call.irqClk (dev.timing c).lastIrq = false) :
    (asidDump2 cps dev call).1.timing c = dev.timing c := by
  have selected : (⟨call.chipno.toNat, same ▸ c.isLt⟩ : Chip) = c := Fin.ext same
  rw [asidDump2, dif_pos (same ▸ c.isLt)]
  simp only [selected, early, Bool.false_eq_true, if_false]
  split <;> rfl

private theorem anchor_bounds {timing : AsidTiming} {now : U64}
    (past : timing.startClock.toNat ≤ now.toNat) :
    timing.startClock.toNat ≤ (timing.anchor now).toNat ∧
      (timing.anchor now).toNat ≤ now.toNat := by
  rw [AsidTiming.anchor]
  split
  · exact ⟨past, Nat.le_refl _⟩
  · exact ⟨Nat.le_refl _, past⟩

private theorem startClock_step (cps : U64) (same : call.chipno.toNat = c.val)
    (past : (dev.timing c).startClock.toNat ≤ call.now.toNat) :
    (dev.timing c).startClock.toNat ≤
        ((asidDump2 cps dev call).1.timing c).startClock.toNat ∧
      ((asidDump2 cps dev call).1.timing c).startClock.toNat ≤ call.now.toNat := by
  cases due : asidShouldFlushOnIrq call.irqClk (dev.timing c).lastIrq with
  | true =>
    rw [timing_of_due same due]
    exact anchor_bounds past
  | false =>
    rw [timing_of_not_due same due]
    exact ⟨Nat.le_refl _, past⟩

private theorem irqDelay_instant (fits : ClocksFit cps call) {start : U64}
    (past : start.toNat ≤ call.now.toNat) :
    call.now.toNat + (BitVec.ofInt 64 (irqDelay cps start call)).toNat =
      max call.now.toNat (start.toNat +
        asidClockToNanos (call.irqClk + BitVec.ofNat 64 asidCyclePad) cps) := by
  have host := fits.host
  have bound := fits.nanos
  set nanos := asidClockToNanos (call.irqClk + BitVec.ofNat 64 asidCyclePad) cps
  have target : (BitVec.ofNat 64 nanos).toInt = nanos := by
    rw [BitVec.toInt_eq_toNat_cond]
    simp only [BitVec.toNat_ofNat]
    omega
  have elapsed : (call.now - start).toInt = call.now.toNat - start.toNat := by
    rw [BitVec.toInt_eq_toNat_cond, BitVec.toNat_sub]
    omega
  have delay : irqDelay cps start call =
      max 0 ((nanos : Int) - (call.now.toNat - start.toNat)) := by
    change (if (BitVec.ofNat 64 nanos).toInt - (call.now - start).toInt < 0 then 0 else
      (BitVec.ofNat 64 nanos).toInt - (call.now - start).toInt) = _
    rw [target, elapsed]
    omega
  rw [delay, BitVec.toNat_ofInt]
  omega

private theorem chipFlush_nsec (useUpdateReg : Bool) (state : AsidChip) (nsec : U64) :
    (chipFlush useUpdateReg c state nsec).msgs.map AsidMsg.nsec =
      if state.sidModifiedFlag then [nsec] else [] := by
  rw [chipFlush]
  split
  · simp only
    split
    · rfl
    · rfl
  · rfl

private theorem chipFlush_clean (useUpdateReg : Bool) (state : AsidChip) (nsec : U64) :
    (chipFlush useUpdateReg c state nsec).state.sidModifiedFlag = false := by
  rw [chipFlush]
  split
  · simp only
    split
    · rfl
    · rfl
  · rename_i idle
    exact Bool.eq_false_iff.mpr idle

private theorem flush_nsec (core : AsidCore) {chip : U8} (same : chip.toNat = c.val) (nsec : U64) :
    (asidCoreFlush core chip nsec).2.map AsidMsg.nsec =
      if (core.chip c).sidModifiedFlag then [nsec] else [] := by
  rw [flush_selected same]
  exact chipFlush_nsec _ _ _

theorem flush_clean (core : AsidCore) {chip : U8} (same : chip.toNat = c.val) (nsec : U64) :
    ((asidCoreFlush core chip nsec).1.chip c).sidModifiedFlag = false := by
  rw [flush_selected same]
  simp [applyDone, chipFlush_clean]

theorem setReg_nsec {core : AsidCore} (inv : CoreInv core) {chip : U8}
    (same : chip.toNat = c.val) (reg byte : U8) :
    (asidCoreSetReg core chip reg byte).2.map AsidMsg.nsec =
      if forcesFlush (core.chip c) reg byte then [0] else [] := by
  by_cases inside : reg.toNat < asidNumRegs
  · rw [setReg_selected same inside, forcesFlush, dif_pos inside]
    change (chipSetReg _ c _ _ _).msgs.map AsidMsg.nsec = _
    by_cases unchanged : (core.chip c).sidRegister ⟨reg.toNat, inside⟩ =
        regmask ⟨reg.toNat, inside⟩ &&& byte
    · simp [chipSetReg, unchanged, ChipDone.nothing]
    · cases waiting : isControl ⟨reg.toNat, inside⟩ &&
          (core.chip c).sidModified ⟨reg.toNat, inside⟩ with
      | false => simp [chipSetReg, unchanged, waiting, ChipDone.nothing]
      | true =>
        have dirty : (core.chip c).sidModifiedFlag = true := by
          rw [(inv c).flag]
          exact List.any_eq_true.mpr ⟨_, packOrder_covers _, (Bool.and_eq_true_iff.mp waiting).2⟩
        simp [chipSetReg, unchanged, waiting, chipFlush_nsec, dirty]
  · rw [forcesFlush, dif_neg inside, setReg_outside fun both => inside both.2]
    rfl

theorem forcesFlush_clean {state : AsidChip} (inv : ChipInv c state)
    (clean : state.sidModifiedFlag = false) (reg byte : U8) :
    forcesFlush state reg byte = false := by
  rw [forcesFlush]
  split
  · rename_i inside
    have settled : state.sidModified ⟨reg.toNat, inside⟩ = false := by
      rw [inv.flag, List.any_eq_false] at clean
      simpa using clean _ (packOrder_covers _)
    simp [settled]
  · rfl

private theorem asidDump2_messages (same : call.chipno.toNat = c.val) :
    let flushed := if asidShouldFlushOnIrq call.irqClk (dev.timing c).lastIrq
      then asidIrqFlush cps dev c call else (dev, [])
    (asidDump2 cps dev call).2 =
      flushed.2 ++ (asidCoreSetReg flushed.1.core call.chipno call.reg call.byte).2 := by
  intro flushed
  have selected : (⟨call.chipno.toNat, same ▸ c.isLt⟩ : Chip) = c := Fin.ext same
  rw [asidDump2, dif_pos (same ▸ c.isLt)]
  simp only [selected]
  split
  · rename_i ignored
    have outside : ¬(call.chipno.toNat < asidChips ∧ call.reg.toNat < asidNumRegs) := by
      intro both
      exact Nat.lt_irrefl _ (Nat.lt_of_lt_of_le both.2 ignored)
    rw [setReg_outside outside, List.append_nil]
  · rfl

private theorem instants_step (inv : CoreInv dev.core) (same : call.chipno.toNat = c.val)
    (fits : ClocksFit cps call) (past : (dev.timing c).startClock.toNat ≤ call.now.toNat) :
    ((deviceMachine cps).step dev call).2.map Delivery.instant =
      (flushEvent dev c call).toList.map (FlushEvent.instant cps) := by
  have instants : ((deviceMachine cps).step dev call).2.map Delivery.instant =
      ((asidDump2 cps dev call).2.map AsidMsg.nsec).map (call.now.toNat + ·.toNat) := by
    simp [deviceMachine, Delivery.instant, Function.comp_def]
  rw [instants, asidDump2_messages same, List.map_append, flushEvent]
  by_cases due : asidShouldFlushOnIrq call.irqClk (dev.timing c).lastIrq
  · -- the flush leaves the chip clean, so the write that follows sends nothing
    have delay := irqDelay_instant fits (anchor_bounds past).2
    have clean := flush_clean dev.core same
      (BitVec.ofInt 64 (irqDelay cps ((dev.timing c).anchor call.now) call))
    have quiet := forcesFlush_clean (flush_inv inv call.chipno _ c) clean call.reg call.byte
    simp only [due, if_true, asidIrqFlush]
    rw [flush_nsec dev.core same, setReg_nsec (flush_inv inv call.chipno _) same, quiet]
    split
    · exact congrArg (fun instant => [instant]) delay
    · rfl
  · simp only [due, if_false, List.map_nil, List.nil_append, Bool.false_eq_true]
    rw [setReg_nsec inv same]
    split
    · simp [FlushEvent.instant]
    · rfl

/-- What an event has seen of the clocks lies behind what a later event has seen. -/
private structure Later (e f : FlushEvent) : Prop where
  now : e.now.toNat ≤ f.now.toNat
  irqClk : e.irqClk.toNat ≤ f.irqClk.toNat
  startClock : e.startClock.toNat ≤ f.startClock.toNat

private theorem flushEvent_clocks {e : FlushEvent} (same : call.chipno.toNat = c.val)
    (occurs : flushEvent dev c call = some e) :
    e.now = call.now ∧ e.irqClk = call.irqClk ∧
      e.startClock = ((asidDump2 cps dev call).1.timing c).startClock := by
  rw [flushEvent] at occurs
  cases due : asidShouldFlushOnIrq call.irqClk (dev.timing c).lastIrq with
  | true =>
    rw [timing_of_due same due]
    simp only [due, if_true] at occurs
    split at occurs
    · cases occurs
      exact ⟨rfl, rfl, rfl⟩
    · cases occurs
  | false =>
    rw [timing_of_not_due same due]
    simp only [due, Bool.false_eq_true, if_false] at occurs
    split at occurs
    · cases occurs
      exact ⟨rfl, rfl, rfl⟩
    · cases occurs

private theorem instants_run (inv : CoreInv dev.core) {calls : List DumpCall}
    (same : ∀ call ∈ calls, call.chipno.toNat = c.val)
    (ordered : ClocksOrdered calls) (fits : ∀ call ∈ calls, ClocksFit cps call)
    (past : ∀ call ∈ calls, (dev.timing c).startClock.toNat ≤ call.now.toNat) :
    ((deviceMachine cps).emitted dev calls).map Delivery.instant =
      (flushEvents cps c dev calls).map (FlushEvent.instant cps) := by
  induction calls generalizing dev with
  | nil => rfl
  | cons call calls ih =>
    have head := List.forall_mem_cons.mp same
    have clocks := List.pairwise_cons.mp ordered
    have start := (startClock_step cps head.1 (past call List.mem_cons_self)).2
    have pastLater : ∀ later ∈ calls,
        ((asidDump2 cps dev call).1.timing c).startClock.toNat ≤ later.now.toNat := by
      intro later member
      exact Nat.le_trans start (clocks.1 later member).1
    have tail := ih (asidDump2_inv cps inv call) head.2 clocks.2
      (List.forall_mem_cons.mp fits).2 pastLater
    rw [Machine.emitted_cons, List.map_append, flushEvents, List.map_append,
      instants_step inv head.1 (fits call List.mem_cons_self) (past call List.mem_cons_self)]
    exact congrArg (_ ++ ·) tail

private theorem flushEvents_later (cps : U64) {calls : List DumpCall}
    (same : ∀ call ∈ calls, call.chipno.toNat = c.val) (ordered : ClocksOrdered calls)
    (past : ∀ call ∈ calls, (dev.timing c).startClock.toNat ≤ call.now.toNat) :
    (flushEvents cps c dev calls).Pairwise Later ∧
      ∀ e ∈ flushEvents cps c dev calls,
        (dev.timing c).startClock.toNat ≤ e.startClock.toNat ∧
          ∃ call ∈ calls, e.now = call.now ∧ e.irqClk = call.irqClk := by
  induction calls generalizing dev with
  | nil => exact ⟨List.Pairwise.nil, by simp [flushEvents]⟩
  | cons call calls ih =>
    have head := List.forall_mem_cons.mp same
    have clocks := List.pairwise_cons.mp ordered
    have start := startClock_step cps head.1 (past call List.mem_cons_self)
    have pastLater : ∀ later ∈ calls,
        ((asidDump2 cps dev call).1.timing c).startClock.toNat ≤ later.now.toNat := by
      intro later member
      exact Nat.le_trans start.2 (clocks.1 later member).1
    obtain ⟨tailLater, tailBounds⟩ := ih head.2 clocks.2 pastLater
    have recorded : ∀ e ∈ (flushEvent dev c call).toList, e.now = call.now ∧
        e.irqClk = call.irqClk ∧
        e.startClock = ((asidDump2 cps dev call).1.timing c).startClock := by
      intro e member
      exact flushEvent_clocks head.1 (Option.mem_toList.mp member)
    refine ⟨List.pairwise_append.mpr ⟨?_, tailLater, ?_⟩, ?_⟩
    · cases flushEvent dev c call <;> simp
    · intro e first f second
      obtain ⟨nowSame, irqSame, startSame⟩ := recorded e first
      obtain ⟨startLe, later, member, laterNow, laterIrq⟩ := tailBounds f second
      have behind := clocks.1 later member
      constructor
      · rw [nowSame, laterNow]
        exact behind.1
      · rw [irqSame, laterIrq]
        exact behind.2
      · rw [startSame]
        exact startLe
    · intro e member
      rcases List.mem_append.mp member with first | second
      · obtain ⟨nowSame, irqSame, startSame⟩ := recorded e first
        rw [startSame]
        exact ⟨start.1, call, List.mem_cons_self, nowSame, irqSame⟩
      · obtain ⟨startLe, later, inside, clocksSame⟩ := tailBounds e second
        exact ⟨Nat.le_trans start.1 startLe, later, List.mem_cons_of_mem _ inside, clocksSame⟩

private theorem scheduledFor_mono (cps : U64) {e f : FlushEvent} (later : Later e f)
    (eFits : e.irqClk.toNat + asidCyclePad < 2 ^ 64)
    (fFits : f.irqClk.toNat + asidCyclePad < 2 ^ 64) :
    scheduledFor cps e ≤ scheduledFor cps f := by
  have padded : ∀ irq : U64, irq.toNat + asidCyclePad < 2 ^ 64 →
      (irq + BitVec.ofNat 64 asidCyclePad).toNat = irq.toNat + asidCyclePad := by
    intro irq fits
    rw [BitVec.toNat_add, BitVec.toNat_ofNat, Nat.add_mod_mod, Nat.mod_eq_of_lt fits]
  refine Nat.add_le_add later.startClock (Nat.div_le_div_right (Nat.mul_le_mul_right _ ?_))
  rw [padded _ eFits, padded _ fFits]
  exact Nat.add_le_add_right later.irqClk _

private theorem instant_le_iff {e f : FlushEvent} (later : Later e f)
    (eFits : e.irqClk.toNat + asidCyclePad < 2 ^ 64)
    (fFits : f.irqClk.toNat + asidCyclePad < 2 ^ 64) :
    e.instant cps ≤ f.instant cps ↔ ForcedAfterSchedule cps e f := by
  have now := later.now
  have aim := scheduledFor_mono cps later eFits fFits
  rw [FlushEvent.instant, FlushEvent.instant, ForcedAfterSchedule]
  cases e.forced <;> cases f.forced <;> simp <;> omega

private theorem instants_sorted_iff (inv : CoreInv dev.core) {calls : List DumpCall}
    (same : ∀ call ∈ calls, call.chipno.toNat = c.val) (ordered : ClocksOrdered calls)
    (fits : ∀ call ∈ calls, ClocksFit cps call)
    (past : ∀ call ∈ calls, (dev.timing c).startClock.toNat ≤ call.now.toNat) :
    (((deviceMachine cps).emitted dev calls).map Delivery.instant).Pairwise (· ≤ ·) ↔
      (flushEvents cps c dev calls).Pairwise (ForcedAfterSchedule cps) := by
  obtain ⟨later, bounds⟩ := flushEvents_later cps same ordered past
  have eventFits : ∀ e ∈ flushEvents cps c dev calls, e.irqClk.toNat + asidCyclePad < 2 ^ 64 := by
    intro e member
    obtain ⟨_, call, inside, _, irqSame⟩ := bounds e member
    rw [irqSame]
    exact (fits call inside).pad
  rw [instants_run inv same ordered fits past, List.pairwise_map]
  constructor
  · intro sorted
    refine (sorted.and later).imp_of_mem ?_
    intro e f eIn fIn both
    exact (instant_le_iff both.2 (eventFits e eIn) (eventFits f fIn)).mp both.1
  · intro condition
    refine (condition.and later).imp_of_mem ?_
    intro e f eIn fIn both
    exact (instant_le_iff both.2 (eventFits e eIn) (eventFits f fIn)).mpr both.1

/-- The messages in the order in which the queue delivers them: by instant, first in
first out on ties. -/
def arrivals (out : List Delivery) : List AsidMsg :=
  (out.mergeSort fun a b => a.instant ≤ b.instant).map Delivery.msg

private theorem arrivals_sorted {out : List Delivery}
    (sorted : (out.map Delivery.instant).Pairwise (· ≤ ·)) :
    arrivals out = out.map Delivery.msg := by
  rw [List.pairwise_map] at sorted
  have kept : out.Pairwise fun a b => decide (a.instant ≤ b.instant) = true :=
    sorted.imp decide_eq_true
  rw [arrivals, List.mergeSort_of_pairwise kept]

/-- Messages arrive in the order they were sent, so the receiver ends with the registers. -/
structure DeliveredInOrder (c : Chip) (core : AsidCore) (out : List Delivery) : Prop where
  instants : (out.map Delivery.instant).Pairwise (· ≤ ·)
  registers : ∀ r, (core.chip c).sidModified r = false →
    receiverImage c (arrivals out) r = (core.chip c).sidRegister r

/-- The delivery order of the port: messages arrive as emitted if and only if no
forced flush comes while an earlier IRQ flush still waits for its instant. -/
theorem delivery_order (cps : U64) (useUpdateReg : Int) (c : Chip) (calls : List DumpCall)
    (same : ∀ call ∈ calls, call.chipno.toNat = c.val) (ordered : ClocksOrdered calls)
    (fits : ∀ call ∈ calls, ClocksFit cps call) :
    DeliveredInOrder c ((deviceMachine cps).exec (openDevice useUpdateReg) calls).core
        ((deviceMachine cps).emitted (openDevice useUpdateReg) calls) ↔
      (flushEvents cps c (openDevice useUpdateReg) calls).Pairwise (ForcedAfterSchedule cps) := by
  set dev := openDevice useUpdateReg
  have past : ∀ call ∈ calls, (dev.timing c).startClock.toNat ≤ call.now.toNat := by
    intro call _
    exact Nat.zero_le _
  have order : (((deviceMachine cps).emitted dev calls).map Delivery.instant).Pairwise (· ≤ ·) ↔
      (flushEvents cps c dev calls).Pairwise (ForcedAfterSchedule cps) :=
    instants_sorted_iff (coreInv_init useUpdateReg) same ordered fits past
  constructor
  · intro delivered
    exact order.mp delivered.instants
  · intro condition
    have sorted := order.mpr condition
    refine ⟨sorted, ?_⟩
    intro r clean
    obtain ⟨core, msgs⟩ := codecRun_exec cps dev calls
    have agree := receiver_agrees useUpdateReg (codecRun cps dev calls) c
    rw [arrivals_sorted sorted, ← msgs, ← core]
    rw [← core] at clean
    exact agree r clean

/-- Three gate writes on voice one: the first edge is flushed by an IRQ, the
second is forced out by the third write a nanosecond later. -/
def gateCalls : List DumpCall :=
  [⟨1000000, 1000, 0, 4, 0x10⟩, ⟨2000000, 2000, 0, 4, 0x11⟩, ⟨2000001, 2000, 0, 4, 0x10⟩]

private theorem gateCalls_ordered : ClocksOrdered gateCalls := by
  simp [ClocksOrdered, gateCalls]

private theorem gateCalls_fit : ∀ call ∈ gateCalls, ClocksFit 985248 call := by
  intro call member
  simp only [gateCalls, List.mem_cons, List.not_mem_nil, or_false] at member
  rcases member with rfl | rfl | rfl <;> exact ⟨by decide, by decide, by decide⟩

/-- The forced flush overtakes the IRQ flush: edge 0x11 arrives before edge 0x10. -/
theorem delivery_order_inverted :
    (∀ call ∈ gateCalls, call.chipno.toNat = (0 : Chip).val) ∧ ClocksOrdered gateCalls ∧
      (∀ call ∈ gateCalls, ClocksFit 985248 call) ∧
      ((deviceMachine 985248).emitted (openDevice 0) gateCalls).map Delivery.instant =
        [23329403, 2000001] ∧
      ¬(((deviceMachine 985248).emitted (openDevice 0) gateCalls).map
        Delivery.instant).Pairwise (· ≤ ·) := by
  refine ⟨by decide, gateCalls_ordered, gateCalls_fit, by decide, by decide⟩

theorem delivery_order_gates :
    DeliveredInOrder 0 ((deviceMachine 985248).exec (openDevice 0) gateCalls).core
        ((deviceMachine 985248).emitted (openDevice 0) gateCalls) ↔
      (flushEvents 985248 0 (openDevice 0) gateCalls).Pairwise (ForcedAfterSchedule 985248) :=
  delivery_order 985248 0 0 gateCalls (by decide) gateCalls_ordered gateCalls_fit

end Revice.Asid

/- Module: Revice/Bustrace/Provenance
   source: integration/vice/patches/07-bustrace-vsidcpu-hook.patch,
     libs/bustrace/vice/soundbustrace.c, libs/bustrace/include/revice_bustrace.h
   digest: A finished trace accounts for every byte of plain memory that the processor has read. -/

import Revice.Bustrace.Bus
import Revice.General.Cell

set_option autoImplicit false
set_option relaxedAutoImplicit false

namespace Revice.Bustrace

open Revice.General

def Access.event (a : Access) : CellEvent U16 U8 := ⟨a.addr, a.val, a.rwFlags &&& rwWrite != 0⟩

/-- A record as the history of memory sees it: the direction is bit 0 of the flags. -/
def Record.event (r : Record) : CellEvent U16 U8 := ⟨r.addr, r.val, r.rwFlags &&& rwWrite != 0⟩

private theorem event_recordsOf (lastCycle : U64) (accesses : List Access) :
    (recordsOf lastCycle accesses).map Record.event = accesses.map Access.event := by
  induction accesses generalizing lastCycle with
  | nil => rfl
  | cons a as ih =>
    rw [recordsOf, List.map_cons, List.map_cons, ih]
    rfl

/-- Address `a` is plain memory: stores to it set its cell `held`, reads return it, and
nothing else of the bus functions touches it. -/
structure PlainMemory {ε : Type} (parts : VsidParts ε) (a : U16) (held : ε → U8) : Prop where
  markStore : ∀ (addr : U32) e, held (parts.memmapMarkStore addr e) = held e
  markRead : ∀ (addr : U32) e, held (parts.memmapMarkRead addr e) = held e
  write : ∀ (addr : U32) val e, held (parts.memWriteTab (addr >>> 8) (addr.setWidth 16) val e) =
    if addr.setWidth 16 = a then val else held e
  writeDummy : ∀ (addr : U32) val e,
    held (parts.memWriteTabDummy (addr >>> 8) (addr.setWidth 16) val e) =
      if addr.setWidth 16 = a then val else held e
  read : ∀ (addr : U32) e, held (parts.memReadTab (addr >>> 8) (addr.setWidth 16) e).1 = held e
  readDummy : ∀ (addr : U32) e,
    held (parts.memReadTabDummy (addr >>> 8) (addr.setWidth 16) e).1 = held e
  value : ∀ (addr : U32) e, addr.setWidth 16 = a →
    (parts.memReadTab (addr >>> 8) (addr.setWidth 16) e).2 = held e
  valueDummy : ∀ (addr : U32) e, addr.setWidth 16 = a →
    (parts.memReadTabDummy (addr >>> 8) (addr.setWidth 16) e).2 = held e

section Run

variable {ε : Type} (parts : VsidParts ε)

def seenBy : ε → List (VsidOp ε) → List Observed
  | _, [] => []
  | e, .bus call fopenOk :: ops =>
    call.observed parts e fopenOk :: seenBy (VsidOp.next parts e (.bus call fopenOk)) ops
  | e, op :: ops => seenBy (op.next parts e) ops

def VsidOp.plays : VsidOp ε → Bool
  | .bus _ _ => true
  | .advance _ => true
  | .setBusTraceFile _ => false
  | .machineShutdown => false

private theorem observations_plays (e : ε) {ops : List (VsidOp ε)}
    (plays : ∀ op ∈ ops, op.plays = true) :
    observations parts e ops = (seenBy parts e ops).map BustraceOp.observeAccess := by
  induction ops generalizing e with
  | nil => rfl
  | cons op ops ih =>
    obtain ⟨here, later⟩ := List.forall_mem_cons.mp plays
    cases op with
    | bus call fopenOk =>
      rw [observations, ih _ later]
      rfl
    | advance change =>
      rw [observations, ih _ later]
      rfl
    | setBusTraceFile val => cases here
    | machineShutdown => cases here

variable {parts} {a : U16} {held : ε → U8}

private theorem observed_event (e : ε) (call : BusCall) (fopenOk : Bool) :
    (call.observed parts e fopenOk).access.event =
      match call with
      | .memStore addr value => ⟨addr.setWidth 16, value.setWidth 8, true⟩
      | .memStoreDummy addr value => ⟨addr.setWidth 16, value.setWidth 8, true⟩
      | .memRead addr => ⟨addr.setWidth 16, (parts.memReadTab (addr >>> 8) (addr.setWidth 16)
          (parts.memmapMarkRead addr e)).2, false⟩
      | .memReadDummy addr => ⟨addr.setWidth 16, (parts.memReadTabDummy (addr >>> 8)
          (addr.setWidth 16) (parts.memmapMarkRead addr e)).2, false⟩ := by
  have store : (rwWrite &&& rwWrite != 0) = true := by decide
  have storeDummy : ((rwWrite ||| rwDummy) &&& rwWrite != 0) = true := by decide
  have read : ∀ b : Bool, ((if b then rwOpcode else 0) &&& rwWrite != 0) = false := by decide
  have readDummy : (rwDummy &&& rwWrite != 0) = false := by decide
  cases call with
  | memStore addr value => simp only [BusCall.observed, observedAt, Access.event, store]
  | memStoreDummy addr value => simp only [BusCall.observed, observedAt, Access.event, storeDummy]
  | memRead addr => simp only [BusCall.observed, observedAt, Access.event, read]
  | memReadDummy addr => simp only [BusCall.observed, observedAt, Access.event, readDummy]

theorem PlainMemory.call (plain : PlainMemory parts a held) (e : ε) (call : BusCall)
    (fopenOk : Bool) :
    held (unpatched parts e call).1 =
        lastWritten a (held e) [(call.observed parts e fopenOk).access.event] ∧
      Coherent a (held e) [(call.observed parts e fopenOk).access.event] := by
  rw [observed_event]
  cases call with
  | memStore addr value =>
    simp [unpatched, lastWritten, Coherent, plain.write, plain.markStore]
  | memStoreDummy addr value =>
    simp [unpatched, lastWritten, Coherent, plain.writeDummy, plain.markStore]
  | memRead addr =>
    refine ⟨by simp [unpatched, lastWritten, plain.read, plain.markRead], ?_, trivial⟩
    intro here _
    exact (plain.value addr _ here).trans (plain.markRead addr e)
  | memReadDummy addr =>
    refine ⟨by simp [unpatched, lastWritten, plain.readDummy, plain.markRead], ?_, trivial⟩
    intro here _
    exact (plain.valueDummy addr _ here).trans (plain.markRead addr e)

theorem PlainMemory.run (plain : PlainMemory parts a held) (e : ε) {ops : List (VsidOp ε)}
    (plays : ∀ op ∈ ops, op.plays = true)
    (kept : ∀ change, VsidOp.advance change ∈ ops → ∀ e, held (change e) = held e) :
    let events := (seenBy parts e ops).map fun observed => observed.access.event
    held ((plainMachine parts).exec e (ops.filterMap VsidOp.plain)) =
        lastWritten a (held e) events ∧
      Coherent a (held e) events := by
  induction ops generalizing e with
  | nil => exact ⟨rfl, trivial⟩
  | cons op ops ih =>
    obtain ⟨here, later⟩ := List.forall_mem_cons.mp plays
    have keptLater : ∀ change, VsidOp.advance change ∈ ops → ∀ e, held (change e) = held e :=
      fun change member => kept change (List.mem_cons_of_mem _ member)
    cases op with
    | bus call fopenOk =>
      obtain ⟨cell, read⟩ := plain.call e call fopenOk
      obtain ⟨cellLater, readLater⟩ := ih (VsidOp.next parts e (.bus call fopenOk)) later keptLater
      have next : held (VsidOp.next parts e (.bus call fopenOk)) =
        lastWritten a (held e) [(call.observed parts e fopenOk).access.event] := cell
      rw [next] at cellLater readLater
      exact ⟨cellLater, read.1, readLater⟩
    | advance change =>
      have next : held (VsidOp.next parts e (.advance change)) = held e :=
        kept change List.mem_cons_self e
      have rest := ih (VsidOp.next parts e (.advance change)) later keptLater
      rw [next] at rest
      exact rest
    | setBusTraceFile val => cases here
    | machineShutdown => cases here

private theorem observations_append (e : ε) (first later : List (VsidOp ε)) :
    observations parts e (first ++ later) = observations parts e first ++
      observations parts ((plainMachine parts).exec e (first.filterMap VsidOp.plain)) later := by
  induction first generalizing e with
  | nil => rfl
  | cons op first ih =>
    have next : (plainMachine parts).exec e ((op :: first).filterMap VsidOp.plain) =
        (plainMachine parts).exec (op.next parts e) (first.filterMap VsidOp.plain) := by
      cases plain : op.plain with
      | none => rw [List.filterMap_cons_none plain, VsidOp.next, plain]; rfl
      | some p => rw [List.filterMap_cons_some plain, VsidOp.next, plain]; rfl
    rw [List.cons_append, observations, observations, ih, next, List.append_assoc]

end Run

private theorem history_observed (h : History) (seen : List Observed) :
    (seen.map BustraceOp.observeAccess).foldl History.next h =
      ⟨h.finished, ⟨h.current.name, h.current.observed ++ seen⟩⟩ := by
  induction seen generalizing h with
  | nil => simp
  | cons observed seen ih =>
    rw [List.map_cons, List.foldl_cons, ih]
    simp [History.next]

private theorem files_of_segment (told : List BustraceOp) {name : CString}
    (filled : name.bytes ≠ [])
    {first : Observed} {rest : List Observed} (opens : first.fopenOk = true) :
    (historyOf (told ++ [.setFilename (some name)] ++
      (first :: rest).map BustraceOp.observeAccess ++ [.shutdown])).files.getLast? =
      some (Trace.file true
        ⟨name, first.cyclesPerSecond, (first :: rest).map Observed.access⟩) := by
  have traced := trace_cons filled first rest
  rw [if_pos opens] at traced
  have current : historyOf (told ++ [.setFilename (some name)]) =
      (historyOf told).next (.setFilename (some name)) := historyOf_snoc told _
  rw [historyOf_snoc, historyOf, List.foldl_append, ← historyOf, current, history_observed]
  simp only [History.next, History.files, List.nil_append, List.filterMap_append,
    List.filterMap_cons_some traced, List.filterMap_nil, List.map_append, List.map_cons,
    List.map_nil]
  exact (congrArg List.getLast? (List.append_nil _)).trans List.getLast?_concat

private theorem readTrace_closed (trace : Trace) :
    readTrace (trace.file true).chunks.flatten = some ⟨trace.cyclesPerSec,
      recordsOf 0 trace.accesses, BitVec.ofNat 64 trace.accesses.length,
      reviceBustraceCrc32 0 (recordChunks 0 trace.accesses).flatten⟩ := by
  rw [Trace.file]
  simp only [if_true, List.flatten_append, List.flatten_cons, List.flatten_nil, List.append_nil]
  exact readTrace_file _ _ _ _

/-- A finished trace accounts for plain memory: read back from its file, each read of address
`a` has the value of the last earlier write to it, or the one it had when the tracing began,
and the last write is what the memory holds at the end. -/
structure AccountsFor {ε : Type} (a : U16) (held : ε → U8) (start final : ε) (file : HostFile) :
    Prop where
  closed : file.closed = true
  records : ∃ trace, readTrace file.chunks.flatten = some trace ∧
    (∀ before r after, trace.records = before ++ r :: after → r.addr = a →
      r.rwFlags &&& rwWrite = 0 → r.val = lastWritten a (held start) (before.map Record.event)) ∧
    held final = lastWritten a (held start) (trace.records.map Record.event)

/-- The provenance of what the processor reads. Whatever happened before, when tracing is
started, the player runs and is shut down, and the file could be opened, the last trace file
accounts for every address of plain memory that nothing but the bus touches. -/
theorem trace_provenance {ε : Type} {parts : VsidParts ε} {a : U16} {held : ε → U8}
    (plain : PlainMemory parts a held) (e : ε) (earlier body : List (VsidOp ε)) {name : CString}
    (filled : name.bytes ≠ []) (plays : ∀ op ∈ body, op.plays = true)
    (kept : ∀ change, VsidOp.advance change ∈ body → ∀ e, held (change e) = held e)
    (opens : (seenBy parts ((plainMachine parts).exec e (earlier.filterMap VsidOp.plain))
      body).head?.any Observed.fopenOk = true) :
    let run := (vsidMachine parts).exec ⟨e, bustraceSysInit⟩
      (earlier ++ [.setBusTraceFile (some name)] ++ body ++ [.machineShutdown])
    ∃ file, run.trace.files.getLast? = some file ∧ file.name = name ∧
      AccountsFor a held ((plainMachine parts).exec e (earlier.filterMap VsidOp.plain)) run.emu
        file := by
  intro run
  set start := (plainMachine parts).exec e (earlier.filterMap VsidOp.plain) with started
  have beside := run_beside parts ⟨e, bustraceSysInit⟩
    (earlier ++ [.setBusTraceFile (some name)] ++ body ++ [.machineShutdown])
  have begun : (plainMachine parts).exec e
      ((earlier ++ [VsidOp.setBusTraceFile (some name)]).filterMap VsidOp.plain) = start := by
    rw [List.filterMap_append]
    exact congrArg _ (List.append_nil _)
  have told : observations parts e
      (earlier ++ [.setBusTraceFile (some name)] ++ body ++ [.machineShutdown]) =
      observations parts e earlier ++ [.setFilename (some name)] ++
        (seenBy parts start body).map BustraceOp.observeAccess ++ [.shutdown] := by
    rw [observations_append, observations_append, begun, observations_append,
      observations_plays parts start plays]
    rfl
  have final : run.emu = (plainMachine parts).exec start (body.filterMap VsidOp.plain) := by
    refine beside.emu.trans ?_
    rw [List.filterMap_append, List.filterMap_append, Machine.exec_append, Machine.exec_append,
      begun]
    rfl
  have files : run.trace.files = (historyOf (observations parts e earlier ++
      [.setFilename (some name)] ++ (seenBy parts start body).map BustraceOp.observeAccess ++
        [.shutdown])).files := by
    rw [← told]
    exact (congrArg BustraceSys.files beside.trace).trans (linked_run _).files
  obtain ⟨cell, coherent⟩ := plain.run start plays kept
  cases seen : seenBy parts start body with
  | nil =>
    rw [seen] at opens
    cases opens
  | cons first rest =>
    rw [seen] at opens files cell coherent
    have last := @files_of_segment (observations parts e earlier) name filled first rest opens
    rw [← files] at last
    refine ⟨_, last, rfl, rfl, _, readTrace_closed _, ?_, ?_⟩
    · intro before r after split here read
      have events := event_recordsOf 0 ((first :: rest).map Observed.access)
      simp only at split
      rw [split, List.map_append, List.map_cons, List.map_map] at events
      change _ = (first :: rest).map (fun observed => observed.access.event) at events
      rw [← events] at coherent
      exact coherent.read a (e := r.event) here (by simp [Record.event, read])
    · rw [event_recordsOf, List.map_map, final]
      exact cell

def memoryParts : VsidParts (U16 → U8) where
  memmapMarkStore := fun _ e => e
  memmapMarkRead := fun _ e => e
  memmapStateOpcode := fun _ => false
  memWriteTab := fun _ addr val e => Function.update e addr val
  memWriteTabDummy := fun _ addr val e => Function.update e addr val
  memReadTab := fun _ addr e => (e, e addr)
  memReadTabDummy := fun _ addr e => (e, e addr)
  maincpuClk := fun _ => 0
  regPc := fun _ => 0
  cyclesPerSecond := fun _ => 985248

private theorem memoryParts_plain (a : U16) : PlainMemory memoryParts a (fun e => e a) where
  markStore := fun _ _ => rfl
  markRead := fun _ _ => rfl
  write := by
    intro addr val e
    simp [memoryParts, Function.update_apply, eq_comm]
  writeDummy := by
    intro addr val e
    simp [memoryParts, Function.update_apply, eq_comm]
  read := fun _ _ => rfl
  readDummy := fun _ _ => rfl
  value := by
    rintro addr e rfl
    rfl
  valueDummy := by
    rintro addr e rfl
    rfl

theorem trace_provenance_memory :
    ∃ file, ((vsidMachine memoryParts).exec ⟨fun _ => 0, bustraceSysInit⟩
        ([.bus (.memStore 0x1000 7) true] ++ [.setBusTraceFile (some ⟨[0x74], by decide⟩)] ++
          [.bus (.memRead 0x1000) true, .bus (.memStore 0x1000 8) true] ++
            [.machineShutdown])).trace.files.getLast? = some file ∧
      file.name = ⟨[0x74], by decide⟩ ∧
      AccountsFor 0x1000 (fun e => e 0x1000)
        ((plainMachine memoryParts).exec (fun _ => 0)
          ([.bus (.memStore 0x1000 7) true].filterMap VsidOp.plain))
        ((vsidMachine memoryParts).exec ⟨fun _ => 0, bustraceSysInit⟩
          ([.bus (.memStore 0x1000 7) true] ++ [.setBusTraceFile (some ⟨[0x74], by decide⟩)] ++
            [.bus (.memRead 0x1000) true, .bus (.memStore 0x1000 8) true] ++
              [.machineShutdown])).emu file :=
  trace_provenance (memoryParts_plain 0x1000) (fun _ => 0) [.bus (.memStore 0x1000 7) true]
    [.bus (.memRead 0x1000) true, .bus (.memStore 0x1000 8) true] (by decide)
    (by simp [VsidOp.plays]) (by simp) rfl

end Revice.Bustrace

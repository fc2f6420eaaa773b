/- Module: Revice/Bustrace/Lifecycle
   source: libs/bustrace/vice/soundbustrace.c, libs/bustrace/src/bustrace_core.c
   digest: The trace files of a run are the traces of its history, each whole once it is closed. -/

import Revice.Bustrace.Adapter
import Revice.Bustrace.Reader

set_option autoImplicit false
set_option relaxedAutoImplicit false

namespace Revice.Bustrace

open Revice.General

/-- What happens under one file name: the accesses observed from when the name is
set to when it is replaced or the adapter shut down. -/
structure Segment where
  name : Option CString
  observed : List Observed

/-- The segments of a history that are over, and the current one. -/
structure History where
  finished : List Segment
  current : Segment

def History.next (h : History) : BustraceOp → History
  | .setFilename val => ⟨h.finished ++ [h.current], ⟨val, []⟩⟩
  | .observeAccess observed => ⟨h.finished, ⟨h.current.name, h.current.observed ++ [observed]⟩⟩
  | .shutdown => ⟨h.finished ++ [h.current], ⟨none, []⟩⟩

/-- The history of a sequence of operations, from those alone. -/
def historyOf (ops : List BustraceOp) : History := ops.foldl History.next ⟨[], ⟨none, []⟩⟩

theorem historyOf_snoc (ops : List BustraceOp) (op : BustraceOp) :
    historyOf (ops ++ [op]) = (historyOf ops).next op := by
  rw [historyOf, List.foldl_append]
  rfl

def Segment.named (segment : Segment) : Bool :=
  match segment.name with
  | none => false
  | some name => name.bytes ≠ []

structure Trace where
  name : CString
  cyclesPerSec : U64
  accesses : List Access

/-- A segment is traced if it has a name and its file could be opened, which is
tried at the first access. -/
def Segment.trace (segment : Segment) : Option Trace :=
  match segment.name, segment.observed with
  | some name, first :: rest =>
    if name.bytes ≠ [] && first.fopenOk then
      some ⟨name, first.cyclesPerSecond, (first :: rest).map Observed.access⟩
    else none
  | _, _ => none

def Segment.wants (segment : Segment) (observed : Observed) : Bool :=
  segment.named && (segment.observed ++ [observed]).head?.any Observed.fopenOk

def History.wants (h : History) : BustraceOp → List Access
  | .setFilename _ => []
  | .observeAccess observed => if h.current.wants observed then [observed.access] else []
  | .shutdown => []

def wantedFrom : History → List BustraceOp → List Access
  | _, [] => []
  | h, op :: ops => h.wants op ++ wantedFrom (h.next op) ops

def wantedAccesses (ops : List BustraceOp) : List Access := wantedFrom ⟨[], ⟨none, []⟩⟩ ops

def History.traces (h : History) : List Trace :=
  h.finished.filterMap Segment.trace ++ h.current.trace.toList

/-- The file of a trace by the documented format: one header, one record for each
access, and once it is closed one trailer with their count and checksum. -/
def Trace.file (closed : Bool) (trace : Trace) : HostFile where
  name := trace.name
  chunks := headerBytes trace.cyclesPerSec :: recordChunks 0 trace.accesses ++
    if closed then
      [trailerBytes (BitVec.ofNat 64 trace.accesses.length)
        (reviceBustraceCrc32 0 (recordChunks 0 trace.accesses).flatten)]
    else []
  closed := closed

/-- The files that a history stands for: those of its finished segments, closed,
and that of the current one. -/
def History.files (h : History) : List HostFile :=
  (h.finished.filterMap Segment.trace).map (Trace.file true) ++
    (h.current.trace.map (Trace.file false)).toList

def openChunks (trace : Trace) : List (List U8) :=
  (reviceBustraceBegin trace.cyclesPerSec true).2 ++
    bustraceMachine.emitted (reviceBustraceBegin trace.cyclesPerSec true).1 trace.accesses

def Trace.openFile (trace : Trace) : HostFile := ⟨trace.name, openChunks trace, false⟩

def Trace.closedFile (trace : Trace) : HostFile :=
  ⟨trace.name, traceChunks trace.cyclesPerSec trace.accesses, true⟩

def History.closedFiles (h : History) : List HostFile :=
  (h.finished.filterMap Segment.trace).map Trace.closedFile

private theorem modify_last {α : Type} (before : List α) (last : α) (f : α → α) :
    (before ++ [last]).modify before.length f = before ++ [f last] := by
  induction before with
  | nil => rfl
  | cons head before ih => simp [ih]

private theorem emit_last {closed : List HostFile} {file : HostFile} {chunks : List (List U8)}
    (filled : ∀ chunk ∈ chunks, 0 < chunk.length) :
    chunks.foldl (bustraceFileEmit (some closed.length)) (closed ++ [file]) =
      closed ++ [{ file with chunks := file.chunks ++ chunks }] := by
  induction chunks generalizing file with
  | nil => simp
  | cons chunk chunks ih =>
    have bytes := filled chunk List.mem_cons_self
    have first : bustraceFileEmit (some closed.length) (closed ++ [file]) chunk =
        closed ++ [file.write chunk] := by
      simp only [bustraceFileEmit, gt_iff_lt, bytes, if_true, modify_last]
    rw [List.foldl_cons, first, ih fun other member => filled other (List.mem_cons_of_mem _ member)]
    simp [HostFile.write]

private theorem emitted_files (sys : BustraceSys) {closed : List HostFile} {file : HostFile}
    (files : sys.files = closed ++ [file]) (ctx : sys.ctx = some closed.length)
    {chunks : List (List U8)} (filled : ∀ chunk ∈ chunks, 0 < chunk.length) :
    (sys.emitted chunks).files = closed ++ [{ file with chunks := file.chunks ++ chunks }] := by
  rw [BustraceSys.emitted, files, ctx]
  exact emit_last filled

private theorem begin_filled (cyclesPerSec : U64) :
    ∀ chunk ∈ (reviceBustraceBegin cyclesPerSec true).2, 0 < chunk.length := by
  intro chunk member
  rw [List.mem_singleton.mp member]
  exact (by decide : 0 < 16)

private theorem access_filled (bt : ReviceBustrace) (a : Access) :
    ∀ chunk ∈ (reviceBustraceAccess bt a).2, 0 < chunk.length := by
  intro chunk member
  rw [reviceBustraceAccess] at member
  split at member
  · simp only at member
    split at member
    · rw [List.mem_singleton.mp member, length_recordBytes]
      decide
    · cases member
  · cases member

private theorem end_filled (bt : ReviceBustrace) :
    ∀ chunk ∈ (reviceBustraceEnd bt).2, 0 < chunk.length := by
  intro chunk member
  rw [reviceBustraceEnd] at member
  split at member
  · simp only at member
    split at member
    · rw [List.mem_singleton.mp member]
      exact (by decide : 0 < 16)
    · cases member
  · cases member

def Trace.core (trace : Trace) : ReviceBustrace :=
  bustraceMachine.exec (reviceBustraceBegin trace.cyclesPerSec true).1 trace.accesses

def Trace.push (trace : Trace) (a : Access) : Trace :=
  { trace with accesses := trace.accesses ++ [a] }

private theorem core_push (trace : Trace) (a : Access) :
    (trace.push a).core = (reviceBustraceAccess trace.core a).1 :=
  bustraceMachine.exec_snoc _ _ _

private theorem core_started (trace : Trace) : trace.core.started = true := by
  have run := @run_access (reviceBustraceBegin trace.cyclesPerSec true).1 rfl rfl trace.accesses
  exact run.2.2.2.1

private theorem openChunks_push (trace : Trace) (a : Access) :
    openChunks (trace.push a) = openChunks trace ++ (reviceBustraceAccess trace.core a).2 := by
  rw [openChunks, openChunks, List.append_assoc]
  congr 1
  exact bustraceMachine.emitted_snoc _ _ _

private theorem closedFile_eq (trace : Trace) : trace.closedFile =
    ⟨trace.name, openChunks trace ++ (reviceBustraceEnd trace.core).2, true⟩ := rfl

/-- A trace is being written to the file after the closed ones. -/
structure Writing (closed : List HostFile) (trace : Trace) (sys : BustraceSys) : Prop where
  status : sys.bustraceOpen = 1
  fd : sys.bustraceFd = some closed.length
  ctx : sys.ctx = some closed.length
  core : sys.bustraceCore = trace.core
  files : sys.files = closed ++ [trace.openFile]

/-- No trace is being written; the status tells whether opening one has failed. -/
structure Resting (closed : List HostFile) (status : Int) (sys : BustraceSys) : Prop where
  status : sys.bustraceOpen = status
  fd : sys.bustraceFd = none
  core : sys.bustraceCore.started = false
  files : sys.files = closed

section Steps

variable {closed : List HostFile} {trace : Trace} {sys : BustraceSys}

theorem Writing.access (writing : Writing closed trace sys) (a : Access) :
    Writing closed (trace.push a) (sys.coreAccess a) := by
  let stepped : BustraceSys :=
    { sys with bustraceCore := (reviceBustraceAccess sys.bustraceCore a).1 }
  have written := emitted_files stepped writing.files writing.ctx
    (access_filled sys.bustraceCore a)
  have extended : (trace.push a).openFile = ⟨trace.name,
      openChunks trace ++ (reviceBustraceAccess sys.bustraceCore a).2, false⟩ := by
    rw [writing.core, ← openChunks_push]
    rfl
  refine ⟨writing.status, writing.fd, writing.ctx, ?_, ?_⟩
  · rw [core_push, ← writing.core]
    rfl
  · rw [extended]
    exact written

private theorem Writing.finish (writing : Writing closed trace sys) (name : Option CString) :
    Resting (closed ++ [trace.closedFile]) 0
      { bustraceCloseFd (bustraceEndOpen sys) with bustraceFilename := name } := by
  let stopped : BustraceSys :=
    { sys with bustraceCore := (reviceBustraceEnd sys.bustraceCore).1 }
  let ended := stopped.emitted (reviceBustraceEnd sys.bustraceCore).2
  have endOpen : bustraceEndOpen sys = ended := if_pos writing.status
  have written : ended.files = _ := emitted_files stopped writing.files writing.ctx
    (end_filled sys.bustraceCore)
  have fd : ended.bustraceFd = some closed.length := writing.fd
  have closeFd : bustraceCloseFd ended =
      { ended with
        files := ended.files.modify closed.length HostFile.close
        bustraceFd := none
        bustraceOpen := 0 } := by
    simp only [bustraceCloseFd, fd]
  rw [endOpen, closeFd]
  refine ⟨rfl, rfl, ?_, ?_⟩
  · change (reviceBustraceEnd sys.bustraceCore).1.started = false
    rw [writing.core, reviceBustraceEnd, if_pos (core_started trace)]
  · change ended.files.modify closed.length HostFile.close = _
    rw [written, modify_last, closedFile_eq, ← writing.core]
    rfl

private theorem Resting.finish {status : Int} (resting : Resting closed status sys)
    (unopened : status ≠ 1) (name : Option CString) :
    Resting closed 0 { bustraceCloseFd (bustraceEndOpen sys) with bustraceFilename := name } := by
  have endOpen : bustraceEndOpen sys = sys := if_neg (by rw [resting.status]; exact unopened)
  have closeFd : bustraceCloseFd sys = { sys with bustraceOpen := 0 } := by
    simp only [bustraceCloseFd, resting.fd]
  rw [endOpen, closeFd]
  exact ⟨rfl, resting.fd, resting.core, resting.files⟩

variable {name : CString} (named : sys.bustraceFilename = some name) (filled : name.bytes ≠ [])

include named filled

theorem Resting.opens (resting : Resting closed 0 sys) (cyclesPerSecond : U64) :
    Writing closed ⟨name, cyclesPerSecond, []⟩
      (bustraceEnsureOpen sys cyclesPerSecond true).1 := by
  let opened : BustraceSys :=
    { sys with
      bustraceFd := some sys.files.length
      ctx := some sys.files.length
      bustraceCore := (reviceBustraceBegin cyclesPerSecond true).1
      files := sys.files ++ [⟨name, [], false⟩] }
  have handle : some sys.files.length = some closed.length := by rw [resting.files]
  have files : opened.files = closed ++ [⟨name, [], false⟩] := by
    rw [← resting.files]
  have written := emitted_files opened files handle (begin_filled cyclesPerSecond)
  have ensured : (bustraceEnsureOpen sys cyclesPerSecond true).1 =
      { opened.emitted (reviceBustraceBegin cyclesPerSecond true).2 with bustraceOpen := 1 } := by
    rw [bustraceEnsureOpen, if_neg (by simp [resting.status])]
    simp only [opened, named, filled, if_false, if_true]
  rw [ensured]
  exact ⟨rfl, handle, handle, rfl, written⟩

private theorem Resting.fails (resting : Resting closed 0 sys) (cyclesPerSecond : U64) :
    Resting closed (-1) (bustraceEnsureOpen sys cyclesPerSecond false).1 := by
  rw [bustraceEnsureOpen, if_neg (by simp [resting.status])]
  simp only [named, filled, if_false, Bool.false_eq_true]
  exact ⟨rfl, rfl, resting.core, resting.files⟩

end Steps

def Segment.status (segment : Segment) : Int :=
  if segment.named && !segment.observed.isEmpty then -1 else 0

/-- The adapter's state goes with the history of its operations. -/
structure Linked (h : History) (sys : BustraceSys) : Prop where
  name : sys.bustraceFilename = h.current.name
  writing : ∀ trace ∈ h.current.trace, Writing h.closedFiles trace sys
  resting : h.current.trace = none → Resting h.closedFiles h.current.status sys

private theorem Linked.of_writing {h : History} {sys : BustraceSys} {trace : Trace}
    (name : sys.bustraceFilename = h.current.name) (traced : h.current.trace = some trace)
    (writing : Writing h.closedFiles trace sys) : Linked h sys := by
  refine ⟨name, ?_, by simp [traced]⟩
  intro other same
  cases traced.symm.trans same
  exact writing

private theorem Linked.of_resting {h : History} {sys : BustraceSys}
    (name : sys.bustraceFilename = h.current.name) (untraced : h.current.trace = none)
    (resting : Resting h.closedFiles h.current.status sys) : Linked h sys :=
  ⟨name, by simp [untraced], fun _ => resting⟩

section Named

variable {name : CString} (filled : name.bytes ≠ []) (first : Observed) (rest : List Observed)

include filled

theorem trace_cons : (⟨some name, first :: rest⟩ : Segment).trace =
    if first.fopenOk then
      some ⟨name, first.cyclesPerSecond, (first :: rest).map Observed.access⟩
    else none := by
  simp [Segment.trace, filled]

private theorem status_cons : (⟨some name, first :: rest⟩ : Segment).status = -1 := by
  simp [Segment.status, Segment.named, filled]

end Named

private theorem Segment.status_ne_one (segment : Segment) : segment.status ≠ 1 := by
  rw [Segment.status]
  split <;> decide

private theorem closedFiles_over (h : History) (next : Segment) :
    History.closedFiles ⟨h.finished ++ [h.current], next⟩ =
      h.closedFiles ++ (h.current.trace.map Trace.closedFile).toList := by
  rw [History.closedFiles, List.filterMap_append, List.map_append]
  cases traced : h.current.trace with
  | none => simp [traced, History.closedFiles]
  | some trace => simp [traced, History.closedFiles]

private theorem Linked.finish {h : History} {sys : BustraceSys} (linked : Linked h sys)
    (name : Option CString) :
    Linked ⟨h.finished ++ [h.current], ⟨name, []⟩⟩
      { bustraceCloseFd (bustraceEndOpen sys) with bustraceFilename := name } := by
  have fresh : (⟨name, []⟩ : Segment).trace = none := by
    cases name <;> rfl
  have idle : (⟨name, []⟩ : Segment).status = 0 := by
    simp [Segment.status]
  refine ⟨rfl, by simp [fresh], ?_⟩
  intro _
  rw [closedFiles_over, idle]
  cases traced : h.current.trace with
  | none =>
    have finished := (linked.resting traced).finish h.current.status_ne_one name
    simpa using finished
  | some trace => exact (linked.writing trace traced).finish name

private theorem observe_disabled {sys : BustraceSys} (disabled : sys.isEnabled = false)
    (observed : Observed) : bustraceObserveAccess sys observed = (sys, []) := by
  simp [bustraceObserveAccess, disabled]

section Observe

variable {sys : BustraceSys} (enabled : sys.isEnabled = true) (observed : Observed)

include enabled

private theorem observe_open (isOpen : sys.bustraceOpen = 1) :
    (bustraceObserveAccess sys observed).1 = sys.coreAccess observed.access := by
  simp [bustraceObserveAccess, enabled, isOpen]

private theorem observe_failed (failed : sys.bustraceOpen = -1) :
    (bustraceObserveAccess sys observed).1 = sys := by
  simp [bustraceObserveAccess, enabled, failed]

private theorem observe_first (unopened : sys.bustraceOpen = 0) :
    (bustraceObserveAccess sys observed).1 =
      let opened := (bustraceEnsureOpen sys observed.cyclesPerSecond observed.fopenOk).1
      if opened.bustraceOpen = 1 then opened.coreAccess observed.access else opened := by
  simp only [bustraceObserveAccess, enabled, Bool.not_true, Bool.false_eq_true, if_false, unopened,
    if_true, ne_eq, ite_not]
  split <;> rfl

end Observe

private theorem ensureOpen_filename (sys : BustraceSys) (cyclesPerSecond : U64) (fopenOk : Bool) :
    (bustraceEnsureOpen sys cyclesPerSecond fopenOk).1.bustraceFilename =
      sys.bustraceFilename := by
  rw [bustraceEnsureOpen]
  split
  · rfl
  · split
    · rfl
    · split
      · rfl
      · split <;> rfl

private theorem observe_filename (sys : BustraceSys) (observed : Observed) :
    (bustraceObserveAccess sys observed).1.bustraceFilename = sys.bustraceFilename := by
  cases enabled : sys.isEnabled with
  | false => rw [observe_disabled enabled]
  | true =>
    simp only [bustraceObserveAccess, enabled, Bool.not_true, Bool.false_eq_true, if_false]
    split
    · split
      · exact ensureOpen_filename ..
      · exact ensureOpen_filename ..
    · split <;> rfl

private theorem Linked.observe_unnamed {h : History} {sys : BustraceSys} (linked : Linked h sys)
    (unnamed : h.current.named = false) (observed : Observed) :
    Linked (h.next (.observeAccess observed)) (bustraceObserveAccess sys observed).1 := by
  have untraced : ∀ accesses, (⟨h.current.name, accesses⟩ : Segment).trace = none := by
    intro accesses
    rw [Segment.named] at unnamed
    cases name : h.current.name with
    | none => cases accesses <;> rfl
    | some name =>
      simp only [name, decide_eq_false_iff_not, ne_eq, not_not] at unnamed
      cases accesses <;> simp [Segment.trace, unnamed]
  have disabled : sys.isEnabled = false := by
    rw [BustraceSys.isEnabled, linked.name]
    exact unnamed
  have status : ∀ accesses, (⟨h.current.name, accesses⟩ : Segment).status = 0 := by
    intro accesses
    have same : (⟨h.current.name, accesses⟩ : Segment).named = false := unnamed
    rw [Segment.status, same]
    rfl
  rw [observe_disabled disabled]
  refine ⟨linked.name, by simp [History.next, untraced], ?_⟩
  intro _
  have resting := linked.resting (untraced h.current.observed)
  rw [status] at resting
  change Resting h.closedFiles (Segment.status ⟨h.current.name, _⟩) sys
  rw [status]
  exact resting

section ObserveNamed

variable {finished : List Segment} {name : CString} {sys : BustraceSys}
  (filled : name.bytes ≠ []) (enabled : sys.isEnabled = true) (observed : Observed)

include filled enabled

private theorem Linked.observe_begins (linked : Linked ⟨finished, ⟨some name, []⟩⟩ sys) :
    Linked ⟨finished, ⟨some name, [observed]⟩⟩ (bustraceObserveAccess sys observed).1 := by
  have kept : (bustraceObserveAccess sys observed).1.bustraceFilename = some name :=
    (observe_filename sys observed).trans linked.name
  have resting := linked.resting rfl
  have status : (⟨some name, []⟩ : Segment).status = 0 := by simp [Segment.status]
  simp only [status] at resting
  have traced := trace_cons filled observed []
  have step := observe_first enabled observed resting.status
  cases ok : observed.fopenOk with
  | true =>
    have opened := resting.opens linked.name filled observed.cyclesPerSecond
    have written := opened.access observed.access
    rw [ok] at traced step
    simp only [opened.status, if_true] at step
    rw [← step] at written
    exact Linked.of_writing kept traced written
  | false =>
    have failed := resting.fails linked.name filled observed.cyclesPerSecond
    rw [ok] at traced step
    simp only [failed.status, reduceCtorEq, if_false] at step
    rw [← step, ← status_cons filled observed []] at failed
    exact Linked.of_resting kept traced failed

private theorem Linked.observe_continues {first : Observed} {rest : List Observed}
    (linked : Linked ⟨finished, ⟨some name, first :: rest⟩⟩ sys) :
    Linked ⟨finished, ⟨some name, first :: (rest ++ [observed])⟩⟩
      (bustraceObserveAccess sys observed).1 := by
  have kept : (bustraceObserveAccess sys observed).1.bustraceFilename = some name :=
    (observe_filename sys observed).trans linked.name
  have before := trace_cons filled first rest
  have traced := trace_cons filled first (rest ++ [observed])
  cases ok : first.fopenOk with
  | true =>
    rw [ok] at before traced
    have writing := linked.writing _ before
    have written := writing.access observed.access
    rw [← observe_open enabled observed writing.status] at written
    refine Linked.of_writing kept (traced.trans ?_) written
    simp [Trace.push]
  | false =>
    rw [ok] at before traced
    have resting := linked.resting before
    simp only [status_cons filled first rest] at resting
    have step := observe_failed enabled observed resting.status
    rw [← step, ← status_cons filled first (rest ++ [observed])] at resting
    exact Linked.of_resting kept traced resting

end ObserveNamed

theorem Linked.observe {h : History} {sys : BustraceSys} (linked : Linked h sys)
    (observed : Observed) :
    Linked (h.next (.observeAccess observed)) (bustraceObserveAccess sys observed).1 := by
  cases isNamed : h.current.named with
  | false => exact linked.observe_unnamed isNamed observed
  | true =>
    have enabled : sys.isEnabled = true := by
      rw [BustraceSys.isEnabled, linked.name]
      exact isNamed
    obtain ⟨finished, ⟨name, earlier⟩⟩ := h
    cases name with
    | none => cases isNamed
    | some name =>
      have filled : name.bytes ≠ [] := of_decide_eq_true isNamed
      cases earlier with
      | nil => exact linked.observe_begins filled enabled observed
      | cons first rest => exact linked.observe_continues filled enabled observed

/-- Every state of a run goes with its history. -/
theorem linked_run (ops : List BustraceOp) : Linked (historyOf ops) (bustraceRun ops) := by
  induction ops using List.reverseRecOn with
  | nil => exact Linked.of_resting rfl rfl ⟨rfl, rfl, rfl, rfl⟩
  | append_singleton ops op ih =>
    rw [bustraceRun_snoc, historyOf_snoc]
    cases op with
    | setFilename val => exact ih.finish val
    | observeAccess observed => exact ih.observe observed
    | shutdown => exact ih.finish none

private theorem openFile_eq (trace : Trace) : trace.openFile = trace.file false := by
  have run := @run_access (reviceBustraceBegin trace.cyclesPerSec true).1 rfl rfl trace.accesses
  rw [Trace.openFile, Trace.file, openChunks, run.1]
  simp only [Bool.false_eq_true, if_false, List.append_nil]
  rfl

private theorem closedFile_file : Trace.closedFile = Trace.file true := by
  funext trace
  rw [Trace.closedFile, traceChunks_eq]
  rfl

theorem Linked.files {h : History} {sys : BustraceSys} (linked : Linked h sys) :
    sys.files = h.files := by
  rw [History.files, ← closedFile_file]
  change sys.files = h.closedFiles ++ _
  cases traced : h.current.trace with
  | none => simpa using (linked.resting traced).files
  | some trace =>
    rw [(linked.writing trace traced).files, openFile_eq]
    rfl

theorem Linked.flags {h : History} {sys : BustraceSys} (linked : Linked h sys) :
    (sys.bustraceOpen = 1 ↔ sys.bustraceFd.isSome) ∧
      (sys.bustraceOpen = 1 ↔ sys.bustraceCore.started = true) := by
  cases traced : h.current.trace with
  | none =>
    have resting := linked.resting traced
    simp [resting.status, resting.fd, resting.core, h.current.status_ne_one]
  | some trace =>
    have writing := linked.writing trace traced
    simp [writing.status, writing.fd, writing.core, core_started]

private theorem finished_prefix (h : History) (ops : List BustraceOp) :
    h.finished <+: (ops.foldl History.next h).finished := by
  induction ops generalizing h with
  | nil => exact List.prefix_refl _
  | cons op ops ih =>
    refine List.IsPrefix.trans ?_ (ih (h.next op))
    cases op with
    | setFilename val => exact List.prefix_append _ _
    | observeAccess observed => exact List.prefix_refl _
    | shutdown => exact List.prefix_append _ _

private theorem closed_of_history {h : History} {k : Nat} {file : HostFile}
    (found : h.files[k]? = some file) (closed : file.closed = true) :
    ((h.finished.filterMap Segment.trace).map (Trace.file true))[k]? = some file := by
  rw [History.files] at found
  rcases Nat.lt_or_ge k ((h.finished.filterMap Segment.trace).map (Trace.file true)).length with
    inside | past
  · rwa [List.getElem?_append_left inside] at found
  · rw [List.getElem?_append_right past] at found
    have member := List.mem_of_getElem? found
    rw [Option.mem_toList, Option.map_eq_some_iff] at member
    obtain ⟨trace, _, rfl⟩ := member
    cases closed

private theorem closed_kept (ops more : List BustraceOp) {k : Nat} {file : HostFile}
    (found : (historyOf ops).files[k]? = some file) (closed : file.closed = true) :
    (historyOf (ops ++ more)).files[k]? = some file := by
  have finished := closed_of_history found closed
  have grows : (historyOf ops).finished <+: (historyOf (ops ++ more)).finished := by
    rw [historyOf, historyOf, List.foldl_append]
    exact finished_prefix _ more
  obtain ⟨later, eq⟩ := (grows.filterMap Segment.trace).map (Trace.file true)
  have inside := (List.getElem?_eq_some_iff.mp finished).1
  rw [History.files, ← eq, List.append_assoc, List.getElem?_append_left inside]
  exact finished

def Segment.traced (segment : Segment) : List Access := segment.trace.toList.flatMap Trace.accesses

private theorem traced_observe (segment : Segment) (observed : Observed) :
    Segment.traced ⟨segment.name, segment.observed ++ [observed]⟩ =
      segment.traced ++ if segment.wants observed then [observed.access] else [] := by
  obtain ⟨name, earlier⟩ := segment
  cases name with
  | none => cases earlier <;> rfl
  | some name =>
    by_cases filled : name.bytes = []
    · cases earlier <;> simp [Segment.traced, Segment.trace, Segment.wants, Segment.named, filled]
    · cases earlier with
      | nil =>
        cases ok : observed.fopenOk <;>
          simp [Segment.traced, Segment.trace, Segment.wants, Segment.named, filled, ok]
      | cons first rest =>
        cases ok : first.fopenOk <;>
          simp [Segment.traced, Segment.trace, Segment.wants, Segment.named, filled, ok]

private theorem traces_accesses (h : History) : h.traces.flatMap Trace.accesses =
    (h.finished.filterMap Segment.trace).flatMap Trace.accesses ++ h.current.traced := by
  rw [History.traces, List.flatMap_append]
  rfl

theorem traces_run (h : History) (ops : List BustraceOp) :
    (ops.foldl History.next h).traces.flatMap Trace.accesses =
      h.traces.flatMap Trace.accesses ++ wantedFrom h ops := by
  induction ops generalizing h with
  | nil => simp [wantedFrom]
  | cons op ops ih =>
    rw [List.foldl_cons, ih, wantedFrom, ← List.append_assoc]
    congr 1
    have settled : ∀ name,
        (History.mk (h.finished ++ [h.current]) ⟨name, []⟩).traces = h.traces := by
      intro name
      have fresh : (⟨name, []⟩ : Segment).trace = none := by cases name <;> rfl
      rw [History.traces, History.traces, fresh, List.filterMap_append]
      cases traced : h.current.trace <;> simp [traced]
    cases op with
    | setFilename val => rw [History.next, settled, History.wants, List.append_nil]
    | shutdown => rw [History.next, settled, History.wants, List.append_nil]
    | observeAccess observed =>
      rw [traces_accesses, traces_accesses, History.next, traced_observe, History.wants,
        List.append_assoc]

/-- The lifecycle of the trace files. Over every run the files are those of the
history's traces, each with a header and the records of its accesses in order,
and a trailer once it is closed; a closed file never changes again; the accesses
that were to be traced are those of all traces together, in order, none twice;
and the open flag, the handle and the core's flag agree. -/
theorem trace_file_lifecycle (ops : List BustraceOp) :
    (bustraceRun ops).files = (historyOf ops).files ∧
      (∀ (more : List BustraceOp) (k : Nat) (file : HostFile),
        (bustraceRun ops).files[k]? = some file → file.closed = true →
          (bustraceRun (ops ++ more)).files[k]? = some file) ∧
      wantedAccesses ops = (historyOf ops).traces.flatMap Trace.accesses ∧
      ((bustraceRun ops).bustraceOpen = 1 ↔ (bustraceRun ops).bustraceFd.isSome) ∧
      ((bustraceRun ops).bustraceOpen = 1 ↔ (bustraceRun ops).bustraceCore.started = true) := by
  have linked := linked_run ops
  refine ⟨linked.files, ?_, ?_, linked.flags⟩
  · intro more k file found closed
    rw [linked.files] at found
    rw [(linked_run (ops ++ more)).files]
    exact closed_kept ops more found closed
  · have gained := traces_run ⟨[], ⟨none, []⟩⟩ ops
    exact gained.symm

end Revice.Bustrace

/- Module: Revice/Bustrace/Bus
   source: integration/vice/patches/07-bustrace-vsidcpu-hook.patch,
     integration/vice/patches/08-bustrace-vsid-wiring.patch, libs/bustrace/vice/soundbustrace.c
   digest: The bus hooks of the player: they disturb nothing and see every access. -/

import Revice.Bustrace.Lifecycle

set_option autoImplicit false
set_option relaxedAutoImplicit false

namespace Revice.Bustrace

open Revice.General

def rwWrite : U8 := 0x01#8
def rwOpcode : U8 := 0x02#8
def rwDummy : U8 := 0x04#8

inductive BusCall
  | memStore (addr value : U32)
  | memStoreDummy (addr value : U32)
  | memRead (addr : U32)
  | memReadDummy (addr : U32)

/-- What the bus functions use of the emulator, whose whole state without the trace is `ε`.
The handlers of a table are taken with the address that selects them. -/
structure VsidParts (ε : Type) where
  memmapMarkStore : U32 → ε → ε
  memmapMarkRead : U32 → ε → ε
  memmapStateOpcode : ε → Bool
  memWriteTab : U32 → U16 → U8 → ε → ε
  memWriteTabDummy : U32 → U16 → U8 → ε → ε
  memReadTab : U32 → U16 → ε → ε × U8
  memReadTabDummy : U32 → U16 → ε → ε × U8
  maincpuClk : ε → U64
  regPc : ε → U32
  cyclesPerSecond : ε → U64

structure VsidSys (ε : Type) where
  emu : ε
  trace : BustraceSys

inductive VsidOut
  | value (v : U8)
  | log (line : LogLine)

/-- What happens to the player. Between two bus calls the emulator may change in any way. -/
inductive VsidOp (ε : Type)
  | bus (call : BusCall) (fopenOk : Bool)
  | advance (change : ε → ε)
  | setBusTraceFile (val : Option CString)
  | machineShutdown

section Functions

variable {ε : Type} (parts : VsidParts ε)

def observedAt (e : ε) (fopenOk : Bool) (addr : U32) (val flags : U8) : Observed where
  access := ⟨parts.maincpuClk e, addr.setWidth 16, val, flags, (parts.regPc e).setWidth 16⟩
  cyclesPerSecond := parts.cyclesPerSecond e
  fopenOk := fopenOk

def VsidSys.observe (s : VsidSys ε) (fopenOk : Bool) (addr : U32) (val flags : U8) :
    VsidSys ε × List VsidOut :=
  let done := bustraceObserveAccess s.trace (observedAt parts s.emu fopenOk addr val flags)
  (⟨s.emu, done.1⟩, done.2.map VsidOut.log)

def memmapMemStore (s : VsidSys ε) (fopenOk : Bool) (addr value : U32) :
    VsidSys ε × List VsidOut :=
  let s := { s with emu := parts.memmapMarkStore addr s.emu }
  let seen := s.observe parts fopenOk addr (value.setWidth 8) rwWrite
  ({ seen.1 with
      emu := parts.memWriteTab (addr >>> 8) (addr.setWidth 16) (value.setWidth 8) seen.1.emu },
    seen.2)

def memmapMemStoreDummy (s : VsidSys ε) (fopenOk : Bool) (addr value : U32) :
    VsidSys ε × List VsidOut :=
  let s := { s with emu := parts.memmapMarkStore addr s.emu }
  let seen := s.observe parts fopenOk addr (value.setWidth 8) (rwWrite ||| rwDummy)
  ({ seen.1 with
      emu := parts.memWriteTabDummy (addr >>> 8) (addr.setWidth 16) (value.setWidth 8)
        seen.1.emu },
    seen.2)

/-- The opcode flag is taken before marking the read clears it. -/
def memmapMemRead (s : VsidSys ε) (fopenOk : Bool) (addr : U32) : VsidSys ε × List VsidOut :=
  let bustraceRw := if parts.memmapStateOpcode s.emu then rwOpcode else 0
  let marked := parts.memmapMarkRead addr s.emu
  let read := parts.memReadTab (addr >>> 8) (addr.setWidth 16) marked
  let seen := VsidSys.observe parts ⟨read.1, s.trace⟩ fopenOk addr read.2 bustraceRw
  (seen.1, seen.2 ++ [.value read.2])

def memmapMemReadDummy (s : VsidSys ε) (fopenOk : Bool) (addr : U32) :
    VsidSys ε × List VsidOut :=
  let marked := parts.memmapMarkRead addr s.emu
  let read := parts.memReadTabDummy (addr >>> 8) (addr.setWidth 16) marked
  let seen := VsidSys.observe parts ⟨read.1, s.trace⟩ fopenOk addr read.2 rwDummy
  (seen.1, seen.2 ++ [.value read.2])

def VsidOp.perform (s : VsidSys ε) : VsidOp ε → VsidSys ε × List VsidOut
  | .bus (.memStore addr value) fopenOk => memmapMemStore parts s fopenOk addr value
  | .bus (.memStoreDummy addr value) fopenOk => memmapMemStoreDummy parts s fopenOk addr value
  | .bus (.memRead addr) fopenOk => memmapMemRead parts s fopenOk addr
  | .bus (.memReadDummy addr) fopenOk => memmapMemReadDummy parts s fopenOk addr
  | .advance change => ({ s with emu := change s.emu }, [])
  | .setBusTraceFile val => ({ s with trace := setBustraceFilename s.trace val }, [])
  | .machineShutdown =>
    let done := bustraceShutdown s.trace
    ({ s with trace := done.1 }, done.2.map VsidOut.log)

def vsidMachine : Machine (VsidSys ε) (VsidOp ε) VsidOut where
  step := VsidOp.perform parts
  enabled := fun _ _ => True

/-- The bus functions as they are without the patch. -/
def unpatched (e : ε) : BusCall → ε × List U8
  | .memStore addr value =>
    (parts.memWriteTab (addr >>> 8) (addr.setWidth 16) (value.setWidth 8)
      (parts.memmapMarkStore addr e), [])
  | .memStoreDummy addr value =>
    (parts.memWriteTabDummy (addr >>> 8) (addr.setWidth 16) (value.setWidth 8)
      (parts.memmapMarkStore addr e), [])
  | .memRead addr =>
    let read := parts.memReadTab (addr >>> 8) (addr.setWidth 16) (parts.memmapMarkRead addr e)
    (read.1, [read.2])
  | .memReadDummy addr =>
    let read := parts.memReadTabDummy (addr >>> 8) (addr.setWidth 16) (parts.memmapMarkRead addr e)
    (read.1, [read.2])

inductive PlainOp (ε : Type)
  | bus (call : BusCall)
  | advance (change : ε → ε)

def plainMachine : Machine ε (PlainOp ε) U8 where
  step e
    | .bus call => unpatched parts e call
    | .advance change => (change e, [])
  enabled := fun _ _ => True

end Functions

def VsidOp.plain {ε : Type} : VsidOp ε → Option (PlainOp ε)
  | .bus call _ => some (.bus call)
  | .advance change => some (.advance change)
  | .setBusTraceFile _ => none
  | .machineShutdown => none

def VsidOut.byte : VsidOut → Option U8
  | .value v => some v
  | .log _ => none

section Observer

variable {ε : Type} (parts : VsidParts ε)

/-- What an observer of the unpatched player notes about one bus call: a store before it
happens, a read after it. -/
def BusCall.observed (e : ε) (fopenOk : Bool) : BusCall → Observed
  | .memStore addr value =>
    observedAt parts (parts.memmapMarkStore addr e) fopenOk addr (value.setWidth 8) rwWrite
  | .memStoreDummy addr value =>
    observedAt parts (parts.memmapMarkStore addr e) fopenOk addr (value.setWidth 8)
      (rwWrite ||| rwDummy)
  | .memRead addr =>
    let read := parts.memReadTab (addr >>> 8) (addr.setWidth 16) (parts.memmapMarkRead addr e)
    observedAt parts read.1 fopenOk addr read.2 (if parts.memmapStateOpcode e then rwOpcode else 0)
  | .memReadDummy addr =>
    let read := parts.memReadTabDummy (addr >>> 8) (addr.setWidth 16) (parts.memmapMarkRead addr e)
    observedAt parts read.1 fopenOk addr read.2 rwDummy

def VsidOp.observation (e : ε) : VsidOp ε → Option BustraceOp
  | .bus call fopenOk => some (.observeAccess (call.observed parts e fopenOk))
  | .advance _ => none
  | .setBusTraceFile val => some (.setFilename val)
  | .machineShutdown => some .shutdown

def VsidOp.next (e : ε) (op : VsidOp ε) : ε := (plainMachine parts).exec e op.plain.toList

/-- What the observer tells the tracer in the course of a run of the unpatched player. -/
def observations : ε → List (VsidOp ε) → List BustraceOp
  | _, [] => []
  | e, op :: ops => (op.observation parts e).toList ++ observations (op.next parts e) ops

/-- The patched player is the unpatched one beside a tracer that is told of every access. -/
structure Beside (s t : VsidSys ε) (out : List VsidOut) (plain : List (PlainOp ε))
    (told : List BustraceOp) : Prop where
  emu : t.emu = (plainMachine parts).exec s.emu plain
  bytes : out.filterMap VsidOut.byte = (plainMachine parts).emitted s.emu plain
  trace : t.trace = bustraceAdapter.exec s.trace told

private theorem bytes_log (lines : List LogLine) :
    (lines.map VsidOut.log).filterMap VsidOut.byte = [] := by
  rw [List.filterMap_map, List.filterMap_eq_nil_iff]
  intro line _
  rfl

private theorem perform_beside (s : VsidSys ε) (op : VsidOp ε) :
    Beside parts s (op.perform parts s).1 (op.perform parts s).2 op.plain.toList
      (op.observation parts s.emu).toList := by
  cases op with
  | advance change => exact ⟨rfl, rfl, rfl⟩
  | setBusTraceFile val => exact ⟨rfl, rfl, rfl⟩
  | machineShutdown => exact ⟨rfl, bytes_log _, rfl⟩
  | bus call fopenOk =>
    cases call with
    | memStore addr value => exact ⟨rfl, bytes_log _, rfl⟩
    | memStoreDummy addr value => exact ⟨rfl, bytes_log _, rfl⟩
    | memRead addr =>
      refine ⟨rfl, ?_, rfl⟩
      refine (List.filterMap_append).trans ?_
      exact congrArg (· ++ _) (bytes_log _)
    | memReadDummy addr =>
      refine ⟨rfl, ?_, rfl⟩
      refine (List.filterMap_append).trans ?_
      exact congrArg (· ++ _) (bytes_log _)

theorem run_beside (s : VsidSys ε) (ops : List (VsidOp ε)) :
    Beside parts s ((vsidMachine parts).exec s ops) ((vsidMachine parts).emitted s ops)
      (ops.filterMap VsidOp.plain) (observations parts s.emu ops) := by
  induction ops generalizing s with
  | nil => exact ⟨rfl, rfl, rfl⟩
  | cons op ops ih =>
    have first := perform_beside parts s op
    have later := ih (op.perform parts s).1
    have split : (op :: ops).filterMap VsidOp.plain =
        op.plain.toList ++ ops.filterMap VsidOp.plain := by
      cases plain : op.plain with
      | none => rw [List.filterMap_cons_none plain]; rfl
      | some p => rw [List.filterMap_cons_some plain]; rfl
    rw [split]
    refine ⟨?_, ?_, ?_⟩
    · rw [Machine.exec_append, ← first.emu]
      exact later.emu
    · rw [Machine.emitted_append, ← first.emu, ← first.bytes, ← later.bytes,
        ← List.filterMap_append]
      rfl
    · have next : (op.perform parts s).1.emu = op.next parts s.emu := first.emu
      rw [observations, ← next, Machine.exec_append, ← first.trace]
      exact later.trace

/-- The hooks disturb nothing and miss nothing. In every run the player with the hooks is in
the state, and gives the processor the bytes, of the player without them, whatever the trace
does; and its trace files are those that an observer of the unpatched player would have had
written, one record for every access that was to be traced. -/
theorem bus_hooks (e : ε) (ops : List (VsidOp ε)) :
    let run := (vsidMachine parts).exec ⟨e, bustraceSysInit⟩ ops
    let plain := ops.filterMap VsidOp.plain
    run.emu = (plainMachine parts).exec e plain ∧
      ((vsidMachine parts).emitted ⟨e, bustraceSysInit⟩ ops).filterMap VsidOut.byte =
        (plainMachine parts).emitted e plain ∧
      run.trace.files = (historyOf (observations parts e ops)).files ∧
      (historyOf (observations parts e ops)).traces.flatMap Trace.accesses =
        wantedAccesses (observations parts e ops) := by
  intro run plain
  have beside := run_beside parts ⟨e, bustraceSysInit⟩ ops
  refine ⟨beside.emu, beside.bytes, ?_, traces_run ⟨[], ⟨none, []⟩⟩ _⟩
  rw [beside.trace]
  exact (linked_run (observations parts e ops)).files

end Observer

end Revice.Bustrace

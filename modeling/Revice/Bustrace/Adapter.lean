/- Module: Revice/Bustrace/Adapter
   source: libs/bustrace/vice/soundbustrace.c
   digest: The emulator's side of the bus trace: the target file, opened late and closed early. -/

import Revice.Bustrace.Core
import Revice.General.Text

set_option autoImplicit false
set_option relaxedAutoImplicit false

namespace Revice.Bustrace

open Revice.General

structure HostFile where
  name : CString
  chunks : List (List U8)
  closed : Bool

inductive LogLine
  | warning (text : Text)
  | message (text : Text)
  deriving DecidableEq

/-- The static variables of the adapter and the host's files, in the order in
which they were opened. A file handle is a position in that order; `ctx` is the
handle that the core passes to the emit callback. -/
structure BustraceSys where
  bustraceFilename : Option CString
  bustraceFd : Option Nat
  bustraceCore : ReviceBustrace
  ctx : Option Nat
  bustraceOpen : Int
  files : List HostFile

def bustraceSysInit : BustraceSys where
  bustraceFilename := none
  bustraceFd := none
  bustraceCore := ⟨false, 0, 0, 0, false⟩
  ctx := none
  bustraceOpen := 0
  files := []

/-- The host does not refuse a write to a file that has been closed. -/
def HostFile.write (file : HostFile) (buf : List U8) : HostFile :=
  { file with chunks := file.chunks ++ [buf] }

def HostFile.close (file : HostFile) : HostFile := { file with closed := true }

def bustraceFileEmit (ctx : Option Nat) (files : List HostFile) (buf : List U8) : List HostFile :=
  match ctx with
  | none => files
  | some f => if buf.length > 0 then files.modify f (·.write buf) else files

def BustraceSys.emitted (sys : BustraceSys) (chunks : List (List U8)) : BustraceSys :=
  { sys with files := chunks.foldl (bustraceFileEmit sys.ctx) sys.files }

def BustraceSys.coreAccess (sys : BustraceSys) (a : Access) : BustraceSys :=
  let done := reviceBustraceAccess sys.bustraceCore a
  { sys with bustraceCore := done.1 }.emitted done.2

def BustraceSys.coreEnd (sys : BustraceSys) : BustraceSys :=
  let done := reviceBustraceEnd sys.bustraceCore
  { sys with bustraceCore := done.1 }.emitted done.2

/-- A null name and an empty one turn the feature off. -/
def BustraceSys.isEnabled (sys : BustraceSys) : Bool :=
  match sys.bustraceFilename with
  | none => false
  | some name => name.bytes ≠ []

/-- One observed memory access, with what the host answers if it is asked: its
clock rate, and whether `fopen` succeeds. -/
structure Observed where
  access : Access
  cyclesPerSecond : U64
  fopenOk : Bool

def bustraceEnsureOpen (sys : BustraceSys) (cyclesPerSecond : U64) (fopenOk : Bool) :
    BustraceSys × List LogLine :=
  if sys.bustraceOpen ≠ 0 then (sys, [])
  else
    match sys.bustraceFilename with
    | none => (sys, [])
    | some name =>
      if name.bytes = [] then (sys, [])
      else if fopenOk then
        let begun := reviceBustraceBegin cyclesPerSecond true
        let opened : BustraceSys :=
          { sys with
            bustraceFd := some sys.files.length
            ctx := some sys.files.length
            bustraceCore := begun.1
            files := sys.files ++ [⟨name, [], false⟩] }
        ({ opened.emitted begun.2 with bustraceOpen := 1 },
          [.message (str "bustrace: writing CPU bus trace to '" ++ name.bytes ++ str "'")])
      else
        ({ sys with bustraceFd := none, bustraceOpen := -1 },
          [.warning (str "bustrace: cannot open '" ++ name.bytes ++ str "'")])

def bustraceObserveAccess (sys : BustraceSys) (observed : Observed) :
    BustraceSys × List LogLine :=
  if !sys.isEnabled then (sys, [])
  else
    let opened := if sys.bustraceOpen = 0
      then bustraceEnsureOpen sys observed.cyclesPerSecond observed.fopenOk else (sys, [])
    if opened.1.bustraceOpen ≠ 1 then opened
    else (opened.1.coreAccess observed.access, opened.2)

def bustraceEndOpen (sys : BustraceSys) : BustraceSys :=
  if sys.bustraceOpen = 1 then sys.coreEnd else sys

def bustraceCloseFd (sys : BustraceSys) : BustraceSys :=
  match sys.bustraceFd with
  | none => { sys with bustraceOpen := 0 }
  | some f =>
    { sys with
      files := sys.files.modify f HostFile.close
      bustraceFd := none
      bustraceOpen := 0 }

def bustraceShutdown (sys : BustraceSys) : BustraceSys × List LogLine :=
  let ended := bustraceEndOpen sys
  let log := if sys.bustraceOpen = 1
    then [.message (str "bustrace: " ++ decimal ended.bustraceCore.recCount.toNat ++
      str " records written")]
    else []
  ({ bustraceCloseFd ended with bustraceFilename := none }, log)

def setBustraceFilename (sys : BustraceSys) (val : Option CString) : BustraceSys :=
  { bustraceCloseFd (bustraceEndOpen sys) with bustraceFilename := val }

inductive BustraceOp
  | setFilename (val : Option CString)
  | observeAccess (observed : Observed)
  | shutdown

def BustraceOp.perform (sys : BustraceSys) : BustraceOp → BustraceSys × List LogLine
  | .setFilename val => (setBustraceFilename sys val, [])
  | .observeAccess observed => bustraceObserveAccess sys observed
  | .shutdown => bustraceShutdown sys

def bustraceAdapter : Machine BustraceSys BustraceOp LogLine where
  step := BustraceOp.perform
  enabled := fun _ _ => True

def bustraceRun (ops : List BustraceOp) : BustraceSys := bustraceAdapter.exec bustraceSysInit ops

theorem bustraceRun_snoc (ops : List BustraceOp) (op : BustraceOp) :
    bustraceRun (ops ++ [op]) = (op.perform (bustraceRun ops)).1 :=
  bustraceAdapter.exec_snoc _ _ _

end Revice.Bustrace

/- Module: Revice/Binmon/Session
   source: integration/vice/patches (03, 06), libs/keymatrix/vice/mon_keymatrix.c,
     libs/screen/vice/mon_screen.c, libs/screen/vice/c64screen.c
   digest: The binary monitor's commands on the adapters, between everything else that happens. -/

import Revice.Driveattach.Routed
import Revice.Keymatrix.Adapter
import Revice.Keymatrix.Response
import Revice.Screen.Adapter

set_option autoImplicit false
set_option relaxedAutoImplicit false

namespace Revice.Binmon

open Revice.General
open Revice.Driveattach (AttachDisk BinaryCommand DaRequest MonCall MonErr)
open Revice.Keymatrix (HostCall MonKm MonKmOp Vice)
open Revice.Screen (C64 MonScreen)

def monCmdKeymatrixSet : U8 := 0x74
def monCmdKeymatrixTap : U8 := 0x75
def monCmdKeymatrixGet : U8 := 0x76
def monCmdScreenGet : U8 := 0x77
def monCmdDriveAttach : U8 := 0x78

/-- A command with the moment it meets: the clock, the answer of the drives, and what the
uninitialised locals of the handlers hold. -/
structure BinaryTick where
  type : U8
  command : BinaryCommand
  now : U64
  cyclesPerFrame : U64
  fileSystemAttachDisk : AttachDisk
  req : DaRequest
  keymatrixBuf : List U8
  screenBuf : List U8
  keymatrixSize : keymatrixBuf.length = 24
  screenSize : screenBuf.length = 4072

def BinaryTick.content (tick : BinaryTick) : List U8 :=
  tick.command.body.take tick.command.length.toNat

structure BinmonSys (ε α : Type) where
  km : MonKm ε α
  screen : MonScreen
  c64 : C64

/-- What a step asks of the monitor and the drives, and of the host of the keymatrix core. -/
inductive BinmonOut
  | mon (call : MonCall)
  | host (call : HostCall)

section Handlers

variable {ε α : Type} [Vice ε α] (s : BinmonSys ε α) (tick : BinaryTick)

def keymatrixDone (type : U8) (done : Int × MonKm ε α × List HostCall) :
    BinmonSys ε α × List BinmonOut :=
  ({ s with km := done.2.1 },
    done.2.2.map BinmonOut.host ++
      [.mon (if done.1 ≠ 0 then .monitorBinaryError .cmdInvalidLength tick.command.requestId
        else .monitorBinaryResponse 0 type .ok tick.command.requestId none)])

def monitorBinaryProcessKeymatrixSet : BinmonSys ε α × List BinmonOut :=
  keymatrixDone s tick monCmdKeymatrixSet
    (Keymatrix.monKeymatrixBinmonSet tick.now tick.cyclesPerFrame tick.content s.km)

def monitorBinaryProcessKeymatrixTap : BinmonSys ε α × List BinmonOut :=
  keymatrixDone s tick monCmdKeymatrixTap
    (Keymatrix.monKeymatrixBinmonTap tick.now tick.cyclesPerFrame tick.content s.km)

def monitorBinaryProcessKeymatrixGet : BinmonSys ε α × List BinmonOut :=
  let done := Keymatrix.monKeymatrixBinmonGet tick.now tick.cyclesPerFrame
    ⟨some tick.keymatrixBuf, some 24⟩ s.km
  ({ s with km := done.2 },
    [.mon (if done.1.1 ≠ 0 then .monitorBinaryError .cmdFailure tick.command.requestId
      else .monitorBinaryResponse (done.1.2.outLength.getD 0) monCmdKeymatrixGet .ok
        tick.command.requestId done.1.2.out)])

def monitorBinaryProcessScreenGet : BinmonSys ε α × List BinmonOut :=
  let done := Screen.monScreenBinmonGet s.screen s.c64 (some tick.screenBuf) (some 4072)
  (s,
    [.mon (if done.rc ≠ 0 then .monitorBinaryError .cmdFailure tick.command.requestId
      else .monitorBinaryResponse (done.outLen.getD 0) monCmdScreenGet .ok
        tick.command.requestId done.buf)])

def monitorBinaryProcessDriveAttach : BinmonSys ε α × List BinmonOut :=
  (s, (Driveattach.monitorBinaryProcessDriveAttachRouted tick.fileSystemAttachDisk tick.req
    tick.command).map BinmonOut.mon)

/-- The branches that the patch adds; the others belong to the emulator. -/
def monitorBinaryProcessCommand : BinmonSys ε α × List BinmonOut :=
  if tick.type = monCmdKeymatrixSet then monitorBinaryProcessKeymatrixSet s tick
  else if tick.type = monCmdKeymatrixTap then monitorBinaryProcessKeymatrixTap s tick
  else if tick.type = monCmdKeymatrixGet then monitorBinaryProcessKeymatrixGet s tick
  else if tick.type = monCmdScreenGet then monitorBinaryProcessScreenGet s tick
  else if tick.type = monCmdDriveAttach then monitorBinaryProcessDriveAttach s tick
  else (s, [])

end Handlers

/-- What happens: a command of the binary monitor, anything else that the keymatrix adapter
takes part in, the start of a C64, and the emulated machine running on. -/
inductive BinmonOp (α : Type)
  | command (tick : BinaryTick)
  | keymatrix (op : MonKmOp α)
  | c64screenInit
  | machine (c64 : C64)

def BinaryTick.Ours (tick : BinaryTick) : Prop :=
  tick.type = monCmdKeymatrixSet ∨ tick.type = monCmdKeymatrixTap ∨
    tick.type = monCmdKeymatrixGet ∨ tick.type = monCmdScreenGet ∨ tick.type = monCmdDriveAttach

section Machine

variable {ε α : Type} [Vice ε α]

def BinmonOp.perform (s : BinmonSys ε α) : BinmonOp α → BinmonSys ε α × List BinmonOut
  | .command tick => monitorBinaryProcessCommand s tick
  | .keymatrix op => ({ s with km := (op.perform s.km).1 }, (op.perform s.km).2.map .host)
  | .c64screenInit => ({ s with screen := Screen.c64screenInit s.screen }, [])
  | .machine c64 => ({ s with c64 := c64 }, [])

def BinmonOp.enabled (s : BinmonSys ε α) : BinmonOp α → Prop
  | .command tick => tick.Ours
  | .keymatrix op => op.enabled s.km
  | .c64screenInit => True
  | .machine _ => True

def binmonMachine : Machine (BinmonSys ε α) (BinmonOp α) BinmonOut where
  step := BinmonOp.perform
  enabled := BinmonOp.enabled

def binmonInit (e : ε) (c64 : C64) : BinmonSys ε α :=
  ⟨Keymatrix.monKmInit e, Screen.monScreenInit, c64⟩

end Machine

end Revice.Binmon

/- Module: Revice/Driveattach/Core
   source: libs/driveattach/src/driveattach_core.c, integration/vice/patches (03, 06)
   digest: The drive-attach body decoder, and the monitor command before and after it. -/

import Revice.General.Cursor
import Revice.General.Text

set_option autoImplicit false
set_option relaxedAutoImplicit false

namespace Revice.Driveattach

open Revice.General

inductive DaStatus
  | ok
  | errLength
  | errParam
  deriving DecidableEq

def daPathMax : Nat := 256

structure PathBuf where
  cells : List U8
  size : cells.length = daPathMax
  deriving DecidableEq

def PathBuf.zeroed : PathBuf := ⟨List.replicate daPathMax 0#8, List.length_replicate⟩

def PathBuf.fill (buf : PathBuf) (bytes : List U8) : PathBuf where
  cells := (Cursor.puts ⟨buf.cells, 0⟩ (bytes ++ [0#8])).buf
  size := (Cursor.length_puts _ _).trans buf.size

structure DaRequest where
  detach : Int
  unit : U8
  drive : U8
  path : PathBuf
  deriving DecidableEq

def DaRequest.zeroed : DaRequest := ⟨0, 0#8, 0#8, .zeroed⟩

/-- The decoder's status and what it leaves in `out`; `none` is a null pointer. -/
def daDecode (body : Option (List U8)) (length : U32) (out : Option DaRequest) :
    DaStatus × Option DaRequest :=
  match body, out with
  | some body, some _ =>
    if length < 3#32 then (.errLength, out)
    else
      let unit := body.getD 0 0
      let drive := body.getD 1 0
      let pathLen := body.getD 2 0
      if length < 3#32 + pathLen.setWidth 32 then (.errLength, out)
      else if unit < 8#8 ∨ unit > 11#8 ∨ drive > 1#8 then (.errParam, out)
      else
        let req : DaRequest := { DaRequest.zeroed with unit := unit, drive := drive }
        if pathLen = 0#8 then (.ok, some { req with detach := 1 })
        else
          (.ok, some { req with
            detach := 0, path := req.path.fill ((body.drop 3).take pathLen.toNat) })
  | _, _ => (.errParam, out)

/-- A command of the binary monitor, with at least `length` bytes of body. -/
structure BinaryCommand where
  body : List U8
  length : U32
  requestId : U32
  held : length.toNat ≤ body.length

inductive MonErr
  | ok
  | cmdInvalidLength
  | invalidParameter
  | cmdFailure
  deriving DecidableEq

def monResponseDriveAttach : U8 := 0x78#8

/-- What a handler asks of the monitor and of the drives. -/
inductive MonCall
  | monitorBinaryError (err : MonErr) (requestId : U32)
  | monitorBinaryResponse (length : U32) (type : U8) (err : MonErr) (requestId : U32)
      (body : Option (List U8))
  | fileSystemDetachDisk (unit drive : U8)
  | fileSystemAttachDisk (unit drive : U8) (path : Text)
  deriving DecidableEq

abbrev AttachDisk := U8 → U8 → Text → Int

def monitorBinaryDriveAttached (requestId : U32) : MonCall :=
  .monitorBinaryResponse 0#32 monResponseDriveAttach .ok requestId none

section Handlers

variable (fileSystemAttachDisk : AttachDisk)

/-- The handler that validates in place; `pathBuf` is its uninitialised local. -/
def monitorBinaryProcessDriveAttachInline (pathBuf : PathBuf) (command : BinaryCommand) :
    List MonCall :=
  if command.length < 3#32 then [.monitorBinaryError .cmdInvalidLength command.requestId]
  else
    let unit := command.body.getD 0 0
    let drive := command.body.getD 1 0
    let pathLen := command.body.getD 2 0
    if command.length < 3#32 + pathLen.setWidth 32 then
      [.monitorBinaryError .cmdInvalidLength command.requestId]
    else if unit < 8#8 ∨ unit > 11#8 ∨ drive > 1#8 then
      [.monitorBinaryError .invalidParameter command.requestId]
    else if pathLen = 0#8 then
      [.fileSystemDetachDisk unit drive, monitorBinaryDriveAttached command.requestId]
    else
      let pathBuf := pathBuf.fill ((command.body.drop 3).take pathLen.toNat)
      let path := cText pathBuf.cells
      if fileSystemAttachDisk unit drive path < 0 then
        [.fileSystemAttachDisk unit drive path,
          .monitorBinaryError .cmdFailure command.requestId]
      else
        [.fileSystemAttachDisk unit drive path, monitorBinaryDriveAttached command.requestId]

/-- The handler on top of the decoder; `req` is its uninitialised local. -/
def monitorBinaryProcessDriveAttachRouted (req : DaRequest) (command : BinaryCommand) :
    List MonCall :=
  match daDecode (some command.body) command.length (some req) with
  | (.ok, out) =>
    let req := out.getD req
    if req.detach ≠ 0 then
      [.fileSystemDetachDisk req.unit req.drive, monitorBinaryDriveAttached command.requestId]
    else
      let path := cText req.path.cells
      if fileSystemAttachDisk req.unit req.drive path < 0 then
        [.fileSystemAttachDisk req.unit req.drive path,
          .monitorBinaryError .cmdFailure command.requestId]
      else
        [.fileSystemAttachDisk req.unit req.drive path,
          monitorBinaryDriveAttached command.requestId]
  | (.errLength, _) => [.monitorBinaryError .cmdInvalidLength command.requestId]
  | (.errParam, _) => [.monitorBinaryError .invalidParameter command.requestId]

end Handlers

end Revice.Driveattach

/- Module: Revice/Driveattach/Routed
   source: libs/driveattach, integration/vice/patches (03, 06), README.md
   digest: The drive-attach command means the same on top of the decoder as it did in place. -/

import Revice.Driveattach.Core

set_option autoImplicit false
set_option relaxedAutoImplicit false

namespace Revice.Driveattach

open Revice.General

private theorem fill_cells (buf : PathBuf) {bytes : List U8} (fits : bytes.length < daPathMax) :
    (buf.fill bytes).cells = bytes ++ 0#8 :: buf.cells.drop (bytes.length + 1) := by
  have room : 0 + (bytes ++ [0#8]).length ≤ buf.cells.length := by
    rw [buf.size, List.length_append, List.length_singleton]
    omega
  refine (Cursor.puts_buf ⟨buf.cells, 0⟩ _ room).trans ?_
  simp only [List.take_zero, List.nil_append, List.append_assoc, List.singleton_append,
    List.length_append, List.length_singleton, Nat.zero_add]

private theorem cText_fill (buf : PathBuf) {bytes : List U8} (fits : bytes.length < daPathMax) :
    cText (buf.fill bytes).cells = cText bytes := by
  rw [fill_cells buf fits, cText_terminated]

private theorem fill_zeroed {bytes : List U8} (fits : bytes.length < daPathMax) :
    (PathBuf.zeroed.fill bytes).cells =
      bytes ++ List.replicate (daPathMax - bytes.length) 0#8 := by
  have behind : daPathMax - bytes.length = daPathMax - (bytes.length + 1) + 1 := by
    omega
  rw [fill_cells _ fits, PathBuf.zeroed, List.drop_replicate, behind, List.replicate_succ]

namespace BinaryCommand

variable (command : BinaryCommand)

def unit : U8 := command.body.getD 0 0

def drive : U8 := command.body.getD 1 0

def pathLen : U8 := command.body.getD 2 0

def path : List U8 := (command.body.drop 3).take command.pathLen.toNat

/-- Too short for the three leading bytes, or for the path they announce. -/
def TooShort : Prop :=
  command.length.toNat < 3 ∨ command.length.toNat < 3 + command.pathLen.toNat

def BadSlot : Prop :=
  ¬(8 ≤ command.unit.toNat ∧ command.unit.toNat ≤ 11 ∧ command.drive.toNat ≤ 1)

instance : Decidable command.TooShort := inferInstanceAs (Decidable (_ ∨ _))

instance : Decidable command.BadSlot := inferInstanceAs (Decidable (¬_))

def record : DaRequest :=
  if command.pathLen = 0#8 then ⟨1, command.unit, command.drive, .zeroed⟩
  else ⟨0, command.unit, command.drive, PathBuf.zeroed.fill command.path⟩

private theorem path_fits : command.path.length < daPathMax := by
  have announced : command.path.length ≤ command.pathLen.toNat := List.length_take_le _ _
  have byte : command.pathLen.toNat < 256 := command.pathLen.isLt
  exact announced.trans_lt byte

end BinaryCommand

/-- What one command comes to, whatever the drives answer. -/
inductive DriveOutcome
  | rejected (err : MonErr)
  | detach (unit drive : U8)
  | attach (unit drive : U8) (path : Text)
  deriving DecidableEq

/-- A length error wins over a bad slot. -/
def BinaryCommand.outcome (command : BinaryCommand) : DriveOutcome :=
  if command.TooShort then .rejected .cmdInvalidLength
  else if command.BadSlot then .rejected .invalidParameter
  else if command.pathLen = 0#8 then .detach command.unit command.drive
  else .attach command.unit command.drive (cText command.path)

def DriveOutcome.calls (fileSystemAttachDisk : AttachDisk) (requestId : U32) :
    DriveOutcome → List MonCall
  | .rejected err => [.monitorBinaryError err requestId]
  | .detach unit drive => [.fileSystemDetachDisk unit drive, monitorBinaryDriveAttached requestId]
  | .attach unit drive path =>
    [.fileSystemAttachDisk unit drive path,
      if fileSystemAttachDisk unit drive path < 0 then .monitorBinaryError .cmdFailure requestId
      else monitorBinaryDriveAttached requestId]

section Checks

variable {command : BinaryCommand}

private theorem short_header : command.length < 3#32 ↔ command.length.toNat < 3 := Iff.rfl

private theorem short_path :
    command.length < 3#32 + (command.body.getD 2 0).setWidth 32 ↔
      command.length.toNat < 3 + command.pathLen.toNat := by
  have byte : command.pathLen.toNat < 256 := command.pathLen.isLt
  rw [BinaryCommand.pathLen] at byte ⊢
  rw [BitVec.lt_def, BitVec.toNat_add, BitVec.toNat_setWidth, BitVec.toNat_ofNat]
  omega

private theorem bad_slot :
    (command.body.getD 0 0 < 8#8 ∨ command.body.getD 0 0 > 11#8 ∨ command.body.getD 1 0 > 1#8) ↔
      command.BadSlot := by
  rw [BinaryCommand.BadSlot, BinaryCommand.unit, BinaryCommand.drive]
  simp only [gt_iff_lt, BitVec.lt_def, BitVec.toNat_ofNat]
  omega

end Checks

section Decode

variable {command : BinaryCommand} (out : DaRequest)

private theorem daDecode_tooShort (short : command.TooShort) :
    daDecode (some command.body) command.length (some out) = (.errLength, some out) := by
  rw [daDecode]
  by_cases header : command.length < 3#32
  · rw [if_pos header]
  · have announced := short.resolve_left (mt short_header.mpr header)
    rw [if_neg header, if_pos (short_path.mpr announced)]

private theorem daDecode_badSlot (whole : ¬command.TooShort) (bad : command.BadSlot) :
    daDecode (some command.body) command.length (some out) = (.errParam, some out) := by
  rw [BinaryCommand.TooShort, not_or] at whole
  rw [daDecode, if_neg (mt short_header.mp whole.1), if_neg (mt short_path.mp whole.2),
    if_pos (bad_slot.mpr bad)]

private theorem daDecode_accepted (whole : ¬command.TooShort) (good : ¬command.BadSlot) :
    daDecode (some command.body) command.length (some out) = (.ok, some command.record) := by
  rw [BinaryCommand.TooShort, not_or] at whole
  rw [daDecode, if_neg (mt short_header.mp whole.1), if_neg (mt short_path.mp whole.2),
    if_neg (mt bad_slot.mp good), BinaryCommand.record, BinaryCommand.pathLen]
  split
  · rfl
  · rfl

end Decode

section Handlers

variable (fileSystemAttachDisk : AttachDisk)

private theorem attach_calls (requestId : U32) (unit drive : U8) (path : Text) :
    (DriveOutcome.attach unit drive path).calls fileSystemAttachDisk requestId =
      if fileSystemAttachDisk unit drive path < 0 then
        [.fileSystemAttachDisk unit drive path, .monitorBinaryError .cmdFailure requestId]
      else [.fileSystemAttachDisk unit drive path, monitorBinaryDriveAttached requestId] := by
  rw [DriveOutcome.calls]
  split
  · rfl
  · rfl

variable (command : BinaryCommand)

private theorem inline_calls (pathBuf : PathBuf) :
    monitorBinaryProcessDriveAttachInline fileSystemAttachDisk pathBuf command =
      command.outcome.calls fileSystemAttachDisk command.requestId := by
  rw [monitorBinaryProcessDriveAttachInline, BinaryCommand.outcome]
  by_cases short : command.TooShort
  · rw [if_pos short]
    by_cases header : command.length < 3#32
    · rw [if_pos header]
      rfl
    · have announced := short.resolve_left (mt short_header.mpr header)
      rw [if_neg header, if_pos (short_path.mpr announced)]
      rfl
  · have whole := not_or.mp short
    rw [if_neg short, if_neg (mt short_header.mp whole.1), if_neg (mt short_path.mp whole.2)]
    by_cases bad : command.BadSlot
    · rw [if_pos (bad_slot.mpr bad), if_pos bad]
      rfl
    · rw [if_neg (mt bad_slot.mp bad), if_neg bad]
      by_cases empty : command.pathLen = 0#8
      · rw [if_pos empty]
        exact if_pos empty
      · have read := cText_fill pathBuf command.path_fits
        rw [if_neg empty, attach_calls, ← read]
        exact if_neg empty

theorem routed_calls (req : DaRequest) :
    monitorBinaryProcessDriveAttachRouted fileSystemAttachDisk req command =
      command.outcome.calls fileSystemAttachDisk command.requestId := by
  rw [monitorBinaryProcessDriveAttachRouted, BinaryCommand.outcome]
  by_cases short : command.TooShort
  · rw [daDecode_tooShort req short, if_pos short]
    rfl
  · rw [if_neg short]
    by_cases bad : command.BadSlot
    · rw [daDecode_badSlot req short bad, if_pos bad]
      rfl
    · rw [daDecode_accepted req short bad, if_neg bad, BinaryCommand.record]
      by_cases empty : command.pathLen = 0#8
      · rw [if_pos empty, if_pos empty]
        rfl
      · rw [if_neg empty, if_neg empty]
        have read := cText_fill PathBuf.zeroed command.path_fits
        rw [attach_calls, ← read]
        rfl

end Handlers

/-- A request that can be sent: a slot, and a path that is empty to detach it. -/
structure DriveRequest where
  unit : U8
  drive : U8
  path : CString
  unitRange : 8 ≤ unit.toNat ∧ unit.toNat ≤ 11
  driveRange : drive.toNat ≤ 1
  fits : path.bytes.length ≤ 255

namespace DriveRequest

variable (request : DriveRequest)

def encode : List U8 :=
  [request.unit, request.drive, BitVec.ofNat 8 request.path.bytes.length] ++ request.path.bytes

/-- A record that holds exactly the request, with nothing but NULs behind the path. -/
structure DecodedAs (req : DaRequest) : Prop where
  unit : req.unit = request.unit
  drive : req.drive = request.drive
  detach : req.detach = if request.path.bytes = [] then 1 else 0
  path : req.path.cells =
    request.path.bytes ++ List.replicate (daPathMax - request.path.bytes.length) 0#8
  text : cText req.path.cells = request.path.bytes

/-- The command starts with the encoded request, and its length covers that. -/
structure SentBy (command : BinaryCommand) : Prop where
  body : ∃ trailing, command.body = request.encode ++ trailing
  length : request.encode.length ≤ command.length.toNat

variable {request} {command : BinaryCommand} (sent : request.SentBy command)

include sent

private theorem sent_unit : command.unit = request.unit := by
  obtain ⟨trailing, body⟩ := sent.body
  rw [BinaryCommand.unit, body]
  rfl

private theorem sent_drive : command.drive = request.drive := by
  obtain ⟨trailing, body⟩ := sent.body
  rw [BinaryCommand.drive, body]
  rfl

private theorem sent_pathLen : command.pathLen.toNat = request.path.bytes.length := by
  obtain ⟨trailing, body⟩ := sent.body
  have announced : command.pathLen = BitVec.ofNat 8 request.path.bytes.length := by
    rw [BinaryCommand.pathLen, body]
    rfl
  rw [announced, BitVec.toNat_ofNat]
  exact Nat.mod_eq_of_lt (Nat.lt_succ_of_le request.fits)

private theorem sent_path : command.path = request.path.bytes := by
  obtain ⟨trailing, body⟩ := sent.body
  rw [BinaryCommand.path, sent_pathLen sent, body]
  exact List.take_left

private theorem sent_whole : ¬command.TooShort := by
  have announced := sent_pathLen sent
  have covered := sent.length
  simp only [encode, List.length_append, List.length_cons, List.length_nil] at covered
  rw [BinaryCommand.TooShort]
  omega

private theorem sent_slot : ¬command.BadSlot := by
  have unitRange := request.unitRange
  have driveRange := request.driveRange
  rw [BinaryCommand.BadSlot, not_not, sent_unit sent, sent_drive sent]
  exact ⟨unitRange.1, unitRange.2, driveRange⟩

private theorem sent_detach : command.pathLen = 0#8 ↔ request.path.bytes = [] := by
  rw [← BitVec.toNat_inj, sent_pathLen sent, ← List.length_eq_zero_iff]
  rfl

private theorem sent_decodedAs : request.DecodedAs command.record := by
  have fits : request.path.bytes.length < daPathMax := Nat.lt_succ_of_le request.fits
  have padded := cText_padded request.path (Nat.sub_pos_of_lt fits)
  rw [BinaryCommand.record]
  split
  · rename_i empty
    have nothing := (sent_detach sent).mp empty
    have cells : PathBuf.zeroed.cells =
        request.path.bytes ++ List.replicate (daPathMax - request.path.bytes.length) 0#8 := by
      rw [nothing]
      rfl
    exact ⟨sent_unit sent, sent_drive sent, (if_pos nothing).symm, cells,
      (congrArg cText cells).trans padded⟩
  · rename_i path
    have cells := fill_zeroed fits
    rw [sent_path sent]
    exact ⟨sent_unit sent, sent_drive sent, (if_neg (mt (sent_detach sent).mpr path)).symm,
      cells, (congrArg cText cells).trans padded⟩

end DriveRequest

/-- The handler on top of the decoder calls what the handler in place called; the decoder
returns what was sent, and leaves `out` alone where it refuses. -/
theorem drive_attach_routed :
    (∀ (fileSystemAttachDisk : AttachDisk) (pathBuf : PathBuf) (req : DaRequest)
        (command : BinaryCommand),
      monitorBinaryProcessDriveAttachRouted fileSystemAttachDisk req command =
          monitorBinaryProcessDriveAttachInline fileSystemAttachDisk pathBuf command ∧
        monitorBinaryProcessDriveAttachInline fileSystemAttachDisk pathBuf command =
          command.outcome.calls fileSystemAttachDisk command.requestId) ∧
      (∀ (request : DriveRequest) (command : BinaryCommand) (out : DaRequest),
        request.SentBy command →
        ∃ req, daDecode (some command.body) command.length (some out) = (.ok, some req) ∧
          request.DecodedAs req) ∧
      ∀ (command : BinaryCommand) (out : DaRequest), command.TooShort ∨ command.BadSlot →
        (daDecode (some command.body) command.length (some out)).1 ≠ .ok ∧
          (daDecode (some command.body) command.length (some out)).2 = some out := by
  refine ⟨?_, ?_, ?_⟩
  · intro fileSystemAttachDisk pathBuf req command
    have inline := inline_calls fileSystemAttachDisk command pathBuf
    exact ⟨(routed_calls fileSystemAttachDisk command req).trans inline.symm, inline⟩
  · intro request command out sent
    exact ⟨_, daDecode_accepted out (DriveRequest.sent_whole sent) (DriveRequest.sent_slot sent),
      DriveRequest.sent_decodedAs sent⟩
  · intro command out refused
    by_cases short : command.TooShort
    · rw [daDecode_tooShort out short]
      exact ⟨DaStatus.noConfusion, rfl⟩
    · rw [daDecode_badSlot out short (refused.resolve_left short)]
      exact ⟨DaStatus.noConfusion, rfl⟩

theorem drive_attach_routed_x_d64 :
    ∃ req, daDecode (some ([8#8, 0#8, 5#8] ++ str "x.d64" ++ [0xff#8])) 9#32 (some .zeroed) =
        (.ok, some req) ∧
      req.detach = 0 ∧ cText req.path.cells = str "x.d64" := by
  obtain ⟨req, decoded, same⟩ := drive_attach_routed.2.1
    ⟨8#8, 0#8, ⟨str "x.d64", by decide⟩, by decide, by decide, by decide⟩
    ⟨[8#8, 0#8, 5#8] ++ str "x.d64" ++ [0xff#8], 9#32, 0#32, by decide⟩ .zeroed
    ⟨⟨[0xff#8], rfl⟩, by decide⟩
  exact ⟨req, decoded, same.detach, same.text⟩

end Revice.Driveattach

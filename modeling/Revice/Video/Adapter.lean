/- Module: Revice/Video/Adapter
   source: libs/video/vice/mon_video.c, libs/video/src/video_core.c
   digest: What a stop restores, whatever the user and the recorder have done since the start. -/

import Revice.Video.Recorder

set_option autoImplicit false
set_option relaxedAutoImplicit false

namespace Revice.Video

open Revice.General

structure MonVideo where
  vid : VideoCore
  vidInited : Bool
  deriving DecidableEq

def monVideoStart : MonVideo := ⟨⟨0, false⟩, false⟩

def MonVideo.vidEnsure (m : MonVideo) : MonVideo :=
  if !m.vidInited then ⟨videoCoreInit, true⟩ else m

/-- A request as the adapter gets it: a body with its length, which may be negative. -/
structure RecordCall where
  body : List U8
  length : Int
  held : length ≤ body.length

def monVideoBinmonRecord (host : VideoHost) (m : MonVideo) (call : RecordCall) :
    VideoResult × MonVideo × List VideoCall :=
  let m := m.vidEnsure
  if call.length < 0 then (.errLength, m, [])
  else
    let done := videoCoreBinmonRecord host m.vid (call.body.take call.length.toNat)
    (done.1, { m with vid := done.2.1 }, done.2.2)

structure MonVideoSys where
  mon : MonVideo
  env : VideoEnv
  deriving DecidableEq

/-- A request with the recorder's answers, and what the user and the recorder do without one. -/
inductive MonVideoOp
  | record (call : RecordCall) (accepts : Text → Bool)
  | setWarp (value : Int)
  | recordingStarts
  | recordingEnds

def MonVideoOp.perform (s : MonVideoSys) : MonVideoOp → MonVideoSys × List VideoCall
  | .record call accepts =>
    let done := monVideoBinmonRecord ⟨s.env.recording, s.env.warp, accepts⟩ s.mon call
    (⟨done.2.1, s.env.run done.2.2⟩, done.2.2)
  | .setWarp value => ({ s with env := { s.env with warp := value } }, [])
  | .recordingStarts => ({ s with env := { s.env with recording := true } }, [])
  | .recordingEnds => ({ s with env := { s.env with recording := false } }, [])

def monVideoMachine : Machine MonVideoSys MonVideoOp VideoCall where
  step := MonVideoOp.perform
  enabled := fun _ _ => True

def monVideoInit (env : VideoEnv) : MonVideoSys := ⟨monVideoStart, env⟩

/-- The core as it is once it has been set up. -/
def MonVideoSys.view (s : MonVideoSys) : VideoSys := ⟨s.mon.vidEnsure.vid, s.env⟩

def RecordCall.request (call : RecordCall) (accepts : Text → Bool) : VideoRequest :=
  ⟨call.body.take call.length.toNat, accepts⟩

/-- The warp mode that a stop gives back, if it does. -/
def VideoSys.owed (sys : VideoSys) : Option Int :=
  if sys.v.warpWasSaved then some sys.v.savedWarp else none

/-- What a request makes of the debt: a stop settles it; a start on an idle recorder opens one
over the warp mode that it finds, if the recorder accepts, and settles it if not. -/
def VideoRequest.effect (req : VideoRequest) (env : VideoEnv) : Option (Option Int) :=
  if req.isStop then some none
  else
    match req.path with
    | none => none
    | some path =>
      if env.recording then none else if req.accepts path then some (some env.warp) else some none

def MonVideoOp.effect (s : MonVideoSys) : MonVideoOp → Option (Option Int)
  | .record call accepts => if call.length < 0 then none else (call.request accepts).effect s.env
  | .setWarp _ => none
  | .recordingStarts => none
  | .recordingEnds => none

section Core

variable {req : VideoRequest} {sys next : VideoSys} {result : VideoResult} {calls : List VideoCall}

private theorem not_stop_of_path {path : Text} (wellFormed : req.path = some path) :
    req.isStop = false := by
  rw [VideoRequest.path] at wellFormed
  split at wellFormed
  · cases wellFormed
  · split at wellFormed
    · cases wellFormed
    · rename_i start
      rw [VideoRequest.isStop, decide_eq_false start, Bool.and_false]

theorem Records.owed (records : Records req sys result calls next) :
    next.owed = (req.effect sys.env).getD sys.owed := by
  cases records with
  | stop stop =>
    rw [VideoRequest.effect, if_pos stop]
    rfl
  | malformed plain malformed =>
    rw [VideoRequest.effect, plain, if_neg Bool.false_ne_true, malformed]
    rfl
  | refused wellFormed busy =>
    rw [VideoRequest.effect, not_stop_of_path wellFormed, if_neg Bool.false_ne_true, wellFormed]
    simp only [busy, if_true]
    rfl
  | started wellFormed idle accepts =>
    rw [VideoRequest.effect, not_stop_of_path wellFormed, if_neg Bool.false_ne_true, wellFormed]
    simp only [idle, accepts, if_true]
    rfl
  | failed wellFormed idle refuses =>
    rw [VideoRequest.effect, not_stop_of_path wellFormed, if_neg Bool.false_ne_true, wellFormed]
    simp only [idle, refuses]
    rfl

end Core

section Step

variable (s : MonVideoSys) (call : RecordCall) (accepts : Text → Bool)

private theorem vidEnsure_idem (m : MonVideo) : m.vidEnsure.vidEnsure = m.vidEnsure := by
  cases inited : m.vidInited <;> simp [MonVideo.vidEnsure, inited]

private theorem vidEnsure_inited (m : MonVideo) : m.vidEnsure.vidInited = true := by
  cases inited : m.vidInited <;> simp [MonVideo.vidEnsure, inited]

private theorem record_negative (negative : call.length < 0) :
    ((MonVideoOp.record call accepts).perform s).1.view = s.view ∧
      ((MonVideoOp.record call accepts).perform s).2 = [] := by
  simp only [MonVideoOp.perform, monVideoBinmonRecord, if_pos negative, and_true]
  rw [MonVideoSys.view, vidEnsure_idem]
  rfl

private theorem record_step (counted : ¬call.length < 0) :
    ((MonVideoOp.record call accepts).perform s).1.view = (call.request accepts).next s.view ∧
      ((MonVideoOp.record call accepts).perform s).2 =
        ((call.request accepts).perform s.view).2.2 := by
  simp only [MonVideoOp.perform, monVideoBinmonRecord, if_neg counted]
  refine ⟨?_, rfl⟩
  rw [MonVideoSys.view, MonVideo.vidEnsure, vidEnsure_inited]
  rfl

private theorem owed_step (op : MonVideoOp) :
    (monVideoMachine.step s op).1.view.owed = (op.effect s).getD s.view.owed := by
  cases op with
  | setWarp value => rfl
  | recordingStarts => rfl
  | recordingEnds => rfl
  | record call accepts =>
    change ((MonVideoOp.record call accepts).perform s).1.view.owed = _
    by_cases negative : call.length < 0
    · rw [MonVideoOp.effect, if_pos negative, (record_negative s _ _ negative).1]
      rfl
    · rw [MonVideoOp.effect, if_neg negative, (record_step s _ _ negative).1]
      exact (records_perform (call.request accepts) s.view).owed

end Step

private theorem isStop_request {call : RecordCall} (counted : 1 ≤ call.length)
    (stop : call.body.getD 0 0 = videoActionStop) (accepts : Text → Bool) :
    (call.request accepts).isStop = true := by
  have held := call.held
  obtain ⟨n, size⟩ : ∃ n, call.length.toNat = n + 1 := ⟨call.length.toNat - 1, by omega⟩
  cases bytes : call.body with
  | nil =>
    rw [bytes, List.length_nil] at held
    omega
  | cons b rest =>
    rw [bytes] at stop
    have first : (call.request accepts).body = b :: rest.take n := by
      rw [RecordCall.request, bytes, size, List.take_succ_cons]
    have same : (b :: rest.take n).getD 0 0 = videoActionStop := stop
    rw [VideoRequest.isStop, first, decide_eq_true same, Bool.and_true, List.length_cons]
    simp

private theorem owed_iff (env : VideoEnv) (ops : List MonVideoOp) (w : Int) :
    (monVideoMachine.exec (monVideoInit env) ops).view.owed = some w ↔
      monVideoMachine.Lasts MonVideoOp.effect (monVideoInit env) ops (some w) := by
  have rule := @Machine.last_effect _ _ _ monVideoMachine _ MonVideoOp.effect (monVideoInit env)
    ops (fun s => s.view.owed) owed_step (some w)
  have nothing : (monVideoInit env).view.owed = none := rfl
  rw [rule, nothing]
  simp

/-- What a stop does behind a run: it ends the recording; and where the last request that had
any effect was a start that the recorder accepted, it gives back the warp mode which that start
has found, and otherwise it leaves the warp mode alone. -/
structure Restores (env : VideoEnv) (ops : List MonVideoOp) (done : MonVideoSys × List VideoCall) :
    Prop where
  ended : done.1.env.recording = false
  restored : ∀ w, monVideoMachine.Lasts MonVideoOp.effect (monVideoInit env) ops (some w) →
    done.2 = [.stopRecording, .setWarp w] ∧ done.1.env.warp = w
  untouched : (¬∃ w, monVideoMachine.Lasts MonVideoOp.effect (monVideoInit env) ops (some w)) →
    done.2 = [.stopRecording] ∧
      done.1.env.warp = (monVideoMachine.exec (monVideoInit env) ops).env.warp

/-- In every run of requests with any bodies and lengths, between which the user changes the warp
mode and recordings start and end on their own: a stop gives back exactly the warp mode that the
last accepted start has found, whatever has happened since, and no other. -/
theorem stop_restores (env : VideoEnv) (ops : List MonVideoOp) (call : RecordCall)
    (accepts : Text → Bool) (counted : 1 ≤ call.length)
    (stop : call.body.getD 0 0 = videoActionStop) :
    Restores env ops (monVideoMachine.step (monVideoMachine.exec (monVideoInit env) ops)
      (.record call accepts)) := by
  have isStop := isStop_request counted stop accepts
  generalize reached : monVideoMachine.exec (monVideoInit env) ops = s
  have owed := owed_iff env ops
  rw [reached] at owed
  obtain ⟨view, calls⟩ := record_step s call accepts (by omega)
  rw [next_stop isStop] at view
  rw [perform_stop s.view isStop] at calls
  have env_eq := congrArg VideoSys.env view
  refine ⟨congrArg VideoEnv.recording env_eq, ?_, ?_⟩
  · intro w lasts
    have debt := (owed w).mpr lasts
    cases saved : s.view.v.warpWasSaved with
    | false =>
      rw [VideoSys.owed, saved] at debt
      cases debt
    | true =>
      rw [VideoSys.owed, saved, if_pos rfl, Option.some_inj] at debt
      rw [saved, debt] at calls env_eq
      exact ⟨calls, congrArg VideoEnv.warp env_eq⟩
  · intro settled
    cases saved : s.view.v.warpWasSaved with
    | false =>
      rw [saved] at calls env_eq
      refine ⟨calls, (congrArg VideoEnv.warp env_eq).trans ?_⟩
      rw [reached]
      rfl
    | true =>
      refine absurd ⟨s.view.v.savedWarp, (owed _).mp ?_⟩ settled
      rw [VideoSys.owed, saved, if_pos rfl]

def startCall : RecordCall := ⟨[1, 1, 0x61], 3, by decide⟩

def stopCall : RecordCall := ⟨[0], 1, by decide⟩

/-- The recording ends on its own, and the user turns warp off and on again. -/
def meddledRecording : List MonVideoOp :=
  [.record startCall fun _ => true, .setWarp 1, .recordingEnds, .setWarp 0]

theorem stop_restores_meddled : Restores ⟨false, 1⟩ meddledRecording
    (monVideoMachine.step (monVideoMachine.exec (monVideoInit ⟨false, 1⟩) meddledRecording)
      (.record stopCall fun _ => true)) :=
  stop_restores ⟨false, 1⟩ meddledRecording stopCall (fun _ => true) (by decide) (by decide)

end Revice.Video

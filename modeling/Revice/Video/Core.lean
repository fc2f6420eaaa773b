/- Module: Revice/Video/Core
   source: libs/video/src/video_core.c, libs/video/include/revice_video.h
   digest: The video-record request, the recorder it drives, and the warp mode it forces off. -/

import Revice.General.Machine
import Revice.General.Text

set_option autoImplicit false
set_option relaxedAutoImplicit false

namespace Revice.Video

open Revice.General

def videoActionStop : U8 := 0#8
def videoActionStart : U8 := 1#8

inductive VideoResult
  | ok
  | errLength
  | errFailure
  deriving DecidableEq

structure VideoHost where
  isRecording : Bool
  getWarp : Int
  /-- Whether the recorder accepts a path. -/
  startRecording : Text → Bool

/-- What the core asks of the emulator; a start carries the recorder's answer. -/
inductive VideoCall
  | startRecording (path : Text) (started : Bool)
  | stopRecording
  | setWarp (value : Int)
  deriving DecidableEq

structure VideoCore where
  savedWarp : Int
  /-- A forced warp-off is owed. -/
  warpWasSaved : Bool
  deriving DecidableEq

def videoCoreInit : VideoCore := ⟨0, false⟩

/-- The path of a start body, as the recorder reads it: up to the first NUL. -/
def startPath (body : List U8) : Option Text :=
  let pathLen := (body.getD 1 0).toNat
  if body.length < 2 then none
  else if pathLen = 0 || 2 + pathLen > body.length then none
  else some (((body.drop 2).take pathLen).takeWhile fun b => b ≠ 0#8)

def videoCoreBinmonRecord (host : VideoHost) (v : VideoCore) (body : List U8) :
    VideoResult × VideoCore × List VideoCall :=
  if body.length < 1 then (.errLength, v, [])
  else if body.getD 0 0 = videoActionStop then
    if v.warpWasSaved then
      (.ok, { v with warpWasSaved := false }, [.stopRecording, .setWarp v.savedWarp])
    else (.ok, v, [.stopRecording])
  else
    match startPath body with
    | none => (.errLength, v, [])
    | some path =>
      if host.isRecording then (.errFailure, v, [])
      else
        -- warp is off before the recorder is asked, and comes back if it refuses
        let v : VideoCore := ⟨host.getWarp, true⟩
        if host.startRecording path then (.ok, v, [.setWarp 0, .startRecording path true])
        else
          (.errFailure, { v with warpWasSaved := false },
            [.setWarp 0, .startRecording path false, .setWarp v.savedWarp])

structure VideoEnv where
  recording : Bool
  warp : Int
  deriving DecidableEq

def VideoEnv.apply (env : VideoEnv) : VideoCall → VideoEnv
  | .startRecording _ started => { env with recording := env.recording || started }
  | .stopRecording => { env with recording := false }
  | .setWarp value => { env with warp := value }

def VideoEnv.run (env : VideoEnv) (calls : List VideoCall) : VideoEnv :=
  calls.foldl VideoEnv.apply env

structure VideoSys where
  v : VideoCore
  env : VideoEnv
  deriving DecidableEq

/-- One request, with the recorder's answer to every path at that time. -/
structure VideoRequest where
  body : List U8
  accepts : Text → Bool

def VideoRequest.perform (req : VideoRequest) (sys : VideoSys) :
    VideoResult × VideoCore × List VideoCall :=
  videoCoreBinmonRecord ⟨sys.env.recording, sys.env.warp, req.accepts⟩ sys.v req.body

/-- A recording can also end without a request. -/
inductive VideoEvent
  | request (req : VideoRequest)
  | recordingEnds

def videoStep (sys : VideoSys) : VideoEvent → VideoSys × List VideoCall
  | .request req =>
    let done := req.perform sys
    (⟨done.2.1, sys.env.run done.2.2⟩, done.2.2)
  | .recordingEnds => ({ sys with env := { sys.env with recording := false } }, [])

def videoMachine : Machine VideoSys VideoEvent VideoCall where
  step := videoStep
  enabled := fun _ _ => True

def videoSysInit (recording : Bool) (w₀ : Int) : VideoSys := ⟨videoCoreInit, ⟨recording, w₀⟩⟩

/-- A start forces warp off; the stop that follows puts it back. -/
example : (videoMachine.exec (videoSysInit false 1)
      [.request ⟨[1, 2, 0x61, 0x62], fun _ => true⟩]).env = ⟨true, 0⟩ ∧
    (videoMachine.exec (videoSysInit false 1)
      [.request ⟨[1, 2, 0x61, 0x62], fun _ => true⟩,
        .request ⟨[0], fun _ => true⟩]).env = ⟨false, 1⟩ := by
  decide

end Revice.Video

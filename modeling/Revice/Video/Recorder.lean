/- Module: Revice/Video/Recorder
   source: libs/video/src/video_core.c, README.md
   digest: The recorder and the forced-off warp mode, over runs of record requests. -/

import Mathlib.Data.List.Infix
import Revice.Video.Core

set_option autoImplicit false
set_option relaxedAutoImplicit false

namespace Revice.Video

open Revice.General

def VideoRequest.isStop (req : VideoRequest) : Bool :=
  !decide (req.body.length < 1) && decide (req.body.getD 0 0 = videoActionStop)

def VideoRequest.path (req : VideoRequest) : Option Text :=
  if req.body.length < 1 then none
  else if req.body.getD 0 0 = videoActionStop then none
  else startPath req.body

section Perform

variable {req : VideoRequest} (sys : VideoSys)

theorem perform_stop (stop : req.isStop = true) :
    req.perform sys = (.ok, ⟨sys.v.savedWarp, false⟩,
      .stopRecording :: if sys.v.warpWasSaved then [.setWarp sys.v.savedWarp] else []) := by
  simp only [VideoRequest.isStop, Bool.and_eq_true, Bool.not_eq_true', decide_eq_false_iff_not,
    decide_eq_true_eq] at stop
  rw [VideoRequest.perform, videoCoreBinmonRecord, if_neg stop.1, if_pos stop.2]
  obtain ⟨⟨savedWarp, owed⟩, env⟩ := sys
  cases owed <;> rfl

theorem perform_malformed (plain : req.isStop = false) (malformed : req.path = none) :
    req.perform sys = (.errLength, sys.v, []) := by
  rw [VideoRequest.perform, videoCoreBinmonRecord]
  by_cases empty : req.body.length < 1
  · rw [if_pos empty]
  · have start : req.body.getD 0 0 ≠ videoActionStop := by
      intro stop
      simp only [VideoRequest.isStop, empty, stop, decide_false, decide_true, Bool.not_false,
        Bool.and_self, Bool.true_eq_false] at plain
    rw [VideoRequest.path, if_neg empty, if_neg start] at malformed
    rw [if_neg empty, if_neg start, malformed]

variable {path : Text} (wellFormed : req.path = some path)

include wellFormed

theorem perform_start :
    req.perform sys =
      if sys.env.recording then (.errFailure, sys.v, [])
      else if req.accepts path then
        (.ok, ⟨sys.env.warp, true⟩, [.setWarp 0, .startRecording path true])
      else
        (.errFailure, ⟨sys.env.warp, false⟩,
          [.setWarp 0, .startRecording path false, .setWarp sys.env.warp]) := by
  rw [VideoRequest.path] at wellFormed
  split at wellFormed
  · cases wellFormed
  · rename_i some
    split at wellFormed
    · cases wellFormed
    · rename_i start
      rw [VideoRequest.perform, videoCoreBinmonRecord, if_neg some, if_neg start, wellFormed]

end Perform

def VideoRequest.next (req : VideoRequest) (sys : VideoSys) : VideoSys :=
  (videoStep sys (.request req)).1

section Next

variable {req : VideoRequest} {sys : VideoSys}

theorem next_stop (stop : req.isStop = true) :
    req.next sys = ⟨⟨sys.v.savedWarp, false⟩,
      ⟨false, if sys.v.warpWasSaved then sys.v.savedWarp else sys.env.warp⟩⟩ := by
  simp only [VideoRequest.next, videoStep, perform_stop sys stop]
  split <;> rfl

private theorem next_malformed (plain : req.isStop = false) (malformed : req.path = none) :
    req.next sys = sys := by
  simp only [VideoRequest.next, videoStep, perform_malformed sys plain malformed]
  rfl

variable {path : Text} (wellFormed : req.path = some path)

include wellFormed

private theorem next_refused (busy : sys.env.recording = true) : req.next sys = sys := by
  simp only [VideoRequest.next, videoStep, perform_start sys wellFormed, busy, if_true]
  rfl

theorem next_started (idle : sys.env.recording = false) (accepts : req.accepts path = true) :
    req.next sys = ⟨⟨sys.env.warp, true⟩, ⟨true, 0⟩⟩ := by
  simp only [VideoRequest.next, videoStep, perform_start sys wellFormed, idle, accepts,
    Bool.false_eq_true, if_false, if_true]
  simp [VideoEnv.run, VideoEnv.apply]

theorem next_failed (idle : sys.env.recording = false) (refuses : req.accepts path = false) :
    req.next sys = ⟨⟨sys.env.warp, false⟩, ⟨false, sys.env.warp⟩⟩ := by
  simp only [VideoRequest.next, videoStep, perform_start sys wellFormed, idle, refuses,
    Bool.false_eq_true, if_false]
  simp [VideoEnv.run, VideoEnv.apply, idle]

end Next

/-- All that a request can come to: its result, its calls and the state after it. -/
inductive Records (req : VideoRequest) (sys : VideoSys) :
    VideoResult → List VideoCall → VideoSys → Prop
  | stop (stop : req.isStop = true) : Records req sys .ok
      (.stopRecording :: if sys.v.warpWasSaved then [.setWarp sys.v.savedWarp] else [])
      ⟨⟨sys.v.savedWarp, false⟩,
        ⟨false, if sys.v.warpWasSaved then sys.v.savedWarp else sys.env.warp⟩⟩
  | malformed (plain : req.isStop = false) (malformed : req.path = none) :
      Records req sys .errLength [] sys
  | refused {path : Text} (wellFormed : req.path = some path)
      (busy : sys.env.recording = true) : Records req sys .errFailure [] sys
  | started {path : Text} (wellFormed : req.path = some path)
      (idle : sys.env.recording = false) (accepts : req.accepts path = true) :
      Records req sys .ok [.setWarp 0, .startRecording path true]
        ⟨⟨sys.env.warp, true⟩, ⟨true, 0⟩⟩
  | failed {path : Text} (wellFormed : req.path = some path)
      (idle : sys.env.recording = false) (refuses : req.accepts path = false) :
      Records req sys .errFailure
        [.setWarp 0, .startRecording path false, .setWarp sys.env.warp]
        ⟨⟨sys.env.warp, false⟩, ⟨false, sys.env.warp⟩⟩

/-- Every request does one of these; the invariants below never open the step itself. -/
theorem records_perform (req : VideoRequest) (sys : VideoSys) :
    Records req sys (req.perform sys).1 (req.perform sys).2.2 (req.next sys) := by
  cases stop : req.isStop with
  | true =>
    rw [perform_stop sys stop, next_stop stop]
    exact .stop stop
  | false =>
    cases wellFormed : req.path with
    | none =>
      rw [perform_malformed sys stop wellFormed, next_malformed stop wellFormed]
      exact .malformed stop wellFormed
    | some path =>
      cases busy : sys.env.recording with
      | true =>
        rw [perform_start sys wellFormed, next_refused wellFormed busy, busy, if_pos rfl]
        exact .refused wellFormed busy
      | false =>
        rw [perform_start sys wellFormed, busy, if_neg Bool.false_ne_true]
        cases accepts : req.accepts path with
        | true =>
          rw [next_started wellFormed busy accepts, if_pos rfl]
          exact .started wellFormed busy accepts
        | false =>
          rw [next_failed wellFormed busy accepts, if_neg Bool.false_ne_true]
          exact .failed wellFormed busy accepts

/-- The invariant of a run that nothing but requests disturbs. -/
private structure RecordInv (w₀ : Int) (sys : VideoSys) : Prop where
  owed : sys.env.recording = sys.v.warpWasSaved
  forced : sys.env.recording = true → sys.env.warp = 0 ∧ sys.v.savedWarp = w₀
  restored : sys.env.recording = false → sys.env.warp = w₀

private theorem recordInv_init (w₀ : Int) : RecordInv w₀ (videoSysInit false w₀) :=
  ⟨rfl, by simp [videoSysInit], by simp [videoSysInit]⟩

def VideoCall.starts : VideoCall → Bool
  | .startRecording _ started => started
  | _ => false

section Records

variable {req : VideoRequest} {sys next : VideoSys} {result : VideoResult} {calls : List VideoCall}
  (records : Records req sys result calls next)

include records

private theorem Records.recordInv {w₀ : Int} (inv : RecordInv w₀ sys) : RecordInv w₀ next := by
  cases records with
  | stop =>
    refine ⟨rfl, by simp, ?_⟩
    intro _
    cases owed : sys.v.warpWasSaved with
    | true => exact (inv.forced (inv.owed.trans owed)).2
    | false => exact inv.restored (inv.owed.trans owed)
  | malformed => exact inv
  | refused => exact inv
  | started wellFormed idle => exact ⟨rfl, fun _ => ⟨rfl, inv.restored idle⟩, by simp⟩
  | failed wellFormed idle => exact ⟨rfl, by simp, fun _ => inv.restored idle⟩

theorem Records.starts (plain : req.isStop = false) :
    calls.countP VideoCall.starts + (if sys.env.recording then 1 else 0) =
      if next.env.recording then 1 else 0 := by
  cases records with
  | stop stop => cases stop.symm.trans plain
  | malformed => simp
  | refused => simp
  | started wellFormed idle => simp [idle, VideoCall.starts]
  | failed wellFormed idle => simp [idle, VideoCall.starts]

private theorem Records.error_unchanged {w₀ : Int} (inv : RecordInv w₀ sys) (error : result ≠ .ok) :
    next.env = sys.env ∧ next.v.warpWasSaved = sys.v.warpWasSaved := by
  cases records with
  | stop => exact absurd rfl error
  | malformed => exact ⟨rfl, rfl⟩
  | refused => exact ⟨rfl, rfl⟩
  | started => exact absurd rfl error
  | failed wellFormed idle =>
    rw [← inv.owed, idle, ← idle]
    exact ⟨rfl, rfl⟩

end Records

def videoRun (w₀ : Int) (reqs : List VideoRequest) : VideoSys :=
  videoMachine.exec (videoSysInit false w₀) (reqs.map .request)

private theorem recordInv_run (w₀ : Int) (reqs : List VideoRequest) :
    RecordInv w₀ (videoRun w₀ reqs) := by
  induction reqs using List.reverseRecOn with
  | nil => exact recordInv_init w₀
  | append_singleton reqs req ih =>
    rw [videoRun, List.map_append, List.map_singleton, Machine.exec_snoc]
    exact (records_perform req _).recordInv ih

private theorem starts_stretch (sys : VideoSys) {reqs : List VideoRequest}
    (plain : ∀ req ∈ reqs, req.isStop = false) :
    (videoMachine.emitted sys (reqs.map .request)).countP VideoCall.starts +
        (if sys.env.recording then 1 else 0) ≤ 1 := by
  induction reqs generalizing sys with
  | nil =>
    simp only [List.map_nil, Machine.emitted_nil, List.countP_nil]
    split <;> omega
  | cons req reqs ih =>
    have head := (records_perform req sys).starts (plain req List.mem_cons_self)
    have tail := ih (req.next sys) fun later member => plain later (List.mem_cons_of_mem req member)
    have calls : (videoMachine.step sys (.request req)).2 = (req.perform sys).2.2 := rfl
    have next : (videoMachine.step sys (.request req)).1 = req.next sys := rfl
    rw [List.map_cons, Machine.emitted_cons, List.countP_append, calls, next]
    omega

/-- The record state machine without interference: recording, debt and warp
mode move together, the recorder starts at most once between two stops, and a
request that reports an error changes none of them. -/
theorem video_record_state_machine (w₀ : Int) (reqs : List VideoRequest) :
    let sys := videoRun w₀ reqs
    (sys.env.recording = true ↔ sys.v.warpWasSaved = true) ∧
      (sys.env.recording = true → sys.env.warp = 0 ∧ sys.v.savedWarp = w₀) ∧
      (sys.env.recording = false → sys.env.warp = w₀) ∧
      (∀ stretch : List VideoRequest, (∀ req ∈ stretch, req.isStop = false) →
        (videoMachine.emitted sys (stretch.map .request)).countP VideoCall.starts ≤ 1) ∧
      ∀ req : VideoRequest, (req.perform sys).1 = .errLength ∨ (req.perform sys).1 = .errFailure →
        (req.next sys).env.recording = sys.env.recording ∧
          (req.next sys).env.warp = sys.env.warp ∧
          (req.next sys).v.warpWasSaved = sys.v.warpWasSaved := by
  intro sys
  have inv : RecordInv w₀ sys := recordInv_run w₀ reqs
  refine ⟨by rw [inv.owed], inv.forced, inv.restored, ?_, ?_⟩
  · intro stretch plain
    have starts := starts_stretch sys plain
    omega
  · intro req reported
    have error : (req.perform sys).1 ≠ .ok := by
      rcases reported with length | failure
      · simp [length]
      · simp [failure]
    obtain ⟨env, owed⟩ := (records_perform req sys).error_unchanged inv error
    rw [env]
    exact ⟨rfl, rfl, owed⟩

end Revice.Video

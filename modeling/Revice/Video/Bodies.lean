/- Module: Revice/Video/Bodies
   source: libs/video/src/video_core.c, libs/video/include/revice_video.h, README.md
   digest: Which record bodies start and stop the recorder, against the documented ones. -/

import Revice.Video.Recorder

set_option autoImplicit false
set_option relaxedAutoImplicit false

namespace Revice.Video

open Revice.General

def pathBytes (body : List U8) : List U8 := (body.drop 2).take (body.getD 1 0).toNat

/-- A nonempty path is announced, and all of it is there. -/
def PathFollows (body : List U8) : Prop :=
  2 ≤ body.length ∧ 1 ≤ (body.getD 1 0).toNat ∧ 2 + (body.getD 1 0).toNat ≤ body.length

def StopBody (body : List U8) : Prop := 1 ≤ body.length ∧ body.getD 0 0 = videoActionStop

def StartBody (body : List U8) : Prop := body.getD 0 0 = videoActionStart ∧ PathFollows body

/-- A start body but for its action byte, which is neither of the two. -/
def UnknownStart (body : List U8) : Prop :=
  body.getD 0 0 ≠ videoActionStop ∧ body.getD 0 0 ≠ videoActionStart ∧ PathFollows body

instance (body : List U8) : Decidable (PathFollows body) := inferInstanceAs (Decidable (_ ∧ _))

instance (body : List U8) : Decidable (StopBody body) := inferInstanceAs (Decidable (_ ∧ _))

instance (body : List U8) : Decidable (StartBody body) := inferInstanceAs (Decidable (_ ∧ _))

/-- The request does what the documentation says of its body. -/
structure RecordsDocumented (host : VideoHost) (v : VideoCore) (body : List U8) : Prop where
  start : (∃ path started,
      .startRecording path started ∈ (videoCoreBinmonRecord host v body).2.2) ↔
    host.isRecording = false ∧ StartBody body
  path : 0#8 ∉ pathBytes body → ∀ path started,
    .startRecording path started ∈ (videoCoreBinmonRecord host v body).2.2 →
      path = pathBytes body ∧ path.length = (body.getD 1 0).toNat
  stop : .stopRecording ∈ (videoCoreBinmonRecord host v body).2.2 ↔ StopBody body
  other : ¬StopBody body → ¬(host.isRecording = false ∧ StartBody body) →
    (videoCoreBinmonRecord host v body).1 ≠ .ok ∧ (videoCoreBinmonRecord host v body).2.2 = []

private theorem startPath_follows {body : List U8} (follows : PathFollows body) :
    startPath body = some (cText (pathBytes body)) := by
  obtain ⟨header, nonempty, complete⟩ := follows
  have announced : ¬((decide ((body.getD 1 0).toNat = 0) ||
      decide (2 + (body.getD 1 0).toNat > body.length)) = true) := by
    rw [Bool.or_eq_true, decide_eq_true_eq, decide_eq_true_eq]
    omega
  rw [startPath, if_neg (Nat.not_lt.mpr header)]
  exact if_neg announced

private theorem startPath_missing {body : List U8} (missing : ¬PathFollows body) :
    startPath body = none := by
  rw [startPath]
  by_cases header : body.length < 2
  · exact if_pos header
  · have announced : (decide ((body.getD 1 0).toNat = 0) ||
        decide (2 + (body.getD 1 0).toNat > body.length)) = true := by
      rw [Bool.or_eq_true, decide_eq_true_eq, decide_eq_true_eq]
      by_contra neither
      refine missing ⟨Nat.not_lt.mp header, ?_, ?_⟩ <;> omega
    rw [if_neg header]
    exact if_pos announced

private theorem length_pathBytes {body : List U8} (follows : PathFollows body) :
    (pathBytes body).length = (body.getD 1 0).toNat := by
  obtain ⟨_, _, complete⟩ := follows
  rw [pathBytes, List.length_take, List.length_drop]
  omega

section Record

variable {host : VideoHost} {v : VideoCore} {body : List U8}

private theorem record_eq_perform :
    videoCoreBinmonRecord host v body =
      VideoRequest.perform ⟨body, host.startRecording⟩ ⟨v, ⟨host.isRecording, host.getWarp⟩⟩ := rfl

private theorem isStop_iff {req : VideoRequest} : req.isStop = true ↔ StopBody req.body := by
  rw [VideoRequest.isStop, Bool.and_eq_true, Bool.not_eq_true', decide_eq_false_iff_not,
    decide_eq_true_eq, Nat.not_lt]
  rfl

private theorem path_plain {req : VideoRequest} (plain : ¬StopBody req.body) :
    req.path = startPath req.body := by
  rw [VideoRequest.path]
  split
  · rename_i empty
    exact (if_pos (Nat.lt_succ_of_lt empty)).symm
  · rename_i header
    exact if_neg fun stop => plain ⟨Nat.not_lt.mp header, stop⟩

private theorem record_stop (stop : StopBody body) :
    (videoCoreBinmonRecord host v body).2.2 =
      .stopRecording :: if v.warpWasSaved then [.setWarp v.savedWarp] else [] := by
  rw [record_eq_perform, perform_stop _ (isStop_iff.mpr stop)]

private theorem record_missing (plain : ¬StopBody body) (missing : ¬PathFollows body) :
    videoCoreBinmonRecord host v body = (.errLength, v, []) := by
  have path : VideoRequest.path ⟨body, host.startRecording⟩ = none :=
    (path_plain plain).trans (startPath_missing missing)
  rw [record_eq_perform]
  exact perform_malformed _ (Bool.eq_false_iff.mpr (mt isStop_iff.mp plain)) path

private theorem record_follows (plain : ¬StopBody body) (follows : PathFollows body) :
    videoCoreBinmonRecord host v body =
      if host.isRecording then (.errFailure, v, [])
      else if host.startRecording (cText (pathBytes body)) then
        (.ok, ⟨host.getWarp, true⟩, [.setWarp 0, .startRecording (cText (pathBytes body)) true])
      else
        (.errFailure, ⟨host.getWarp, false⟩, [.setWarp 0,
          .startRecording (cText (pathBytes body)) false, .setWarp host.getWarp]) := by
  have path : VideoRequest.path ⟨body, host.startRecording⟩ = some (cText (pathBytes body)) :=
    (path_plain plain).trans (startPath_follows follows)
  rw [record_eq_perform]
  exact perform_start _ path

end Record

theorem StartBody.plain {body : List U8} (start : StartBody body) : ¬StopBody body := by
  intro stop
  have same : videoActionStop = videoActionStart := stop.2.symm.trans start.1
  revert same
  decide

section Documented

variable {host : VideoHost} {v : VideoCore} {body : List U8}

private theorem documented_stop (stop : StopBody body) : RecordsDocumented host v body := by
  have calls : (videoCoreBinmonRecord host v body).2.2 =
      .stopRecording :: if v.warpWasSaved then [.setWarp v.savedWarp] else [] := record_stop stop
  have none : ∀ path started,
      .startRecording path started ∉ (videoCoreBinmonRecord host v body).2.2 := by
    intro path started member
    rw [calls] at member
    split at member <;> simp at member
  constructor
  · constructor
    · rintro ⟨path, started, member⟩
      exact absurd member (none path started)
    · rintro ⟨_, start⟩
      exact absurd stop start.plain
  · intro _ path started member
    exact absurd member (none path started)
  · rw [calls]
    exact iff_of_true List.mem_cons_self stop
  · intro plain
    exact absurd stop plain

private theorem documented_refused {err : VideoResult}
    (record : videoCoreBinmonRecord host v body = (err, v, [])) (error : err ≠ .ok)
    (plain : ¬StopBody body) (none : ¬(host.isRecording = false ∧ StartBody body)) :
    RecordsDocumented host v body := by
  have calls : (videoCoreBinmonRecord host v body).2.2 = [] := by
    rw [record]
  constructor
  · rw [calls]
    refine iff_of_false ?_ none
    rintro ⟨path, started, member⟩
    cases member
  · intro _ path started member
    rw [calls] at member
    cases member
  · rw [calls]
    exact iff_of_false List.not_mem_nil plain
  · intro _ _
    rw [record]
    exact ⟨error, rfl⟩

section Idle

variable (idle : host.isRecording = false) (plain : ¬StopBody body) (follows : PathFollows body)

include idle plain follows

private theorem startRecording_mem (path : Text) (started : Bool) :
    .startRecording path started ∈ (videoCoreBinmonRecord host v body).2.2 ↔
      path = cText (pathBytes body) ∧ started = host.startRecording (cText (pathBytes body)) := by
  rw [record_follows plain follows, idle, if_neg Bool.false_ne_true]
  cases accepts : host.startRecording (cText (pathBytes body)) with
  | true => simp
  | false => simp

private theorem stopRecording_not_mem :
    .stopRecording ∉ (videoCoreBinmonRecord host v body).2.2 := by
  rw [record_follows plain follows, idle, if_neg Bool.false_ne_true]
  cases accepts : host.startRecording (cText (pathBytes body)) with
  | true => simp
  | false => simp

end Idle

private theorem documented_start (idle : host.isRecording = false) (start : StartBody body) :
    RecordsDocumented host v body := by
  have called := startRecording_mem (v := v) idle start.plain start.2
  constructor
  · exact iff_of_true ⟨_, _, (called _ _).mpr ⟨rfl, rfl⟩⟩ ⟨idle, start⟩
  · intro nulFree path started member
    have whole : cText (pathBytes body) = pathBytes body := cText_bytes ⟨pathBytes body, nulFree⟩
    have asked : path = pathBytes body := ((called path started).mp member).1.trans whole
    rw [asked]
    exact ⟨rfl, length_pathBytes start.2⟩
  · exact iff_of_false (stopRecording_not_mem idle start.plain start.2) start.plain
  · intro _ none
    exact absurd ⟨idle, start⟩ none

end Documented

/-- A request does what is documented exactly when the recorder is busy or the body is no
start with an unknown action. -/
theorem video_record_bodies (host : VideoHost) (v : VideoCore) (body : List U8) :
    RecordsDocumented host v body ↔ ¬(host.isRecording = false ∧ UnknownStart body) := by
  constructor
  · rintro documented ⟨idle, notStop, notStart, follows⟩
    have plain : ¬StopBody body := fun stop => notStop stop.2
    have called := (startRecording_mem (v := v) idle plain follows _ _).mpr ⟨rfl, rfl⟩
    exact notStart (documented.start.mp ⟨_, _, called⟩).2.1
  · intro known
    by_cases stop : StopBody body
    · exact documented_stop stop
    by_cases follows : PathFollows body
    · cases busy : host.isRecording with
      | true =>
        have record : videoCoreBinmonRecord host v body = (.errFailure, v, []) :=
          (record_follows stop follows).trans (if_pos busy)
        refine documented_refused record VideoResult.noConfusion stop ?_
        rintro ⟨idle, _⟩
        cases busy.symm.trans idle
      | false =>
        have header : 1 ≤ body.length := Nat.le_of_succ_le follows.1
        by_cases start : body.getD 0 0 = videoActionStart
        · exact documented_start busy ⟨start, follows⟩
        · have notStop : body.getD 0 0 ≠ videoActionStop := fun action => stop ⟨header, action⟩
          exact absurd ⟨busy, notStop, start, follows⟩ known
    · refine documented_refused (record_missing stop follows) VideoResult.noConfusion stop ?_
      rintro ⟨_, start⟩
      exact follows start.2

/-- A body of action 2 with a one-byte path makes an idle recorder start, and turns warp off. -/
theorem unknown_action_starts :
    let host : VideoHost := ⟨false, 1, fun _ => true⟩
    videoCoreBinmonRecord host videoCoreInit [2#8, 1#8, 0x61#8] =
        (.ok, ⟨1, true⟩, [.setWarp 0, .startRecording [0x61#8] true]) ∧
      ¬RecordsDocumented host videoCoreInit [2#8, 1#8, 0x61#8] := by
  intro host
  have record : videoCoreBinmonRecord host videoCoreInit [2#8, 1#8, 0x61#8] =
      (.ok, ⟨1, true⟩, [.setWarp 0, .startRecording [0x61#8] true]) := by
    decide
  refine ⟨record, ?_⟩
  intro documented
  have start := (documented.start.mp ⟨[0x61#8], true, by rw [record]; simp⟩).2.1
  revert start
  decide

end Revice.Video

/- Module: Revice/Video/Debt
   source: libs/video/src/video_core.c, libs/video/include/revice_video.h
   digest: When the forced-off warp mode is repaid although recordings end on their own. -/

import Revice.Video.Recorder

set_option autoImplicit false
set_option relaxedAutoImplicit false

namespace Revice.Video

open Revice.General

/-- What is owed, and otherwise the warp mode itself, is the initial warp mode. -/
structure Repaid (w₀ : Int) (sys : VideoSys) : Prop where
  settled : sys.v.warpWasSaved = false → sys.env.warp = w₀
  saved : sys.v.warpWasSaved = true → sys.v.savedWarp = w₀

/-- A well-formed start that finds the recorder idle and an earlier debt still open. -/
def Restarts (sys : VideoSys) (event : VideoEvent) : Prop :=
  ∃ req, event = .request req ∧ req.path.isSome ∧ sys.env.recording = false ∧
    sys.v.warpWasSaved = true

def videoEventRun (recording : Bool) (w₀ : Int) (events : List VideoEvent) : VideoSys :=
  videoMachine.exec (videoSysInit recording w₀) events

private theorem videoEventRun_snoc (recording : Bool) (w₀ : Int) (events : List VideoEvent)
    (event : VideoEvent) :
    videoEventRun recording w₀ (events ++ [event]) =
      (videoStep (videoEventRun recording w₀ events) event).1 :=
  videoMachine.exec_snoc _ _ _

/-- While a restore is owed the warp mode is off. -/
private def ForcedOff (sys : VideoSys) : Prop := sys.v.warpWasSaved = true → sys.env.warp = 0

private theorem Records.forcedOff {req : VideoRequest} {sys next : VideoSys} {result : VideoResult}
    {calls : List VideoCall} (records : Records req sys result calls next)
    (forced : ForcedOff sys) : ForcedOff next := by
  cases records with
  | stop =>
    intro owed
    cases owed
  | malformed => exact forced
  | refused => exact forced
  | started =>
    intro _
    rfl
  | failed =>
    intro owed
    cases owed

private theorem forcedOff_run (recording : Bool) (w₀ : Int) (events : List VideoEvent) :
    ForcedOff (videoEventRun recording w₀ events) := by
  induction events using List.reverseRecOn with
  | nil =>
    intro owed
    cases owed
  | append_singleton events event ih =>
    rw [videoEventRun_snoc]
    cases event with
    | request req => exact (records_perform req _).forcedOff ih
    | recordingEnds => exact ih

variable {w₀ : Int} {sys : VideoSys}

private theorem warp_at_start (forced : ForcedOff sys) (repaid : Repaid w₀ sys) {req : VideoRequest}
    (calm : w₀ = 0 ∨ ¬Restarts sys (.request req)) {path : Text}
    (wellFormed : req.path = some path) (idle : sys.env.recording = false) :
    sys.env.warp = w₀ := by
  cases owed : sys.v.warpWasSaved with
  | false => exact repaid.settled owed
  | true =>
    have restarts : Restarts sys (.request req) :=
      ⟨req, rfl, by simp [wellFormed], idle, owed⟩
    rw [forced owed]
    rcases calm with zero | none
    · exact zero.symm
    · exact absurd restarts none

private theorem Records.repaid {next : VideoSys} {req : VideoRequest} {result : VideoResult}
    {calls : List VideoCall} (records : Records req sys result calls next)
    (forced : ForcedOff sys) (repaid : Repaid w₀ sys)
    (calm : w₀ = 0 ∨ ¬Restarts sys (.request req)) : Repaid w₀ next := by
  cases records with
  | stop =>
    refine ⟨?_, by simp⟩
    intro _
    cases owed : sys.v.warpWasSaved with
    | true => exact repaid.saved owed
    | false => exact repaid.settled owed
  | malformed => exact repaid
  | refused => exact repaid
  | started wellFormed idle =>
    have warp := warp_at_start forced repaid calm wellFormed idle
    exact ⟨by simp, fun _ => warp⟩
  | failed wellFormed idle =>
    have warp := warp_at_start forced repaid calm wellFormed idle
    exact ⟨fun _ => warp, by simp⟩

private theorem restart_forgets (forced : ForcedOff sys) {event : VideoEvent}
    (restarts : Restarts sys event) (repaid : Repaid w₀ (videoStep sys event).1) : w₀ = 0 := by
  obtain ⟨req, rfl, wellFormed, idle, owed⟩ := restarts
  obtain ⟨path, wellFormed⟩ := Option.isSome_iff_exists.mp wellFormed
  change Repaid w₀ (req.next sys) at repaid
  cases accepts : req.accepts path with
  | true =>
    rw [next_started wellFormed idle accepts] at repaid
    exact (repaid.saved rfl).symm.trans (forced owed)
  | false =>
    rw [next_failed wellFormed idle accepts] at repaid
    exact (repaid.settled rfl).symm.trans (forced owed)

private theorem repaid_step (forced : ForcedOff sys) (repaid : Repaid w₀ sys) (event : VideoEvent) :
    (ForcedOff (videoStep sys event).1 ∧ Repaid w₀ (videoStep sys event).1) ↔
      w₀ = 0 ∨ ¬Restarts sys event := by
  constructor
  · rintro ⟨_, after⟩
    by_cases zero : w₀ = 0
    · exact Or.inl zero
    · refine Or.inr ?_
      intro restarts
      exact zero (restart_forgets forced restarts after)
  · intro calm
    cases event with
    | recordingEnds => exact ⟨forced, repaid.settled, repaid.saved⟩
    | request req =>
      have records := records_perform req sys
      exact ⟨records.forcedOff forced, records.repaid forced repaid calm⟩

/-- The forced-off warp mode is repaid in every state of a run exactly when warp
was off from the start, or no start arrives while the recorder is idle and a
debt is open. -/
theorem warp_repaid (recording : Bool) (w₀ : Int) (events : List VideoEvent) :
    (∀ before, before <+: events → Repaid w₀ (videoEventRun recording w₀ before)) ↔
      w₀ = 0 ∨ ∀ before event, before ++ [event] <+: events →
        ¬Restarts (videoEventRun recording w₀ before) event := by
  have forced := forcedOff_run recording w₀
  have start : Repaid w₀ (videoSysInit recording w₀) := ⟨fun _ => rfl, fun owed => by cases owed⟩
  have steps := videoMachine.exec_prefix_iff (P := fun sys => ForcedOff sys ∧ Repaid w₀ sys)
    (fun _ event held => repaid_step held.1 held.2 event) ⟨forced [], start⟩ events
  constructor
  · intro repaid
    have met := steps.mp fun before reached => ⟨forced before, repaid before reached⟩
    by_cases zero : w₀ = 0
    · exact Or.inl zero
    · refine Or.inr ?_
      intro before event reached
      exact (met before event reached).resolve_left zero
  · intro calm before reached
    refine (steps.mpr ?_ before reached).2
    intro before event reached
    exact calm.imp_right fun none => none before event reached

/-- A recording that ends on its own, then a new one, then a stop. -/
def restartedRecording : List VideoEvent :=
  [.request ⟨[1, 1, 0x61], fun _ => true⟩, .recordingEnds,
    .request ⟨[1, 1, 0x61], fun _ => true⟩, .request ⟨[0], fun _ => true⟩]

/-- After the stop nothing is owed, and the warp mode is off for good. -/
theorem warp_not_repaid :
    (videoEventRun false 1 restartedRecording).v.warpWasSaved = false ∧
      (videoEventRun false 1 restartedRecording).env = ⟨false, 0⟩ ∧
      ¬∀ before, before <+: restartedRecording → Repaid 1 (videoEventRun false 1 before) := by
  refine ⟨by decide, by decide, ?_⟩
  intro repaid
  have last := (repaid restartedRecording (List.prefix_refl _)).settled (by decide)
  revert last
  decide

end Revice.Video

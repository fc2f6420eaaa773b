/- Module: Revice/Keymatrix/Invariant
   digest: What holds of the core and its alarm in every reachable state. -/

import Revice.Keymatrix.Effect

set_option autoImplicit false
set_option relaxedAutoImplicit false

namespace Revice.Keymatrix

open Revice.General

/-- A mode that a release alarm belongs to. -/
def KmMode.isTap (mode : KmMode) : Prop := mode = .tapObserved ∨ mode = .tapFixed

instance (mode : KmMode) : Decidable mode.isTap := by
  unfold KmMode.isTap
  infer_instance

/-- The state-machine invariant of the core and the host alarm. -/
structure KmInvariant (sys : KmSys) : Prop where
  held : sys.km.active = true → 1 ≤ sys.km.keys.length ∧ sys.km.keys.length ≤ kmMaxKeys ∧
    (sys.km.mode = .tapObserved ∨ sys.km.mode = .tapFixed ∨ sys.km.mode = .pressSticky)
  idle : sys.km.active = false → sys.km.mode = .idle ∧ sys.km.keys = [] ∧
    sys.km.cia1ReadsTotal = 0 ∧ sys.km.cia1ReadsSampling = 0 ∧ sys.km.lastReason = .none
  reason : sys.km.lastReason = .none ∨ sys.km.lastReason = .observed
  observed : sys.km.lastReason = .observed → sys.km.active = true ∧ sys.km.mode = .tapObserved
  armed : sys.env.alarm.isSome ↔ sys.km.active = true ∧ sys.km.mode.isTap
  deadline : sys.km.lastReason = .none → ∀ clk ∈ sys.env.alarm, clk = sys.km.timeoutClk

namespace KmInvariant

theorem init : KmInvariant kmSysInit := by
  constructor <;> simp [kmSysInit, kmCoreInit]

theorem ended (km : KmCore) (report : KmLast) (matrix : Int × Int → Bool) :
    KmInvariant ⟨km.ended report, ⟨matrix, none⟩⟩ := by
  constructor <;> simp [KmCore.ended]

theorem started (km : KmCore) (injection : Injection) (now timeoutClk : U64)
    (matrix : Int × Int → Bool) :
    KmInvariant ⟨km.started injection now timeoutClk,
      ⟨matrix, injection.frames.map fun _ => timeoutClk⟩⟩ := by
  have ok := injection.ok
  have positive : 1 ≤ injection.keys.length := List.length_pos_iff.mpr ok.some_key
  have mode : injection.mode = .tapObserved ∨ injection.mode = .tapFixed ∨
      injection.mode = .pressSticky := by
    have held := ok.held
    cases known : injection.mode <;> simp_all
  constructor
  · intro _
    exact ⟨positive, ok.few_keys, mode⟩
  · simp [KmCore.started]
  · exact Or.inl rfl
  · simp [KmCore.started]
  · have framed : injection.frames.isSome = true ↔ injection.mode ≠ .pressSticky := by
      rw [ne_eq, ← ok.framed, Option.isSome_iff_ne_none]
    simp only [KmCore.started, Option.isSome_map, framed, true_and, KmMode.isTap]
    rcases mode with known | known | known <;> simp [known]
  · simp [KmCore.started]

variable {sys : KmSys}

private theorem released_alarm (inv : KmInvariant sys) (host : KmHost) (reason : KmReleaseReason) :
    (sys.env.run (kmReleaseNow host reason sys.km).2).alarm = none := by
  cases active : sys.km.active with
  | true => rw [run_releaseNow_active active]
  | false =>
    rw [releaseNow_idle active]
    have armed := inv.armed
    simpa [active] using armed

theorem released (inv : KmInvariant sys) (host : KmHost) (reason : KmReleaseReason) :
    KmInvariant ⟨(kmReleaseNow host reason sys.km).1,
      sys.env.run (kmReleaseNow host reason sys.km).2⟩ := by
  cases active : sys.km.active with
  | true =>
    rw [run_releaseNow_active active, releaseNow_active active]
    exact ended _ _ _
  | false =>
    rw [releaseNow_idle active]
    exact inv

private theorem of_matrix (inv : KmInvariant sys) (matrix : Int × Int → Bool) :
    KmInvariant ⟨sys.km, { sys.env with matrix := matrix }⟩ :=
  ⟨inv.held, inv.idle, inv.reason, inv.observed, inv.armed, inv.deadline⟩

theorem start (inv : KmInvariant sys) (now cpf : U64) (injection : Injection) :
    KmInvariant (sys.act now cpf (.start injection)) := by
  have disarmed := inv.released_alarm (sys.env.host now cpf) .manual
  simp only [KmSys.act, KmAction.perform, kmStart_eq]
  cases frames : injection.frames with
  | none =>
    have fresh := started (kmReleaseNow (sys.env.host now cpf) .manual sys.km).1 injection now
      (kmReleaseNow (sys.env.host now cpf) .manual sys.km).1.timeoutClk
    simp only [run_append, run_applyBits, disarmed]
    simpa [frames] using fresh _
  | some n =>
    have fresh := started (kmReleaseNow (sys.env.host now cpf) .manual sys.km).1 injection now
      (Keymatrix.deadline (sys.env.host now cpf) n)
    simp only [run_append, run_applyBits]
    simpa [frames, KmEnv.run, KmEnv.apply] using fresh _

theorem releaseListed (inv : KmInvariant sys) (now cpf : U64) (listed : List KmKey) :
    KmInvariant (sys.act now cpf (.releaseListed listed)) := by
  simp only [KmSys.act, KmAction.perform]
  cases active : sys.km.active with
  | false =>
    rw [releaseListed_survives (Or.inl active), run_applyBits]
    simpa [active] using inv.of_matrix _
  | true =>
    by_cases none_left : survivingKeys sys.km.keys listed = []
    · rw [releaseListed_ends active none_left, run_append, run_applyBits]
      exact ended _ _ _
    · have held := inv.held active
      have fewer : (survivingKeys sys.km.keys listed).length ≤ sys.km.keys.length :=
        List.length_filter_le _ _
      have positive := List.length_pos_iff.mpr none_left
      rw [releaseListed_survives (Or.inr none_left), run_applyBits]
      simp only [active, if_true]
      constructor
      · intro _
        exact ⟨positive, Nat.le_trans fewer held.2.1, held.2.2⟩
      · simp
      · exact inv.reason
      · intro pending
        exact ⟨rfl, (inv.observed pending).2⟩
      · simpa [active] using inv.armed
      · exact inv.deadline

theorem scan (inv : KmInvariant sys) (now cpf : U64) (port : CiaPort) (mask : U8) :
    KmInvariant (sys.act now cpf (.scan port mask)) := by
  simp only [KmSys.act, KmAction.perform]
  cases active : sys.km.active with
  | false =>
    rw [kmScan_idle active]
    exact inv
  | true =>
    cases sampled : scanSamples port.coord sys.km.keys mask with
    | false =>
      rw [kmScan_missed active sampled]
      exact ⟨inv.held, by simp [active], inv.reason, inv.observed, inv.armed, inv.deadline⟩
    | true =>
      by_cases first : sys.km.mode = .tapObserved ∧ sys.km.lastReason = .none
      · rw [kmScan_first active sampled first]
        -- the alarm moves to the next cycle; only a pending reason allows that
        constructor
        · exact inv.held
        · simp [active]
        · exact Or.inr rfl
        · intro _
          exact ⟨active, first.1⟩
        · constructor
          · intro _
            exact ⟨active, Or.inl first.1⟩
          · intro _
            rfl
        · simp
      · rw [kmScan_later active sampled first]
        exact ⟨inv.held, by simp [active], inv.reason, inv.observed, inv.armed, inv.deadline⟩

theorem act (inv : KmInvariant sys) (now cpf : U64) (action : KmAction) :
    KmInvariant (sys.act now cpf action) := by
  cases action with
  | none => exact inv
  | start injection => exact inv.start now cpf injection
  | releaseAll =>
    have released := inv.released (sys.env.host now cpf) .manual
    simp only [KmSys.act, KmAction.perform, run_append]
    exact released.of_matrix _
  | releaseListed listed => exact inv.releaseListed now cpf listed
  | raw writes =>
    simp only [KmSys.act, KmAction.perform, run_writes]
    exact inv.of_matrix _
  | scan port mask => exact inv.scan now cpf port mask
  | fire => exact inv.released _ _

end KmInvariant

/-- Every state of a run from `km_core_init` satisfies the invariant. -/
theorem kmRun_invariant (ticks : List KmTick) : KmInvariant (kmRun ticks) := by
  induction ticks using List.reverseRecOn with
  | nil => exact KmInvariant.init
  | append_singleton ticks tick ih =>
    rw [kmRun_snoc, kmStep_eq]
    exact ih.act _ _ _

/-- The state machine of the keymatrix core: its invariant holds in every
reachable state, and the alarm callback always finds an active tap. -/
theorem keymatrix_state_machine (ticks : List KmTick) :
    KmInvariant (kmRun ticks) ∧
      ∀ now cpf, KmLegal (ticks ++ [⟨now, cpf, .onAlarm⟩]) →
        (kmRun ticks).km.active = true ∧ (kmRun ticks).km.mode.isTap := by
  have inv := kmRun_invariant ticks
  refine ⟨inv, ?_⟩
  intro now cpf fires
  have armed := (Machine.legal_snoc _ _ _ _).mp fires
  exact inv.armed.mp (armed.2 rfl)

end Revice.Keymatrix

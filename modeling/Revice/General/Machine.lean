/- Module: Revice/General/Machine
   digest: Deterministic machines with outputs, their finite runs, and the run rules. -/

import Mathlib.Data.List.Induction
import Mathlib.Tactic.TypeStar

set_option autoImplicit false
set_option relaxedAutoImplicit false

namespace Revice.General

theorem filterMap_snoc {α β : Type*} (f : α → Option β) (as : List α) (a : α) :
    (as ++ [a]).filterMap f = as.filterMap f ++ (f a).toList := by
  rw [List.filterMap_append]
  cases shown : f a with
  | none => rw [List.filterMap_cons_none shown]; rfl
  | some b => rw [List.filterMap_cons_some shown]; rfl

/-- One input moves the state and emits a chunk of outputs; `enabled` is the
environment's side of the contract and never inspects the outputs. -/
structure Machine (σ α β : Type*) where
  step : σ → α → σ × List β
  enabled : σ → α → Prop

namespace Machine

variable {σ α β : Type*} (M : Machine σ α β)

def exec : σ → List α → σ
  | s, [] => s
  | s, a :: as => exec (M.step s a).1 as

def emitted : σ → List α → List β
  | _, [] => []
  | s, a :: as => (M.step s a).2 ++ emitted (M.step s a).1 as

def Legal : σ → List α → Prop
  | _, [] => True
  | s, a :: as => M.enabled s a ∧ Legal (M.step s a).1 as

@[simp] theorem exec_nil (s : σ) : M.exec s [] = s := rfl

@[simp] theorem emitted_nil (s : σ) : M.emitted s [] = [] := rfl

@[simp] theorem legal_nil (s : σ) : M.Legal s [] ↔ True := Iff.rfl

theorem exec_cons (s : σ) (a : α) (as : List α) :
    M.exec s (a :: as) = M.exec (M.step s a).1 as := rfl

theorem emitted_cons (s : σ) (a : α) (as : List α) :
    M.emitted s (a :: as) = (M.step s a).2 ++ M.emitted (M.step s a).1 as := rfl

private theorem legal_cons (s : σ) (a : α) (as : List α) :
    M.Legal s (a :: as) ↔ M.enabled s a ∧ M.Legal (M.step s a).1 as := Iff.rfl

theorem exec_append (s : σ) (as bs : List α) :
    M.exec s (as ++ bs) = M.exec (M.exec s as) bs := by
  induction as generalizing s with
  | nil => rfl
  | cons a as ih => exact ih (M.step s a).1

theorem emitted_append (s : σ) (as bs : List α) :
    M.emitted s (as ++ bs) = M.emitted s as ++ M.emitted (M.exec s as) bs := by
  induction as generalizing s with
  | nil => rfl
  | cons a as ih =>
    simp only [List.cons_append, emitted_cons, exec_cons, ih, List.append_assoc]

theorem legal_append (s : σ) (as bs : List α) :
    M.Legal s (as ++ bs) ↔ M.Legal s as ∧ M.Legal (M.exec s as) bs := by
  induction as generalizing s with
  | nil => simp
  | cons a as ih =>
    simp only [List.cons_append, legal_cons, exec_cons, ih, and_assoc]

@[simp] theorem exec_snoc (s : σ) (as : List α) (a : α) :
    M.exec s (as ++ [a]) = (M.step (M.exec s as) a).1 := by
  rw [exec_append]
  rfl

@[simp] theorem emitted_snoc (s : σ) (as : List α) (a : α) :
    M.emitted s (as ++ [a]) = M.emitted s as ++ (M.step (M.exec s as) a).2 := by
  rw [emitted_append]
  simp [emitted_cons]

@[simp] theorem legal_snoc (s : σ) (as : List α) (a : α) :
    M.Legal s (as ++ [a]) ↔ M.Legal s as ∧ M.enabled (M.exec s as) a := by
  rw [legal_append]
  simp [legal_cons]

theorem legal_of_enabled (always : ∀ s a, M.enabled s a) (s : σ) (as : List α) : M.Legal s as := by
  induction as generalizing s with
  | nil => trivial
  | cons a as ih => exact ⟨always s a, ih _⟩

theorem enabled_of_mem {s : σ} {as : List α} (legal : M.Legal s as) {a : α} (member : a ∈ as) :
    ∃ before, before <+: as ∧ M.enabled (M.exec s before) a := by
  obtain ⟨before, after, rfl⟩ := List.append_of_mem member
  have parts := (M.legal_append s before (a :: after)).mp legal
  exact ⟨before, List.prefix_append _ _, parts.2.1⟩

/-- The run rule: a relation between the inputs so far, the state and the
outputs so far that holds of the empty run and survives one enabled step holds
of every legal run. -/
theorem run_induction {s₀ : σ} (R : List α → σ → List β → Prop) (start : R [] s₀ [])
    (next : ∀ as a, M.Legal s₀ as → M.enabled (M.exec s₀ as) a →
      R as (M.exec s₀ as) (M.emitted s₀ as) →
      R (as ++ [a]) (M.step (M.exec s₀ as) a).1
        (M.emitted s₀ as ++ (M.step (M.exec s₀ as) a).2))
    {as : List α} (legal : M.Legal s₀ as) : R as (M.exec s₀ as) (M.emitted s₀ as) := by
  induction as using List.reverseRecOn with
  | nil => exact start
  | append_singleton as a ih =>
    rw [legal_snoc] at legal
    rw [exec_snoc, emitted_snoc]
    exact next as a legal.1 legal.2 (ih legal.1)

/-- A state predicate preserved by every enabled step holds after every legal run. -/
theorem exec_invariant {P : σ → Prop}
    (preserved : ∀ s a, P s → M.enabled s a → P (M.step s a).1)
    {s : σ} (start : P s) {as : List α} (legal : M.Legal s as) : P (M.exec s as) := by
  induction as generalizing s with
  | nil => exact start
  | cons a as ih => exact ih (preserved s a start legal.1) legal.2

/-- The exact-condition rule: where a step keeps `P` exactly under the condition
`C`, every state of a run satisfies `P` exactly when every step meets `C`. -/
theorem exec_prefix_iff {P : σ → Prop} {C : σ → α → Prop}
    (kept : ∀ s a, P s → (P (M.step s a).1 ↔ C s a)) {s : σ} (start : P s) (as : List α) :
    (∀ before, before <+: as → P (M.exec s before)) ↔
      ∀ before a, before ++ [a] <+: as → C (M.exec s before) a := by
  constructor
  · intro holds before a reached
    have now := holds before ((List.prefix_append before [a]).trans reached)
    have next := holds _ reached
    rw [exec_snoc] at next
    exact (kept _ a now).mp next
  · intro meets before reached
    induction before using List.reverseRecOn with
    | nil => exact start
    | append_singleton before a ih =>
      have now := ih ((List.prefix_append before [a]).trans reached)
      rw [exec_snoc]
      exact (kept _ a now).mpr (meets before a reached)

section Last

variable {γ : Type*} (effect : σ → α → Option γ)

/-- No input of the run has an effect. -/
def Quiet (s : σ) (as : List α) : Prop :=
  ∀ before a after, as = before ++ a :: after → effect (M.exec s before) a = none

/-- The value `g` is the effect of some input of the run, and nothing behind it has any. -/
def Lasts (s : σ) (as : List α) (g : γ) : Prop :=
  ∃ before a after, as = before ++ a :: after ∧ effect (M.exec s before) a = some g ∧
    M.Quiet effect (M.exec s (before ++ [a])) after

variable {effect} {s : σ} {as : List α}

private theorem quiet_nil : M.Quiet effect s [] := by
  intro before a after split
  simp at split

private theorem snoc_eq_append {before after : List α} {a b : α}
    (split : as ++ [a] = before ++ b :: after) :
    (as = before ∧ a = b ∧ after = []) ∨
      ∃ rest, after = rest ++ [a] ∧ as = before ++ b :: rest := by
  rcases List.eq_nil_or_concat after with rfl | ⟨rest, c, rfl⟩
  · obtain ⟨same, last⟩ := List.append_inj' split rfl
    exact Or.inl ⟨same, List.singleton_inj.mp last, rfl⟩
  · rw [List.concat_eq_append, ← List.cons_append, ← List.append_assoc] at split
    obtain ⟨same, last⟩ := List.append_inj' split rfl
    rw [List.singleton_inj.mp last]
    exact Or.inr ⟨rest, List.concat_eq_append, same⟩

private theorem quiet_snoc (a : α) : M.Quiet effect s (as ++ [a]) ↔
    M.Quiet effect s as ∧ effect (M.exec s as) a = none := by
  constructor
  · intro quiet
    refine ⟨?_, quiet as a [] rfl⟩
    rintro before b after rfl
    exact quiet before b (after ++ [a]) (by simp)
  · rintro ⟨quiet, last⟩ before b after split
    rcases snoc_eq_append split with ⟨rfl, rfl, -⟩ | ⟨rest, -, same⟩
    · exact last
    · exact quiet before b rest same

private theorem lasts_snoc (a : α) (g : γ) : M.Lasts effect s (as ++ [a]) g ↔
    match effect (M.exec s as) a with
    | none => M.Lasts effect s as g
    | some g' => g' = g := by
  constructor
  · rintro ⟨before, b, after, split, works, quiet⟩
    rcases snoc_eq_append split with ⟨rfl, rfl, -⟩ | ⟨rest, rfl, rfl⟩
    · rw [works]
    · have last := ((M.quiet_snoc a).mp quiet).2
      rw [← exec_append, List.append_assoc, List.singleton_append] at last
      rw [last]
      exact ⟨before, b, rest, rfl, works, ((M.quiet_snoc a).mp quiet).1⟩
  · intro lasts
    cases works : effect (M.exec s as) a with
    | none =>
      rw [works] at lasts
      obtain ⟨before, b, after, rfl, earlier, quiet⟩ := lasts
      refine ⟨before, b, after ++ [a], by simp, earlier, (M.quiet_snoc a).mpr ⟨quiet, ?_⟩⟩
      rw [← exec_append, List.append_assoc, List.singleton_append]
      exact works
    | some g' =>
      rw [works] at lasts
      obtain rfl : g' = g := lasts
      exact ⟨as, a, [], rfl, works, M.quiet_nil⟩

/-- The last-effect rule: what only effects change is the last effect of the run, or what it
was before the run if there is none. -/
theorem last_effect {view : σ → γ}
    (step : ∀ s a, view (M.step s a).1 = (effect s a).getD (view s)) (g : γ) :
    view (M.exec s as) = g ↔
      (M.Quiet effect s as ∧ view s = g) ∨ M.Lasts effect s as g := by
  induction as using List.reverseRecOn with
  | nil =>
    constructor
    · intro same
      exact Or.inl ⟨M.quiet_nil, same⟩
    · rintro (⟨-, same⟩ | ⟨before, a, after, split, -⟩)
      · exact same
      · simp at split
  | append_singleton as a ih =>
    rw [exec_snoc, step, quiet_snoc, lasts_snoc]
    cases works : effect (M.exec s as) a with
    | none => simpa using ih
    | some g' => simp

end Last

variable {τ α' β' : Type*} (N : Machine τ α' β')

/-- The simulation rule: a relation between the states of two machines and what
both have emitted, kept by every enabled step of `M` together with the step of
`N` it stands for, if any, holds after every legal run. -/
theorem run_simulation (R : σ → τ → List β → List β' → Prop) (input : α → Option α')
    (next : ∀ s t bs bs' a, R s t bs bs' → M.enabled s a →
      match input a with
      | none => R (M.step s a).1 t (bs ++ (M.step s a).2) bs'
      | some a' => R (M.step s a).1 (N.step t a').1 (bs ++ (M.step s a).2)
          (bs' ++ (N.step t a').2))
    {s : σ} {t : τ} (start : R s t [] []) {as : List α} (legal : M.Legal s as) :
    R (M.exec s as) (N.exec t (as.filterMap input)) (M.emitted s as)
      (N.emitted t (as.filterMap input)) := by
  induction as using List.reverseRecOn with
  | nil => exact start
  | append_singleton as a ih =>
    rw [legal_snoc] at legal
    have matched := next _ _ _ _ a (ih legal.1) legal.2
    rw [exec_snoc, emitted_snoc, List.filterMap_append]
    cases visible : input a with
    | none =>
      simp only [visible] at matched
      rw [List.filterMap_cons_none visible, List.filterMap_nil, List.append_nil]
      exact matched
    | some a' =>
      simp only [visible] at matched
      rw [List.filterMap_cons_some visible, List.filterMap_nil, exec_snoc, emitted_snoc]
      exact matched

/-- One step of `M` is matched by at most one step of `N`: inputs and outputs
are projected, and an input without a projection is invisible to `N`. -/
def Projects (inv : σ → Prop) (view : σ → τ) (input : α → Option α')
    (output : β → Option β') : Prop :=
  ∀ s a, inv s → M.enabled s a →
    match input a with
    | none => view (M.step s a).1 = view s ∧ (M.step s a).2.filterMap output = []
    | some a' => N.step (view s) a' =
        (view (M.step s a).1, (M.step s a).2.filterMap output)

theorem Projects.run {inv : σ → Prop} {view : σ → τ} {input : α → Option α'}
    {output : β → Option β'} (proj : M.Projects N inv view input output)
    (preserved : ∀ s a, inv s → M.enabled s a → inv (M.step s a).1)
    {s : σ} (start : inv s) {as : List α} (legal : M.Legal s as) :
    N.exec (view s) (as.filterMap input) = view (M.exec s as) ∧
      N.emitted (view s) (as.filterMap input) = (M.emitted s as).filterMap output := by
  have next : ∀ s t bs bs' a, (inv s ∧ t = view s ∧ bs' = bs.filterMap output) →
      M.enabled s a →
      match input a with
      | none => inv (M.step s a).1 ∧ t = view (M.step s a).1 ∧
          bs' = (bs ++ (M.step s a).2).filterMap output
      | some a' => inv (M.step s a).1 ∧ (N.step t a').1 = view (M.step s a).1 ∧
          bs' ++ (N.step t a').2 = (bs ++ (M.step s a).2).filterMap output := by
    rintro s _ bs _ a ⟨held, rfl, rfl⟩ enabled
    have matched := proj s a held enabled
    cases visible : input a with
    | none =>
      simp only [visible] at matched ⊢
      rw [List.filterMap_append, matched.1, matched.2, List.append_nil]
      exact ⟨preserved s a held enabled, rfl, rfl⟩
    | some a' =>
      simp only [visible] at matched ⊢
      rw [List.filterMap_append, matched]
      exact ⟨preserved s a held enabled, rfl, rfl⟩
  exact (M.run_simulation N (fun s t bs bs' => inv s ∧ t = view s ∧ bs' = bs.filterMap output)
    input next ⟨start, rfl, rfl⟩ legal).2

theorem Projects.legal {inv : σ → Prop} {view : σ → τ} {input : α → Option α'}
    {output : β → Option β'} (proj : M.Projects N inv view input output)
    (preserved : ∀ s a, inv s → M.enabled s a → inv (M.step s a).1)
    (allowed : ∀ s a a', M.enabled s a → input a = some a' → N.enabled (view s) a')
    {s : σ} (start : inv s) {as : List α} (legal : M.Legal s as) :
    N.Legal (view s) (as.filterMap input) := by
  induction as using List.reverseRecOn with
  | nil => trivial
  | append_singleton as a ih =>
    rw [legal_snoc] at legal
    rw [List.filterMap_append]
    cases visible : input a with
    | none =>
      rw [List.filterMap_cons_none visible, List.filterMap_nil, List.append_nil]
      exact ih legal.1
    | some a' =>
      rw [List.filterMap_cons_some visible, List.filterMap_nil, legal_snoc,
        (proj.run M N preserved start legal.1).1]
      exact ⟨ih legal.1, allowed _ _ _ legal.2 visible⟩

end Machine

end Revice.General

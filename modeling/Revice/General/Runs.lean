/- Module: Revice/General/Runs
   digest: The maximal runs of a list between its separators. -/

import Mathlib.Data.List.TakeWhile

set_option autoImplicit false
set_option relaxedAutoImplicit false

namespace Revice.General

variable {α : Type} {isBreak : α → Bool}

/-- The non-empty pieces of a list between its separators. -/
def runs (isBreak : α → Bool) (s : List α) : List (List α) :=
  (s.splitOnP isBreak).filter fun run => !run.isEmpty

@[simp] theorem runs_nil : runs isBreak [] = [] := by
  simp [runs]

private theorem flatten_runs (s : List α) :
    (runs isBreak s).flatten = s.filter fun b => !isBreak b := by
  rw [runs, List.flatten_filter_not_isEmpty]
  induction s with
  | nil => simp
  | cons b s ih =>
    rw [List.splitOnP_cons_eq_if_modifyHead]
    by_cases separates : isBreak b = true
    · rw [if_pos separates, List.flatten_cons, ih]
      simp [separates]
    · obtain ⟨piece, pieces, split⟩ := List.exists_cons_of_ne_nil (List.splitOnP_ne_nil isBreak s)
      rw [split] at ih ⊢
      rw [if_neg separates, List.modifyHead_cons,
        List.filter_cons_of_pos (by simp [separates]), ← ih]
      rfl

theorem mem_runs {s run : List α} (member : run ∈ runs isBreak s) :
    run ≠ [] ∧ ∀ b ∈ run, isBreak b = false ∧ b ∈ s := by
  constructor
  · have some_char := (List.mem_filter.mp member).2
    simpa using some_char
  · intro b inside
    have kept : b ∈ (runs isBreak s).flatten := List.mem_flatten.mpr ⟨run, member, inside⟩
    rw [flatten_runs, List.mem_filter] at kept
    exact ⟨by simpa using kept.2, kept.1⟩

theorem runs_append_break {b : α} (separates : isBreak b = true) (s t : List α) :
    runs isBreak (s ++ b :: t) = runs isBreak s ++ runs isBreak t := by
  rw [runs, List.splitOnP_append_cons s t separates, List.filter_append]
  rfl

private theorem runs_cons_break {b : α} (separates : isBreak b = true) (t : List α) :
    runs isBreak (b :: t) = runs isBreak t := by
  simpa using runs_append_break separates [] t

private theorem runs_dropWhile (s : List α) :
    runs isBreak (s.dropWhile isBreak) = runs isBreak s := by
  induction s with
  | nil => rfl
  | cons b s ih =>
    by_cases separates : isBreak b = true
    · rw [List.dropWhile_cons_of_pos separates, runs_cons_break separates]
      exact ih
    · rw [List.dropWhile_cons_of_neg separates]

private theorem runs_eq_singleton {s : List α} (some_char : s ≠ [])
    (plain : ∀ b ∈ s, isBreak b = false) : runs isBreak s = [s] := by
  rw [runs, List.splitOnP_eq_singleton plain]
  simpa using some_char

private theorem runs_append {run rest : List α} (some_char : run ≠ [])
    (plain : ∀ b ∈ run, isBreak b = false) (stops : ∀ b ∈ rest.head?, isBreak b = true) :
    runs isBreak (run ++ rest) = run :: runs isBreak (rest.drop 1) := by
  cases rest with
  | nil =>
    rw [List.append_nil, List.drop_nil, runs_nil]
    exact runs_eq_singleton some_char plain
  | cons b rest =>
    rw [runs_append_break (stops b rfl), runs_eq_singleton some_char plain]
    rfl

theorem runs_eq_nil {s : List α} (blank : s.dropWhile isBreak = []) : runs isBreak s = [] := by
  rw [← runs_dropWhile, blank, runs_nil]

theorem runs_eq_cons {s : List α} (some_run : s.dropWhile isBreak ≠ []) :
    runs isBreak s =
      ((s.dropWhile isBreak).takeWhile fun b => !isBreak b) ::
        runs isBreak (((s.dropWhile isBreak).dropWhile fun b => !isBreak b).drop 1) := by
  have head := List.head_dropWhile_not (p := isBreak) some_run
  obtain ⟨b, tail, split⟩ := List.exists_cons_of_ne_nil some_run
  have unbroken : isBreak b = false := by
    simpa [split] using head
  have starts : (s.dropWhile isBreak).takeWhile (fun b => !isBreak b) ≠ [] := by
    rw [split, List.takeWhile_cons_of_pos (by simp [unbroken])]
    exact List.cons_ne_nil b _
  have plain : ∀ c ∈ (s.dropWhile isBreak).takeWhile (fun b => !isBreak b),
      isBreak c = false := by
    intro c member
    simpa using List.mem_takeWhile_imp member
  have stops : ∀ c ∈ ((s.dropWhile isBreak).dropWhile fun b => !isBreak b).head?,
      isBreak c = true := by
    intro c next
    have stopped := List.head?_dropWhile_not (fun b => !isBreak b) (s.dropWhile isBreak)
    rw [Option.mem_def.mp next] at stopped
    simpa using stopped
  have first := runs_append starts plain stops
  rwa [List.takeWhile_append_dropWhile, runs_dropWhile] at first

end Revice.General

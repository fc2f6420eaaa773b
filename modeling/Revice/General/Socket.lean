/- Module: Revice/General/Socket
   digest: Reading a number of bytes from a stream that hands them over in chunks. -/

import Mathlib.Tactic.Common

set_option autoImplicit false
set_option relaxedAutoImplicit false

namespace Revice.General

/-- The receiving end of a stream: what the peer sends until it closes, and how many bytes
the next calls are willing to return. -/
structure Socket (β : Type*) where
  incoming : List β
  sizes : List Nat

/-- What a program that receives comes to: a result, the end of the stream, or no result yet. -/
inductive Received (α : Type*)
  | done (a : α)
  | closed
  | waiting
  deriving DecidableEq

namespace Socket

variable {β : Type*}

/-- At most `n` bytes, and at least one unless the peer has closed. -/
def recv (s : Socket β) (n : Nat) : List β × Socket β :=
  let k := min n (max 1 (s.sizes.headD n))
  (s.incoming.take k, ⟨s.incoming.drop k, s.sizes.tail⟩)

/-- The loop that collects `n` bytes. With the test it stops at an empty chunk; without it,
it goes round again. -/
def collect (test : Bool) (n : Nat) : Nat → Socket β → List β → Received (List β) × Socket β
  | 0, s, got => if n ≤ got.length then (.done got, s) else (.waiting, s)
  | fuel + 1, s, got =>
    if n ≤ got.length then (.done got, s)
    else
      let received := s.recv (n - got.length)
      if test && received.1.isEmpty then (.closed, received.2)
      else collect test n fuel received.2 (got ++ received.1)

private theorem recv_split (s : Socket β) (n : Nat) :
    (s.recv n).1 ++ (s.recv n).2.incoming = s.incoming :=
  List.take_append_drop _ _

private theorem recv_length_le (s : Socket β) (n : Nat) : (s.recv n).1.length ≤ n :=
  Nat.le_trans (List.length_take_le _ _) (Nat.min_le_left _ _)

private theorem recv_length_pos (s : Socket β) {n : Nat} (wanted : 0 < n) (more : s.incoming ≠ []) :
    0 < (s.recv n).1.length := by
  have left := List.length_pos_iff.mpr more
  rw [recv, List.length_take]
  omega

private theorem recv_closed {s : Socket β} (closed : s.incoming = []) (n : Nat) :
    (s.recv n).1 = [] := by
  rw [recv, closed]
  exact List.take_nil

private theorem collect_full (test : Bool) {n : Nat} (fuel : Nat) (s : Socket β) {got : List β}
    (full : n ≤ got.length) : collect test n fuel s got = (.done got, s) := by
  cases fuel with
  | zero => exact if_pos full
  | succ fuel => exact if_pos full

theorem collect_enough (test : Bool) {n m fuel : Nat} {s : Socket β} {got : List β}
    (missing : got.length + m = n) (there : m ≤ s.incoming.length) (rounds : m ≤ fuel) :
    ∃ sizes, collect test n fuel s got =
      (.done (got ++ s.incoming.take m), ⟨s.incoming.drop m, sizes⟩) := by
  induction fuel generalizing s got m with
  | zero =>
    obtain rfl : m = 0 := Nat.le_zero.mp rounds
    refine ⟨s.sizes, ?_⟩
    rw [collect_full test 0 s (Nat.le_of_eq missing.symm), List.take_zero, List.append_nil]
    rfl
  | succ fuel ih =>
    rcases Nat.eq_zero_or_pos m with rfl | wanted
    · refine ⟨s.sizes, ?_⟩
      rw [collect_full test _ s (Nat.le_of_eq missing.symm), List.take_zero, List.append_nil]
      rfl
    · have more : s.incoming ≠ [] := List.length_pos_iff.mp (Nat.lt_of_lt_of_le wanted there)
      have asked : n - got.length = m := by omega
      have some_bytes := recv_length_pos s wanted more
      have few := recv_length_le s m
      have split := recv_split s m
      have empty : (s.recv m).1.isEmpty = false := by
        rw [List.isEmpty_eq_false_iff]
        exact List.length_pos_iff.mp some_bytes
      have whole := congrArg List.length split
      rw [List.length_append] at whole
      have left : (got ++ (s.recv m).1).length + (m - (s.recv m).1.length) = n := by
        rw [List.length_append]
        omega
      obtain ⟨sizes, later⟩ := ih left (s := (s.recv m).2) (by omega) (by omega)
      refine ⟨sizes, ?_⟩
      rw [collect, if_neg (by omega), asked]
      simp only [empty, Bool.and_false, Bool.false_eq_true, if_false, later]
      have taken : s.incoming.take m =
          (s.recv m).1 ++ (s.recv m).2.incoming.take (m - (s.recv m).1.length) := by
        rw [← split, List.take_append, List.take_of_length_le few]
      have dropped : s.incoming.drop m =
          (s.recv m).2.incoming.drop (m - (s.recv m).1.length) := by
        rw [← split, List.drop_append, List.drop_eq_nil_of_le few, List.nil_append]
      rw [taken, dropped, List.append_assoc]

theorem collect_closed {n fuel : Nat} {s : Socket β} {got : List β}
    (short : got.length + s.incoming.length < n) (rounds : s.incoming.length < fuel) :
    (collect true n fuel s got).1 = .closed := by
  induction fuel generalizing s got with
  | zero => omega
  | succ fuel ih =>
    rw [collect, if_neg (by omega)]
    by_cases ended : s.incoming = []
    · simp only [recv_closed ended, List.isEmpty_nil, Bool.and_self, if_true]
    · have some_bytes := recv_length_pos s (n := n - got.length) (by omega) ended
      have split := congrArg List.length (recv_split s (n - got.length))
      have more : (s.recv (n - got.length)).1.isEmpty = false := by
        rw [List.isEmpty_eq_false_iff]
        exact List.length_pos_iff.mp some_bytes
      rw [List.length_append] at split
      simp only [more, Bool.and_false, Bool.false_eq_true, if_false]
      exact ih (by rw [List.length_append]; omega) (by omega)

/-- Without the test the loop never ends on a stream that is too short. -/
theorem collect_spins {n : Nat} (fuel : Nat) {s : Socket β} {got : List β}
    (short : got.length + s.incoming.length < n) : (collect false n fuel s got).1 = .waiting := by
  induction fuel generalizing s got with
  | zero => rw [collect, if_neg (by omega)]
  | succ fuel ih =>
    have split := congrArg List.length (recv_split s (n - got.length))
    rw [List.length_append] at split
    rw [collect, if_neg (by omega)]
    exact ih (by rw [List.length_append]; omega)

end Socket

end Revice.General

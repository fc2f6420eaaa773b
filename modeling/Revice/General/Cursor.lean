/- Module: Revice/General/Cursor
   digest: Append cursors over a working buffer of fixed size. -/

import Mathlib.Data.List.TakeDrop
import Mathlib.Tactic.Common

set_option autoImplicit false
set_option relaxedAutoImplicit false

namespace Revice.General

/-- A buffer with the index of the next cell to write; cells past the cursor
keep whatever they held before. -/
structure Cursor (α : Type*) where
  buf : List α
  pos : Nat

namespace Cursor

variable {α : Type*}

/-- The C idiom `buf[pos++] = a`. -/
def put (c : Cursor α) (a : α) : Cursor α := ⟨c.buf.set c.pos a, c.pos + 1⟩

def puts (c : Cursor α) (as : List α) : Cursor α := as.foldl put c

@[simp] theorem puts_nil (c : Cursor α) : c.puts [] = c := rfl

@[simp] theorem puts_cons (c : Cursor α) (a : α) (as : List α) :
    c.puts (a :: as) = (c.put a).puts as := rfl

theorem puts_append (c : Cursor α) (as bs : List α) :
    c.puts (as ++ bs) = (c.puts as).puts bs := List.foldl_append

@[simp] theorem put_pos (c : Cursor α) (a : α) : (c.put a).pos = c.pos + 1 := rfl

@[simp] theorem length_put (c : Cursor α) (a : α) : (c.put a).buf.length = c.buf.length := by
  simp [put]

@[simp] theorem puts_pos (c : Cursor α) (as : List α) :
    (c.puts as).pos = c.pos + as.length := by
  induction as generalizing c with
  | nil => rfl
  | cons a as ih =>
    rw [puts_cons, ih, put_pos, List.length_cons]
    omega

@[simp] theorem length_puts (c : Cursor α) (as : List α) :
    (c.puts as).buf.length = c.buf.length := by
  induction as generalizing c with
  | nil => rfl
  | cons a as ih => rw [puts_cons, ih, length_put]

theorem puts_resume (buf : List α) (start : Nat) (as bs : List α) :
    puts ⟨(puts ⟨buf, start⟩ as).buf, start + as.length⟩ bs = puts ⟨buf, start⟩ (as ++ bs) := by
  have stopped : (puts ⟨buf, start⟩ as).pos = start + as.length := puts_pos _ _
  rw [puts_append, ← stopped]

theorem puts_buf (c : Cursor α) (as : List α) (room : c.pos + as.length ≤ c.buf.length) :
    (c.puts as).buf = c.buf.take c.pos ++ as ++ c.buf.drop (c.pos + as.length) := by
  induction as generalizing c with
  | nil => simp
  | cons a as ih =>
    have inside : c.pos < c.buf.length := by
      simp only [List.length_cons] at room
      omega
    have rest : (c.put a).pos + as.length ≤ (c.put a).buf.length := by
      simp only [List.length_cons] at room
      simp only [put_pos, length_put]
      omega
    have written : (c.put a).buf = c.buf.take c.pos ++ a :: c.buf.drop (c.pos + 1) :=
      List.set_eq_take_append_cons_drop.trans (if_pos inside)
    have before : (c.buf.take c.pos).length = c.pos := by
      rw [List.length_take]
      omega
    rw [puts_cons, ih (c.put a) rest, written, put_pos]
    rw [List.take_append, List.drop_append, before]
    have total : c.pos + 1 + as.length = c.pos + (as.length + 1) := by omega
    simp only [total, Nat.add_sub_cancel_left, List.take_succ_cons, List.take_zero,
      List.drop_succ_cons, List.drop_drop, List.length_cons]
    rw [List.take_of_length_le (by omega), List.drop_eq_nil_of_le (by omega)]
    simp

private theorem take_puts (c : Cursor α) (as : List α) (room : c.pos + as.length ≤ c.buf.length)
    {n : Nat} (kept : n ≤ c.pos) : (c.puts as).buf.take n = c.buf.take n := by
  rw [puts_buf c as room, List.append_assoc, List.take_append_of_le_length]
  · rw [List.take_take, Nat.min_eq_left kept]
  · rw [List.length_take]
    omega

theorem take_puts_pos (c : Cursor α) (as : List α)
    (room : c.pos + as.length ≤ c.buf.length) :
    (c.puts as).buf.take (c.puts as).pos = c.buf.take c.pos ++ as := by
  have before : (c.buf.take c.pos).length = c.pos := by
    rw [List.length_take]
    omega
  rw [puts_buf c as room, puts_pos]
  exact List.take_left' (by rw [List.length_append, before])

/-- A header written last, into the gap left before a payload: the finished part
of the buffer is header, payload and tail in reading order. -/
theorem take_backfill (buf : List α) (m : Nat) (header payload tail : List α)
    (room : m + header.length + payload.length + tail.length ≤ buf.length) :
    let body := puts ⟨buf, m + header.length⟩ payload
    let final := puts ⟨(puts ⟨body.buf, m⟩ header).buf, body.pos⟩ tail
    final.buf.take final.pos = buf.take m ++ header ++ payload ++ tail := by
  intro body final
  have bodyPos : body.pos = m + header.length + payload.length := puts_pos _ _
  have bodyLength : body.buf.length = buf.length := length_puts _ _
  have bodyTake : body.buf.take (m + header.length + payload.length) =
      buf.take (m + header.length) ++ payload := by
    rw [← bodyPos]
    exact take_puts_pos ⟨buf, m + header.length⟩ payload (by simp only; omega)
  have headTake : body.buf.take m = buf.take m :=
    take_puts ⟨buf, m + header.length⟩ payload (by simp only; omega) (Nat.le_add_right _ _)
  have headerBuf : (puts ⟨body.buf, m⟩ header).buf =
      body.buf.take m ++ header ++ body.buf.drop (m + header.length) :=
    puts_buf _ _ (by simp only; omega)
  have payloadRead : (body.buf.drop (m + header.length)).take payload.length = payload := by
    rw [List.take_drop, bodyTake]
    exact List.drop_left' (by rw [List.length_take]; omega)
  have headLength : (body.buf.take m ++ header).length = m + header.length := by
    rw [List.length_append, List.length_take]
    omega
  rw [take_puts_pos _ tail (by simp only [length_puts]; omega), headerBuf, bodyPos,
    List.take_append, headLength, List.take_of_length_le (by omega),
    show m + header.length + payload.length - (m + header.length) = payload.length by omega,
    payloadRead, headTake]

end Cursor

end Revice.General

/- Module: Revice/General/Mirror
   digest: Write-back mirrors: a dirty set, coalesced frames, and what a receiver reconstructs. -/

import Mathlib.Data.List.Nodup
import Mathlib.Logic.Function.Basic
import Revice.General.Machine

/-!
A sender holds an image of cells and remembers which of them changed since the
last flush. A flush emits one frame carrying the current value of every dirty
cell, so intermediate values are lost, except at *eager* cells: a change to an
eager cell that is still dirty is preceded by a flush.

A receiver that only assigns what the frames carry agrees with the sender on
every clean cell, and sees the complete change history of every eager cell.
-/

set_option autoImplicit false
set_option relaxedAutoImplicit false

namespace Revice.General

/-- The current value of every cell and the cells changed since the last flush. -/
structure Mirror (ι β : Type*) where
  image : ι → β
  dirty : ι → Bool

/-- The assignments one frame carries, in transmission order. -/
abbrev Frame (ι β : Type*) := List (ι × β)

inductive MirrorOp (ι β : Type*)
  | write (i : ι) (b : β)
  | flush

namespace Mirror

variable {ι β : Type*}

def ofImage (f : ι → β) : Mirror ι β := ⟨f, fun _ => false⟩

def frame (order : List ι) (m : Mirror ι β) : Frame ι β :=
  (order.filter m.dirty).map fun i => (i, m.image i)

def flush (order : List ι) (m : Mirror ι β) : Mirror ι β × List (Frame ι β) :=
  if order.any m.dirty then (ofImage m.image, [m.frame order]) else (m, [])

/-- An eager cell that is still dirty is flushed before it changes again. -/
def settle (order : List ι) (eager : ι → Bool) (m : Mirror ι β) (i : ι) :
    Mirror ι β × List (Frame ι β) :=
  if eager i && m.dirty i then m.flush order else (m, [])

def pending (m : Mirror ι β) (i : ι) : List β := if m.dirty i then [m.image i] else []

/-- The receiver holds the sender's value at every clean cell. -/
def Agrees (f : ι → β) (m : Mirror ι β) : Prop := ∀ i, m.dirty i = false → f i = m.image i

theorem agrees_ofImage (f : ι → β) : Agrees f (ofImage f) := fun _ _ => rfl

@[simp] theorem pending_ofImage (f : ι → β) (i : ι) : (ofImage f).pending i = [] := rfl

private theorem clean_of_not_any {order : List ι} (covers : ∀ i, i ∈ order) {m : Mirror ι β}
    (idle : order.any m.dirty = false) (i : ι) : m.dirty i = false := by
  have none := List.any_eq_false.mp idle i (covers i)
  simpa using none

theorem flush_state {order : List ι} (covers : ∀ i, i ∈ order) (m : Mirror ι β) :
    (m.flush order).1 = ofImage m.image := by
  unfold flush
  cases some : order.any m.dirty with
  | true => rfl
  | false =>
    have dirty : m.dirty = fun _ => false := by
      funext i
      exact clean_of_not_any covers some i
    simp [ofImage, ← dirty]

private theorem settle_image {order : List ι} (covers : ∀ i, i ∈ order) (eager : ι → Bool)
    (m : Mirror ι β) (i : ι) : (m.settle order eager i).1.image = m.image := by
  unfold settle
  split
  · rw [flush_state covers]
    rfl
  · rfl

section Receiver

variable [DecidableEq ι]

def store (m : Mirror ι β) (i : ι) (b : β) : Mirror ι β :=
  ⟨Function.update m.image i b, Function.update m.dirty i true⟩

private theorem pending_store (m : Mirror ι β) (i j : ι) (b : β) :
    (m.store j b).pending i = if j = i then [b] else m.pending i := by
  by_cases here : j = i
  · subst here
    simp [store, pending]
  · simp [store, pending, here, Ne.symm here]

def assign (f : ι → β) (fr : Frame ι β) : ι → β :=
  fr.foldl (fun g p => Function.update g p.1 p.2) f

def receive (f : ι → β) (frames : List (Frame ι β)) : ι → β := frames.foldl assign f

theorem receive_append (f : ι → β) (first later : List (Frame ι β)) :
    receive f (first ++ later) = receive (receive f first) later := List.foldl_append

private theorem assign_map (f g : ι → β) (cells : List ι) (i : ι) :
    assign f (cells.map fun j => (j, g j)) i = if i ∈ cells then g i else f i := by
  induction cells generalizing f with
  | nil => simp [assign]
  | cons j cells ih =>
    have step : assign f ((j :: cells).map fun j => (j, g j)) =
        assign (Function.update f j (g j)) (cells.map fun j => (j, g j)) := rfl
    rw [step, ih]
    by_cases later : i ∈ cells
    · simp [later]
    · by_cases here : i = j
      · subst here
        simp [later]
      · simp [later, here]

private theorem assign_frame (order : List ι) (f : ι → β) (m : Mirror ι β) (i : ι) :
    assign f (m.frame order) i = if i ∈ order ∧ m.dirty i then m.image i else f i := by
  rw [frame, assign_map]
  simp only [List.mem_filter]

theorem receive_flush {order : List ι} (covers : ∀ i, i ∈ order) {f : ι → β}
    {m : Mirror ι β} (agree : Agrees f m) : receive f (m.flush order).2 = m.image := by
  funext i
  unfold flush
  cases some : order.any m.dirty with
  | true =>
    change assign f (m.frame order) i = m.image i
    rw [assign_frame]
    cases dirty : m.dirty i with
    | true => simp [covers i]
    | false => simpa using agree i dirty
  | false => exact agree i (clean_of_not_any covers some i)

theorem Agrees.flush {order : List ι} (covers : ∀ i, i ∈ order) {f : ι → β}
    {m : Mirror ι β} (agree : Agrees f m) :
    Agrees (receive f (m.flush order).2) (m.flush order).1 := by
  rw [flush_state covers, receive_flush covers agree]
  exact agrees_ofImage _

theorem Agrees.settle {order : List ι} (covers : ∀ i, i ∈ order) (eager : ι → Bool)
    {f : ι → β} {m : Mirror ι β} (agree : Agrees f m) (i : ι) :
    Agrees (receive f (m.settle order eager i).2) (m.settle order eager i).1 := by
  unfold Mirror.settle
  split
  · exact agree.flush covers
  · exact agree

theorem Agrees.store {f : ι → β} {m : Mirror ι β} (agree : Agrees f m) (i : ι) (b : β) :
    Agrees f (m.store i b) := by
  intro j clean
  by_cases here : j = i
  · subst here
    simp [Mirror.store] at clean
  · simp only [Mirror.store, Function.update_of_ne here] at clean ⊢
    exact agree j clean

end Receiver

section Runs

variable [DecidableEq ι] [DecidableEq β]

/-- A write equal to the current value is dropped. -/
def write (order : List ι) (eager : ι → Bool) (m : Mirror ι β) (i : ι) (b : β) :
    Mirror ι β × List (Frame ι β) :=
  if m.image i = b then (m, []) else
    ((m.settle order eager i).1.store i b, (m.settle order eager i).2)

def machine (order : List ι) (eager : ι → Bool) :
    Machine (Mirror ι β) (MirrorOp ι β) (Frame ι β) where
  step m
    | .write i b => m.write order eager i b
    | .flush => m.flush order
  enabled := fun _ _ => True

@[simp] theorem machine_step_write (order : List ι) (eager : ι → Bool) (m : Mirror ι β)
    (i : ι) (b : β) : (machine order eager).step m (.write i b) = m.write order eager i b := rfl

@[simp] theorem machine_step_flush (order : List ι) (eager : ι → Bool) (m : Mirror ι β) :
    (machine order eager).step m .flush = m.flush order := rfl

private theorem machine_legal (order : List ι) (eager : ι → Bool) (m : Mirror ι β)
    (ops : List (MirrorOp ι β)) : (machine order eager).Legal m ops := by
  induction ops generalizing m with
  | nil => trivial
  | cons op ops ih => exact ⟨trivial, ih _⟩

variable {order : List ι} (covers : ∀ i, i ∈ order) (eager : ι → Bool)

include covers

private theorem write_image (m : Mirror ι β) (i : ι) (b : β) :
    (m.write order eager i b).1.image = Function.update m.image i b := by
  unfold write
  split_ifs with same
  · exact (Function.update_eq_self_iff.mpr same.symm).symm
  · simp [store, settle_image covers]

theorem agrees_exec {f : ι → β} {m : Mirror ι β} (agree : Agrees f m)
    (ops : List (MirrorOp ι β)) :
    Agrees (receive f ((machine order eager).emitted m ops))
      ((machine order eager).exec m ops) := by
  refine Machine.run_induction (machine order eager)
    (fun _ state frames => Agrees (receive f frames) state) agree ?_
    (machine_legal order eager m ops)
  intro ops op _ _ ih
  rw [receive_append]
  cases op with
  | flush => exact ih.flush covers
  | write i b =>
    simp only [machine_step_write, write]
    split_ifs
    · exact ih
    · exact (ih.settle covers eager i).store i b

omit [DecidableEq β] covers in
def writesTo (i : ι) (ops : List (MirrorOp ι β)) : List β :=
  ops.filterMap fun
    | .write j b => if j = i then some b else none
    | .flush => none

omit [DecidableEq β] covers in
private theorem writesTo_snoc_write (i j : ι) (b : β) (ops : List (MirrorOp ι β)) :
    writesTo i (ops ++ [.write j b]) = writesTo i ops ++ if j = i then [b] else [] := by
  by_cases here : j = i <;> simp [writesTo, here]

omit [DecidableEq β] covers in
private theorem writesTo_snoc_flush (i : ι) (ops : List (MirrorOp ι β)) :
    writesTo i (ops ++ [.flush]) = writesTo i ops := by
  simp [writesTo]

theorem image_exec (m : Mirror ι β) (ops : List (MirrorOp ι β)) (i : ι) :
    ((machine order eager).exec m ops).image i = (writesTo i ops).getLastD (m.image i) := by
  refine Machine.run_induction (machine order eager)
    (fun ops state _ => state.image i = (writesTo i ops).getLastD (m.image i)) rfl ?_
    (machine_legal order eager m ops)
  intro ops op _ _ ih
  cases op with
  | flush =>
    rw [machine_step_flush, flush_state covers, writesTo_snoc_flush]
    exact ih
  | write j b =>
    rw [machine_step_write, write_image covers, writesTo_snoc_write]
    by_cases here : j = i
    · subst here
      simp
    · simpa [here, Ne.symm here] using ih

omit [DecidableEq ι] covers in
/-- A sequence of writes with every write equal to the current value removed. -/
def changes : β → List β → List β
  | _, [] => []
  | current, b :: bs => if b = current then changes current bs else b :: changes b bs

omit [DecidableEq ι] covers in
private theorem changes_snoc (current : β) (bs : List β) (b : β) :
    changes current (bs ++ [b]) =
      changes current bs ++ if b = bs.getLastD current then [] else [b] := by
  induction bs generalizing current with
  | nil => simp [changes]
  | cons c bs ih =>
    simp only [List.cons_append, changes, List.getLastD_cons]
    split_ifs with same <;> simp_all

omit [DecidableEq β] covers in
/-- The values the frames carry for one cell, in order. -/
def carried (i : ι) (frames : List (Frame ι β)) : List β :=
  (frames.flatten.filter fun p => p.1 = i).map Prod.snd

omit [DecidableEq β] covers in
private theorem carried_append (i : ι) (first later : List (Frame ι β)) :
    carried i (first ++ later) = carried i first ++ carried i later := by
  simp [carried]

omit [DecidableEq β] covers in
private theorem filter_cell {cells : List ι} (nodup : cells.Nodup) (g : ι → β) (i : ι) :
    ((cells.map fun j => (j, g j)).filter fun p => p.1 = i).map Prod.snd =
      if i ∈ cells then [g i] else [] := by
  induction cells with
  | nil => simp
  | cons j cells ih =>
    rw [List.nodup_cons] at nodup
    rw [List.map_cons, List.filter_cons]
    by_cases here : j = i
    · subst here
      simp [ih nodup.2, nodup.1]
    · simp [here, ih nodup.2, Ne.symm here]

omit [DecidableEq β] in
private theorem carried_flush (nodup : order.Nodup) (m : Mirror ι β) (i : ι) :
    carried i (m.flush order).2 = m.pending i := by
  unfold flush pending
  cases some : order.any m.dirty with
  | true =>
    have cells := filter_cell (nodup.filter m.dirty) m.image i
    simp only [List.mem_filter, covers i, true_and] at cells
    simpa [carried, frame] using cells
  | false => simp [carried, clean_of_not_any covers some i]

omit [DecidableEq β] in
private theorem carried_settle (nodup : order.Nodup) (m : Mirror ι β) (i j : ι) :
    carried i (m.settle order eager j).2 ++ (m.settle order eager j).1.pending i =
        m.pending i ∧
      (eager j = true → (m.settle order eager j).1.pending j = []) := by
  unfold settle
  split_ifs with forced
  · rw [carried_flush covers nodup, flush_state covers]
    simp
  · constructor
    · simp [carried]
    · intro prompt
      have clean : m.dirty j = false := by simpa [prompt] using forced
      simp [pending, clean]

/-- An eager cell loses no change: the carried values followed by the pending
one are its complete change history. -/
theorem carried_exec (nodup : order.Nodup) (f : ι → β) (ops : List (MirrorOp ι β)) {i : ι}
    (prompt : eager i = true) :
    carried i ((machine order eager).emitted (ofImage f) ops) ++
        ((machine order eager).exec (ofImage f) ops).pending i =
      changes (f i) (writesTo i ops) := by
  refine Machine.run_induction (machine order eager)
    (fun ops state frames => carried i frames ++ state.pending i =
      changes (f i) (writesTo i ops)) rfl ?_ (machine_legal order eager _ ops)
  intro ops op _ _ ih
  have current := image_exec covers eager (ofImage f) ops i
  generalize (machine order eager).exec (ofImage f) ops = m at ih current ⊢
  generalize (machine order eager).emitted (ofImage f) ops = frames at ih ⊢
  rw [carried_append]
  cases op with
  | flush =>
    rw [machine_step_flush, writesTo_snoc_flush, carried_flush covers nodup, flush_state covers]
    simpa using ih
  | write j b =>
    rw [machine_step_write, write, writesTo_snoc_write]
    by_cases here : j = i
    · subst here
      have settled := carried_settle covers eager nodup m j j
      have carriedNow : carried j (m.settle order eager j).2 = m.pending j := by
        simpa [settled.2 prompt] using settled.1
      rw [if_pos rfl, changes_snoc, ← ih]
      change m.image j = (writesTo j ops).getLastD (f j) at current
      rw [← current]
      split_ifs with same
      · simp [carried]
      · exact absurd ‹_› (by tauto)
      · exact absurd ‹_› (by tauto)
      · simp [carriedNow, pending_store]
    · rw [if_neg here, List.append_nil]
      split_ifs with same
      · simpa [carried] using ih
      · rw [pending_store, if_neg here, List.append_assoc,
          (carried_settle covers eager nodup m i j).1]
        exact ih

end Runs

section Link

variable [DecidableEq ι]

def carries (i : ι) (fr : Frame ι β) : Bool := fr.any fun p => p.1 = i

private theorem assign_skips {i : ι} {fr : Frame ι β} (skips : carries i fr = false) (f : ι → β) :
    assign f fr i = f i := by
  induction fr generalizing f with
  | nil => rfl
  | cons p fr ih =>
    rw [carries, List.any_cons, Bool.or_eq_false_iff] at skips
    have apart : i ≠ p.1 := fun same => of_decide_eq_false skips.1 same.symm
    exact (ih skips.2 _).trans (Function.update_of_ne apart _ _)

private theorem assign_carries {i : ι} {fr : Frame ι β} (carried : carries i fr = true)
    (f g : ι → β) :
    assign f fr i = assign g fr i := by
  induction fr generalizing f g with
  | nil => cases carried
  | cons p fr ih =>
    cases later : carries i fr with
    | true => exact ih later _ _
    | false =>
      rw [carries, List.any_cons, ← carries, later, Bool.or_false, decide_eq_true_iff] at carried
      change assign (Function.update f p.1 p.2) fr i = assign (Function.update g p.1 p.2) fr i
      rw [assign_skips later, assign_skips later, carried, Function.update_self,
        Function.update_self]

/-- A link loses some messages. A cell still ends as if nothing were lost, provided
the last message whose frame carries it gets through. -/
theorem receive_thinned {α : Type*} (decode : α → Option (Frame ι β)) (f : ι → β) (i : ι)
    (sent : List (α × Bool))
    (last : ∀ p, (sent.filter fun p => (decode p.1).any (carries i)).getLast? = some p →
      p.2 = true) :
    receive f (((sent.filter Prod.snd).map Prod.fst).filterMap decode) i =
      receive f ((sent.map Prod.fst).filterMap decode) i := by
  induction sent using List.reverseRecOn with
  | nil => rfl
  | append_singleton sent p ih =>
    -- a message that does not carry the cell leaves it alone, delivered or not
    have skipped (skips : (decode p.1).any (carries i) = false) (g : ι → β) :
        receive g ([p.1].filterMap decode) i = g i := by
      cases decoded : decode p.1 with
      | none => simp [decoded, receive]
      | some fr =>
        rw [decoded, Option.any_some] at skips
        simpa [decoded, receive] using assign_skips skips g
    simp only [List.filter_append, List.map_append, List.filterMap_append, receive_append]
    cases carried : (decode p.1).any (carries i) with
    | true =>
      have through : p.2 = true := last p (by simp [List.filter_append, carried])
      obtain ⟨fr, decoded⟩ : ∃ fr, decode p.1 = some fr := by
        rw [Option.any_eq_true] at carried
        exact ⟨carried.choose, carried.choose_spec.1⟩
      rw [decoded, Option.any_some] at carried
      simpa [through, decoded, receive] using assign_carries carried _ _
    | false =>
      have earlier := ih fun q found => last q (by simp [List.filter_append, carried, found])
      refine Eq.trans ?_ (earlier.trans (skipped carried _).symm)
      cases through : p.2 with
      | true => simpa [through] using skipped carried _
      | false => simp [through, receive]

end Link

end Mirror

end Revice.General

/- Module: Revice/Keymatrix/Reject
   source: libs/keymatrix/src/keymatrix_core.c
   digest: The requests that are turned down, and that they change nothing. -/

import Revice.Keymatrix.Action

set_option autoImplicit false
set_option relaxedAutoImplicit false

namespace Revice.Keymatrix

open Revice.General

/-- Why a given argument string lists no keys: it does not fit the buffer, the
parser refuses it with a text, or there is no key in it. -/
inductive BadKeyList (args : CString) : Prop
  | tooLong (long : 256 ≤ args.bytes.length)
  | refused {buf text : Text} (copied : kmCopyArgs args 256 = some buf)
      (error : parseKeyList buf kmMaxKeys = .error text)
  | noKeys {buf : Text} {forFrames : Int} (copied : kmCopyArgs args 256 = some buf)
      (empty : parseKeyList buf kmMaxKeys = .ok ([], forFrames))

/-- Why a given argument string names no raw write. -/
inductive BadPoke (args : CString) : Prop
  | tooLong (long : 256 ≤ args.bytes.length)
  | operands {buf : Text} (copied : kmCopyArgs args 256 = some buf)
      (unread : pokeOperands buf = none)
  | range {buf : Text} {row col value : Int} (copied : kmCopyArgs args 256 = some buf)
      (read : pokeOperands buf = some (row, col, value)) (outside : ¬CellInRange (row, col))

def Rejected (host : KmHost) (km : KmCore) : KmOp → Prop
  | .tap args => ∀ given ∈ givenArgs args, BadKeyList given
  | .press args => ∀ given ∈ givenArgs args, BadKeyList given
  | .release args => ∃ given ∈ givenArgs args, BadKeyList given
  | .poke args => ∀ given ∈ givenArgs args, BadPoke given
  | .binmonSet body => (kmCoreBinmonSet km body).1 < 0
  | .binmonTap body => (kmCoreBinmonTap host km body).1 < 0
  | .binmonGet buf => (kmCoreBinmonGet host km buf).1 < 0
  | _ => False

private theorem kmCopyArgs_none (args : CString) :
    kmCopyArgs args 256 = none ↔ 256 ≤ args.bytes.length := by
  rw [kmCopyArgs]
  split
  · simpa
  · simpa using Nat.lt_of_not_le ‹_›

private theorem argKeys_none_iff {args : Option CString} {given : CString}
    (present : givenArgs args = some given) : argKeys args = none ↔ BadKeyList given := by
  simp only [argKeys, present, parseArgs]
  cases copied : kmCopyArgs given 256 with
  | none => simp [BadKeyList.tooLong ((kmCopyArgs_none given).mp copied)]
  | some buf =>
    simp only
    cases parsed : parseKeyList buf kmMaxKeys with
    | error text => simp [BadKeyList.refused copied parsed]
    | ok listed =>
      obtain ⟨keys, forFrames⟩ := listed
      by_cases empty : keys = []
      · subst empty
        simp [BadKeyList.noKeys copied parsed]
      · simp only [empty, if_false, reduceCtorEq, false_iff]
        rintro (long | ⟨copied', error⟩ | ⟨copied', nothing⟩)
        · rw [(kmCopyArgs_none given).mpr long] at copied
          cases copied
        · cases copied.symm.trans copied'
          cases parsed.symm.trans error
        · cases copied.symm.trans copied'
          cases parsed.symm.trans nothing
          exact empty rfl

private theorem pokeWrite_none_iff {args : Option CString} {given : CString}
    (present : givenArgs args = some given) : pokeWrite args = none ↔ BadPoke given := by
  simp only [pokeWrite, present]
  cases copied : kmCopyArgs given 256 with
  | none => simp [BadPoke.tooLong ((kmCopyArgs_none given).mp copied)]
  | some buf =>
    simp only
    cases read : pokeOperands buf with
    | none => simp [BadPoke.operands copied read]
    | some operands =>
      obtain ⟨row, col, value⟩ := operands
      have outside_iff : (decide (col < 0) || decide (col > 7) || decide (row < -8) ||
          decide (row > 15)) = true ↔ ¬CellInRange (row, col) := by
        simp only [Bool.or_eq_true, decide_eq_true_eq, CellInRange]
        omega
      simp only [outside_iff]
      by_cases inside : CellInRange (row, col)
      · simp only [inside, not_true_eq_false, if_false, reduceCtorEq, false_iff]
        rintro (long | ⟨copied', unread⟩ | ⟨copied', read', outside⟩)
        · rw [(kmCopyArgs_none given).mpr long] at copied
          cases copied
        · cases copied.symm.trans copied'
          cases read.symm.trans unread
        · cases copied.symm.trans copied'
          cases read.symm.trans read'
          exact outside inside
      · simp [inside, BadPoke.range copied read inside]

private theorem binmonSet_rejected (km : KmCore) (body : List U8) :
    (kmCoreBinmonSet km body).1 < 0 ↔ setTriples body = none := by
  rw [kmCoreBinmonSet]
  cases setTriples body <;> simp

private theorem binmonTap_rejected (host : KmHost) (km : KmCore) (body : List U8) :
    (kmCoreBinmonTap host km body).1 < 0 ↔ tapBody body = none := by
  rw [kmCoreBinmonTap]
  cases tapBody body <;> simp

private theorem startAction_none_iff {request : Option Injection} :
    startAction request = .none ↔ request = none := by
  cases request <;> simp [startAction]

private theorem badArgs_iff {args : Option CString} :
    (∀ given ∈ givenArgs args, BadKeyList given) ↔ argKeys args = none := by
  cases present : givenArgs args with
  | none => simp [argKeys, present]
  | some given => simp [argKeys_none_iff present]

variable {host : KmHost} {km : KmCore}

private theorem rejected_iff {op : KmOp}
    (request : op ≠ .show ∧ op ≠ .names ∧ ∀ buf, op ≠ .binmonGet buf) :
    Rejected host km op ↔ op.action = .none := by
  cases op with
  | tap args => rw [Rejected, badArgs_iff, KmOp.action, startAction_none_iff, tapInjection,
      Option.pmap_eq_none_iff]
  | press args => rw [Rejected, badArgs_iff, KmOp.action, startAction_none_iff, pressInjection,
      Option.pmap_eq_none_iff]
  | release args =>
    rw [Rejected, KmOp.action]
    cases present : givenArgs args with
    | none => simp
    | some given =>
      simp only [Option.mem_def, Option.some.injEq, exists_eq_left', ← argKeys_none_iff present]
      cases argKeys args <;> simp
  | poke args =>
    rw [Rejected, KmOp.action]
    cases present : givenArgs args with
    | none => simp [pokeWrite, present]
    | some given =>
      simp only [Option.mem_def, Option.some.injEq, forall_eq', ← pokeWrite_none_iff present]
      cases pokeWrite args <;> simp
  | binmonSet body =>
    rw [Rejected, binmonSet_rejected, KmOp.action]
    cases setTriples body <;> simp
  | binmonTap body => rw [Rejected, binmonTap_rejected, KmOp.action, startAction_none_iff,
      bodyInjection, Option.pmap_eq_none_iff]
  | «show» => exact absurd rfl request.1
  | names => exact absurd rfl request.2.1
  | binmonGet buf => exact absurd rfl (request.2.2 buf)
  | _ => simp [Rejected, KmOp.action]

private theorem rejected_action {op : KmOp} (rejected : Rejected host km op) :
    op.action = .none := by
  cases op with
  | «show» => rfl
  | names => rfl
  | binmonGet buf => rfl
  | _ => exact (rejected_iff (by simp)).mp rejected

private theorem binmonGet_rejected {buf : GetBuffer}
    (rejected : (kmCoreBinmonGet host km buf).1 < 0) :
    (kmCoreBinmonGet host km buf).2 = buf := by
  obtain ⟨out, outLength⟩ := buf
  cases out with
  | none => rfl
  | some out =>
    cases outLength with
    | none => rfl
    | some outLength =>
      simp only [kmCoreBinmonGet] at rejected ⊢
      split at rejected
      · rename_i short
        rw [if_pos short]
      · exact absurd rejected (Int.lt_irrefl 0)

private theorem emits_only {calls : List HostCall} (silent : silentCalls calls = []) :
    ∀ call ∈ calls, ∃ text, call = .emit text := by
  intro call member
  have spoken := List.filter_eq_nil_iff.mp silent call member
  cases call with
  | emit text => exact ⟨text, rfl⟩
  | _ => exact absurd rfl spoken

/-- Rejected requests change nothing: from every reachable state the core, the
matrix and the alarm stay as they are, the host is asked for nothing but monitor
text, and a rejected GET leaves the caller's buffer and length alone. -/
theorem rejected_changes_nothing (ticks : List KmTick) (tick : KmTick)
    (rejected : Rejected ((kmRun ticks).env.host tick.now tick.cyclesPerFrame) (kmRun ticks).km
      tick.op) :
    (kmStep (kmRun ticks) tick).1 = kmRun ticks ∧
      (∀ call ∈ (kmStep (kmRun ticks) tick).2, ∃ text, call = .emit text) ∧
      ∀ buf, tick.op = .binmonGet buf →
        (kmCoreBinmonGet ((kmRun ticks).env.host tick.now tick.cyclesPerFrame) (kmRun ticks).km
          buf).2 = buf := by
  have action := rejected_action rejected
  refine ⟨?_, ?_, ?_⟩
  · rw [kmStep_eq, action]
    rfl
  · have does := perform_does ((kmRun ticks).env.host tick.now tick.cyclesPerFrame)
      (kmRun ticks).km tick.op
    rw [action] at does
    exact emits_only does.2
  · intro buf get
    rw [get] at rejected
    exact binmonGet_rejected rejected

theorem rejected_changes_nothing_typo :
    let sys := kmRun [⟨0, 19656, .binmonTap [0, 60, 0, 1, 1, 2]⟩]
    (kmStep sys ⟨1, 19656, .tap (some ⟨str "b zz", by decide⟩)⟩).1 = sys := by
  intro sys
  refine (rejected_changes_nothing [⟨0, 19656, .binmonTap [0, 60, 0, 1, 1, 2]⟩]
    ⟨1, 19656, .tap (some ⟨str "b zz", by decide⟩)⟩ ?_).1
  intro given present
  cases present
  exact .refused rfl rfl

end Revice.Keymatrix

/- Module: Revice/Keymatrix/Lines
   source: libs/keymatrix/src/keymatrix_core.c
   digest: Names, counts and errors are short, and so are the texts that are made of them. -/

import Revice.General.Print
import Revice.Keymatrix.Response

set_option autoImplicit false
set_option relaxedAutoImplicit false

namespace Revice.Keymatrix

open Revice.General

def HostCall.Whole : HostCall → Prop
  | .emit text => text.length < 511
  | .setKeyarrAny _ _ _ => True
  | .clearKeymatrix => True
  | .setAlarm _ => True
  | .cancelAlarm => True

/-- What the core knows a key by: a short name, and coordinates of one byte. -/
structure KmKey.Named (key : KmKey) : Prop where
  name : Shown 15 key.name
  row : -128 ≤ key.row ∧ key.row ≤ 127
  col : -128 ≤ key.col ∧ key.col ≤ 127

def KmCore.Named (km : KmCore) : Prop :=
  (∀ key ∈ km.keys, key.Named) ∧ ∀ key ∈ km.last.keys, key.Named

section Names

private theorem shown_take {k : Nat} {text : Text} (shown : Shown k text) (n : Nat) :
    Shown n (text.take n) :=
  ⟨List.length_take_le _ _, fun b member => shown.printable b (List.mem_of_mem_take member)⟩

private theorem shown_pair {row col : Int} (rows : -128 ≤ row ∧ row ≤ 127)
    (cols : -128 ≤ col ∧ col ≤ 127) :
    Shown 15 (keyName (decimal row ++ chr ',' :: decimal col)) := by
  have comma : Shown 1 (str ",") := Shown.literal 1 (by rfl)
  have first : Shown 4 (decimal row) :=
    Shown.decimal (k := 3) (by decide) (by omega)
  have second : Shown 4 (decimal col) :=
    Shown.decimal (k := 3) (by decide) (by omega)
  exact shown_take (first.append (comma.append second)) 15

private theorem shown_table : ∀ entry ∈ c64Keys, Shown 12 (str entry.name) := by
  have all : ∀ entry ∈ c64Keys, (decide ((str entry.name).length ≤ 12) &&
      (str entry.name).all fun b => decide (Printable b)) = true := by
    decide +kernel
  intro entry member
  exact Shown.literal 12 (all entry member)

private theorem named_token {tok : Text} {key : KmKey} (parsed : parseKeyToken tok = some key) :
    key.Named := by
  have cell := parseKeyToken_inRange parsed
  obtain ⟨low, high, left, right⟩ := cell
  change -8 ≤ key.row at low
  change key.row ≤ 15 at high
  change 0 ≤ key.col at left
  change key.col ≤ 7 at right
  have rows : -128 ≤ key.row ∧ key.row ≤ 127 := ⟨by omega, by omega⟩
  have cols : -128 ≤ key.col ∧ key.col ≤ 127 := ⟨by omega, by omega⟩
  refine ⟨?_, rows, cols⟩
  rw [parseKeyToken] at parsed
  split at parsed
  · simp only [parseRcPair] at parsed
    split at parsed
    · cases parsed
    · split at parsed
      · cases parsed
      · split at parsed
        · cases parsed
        · cases parsed
          exact shown_pair rows cols
  · rw [findKeyByName, Option.map_eq_some_iff] at parsed
    obtain ⟨entry, found, rfl⟩ := parsed
    exact shown_take (shown_table entry (List.mem_of_find?_eq_some found)) 15

private theorem named_pairKey (row col : U8) : (pairKey row col).Named := by
  have rows : -128 ≤ row.toInt ∧ row.toInt ≤ 127 := by
    have low := BitVec.le_toInt row
    have high := BitVec.toInt_lt (x := row)
    omega
  have cols : -128 ≤ col.toInt ∧ col.toInt ≤ 127 := by
    have low := BitVec.le_toInt col
    have high := BitVec.toInt_lt (x := col)
    omega
  exact ⟨shown_pair rows cols, rows, cols⟩

private theorem named_loop {maxKeys fuel : Nat} {s : Text} {keys parsed : List KmKey}
    {forFrames frames : Int} (sofar : ∀ key ∈ keys, key.Named)
    (accepted : parseKeyListLoop maxKeys fuel s keys forFrames = .ok (parsed, frames)) :
    ∀ key ∈ parsed, key.Named := by
  induction fuel generalizing s keys forFrames with
  | zero =>
    cases accepted
    exact sofar
  | succ fuel ih =>
    rw [parseKeyListLoop] at accepted
    split at accepted
    · cases accepted
      exact sofar
    · split at accepted
      · split at accepted
        · cases accepted
        · simp only at accepted
          split at accepted
          · cases accepted
          · exact ih sofar accepted
      · split at accepted
        · cases accepted
        · split at accepted
          · cases accepted
          · rename_i key keyParsed
            refine ih ?_ accepted
            intro other member
            rcases List.mem_append.mp member with old | new
            · exact sofar other old
            · rw [List.mem_singleton.mp new]
              exact named_token keyParsed

private theorem named_parseArgs {args : CString} {parsed : List KmKey × Int}
    (accepted : parseArgs args = .ok parsed) : ∀ key ∈ parsed.1, key.Named := by
  rw [parseArgs] at accepted
  split at accepted
  · cases accepted
  · exact named_loop (fun key member => absurd member List.not_mem_nil) accepted

private theorem named_argKeys {args : Option CString} {parsed : List KmKey × Int}
    (listed : argKeys args = some parsed) : ∀ key ∈ parsed.1, key.Named := by
  obtain ⟨given, -, accepted, -⟩ := argKeys_some args listed
  exact named_parseArgs accepted

private theorem named_tapBody {body : List U8} {parsed : KmMode × Int × List KmKey}
    (accepted : tapBody body = some parsed) : ∀ key ∈ parsed.2.2, key.Named := by
  simp only [tapBody] at accepted
  split at accepted
  · cases accepted
  · split at accepted
    · cases accepted
    · split at accepted
      · cases accepted
      · cases accepted
        intro key member
        obtain ⟨i, -, rfl⟩ := List.mem_map.mp member
        exact named_pairKey _ _

end Names

section Invariant

private theorem named_starts {op : KmOp} {injection : Injection}
    (action : op.action = .start injection) : ∀ key ∈ injection.keys, key.Named := by
  have started : ∀ {α : Type} {read : Option α} {P : α → Prop} {pressed : ∀ a, P a → Injection}
      {ok : ∀ a ∈ read, P a}, startAction (read.pmap pressed ok) = .start injection →
        ∃ a proof, read = some a ∧ pressed a proof = injection := by
    intro α read P pressed ok same
    cases read with
    | none => cases same
    | some a => exact ⟨a, ok a rfl, rfl, KmAction.start.inj same⟩
  cases op with
  | tap args =>
    obtain ⟨parsed, _, listed, rfl⟩ := started action
    exact named_argKeys listed
  | press args =>
    obtain ⟨parsed, _, listed, rfl⟩ := started action
    exact named_argKeys listed
  | release args =>
    rw [KmOp.action] at action
    split at action
    · cases action
    · split at action <;> cases action
  | poke args =>
    rw [KmOp.action] at action
    split at action <;> cases action
  | «show» => cases action
  | names => cases action
  | paRead mask => cases action
  | pbRead mask => cases action
  | binmonSet body =>
    rw [KmOp.action] at action
    split at action <;> cases action
  | binmonTap body =>
    obtain ⟨parsed, _, accepted, rfl⟩ := started action
    exact named_tapBody accepted
  | binmonGet buf => cases action
  | onAlarm => cases action

theorem kmRun_named (ticks : List KmTick) : (kmRun ticks).km.Named := by
  have empty : ∀ key ∈ ([] : List KmKey), key.Named := fun key member =>
    absurd member List.not_mem_nil
  have fewer : ∀ keys listed : List KmKey, (∀ key ∈ keys, key.Named) →
      ∀ key ∈ survivingKeys keys listed, key.Named :=
    fun keys listed named key member => named key (List.mem_of_mem_filter member)
  exact lists_run (P := fun keys => ∀ key ∈ keys, key.Named) empty fewer
    (fun _ _ action => named_starts action) ticks

end Invariant

section Texts

/-- Nothing of the calls is cut. -/
def WholeCalls (calls : List HostCall) : Prop := ∀ call ∈ calls, call.Whole

theorem WholeCalls.nil : WholeCalls [] := fun _ member => absurd member List.not_mem_nil

theorem WholeCalls.cons {call : HostCall} {calls : List HostCall} (first : call.Whole)
    (rest : WholeCalls calls) : WholeCalls (call :: calls) := by
  intro other member
  rcases List.mem_cons.mp member with rfl | member
  · exact first
  · exact rest other member

theorem WholeCalls.append {first later : List HostCall} (one : WholeCalls first)
    (two : WholeCalls later) : WholeCalls (first ++ later) := by
  intro call member
  rcases List.mem_append.mp member with member | member
  · exact one call member
  · exact two call member

theorem WholeCalls.map {α : Type} {as : List α} {call : α → HostCall}
    (each : ∀ a ∈ as, (call a).Whole) : WholeCalls (as.map call) := by
  intro other member
  obtain ⟨a, inside, rfl⟩ := List.mem_map.mp member
  exact each a inside

theorem WholeCalls.silent {calls : List HostCall} (same : silentCalls calls = calls) :
    WholeCalls calls := by
  intro call member
  rw [← same] at member
  have silent := (List.mem_filter.mp member).2
  cases call with
  | emit text => cases silent
  | setKeyarrAny row col value => trivial
  | clearKeymatrix => trivial
  | setAlarm clk => trivial
  | cancelAlarm => trivial

theorem whole_outf {text : Text} (fits : text.length < 511) : (kmOutf text).Whole := by
  change (text.take 511).length < 511
  rw [List.length_take]
  omega

private theorem whole_literal {s : String} (fits : decide ((str s).length < 511) = true) :
    (kmOutf (str s)).Whole :=
  whole_outf (of_decide_eq_true fits)

private theorem whole_line {k : Nat} {line : Text} (shown : Shown k line) {tail : String}
    (fits : decide (k + (str tail).length < 511) = true) : (kmOutf (line ++ str tail)).Whole := by
  have short := shown.short
  have room := of_decide_eq_true fits
  apply whole_outf
  rw [List.length_append]
  omega

private theorem kmTok_length {s tok rest : Text} (found : kmTok s = some (tok, rest)) :
    tok.length ≤ s.length := by
  simp only [kmTok] at found
  split at found
  · cases found
  · cases found
    exact (List.takeWhile_prefix _).length_le.trans (List.dropWhile_suffix _).length_le

private theorem quoted_short {tok : Text} {n : Nat} (short : tok.length ≤ n) (head tail : String)
    (fits : decide ((str head).length + (str tail).length ≤ 60) = true) :
    (str head ++ tok ++ str tail).length ≤ n + 60 := by
  have room := of_decide_eq_true fits
  rw [List.length_append, List.length_append]
  omega

private theorem loop_error_short {fuel : Nat} {s text : Text} {keys : List KmKey} {forFrames : Int}
    (rejected : parseKeyListLoop kmMaxKeys fuel s keys forFrames = .error text) :
    text.length ≤ s.length + 60 := by
  induction fuel generalizing s keys forFrames with
  | zero => cases rejected
  | succ fuel ih =>
    rw [parseKeyListLoop] at rejected
    cases first : kmTok s with
    | none =>
      rw [first] at rejected
      cases rejected
    | some found =>
      obtain ⟨tok, rest⟩ := found
      have shorter := kmTok_shorter first
      have short := kmTok_length first
      rw [first] at rejected
      simp only at rejected
      split at rejected
      · cases second : kmTok rest with
        | none =>
          rw [second] at rejected
          cases rejected
          exact Nat.le_add_left_of_le (by decide)
        | some found =>
          obtain ⟨framesTok, last⟩ := found
          have shorterStill := kmTok_shorter second
          have shortToo := kmTok_length second
          rw [second] at rejected
          simp only at rejected
          split at rejected
          · cases rejected
            exact quoted_short (by omega) "error: invalid frame count '" "'\n" (by decide)
          · have bound := ih rejected
            omega
      · split at rejected
        · cases rejected
          exact Nat.le_add_left_of_le (by decide)
        · split at rejected
          · cases rejected
            exact quoted_short short "error: unknown key '" "' (try 'keymatrix names')\n"
              (by decide)
          · have bound := ih rejected
            omega

private theorem whole_error {args : CString} {text : Text}
    (rejected : parseArgs args = .error text) :
    (kmOutf text).Whole := by
  apply whole_outf
  rw [parseArgs] at rejected
  split at rejected
  · cases rejected
    decide
  · rename_i buf copied
    have bound := loop_error_short rejected
    rw [kmCopyArgs] at copied
    split at copied
    · cases copied
    · cases copied
      omega

private theorem parseArgs_ok {args : CString} {keys : List KmKey} {forFrames : Int}
    (accepted : parseArgs args = .ok (keys, forFrames)) : KeyListOk kmMaxKeys keys forFrames := by
  rw [parseArgs] at accepted
  split at accepted
  · cases accepted
  · exact parseKeyList_ok accepted

theorem shown_count {keys : List KmKey} (few : keys.length ≤ kmMaxKeys) :
    Shown 3 (decimal keys.length) := by
  refine Shown.decimal (k := 2) (by decide) ?_
  rw [Int.natAbs_natCast]
  exact Nat.lt_of_le_of_lt few (by decide)

private theorem shown_frames {keys : List KmKey} {forFrames : Int}
    (listed : KeyListOk kmMaxKeys keys forFrames) :
    Shown 6 (decimal (tapFrames forFrames).2) := by
  have frames := listed.frames
  refine Shown.decimal (k := 5) (by decide) ?_
  unfold tapFrames
  split
  · simp only
    omega
  · decide

theorem shown_word {w : Nat} (x : BitVec w) {k : Nat} (positive : 0 < k) (wide : 2 ^ w ≤ 10 ^ k) :
    Shown (k + 1) (decimal x.toNat) := by
  refine Shown.decimal positive ?_
  rw [Int.natAbs_natCast]
  exact Nat.lt_of_lt_of_le x.isLt wide

theorem shown_plural (n : Int) : Shown 1 (plural n) := by
  rw [plural]
  split
  · exact ⟨by decide, fun b member => absurd member List.not_mem_nil⟩
  · exact Shown.literal 1 (by rfl)

theorem shown_modeStr (mode : KmMode) : Shown 12 (kmModeStr mode) := by
  cases mode <;> exact Shown.literal 12 (by rfl)

theorem shown_reasonStr (reason : KmReleaseReason) : Shown 8 (kmReasonStr reason) := by
  cases reason <;> exact Shown.literal 8 (by rfl)

theorem shown_onOff (on : Bool) : Shown 3 (onOff on) := by
  cases on <;> exact Shown.literal 3 (by rfl)

end Texts

section Operations

variable (host : KmHost) {km : KmCore}

theorem whole_tap (args : Option CString) : WholeCalls (kmCoreTap host args km).2 := by
  unfold kmCoreTap
  split
  · exact .cons (whole_literal (by decide)) .nil
  · split
    · rename_i text rejected
      exact .cons (whole_error rejected) .nil
    · rename_i keys forFrames accepted
      have listed := parseArgs_ok accepted
      split
      · exact .cons (whole_literal (by decide)) .nil
      · refine (WholeCalls.silent (silentCalls_start ..)).append
          (.cons (whole_line (k := 200) ?_ (by decide)) .nil)
        exact (((((Shown.literal 15 (by rfl)).append (shown_count listed.few)).field 15
          (by rfl) (shown_plural _)).field 15 (by rfl) (shown_modeStr _)).field 15 (by rfl)
          (shown_frames listed)).field 15 (by rfl) (shown_plural _) |>.mono (by decide)

theorem whole_press (args : Option CString) : WholeCalls (kmCorePress host args km).2 := by
  unfold kmCorePress
  split
  · exact .cons (whole_literal (by decide)) .nil
  · split
    · rename_i text rejected
      exact .cons (whole_error rejected) .nil
    · rename_i keys forFrames accepted
      have listed := parseArgs_ok accepted
      have note : WholeCalls (if forFrames > 0
          then [kmOutf (str "note: 'for <frames>' has no effect on press; use 'tap' for that\n")]
          else []) := by
        split
        · exact .cons (whole_literal (by decide)) .nil
        · exact .nil
      simp only
      split
      · exact note.append (.cons (whole_literal (by decide)) .nil)
      · refine (note.append (WholeCalls.silent (silentCalls_start ..))).append
          (.cons (whole_line (k := 200) ?_ (by decide)) .nil)
        exact ((Shown.literal 19 (by rfl)).append (shown_count listed.few)).field 15
          (by rfl) (shown_plural _) |>.mono (by decide)

theorem whole_release (args : Option CString) : WholeCalls (kmCoreRelease host args km).2 := by
  unfold kmCoreRelease
  split
  · have released : WholeCalls
        (if km.active then kmReleaseNow host .manual km else (km, [])).2 := by
      split
      · exact .silent (silentCalls_releaseNow ..)
      · exact .nil
    exact released.append (.cons trivial (.cons (whole_literal (by decide)) .nil))
  · split
    · rename_i text rejected
      exact .cons (whole_error rejected) .nil
    · rename_i keys forFrames accepted
      have listed := parseArgs_ok accepted
      split
      · exact .cons (whole_literal (by decide)) .nil
      · refine (WholeCalls.silent (silentCalls_releaseListed ..)).append
          (.cons (whole_line (k := 200) ?_ (by decide)) .nil)
        exact ((Shown.literal 20 (by rfl)).append (shown_count listed.few)).field 15
          (by rfl) (shown_plural _) |>.mono (by decide)

private theorem pokeOperands_value {buf : Text} {row col value : Int}
    (read : pokeOperands buf = some (row, col, value)) : value = 0 ∨ value = 1 := by
  simp only [pokeOperands] at read
  split at read
  · cases read
  · split at read
    · cases read
    · split at read
      · cases read
      · split at read
        · cases read
        · rename_i bit
          cases read
          simp only [Bool.and_eq_true, decide_eq_true_eq] at bit
          omega

theorem whole_poke (args : Option CString) : WholeCalls (kmCorePoke args km).2 := by
  unfold kmCorePoke
  split
  · exact .cons (whole_literal (by decide)) .nil
  · split
    · exact .cons (whole_literal (by decide)) .nil
    · split
      · exact .cons (whole_literal (by decide)) .nil
      · rename_i row col value read
        have bit := pokeOperands_value read
        split
        · exact .cons (whole_literal (by decide)) .nil
        · rename_i inside
          simp only [Bool.or_eq_true, decide_eq_true_eq, not_or] at inside
          have rows : Shown 3 (decimal row) :=
            Shown.decimal (k := 2) (by decide) (by omega)
          have cols : Shown 2 (decimal col) :=
            Shown.decimal (k := 1) (by decide) (by omega)
          have values : Shown 2 (decimal value) :=
            Shown.decimal (k := 1) (by decide) (by omega)
          refine .cons trivial (.cons (whole_line (k := 200) ?_ (by decide)) .nil)
          exact (((Shown.literal 20 (by rfl)).append rows).field 9 (by rfl) cols).field 9
            (by rfl) values |>.mono (by decide)

private theorem whole_showNames (col : Nat) {entries : List KmxKeydef}
    (table : ∀ entry ∈ entries, Shown 12 (str entry.name)) :
    WholeCalls (showNames col entries) := by
  induction entries generalizing col with
  | nil =>
    rw [showNames]
    split
    · exact .cons (whole_literal (by decide)) .nil
    · exact .nil
  | cons entry entries ih =>
    have short := (table entry List.mem_cons_self).short
    have rest := fun col => ih col fun other member => table other (List.mem_cons_of_mem _ member)
    have padded : (kmOutf (str entry.name ++
        List.replicate (12 - (str entry.name).length) (chr ' '))).Whole := by
      apply whole_outf
      rw [List.length_append, List.length_replicate]
      omega
    rw [showNames]
    refine .cons padded ?_
    split
    · exact .cons (whole_literal (by decide)) (rest 0)
    · exact rest (col + 1)

theorem whole_names : WholeCalls (kmCoreNames km).2 := by
  have table := whole_showNames 0 shown_table
  exact .cons (whole_literal (by decide)) (table.append
    (.cons (whole_literal (by decide)) (.cons (whole_literal (by decide)) .nil)))

theorem whole_scan (coord : KmKey → Int) (mask : U8) :
    WholeCalls (kmScan coord host mask km).2 := by
  simp only [kmScan, kmObserve]
  split
  · split
    · split
      · exact .cons trivial .nil
      · exact .nil
    · exact .nil
  · exact .nil

end Operations

end Revice.Keymatrix

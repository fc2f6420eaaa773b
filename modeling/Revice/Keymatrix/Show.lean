/- Module: Revice/Keymatrix/Show
   source: libs/keymatrix/src/keymatrix_core.c
   digest: `keymatrix show` prints what a GET response says, and `names` prints all names. -/

import Revice.Keymatrix.Grammar
import Revice.Keymatrix.Lines

set_option autoImplicit false
set_option relaxedAutoImplicit false

namespace Revice.Keymatrix

open Revice.General

def newline : Text := [chr '\n']

/-- The lines of `show`, without their newlines. -/
def titleLine : Text := str "keymatrix: live keyarr (rows down, cols right):"

def columnsLine : Text :=
  str "       " ++ (List.range 8).flatMap fun c : Nat => decimal c ++ str " "

def cellText (on : Bool) : Text := if on then str "* " else str ". "

def rowLine (r : Nat) (bits : Nat → Bool) : Text :=
  str "  r" ++ decimal r ++ str ":  " ++ (List.range 8).flatMap fun c => cellText (bits c)

def customLine (restore caps col4080 : Bool) : Text :=
  str "  RESTORE: " ++ onOff restore ++ str "   CAPSLOCK: " ++ onOff caps ++ str "   4080: " ++
    onOff col4080

def activeLine (mode : KmMode) (n : Nat) : Text :=
  str "active injection: " ++ kmModeStr mode ++ str ", " ++ decimal n ++ str " key" ++ plural n

def idleLine : Text := str "no active injection"

def lastLine (mode : KmMode) (n : Nat) : Text :=
  str "last tap: " ++ decimal n ++ str " key" ++ plural n ++ str " (" ++ kmModeStr mode ++ str ")"

def keyLine (key : KmKey) : Text :=
  str "  " ++ key.name ++ str " (" ++ decimal key.row ++ str "," ++ decimal key.col ++ str ")"

def releasedLine (framesHeld : U16) (reason : KmReleaseReason) : Text :=
  str "  released after " ++ decimal framesHeld.toNat ++ str " frame" ++ plural framesHeld.toNat ++
    str "; reason: " ++ kmReasonStr reason

def readsLine (total sampling : U32) : Text :=
  str "  cia1 reads: " ++ decimal total.toNat ++ str " total, " ++ decimal sampling.toNat ++
    str " sampled injected bits"

def activeLines (km : KmCore) : List Text :=
  if km.active then
    activeLine km.mode km.keys.length :: km.keys.map keyLine ++
      [readsLine km.cia1ReadsTotal km.cia1ReadsSampling]
  else [idleLine]

def lastLines (last : KmLast) : List Text :=
  if last.valid then
    [[], lastLine last.mode last.keys.length] ++ last.keys.map keyLine ++
      [releasedLine last.framesHeld last.reason,
        readsLine last.cia1ReadsTotal last.cia1ReadsSampling]
  else []

def matrixLines (host : KmHost) : List Text :=
  [titleLine, columnsLine] ++
    (List.range 8).map (fun r => rowLine r (host.getKeyarr r).getLsbD) ++
    [customLine (host.customKeyGet .restore1) (host.customKeyGet .caps)
      (host.customKeyGet .col4080), []]

def showLines (host : KmHost) (km : KmCore) : List Text :=
  matrixLines host ++ activeLines km ++ lastLines km.last

section Chunks

def monitorText (calls : List HostCall) : Text :=
  calls.flatMap fun
    | .emit text => text
    | .setKeyarrAny _ _ _ => []
    | .clearKeymatrix => []
    | .setAlarm _ => []
    | .cancelAlarm => []

private theorem monitorText_append (first later : List HostCall) :
    monitorText (first ++ later) = monitorText first ++ monitorText later :=
  List.flatMap_append

/-- Calls that print the given text, and none of it is cut. -/
structure Says (calls : List HostCall) (text : Text) : Prop where
  whole : WholeCalls calls
  text : monitorText calls = text

theorem Says.append {first later : List HostCall} {s t : Text} (one : Says first s)
    (two : Says later t) : Says (first ++ later) (s ++ t) := by
  refine ⟨one.whole.append two.whole, ?_⟩
  rw [monitorText_append, one.text, two.text]

theorem Says.nil : Says [] [] := ⟨.nil, rfl⟩

theorem Says.chunk {text : Text} (fits : text.length < 511) : Says [kmOutf text] text := by
  refine ⟨.cons (whole_outf fits) .nil, ?_⟩
  have uncut : text.take 511 = text := List.take_of_length_le (by omega)
  change text.take 511 ++ [] = text
  rw [uncut, List.append_nil]

theorem Says.literal {s : String} (fits : decide ((str s).length < 511) = true) :
    Says [kmOutf (str s)] (str s) :=
  .chunk (of_decide_eq_true fits)

theorem Says.line {k : Nat} {line : Text} (shown : Shown k line)
    (small : k < 510) : Says [kmOutf (line ++ newline)] (line ++ newline) := by
  have short := shown.short
  apply Says.chunk
  rw [List.length_append]
  exact Nat.lt_of_le_of_lt (Nat.add_le_add_right short 1) (by omega)

theorem Says.map {α : Type} {as : List α} {call : α → HostCall} {text : α → Text}
    (each : ∀ a ∈ as, Says [call a] (text a)) : Says (as.map call) (as.flatMap text) := by
  induction as with
  | nil => exact .nil
  | cons a as ih =>
    have rest := ih fun other member => each other (List.mem_cons_of_mem a member)
    exact (each a List.mem_cons_self).append rest

theorem Says.flatMap {α : Type} {as : List α} {calls : α → List HostCall} {text : α → Text}
    (each : ∀ a ∈ as, Says (calls a) (text a)) : Says (as.flatMap calls) (as.flatMap text) := by
  induction as with
  | nil => exact .nil
  | cons a as ih =>
    have rest := ih fun other member => each other (List.mem_cons_of_mem a member)
    rw [List.flatMap_cons, List.flatMap_cons]
    exact (each a List.mem_cons_self).append rest

end Chunks

section Lines

private theorem shown_titleLine : Shown 60 titleLine := Shown.literal 60 (by rfl)

private theorem shown_digit {n : Nat} (small : n < 8) : Shown 2 (decimal n) :=
  Shown.decimal (k := 1) (by decide) (by rw [Int.natAbs_natCast]; omega)

private theorem shown_columnsLine : Shown 60 columnsLine := by
  have digits : Shown ((List.range 8).length * 3)
      ((List.range 8).flatMap fun c : Nat => decimal c ++ str " ") := by
    apply Shown.flatMap
    intro c inside
    exact (shown_digit (List.mem_range.mp inside)).append (Shown.literal 1 (by rfl))
  exact (Shown.literal 7 (by rfl)).append digits |>.mono (by decide)

private theorem shown_cellText (on : Bool) : Shown 2 (cellText on) := by
  cases on <;> exact Shown.literal 2 (by rfl)

private theorem shown_rowLine {r : Nat} (small : r < 8) (bits : Nat → Bool) :
    Shown 60 (rowLine r bits) := by
  have cells : Shown ((List.range 8).length * 2)
      ((List.range 8).flatMap fun c => cellText (bits c)) :=
    Shown.flatMap fun c _ => shown_cellText (bits c)
  exact (((Shown.literal 9 (by rfl)).append (shown_digit small)).append
    (Shown.literal 9 (by rfl))).append cells |>.mono (by decide)

private theorem shown_customLine (restore caps col4080 : Bool) :
    Shown 60 (customLine restore caps col4080) :=
  ((((Shown.literal 15 (by rfl)).append (shown_onOff restore)).field 15 (by rfl)
    (shown_onOff caps)).field 15 (by rfl) (shown_onOff col4080)) |>.mono (by decide)

private theorem shown_activeLine (mode : KmMode) {keys : List KmKey}
    (few : keys.length ≤ kmMaxKeys) :
    Shown 60 (activeLine mode keys.length) :=
  (((Shown.literal 20 (by rfl)).append (shown_modeStr mode)).field 9 (by rfl)
    (shown_count few)).field 9 (by rfl) (shown_plural _) |>.mono (by decide)

private theorem shown_idleLine : Shown 60 idleLine := Shown.literal 60 (by rfl)

private theorem shown_lastLine (mode : KmMode) {keys : List KmKey} (few : keys.length ≤ kmMaxKeys) :
    Shown 60 (lastLine mode keys.length) :=
  ((((Shown.literal 20 (by rfl)).append (shown_count few)).field 9 (by rfl)
    (shown_plural _)).field 9 (by rfl) (shown_modeStr mode)).append
    (Shown.literal 1 (by rfl)) |>.mono (by decide)

private theorem shown_keyLine {key : KmKey} (named : key.Named) : Shown 60 (keyLine key) := by
  obtain ⟨name, rows, cols⟩ := named
  have row : Shown 4 (decimal key.row) :=
    Shown.decimal (k := 3) (by decide) (by omega)
  have col : Shown 4 (decimal key.col) :=
    Shown.decimal (k := 3) (by decide) (by omega)
  exact ((((Shown.literal 9 (by rfl)).append name).field 9 (by rfl) row).field 9 (by rfl)
    col).append (Shown.literal 1 (by rfl)) |>.mono (by decide)

private theorem shown_releasedLine (framesHeld : U16) (reason : KmReleaseReason) :
    Shown 90 (releasedLine framesHeld reason) :=
  ((((Shown.literal 20 (by rfl)).append
    (shown_word framesHeld (k := 5) (by decide) (by decide))).field 9 (by rfl)
    (shown_plural _)).field 20 (by rfl) (shown_reasonStr reason)) |>.mono (by decide)

private theorem shown_readsLine (total sampling : U32) : Shown 90 (readsLine total sampling) :=
  (((Shown.literal 20 (by rfl)).append
    (shown_word total (k := 10) (by decide) (by decide))).field 9 (by rfl)
    (shown_word sampling (k := 10) (by decide) (by decide))).append
    (Shown.literal 23 (by rfl)) |>.mono (by decide)

end Lines

section Parts

variable (host : KmHost) (km : KmCore)

private theorem says_columns :
    Says ([kmOutf (str "keymatrix: live keyarr (rows down, cols right):\n"),
        kmOutf (str "       ")] ++
      (List.range 8).map (fun c : Nat => kmOutf (decimal c ++ str " ")) ++ [kmOutf (str "\n")])
      ([titleLine, columnsLine].flatMap (· ++ newline)) := by
  have digits : Says ((List.range 8).map fun c : Nat => kmOutf (decimal c ++ str " "))
      ((List.range 8).flatMap fun c : Nat => decimal c ++ str " ") := by
    apply Says.map
    intro c inside
    have short := (shown_digit (List.mem_range.mp inside)).short
    apply Says.chunk
    rw [List.length_append]
    exact Nat.lt_of_le_of_lt (Nat.add_le_add_right short 1) (by decide)
  have title : Says [kmOutf (str "keymatrix: live keyarr (rows down, cols right):\n")]
      (titleLine ++ newline) := Says.line shown_titleLine (by decide)
  have start : Says [kmOutf (str "       ")] (str "       ") := Says.literal (by decide)
  have fin : Says [kmOutf (str "\n")] newline := Says.literal (by decide)
  have all := ((title.append start).append digits).append fin
  simp only [List.flatMap_cons, List.flatMap_nil, List.append_nil, columnsLine,
    List.append_assoc] at all ⊢
  exact all

private theorem says_row {r : Nat} (small : r < 8) :
    Says (showRow host r) (rowLine r (host.getKeyarr r).getLsbD ++ newline) := by
  have label : Says [kmOutf (str "  r" ++ decimal r ++ str ":  ")]
      (str "  r" ++ decimal r ++ str ":  ") := by
    have short := ((Shown.literal 9 (by rfl) : Shown 9 (str "  r")).append
      (shown_digit small)).short
    apply Says.chunk
    rw [List.length_append]
    exact Nat.lt_of_le_of_lt (Nat.add_le_add_right short 3) (by decide)
  have cells : Says ((List.range 8).map fun c =>
      kmOutf (if (host.getKeyarr r).getLsbD c then str "* " else str ". "))
      ((List.range 8).flatMap fun c => cellText ((host.getKeyarr r).getLsbD c)) := by
    apply Says.map
    intro c _
    split
    · rename_i set
      rw [cellText, if_pos set]
      exact Says.literal (by decide)
    · rename_i clear
      rw [cellText, if_neg clear]
      exact Says.literal (by decide)
  have fin : Says [kmOutf (str "\n")] newline := Says.literal (by decide)
  exact (label.append cells).append fin

private theorem says_custom :
    Says [kmOutf (str "  RESTORE: " ++ onOff (host.customKeyGet .restore1) ++
        str "   CAPSLOCK: " ++ onOff (host.customKeyGet .caps) ++
        str "   4080: " ++ onOff (host.customKeyGet .col4080) ++ str "\n")]
      (customLine (host.customKeyGet .restore1) (host.customKeyGet .caps)
        (host.customKeyGet .col4080) ++ newline) :=
  Says.line (shown_customLine _ _ _) (by decide)

private theorem Says.block {k : Nat} {line : Text} (shown : Shown k line) (small : k < 500)
    {calls : List HostCall} {rest : Text} (later : Says calls rest) :
    Says (kmOutf (newline ++ (line ++ newline)) :: calls)
      (newline ++ (line ++ newline) ++ rest) := by
  have short := shown.short
  have first : Says [kmOutf (newline ++ (line ++ newline))] (newline ++ (line ++ newline)) := by
    apply Says.chunk
    rw [List.length_append, List.length_append]
    change 1 + (line.length + 1) < 511
    omega
  exact first.append later

private theorem says_keys {keys : List KmKey} (named : ∀ key ∈ keys, key.Named) :
    Says (showKeys keys) ((keys.map keyLine).flatMap (· ++ newline)) := by
  rw [List.flatMap_map]
  apply Says.map
  intro key member
  have line := Says.line (shown_keyLine (named key member)) (by decide)
  have ended : str ")\n" = str ")" ++ newline := rfl
  rw [ended, ← List.append_assoc]
  exact line

private theorem says_reads (total sampling : U32) :
    Says [showReads total sampling] (readsLine total sampling ++ newline) := by
  have line := Says.line (shown_readsLine total sampling) (by decide)
  have ended : str " sampled injected bits\n" = str " sampled injected bits" ++ newline := rfl
  rw [showReads, ended, ← List.append_assoc]
  exact line

variable {km}

private theorem says_active (named : ∀ key ∈ km.keys, key.Named)
    (few : km.keys.length ≤ kmMaxKeys) :
    Says (if km.active then
        kmOutf (str "\nactive injection: " ++ kmModeStr km.mode ++ str ", " ++
          decimal km.keys.length ++ str " key" ++ plural km.keys.length ++ str "\n") ::
        showKeys km.keys ++ [showReads km.cia1ReadsTotal km.cia1ReadsSampling]
      else [kmOutf (str "\nno active injection\n")])
      (([] :: activeLines km).flatMap (· ++ newline)) := by
  rw [activeLines]
  split
  · have first := Says.block (shown_activeLine km.mode few) (by decide)
      ((says_keys named).append (says_reads km.cia1ReadsTotal km.cia1ReadsSampling))
    have text : ([] :: (activeLine km.mode km.keys.length :: km.keys.map keyLine ++
        [readsLine km.cia1ReadsTotal km.cia1ReadsSampling])).flatMap (· ++ newline) =
        newline ++ (activeLine km.mode km.keys.length ++ newline) ++
          ((km.keys.map keyLine).flatMap (· ++ newline) ++
            (readsLine km.cia1ReadsTotal km.cia1ReadsSampling ++ newline)) := by
      simp only [List.flatMap_cons, List.flatMap_append, List.flatMap_nil, List.append_nil,
        List.nil_append, List.append_assoc]
    rw [text]
    exact first
  · exact Says.block shown_idleLine (by decide) .nil

private theorem says_last {last : KmLast} (named : ∀ key ∈ last.keys, key.Named)
    (few : last.keys.length ≤ kmMaxKeys) :
    Says (if last.valid then
        kmOutf (str "\nlast tap: " ++ decimal last.keys.length ++ str " key" ++
          plural last.keys.length ++ str " (" ++ kmModeStr last.mode ++ str ")\n") ::
        showKeys last.keys ++
        [kmOutf (str "  released after " ++ decimal last.framesHeld.toNat ++ str " frame" ++
          plural last.framesHeld.toNat ++ str "; reason: " ++ kmReasonStr last.reason ++
          str "\n"),
          showReads last.cia1ReadsTotal last.cia1ReadsSampling]
      else [])
      ((lastLines last).flatMap (· ++ newline)) := by
  rw [lastLines]
  split
  · have released := Says.line (shown_releasedLine last.framesHeld last.reason) (by decide)
    have first := Says.block (shown_lastLine last.mode few) (by decide)
      ((says_keys named).append (released.append
        (says_reads last.cia1ReadsTotal last.cia1ReadsSampling)))
    have text : ([[], lastLine last.mode last.keys.length] ++ last.keys.map keyLine ++
        [releasedLine last.framesHeld last.reason,
          readsLine last.cia1ReadsTotal last.cia1ReadsSampling]).flatMap (· ++ newline) =
        newline ++ (lastLine last.mode last.keys.length ++ newline) ++
          ((last.keys.map keyLine).flatMap (· ++ newline) ++
            (releasedLine last.framesHeld last.reason ++ newline ++
              (readsLine last.cia1ReadsTotal last.cia1ReadsSampling ++ newline))) := by
      simp only [List.flatMap_cons, List.flatMap_append, List.flatMap_nil, List.append_nil,
        List.nil_append, List.append_assoc]
    have ended : str ")\n" = str ")" ++ newline := rfl
    rw [text, ended, ← List.append_assoc]
    exact first
  · exact .nil

private theorem says_show (named : km.Named) (few : km.Few) :
    Says (kmCoreShow host km).2 ((showLines host km).flatMap (· ++ newline)) := by
  have rows : Says ((List.range 8).flatMap (showRow host))
      (((List.range 8).map fun r => rowLine r (host.getKeyarr r).getLsbD).flatMap
        (· ++ newline)) := by
    rw [List.flatMap_map]
    exact Says.flatMap fun r inside => says_row host (List.mem_range.mp inside)
  have all := ((((says_columns).append rows).append (says_custom host)).append
    (says_active named.1 few.1)).append (says_last named.2 few.2)
  have text : (showLines host km).flatMap (· ++ newline) =
      [titleLine, columnsLine].flatMap (· ++ newline) ++
        ((List.range 8).map fun r => rowLine r (host.getKeyarr r).getLsbD).flatMap
          (· ++ newline) ++
        (customLine (host.customKeyGet .restore1) (host.customKeyGet .caps)
          (host.customKeyGet .col4080) ++ newline) ++
        ([] :: activeLines km).flatMap (· ++ newline) ++
        (lastLines km.last).flatMap (· ++ newline) := by
    simp only [showLines, matrixLines, List.flatMap_append, List.flatMap_cons, List.flatMap_nil,
      List.append_nil, List.append_assoc]
  rw [text]
  exact all

private theorem shown_activeLines (named : ∀ key ∈ km.keys, key.Named)
    (few : km.keys.length ≤ kmMaxKeys) : ∀ line ∈ activeLines km, Shown 90 line := by
  intro line member
  rw [activeLines] at member
  split at member
  · rcases List.mem_append.mp member with member | member
    · rcases List.mem_cons.mp member with rfl | member
      · exact (shown_activeLine km.mode few).mono (by decide)
      · obtain ⟨key, inside, rfl⟩ := List.mem_map.mp member
        exact (shown_keyLine (named key inside)).mono (by decide)
    · rw [List.mem_singleton.mp member]
      exact shown_readsLine _ _
  · rw [List.mem_singleton.mp member]
    exact shown_idleLine.mono (by decide)

private theorem shown_lastLines {last : KmLast} (named : ∀ key ∈ last.keys, key.Named)
    (few : last.keys.length ≤ kmMaxKeys) : ∀ line ∈ lastLines last, Shown 90 line := by
  have empty : Shown 90 [] :=
    ⟨Nat.zero_le _, fun b member => absurd member List.not_mem_nil⟩
  intro line member
  rw [lastLines] at member
  split at member
  · rcases List.mem_append.mp member with member | member
    · rcases List.mem_append.mp member with member | member
      · rcases List.mem_cons.mp member with rfl | member
        · exact empty
        · rw [List.mem_singleton.mp member]
          exact (shown_lastLine last.mode few).mono (by decide)
      · obtain ⟨key, inside, rfl⟩ := List.mem_map.mp member
        exact (shown_keyLine (named key inside)).mono (by decide)
    · rcases List.mem_cons.mp member with rfl | member
      · exact shown_releasedLine _ _
      · rw [List.mem_singleton.mp member]
        exact shown_readsLine _ _
  · exact absurd member List.not_mem_nil

private theorem shown_showLines (named : km.Named) (few : km.Few) :
    ∀ line ∈ showLines host km, Shown 90 line := by
  intro line member
  rw [showLines, matrixLines, List.mem_append, List.mem_append, List.mem_append,
    List.mem_append] at member
  rcases member with (((member | member) | member) | member) | member
  · rcases List.mem_cons.mp member with rfl | member
    · exact shown_titleLine.mono (by decide)
    · rw [List.mem_singleton.mp member]
      exact shown_columnsLine.mono (by decide)
  · obtain ⟨r, inside, rfl⟩ := List.mem_map.mp member
    exact (shown_rowLine (List.mem_range.mp inside) _).mono (by decide)
  · rcases List.mem_cons.mp member with rfl | member
    · exact (shown_customLine _ _ _).mono (by decide)
    · rw [List.mem_singleton.mp member]
      exact ⟨Nat.zero_le _, fun b member => absurd member List.not_mem_nil⟩
  · exact shown_activeLines named.1 few.1 line member
  · exact shown_lastLines named.2 few.2 line member

private theorem lines_show (named : km.Named) (few : km.Few) :
    lines (monitorText (kmCoreShow host km).2) = showLines host km ++ [[]] := by
  have clean : ∀ line ∈ showLines host km, chr '\n' ∉ line := fun line member =>
    (shown_showLines host named few line member).not_mem (by decide)
  have split := lines_flatMap clean []
  rw [List.append_nil] at split
  rw [(says_show host named few).text]
  exact split

end Parts

section Whole

private theorem whole_perform (host : KmHost) {km : KmCore} (named : km.Named) (few : km.Few)
    (op : KmOp) :
    WholeCalls (op.perform host km).2 := by
  cases op with
  | tap args => exact whole_tap host args
  | press args => exact whole_press host args
  | release args => exact whole_release host args
  | poke args => exact whole_poke args
  | «show» => exact (says_show host named few).whole
  | names => exact whole_names
  | paRead mask => exact whole_scan host KmKey.row mask
  | pbRead mask => exact whole_scan host KmKey.col mask
  | binmonSet body =>
    rw [KmOp.perform, kmCoreBinmonSet]
    split
    · exact .nil
    · exact WholeCalls.map fun _ _ => trivial
  | binmonTap body =>
    rw [KmOp.perform, kmCoreBinmonTap]
    split
    · exact .nil
    · exact .silent (silentCalls_start ..)
  | binmonGet buf => exact .nil
  | onAlarm => exact .silent (silentCalls_releaseNow ..)

/-- In every run, whatever the arguments are, no text that goes to the monitor has filled the
format buffer: nothing the core says is ever cut. -/
theorem monitor_text_whole (ticks : List KmTick) :
    WholeCalls (kmMachine.emitted kmSysInit ticks) := by
  induction ticks using List.reverseRecOn with
  | nil => exact .nil
  | append_singleton ticks tick ih =>
    rw [kmMachine.emitted_snoc]
    exact ih.append (whole_perform _ (kmRun_named ticks) (kmRun_few ticks) tick.op)

end Whole

section Agreement

def readRow (line : Text) : List Bool :=
  (List.range 8).map fun c => line.getD (7 + 2 * c) 0 = chr '*'

private theorem readRow_rowLine {r : Nat} (small : r < 8) (bits : Nat → Bool) :
    readRow (rowLine r bits) = (List.range 8).map bits := by
  have digit : ∀ r < 8, (str "  r" ++ decimal (r : Nat) ++ str ":  ").length = 7 := by decide
  have width : ∀ c, (cellText (bits c)).length = 2 := by
    intro c
    cases bits c <;> rfl
  rw [readRow]
  apply List.map_congr_left
  intro c inside
  have cell : (rowLine r bits).getD (7 + 2 * c) 0 = (cellText (bits c)).getD 0 0 := by
    rw [rowLine, List.getD_append_right _ _ _ _ (by rw [digit r small]; omega), digit r small]
    have found := getD_flatMap width (List.range 8) (0 : U8)
      (by rw [List.length_range]; exact List.mem_range.mp inside) (by decide : 0 < 2)
    rw [List.getElem_range] at found
    rw [← found]
    congr 1
    omega
  rw [cell]
  cases bits c <;> decide

/-- What the lines of `show` and the fields of a GET response say in common. -/
structure ShowAgrees (ls : List Text) (km : KmCore) (r : GetReport) : Prop where
  rows : ∀ row < 8, readRow (ls.getD (2 + row) []) =
    (List.range 8).map fun col => (r.keyarr.getD row 0).getLsbD col
  custom : ls.getD 10 [] = customLine (r.customKeys.getLsbD KmCustom.restore1.bit)
    (r.customKeys.getLsbD KmCustom.caps.bit) (r.customKeys.getLsbD KmCustom.col4080.bit)
  active : km.active = true → ls.getD 12 [] = activeLine km.mode r.nKeys.toNat ∧
    ls.getD (13 + r.nKeys.toNat) [] = readsLine r.cia1ReadsTotal r.cia1ReadsSampling
  ended : km.active = false → km.last.valid = true →
    ls.getD 12 [] = idleLine ∧ ls.getD 14 [] = lastLine km.last.mode r.nKeys.toNat ∧
      ls.getD (16 + r.nKeys.toNat) [] = readsLine r.cia1ReadsTotal r.cia1ReadsSampling
  nothing : km.active = false → km.last.valid = false →
    ls.drop 12 = [idleLine, []] ∧ r.nKeys = 0

private theorem length_matrixLines (host : KmHost) : (matrixLines host).length = 12 := by
  rw [matrixLines, List.length_append, List.length_append, List.length_map, List.length_range]
  rfl

private theorem showLines_tail (host : KmHost) (km : KmCore) (n : Nat) :
    (showLines host km ++ [[]]).getD (12 + n) [] =
      (activeLines km ++ lastLines km.last ++ [[]]).getD n [] := by
  have twelve := length_matrixLines host
  rw [showLines, List.append_assoc, List.append_assoc, ← List.append_assoc (activeLines km),
    List.getD_append_right _ _ _ _ (by omega), twelve, Nat.add_sub_cancel_left]

private theorem matrixLines_row (host : KmHost) {row : Nat} (small : row < 8) :
    (matrixLines host).getD (2 + row) [] = rowLine row (host.getKeyarr row).getLsbD := by
  have inside :
      row < ((List.range 8).map fun r => rowLine r (host.getKeyarr r).getLsbD).length := by
    rw [List.length_map, List.length_range]
    exact small
  rw [matrixLines, List.append_assoc, Nat.add_comm, List.cons_append, List.cons_append,
    List.nil_append, List.getD_cons_succ, List.getD_cons_succ, List.getD_append _ _ _ _ inside,
    List.getD_eq_getElem _ _ inside, List.getElem_map, List.getElem_range]

private theorem showLines_matrix (host : KmHost) (km : KmCore) {n : Nat} (small : n < 12) :
    (showLines host km ++ [[]]).getD n [] = (matrixLines host).getD n [] := by
  have twelve := length_matrixLines host
  rw [showLines, List.append_assoc, List.append_assoc, List.getD_append _ _ _ _ (by omega)]

private theorem getD_keys (keys : List KmKey) (rest : List Text) (n : Nat) :
    (keys.map keyLine ++ rest).getD (keys.length + n) [] = rest.getD n [] := by
  rw [List.getD_append_right _ _ _ _ (by rw [List.length_map]; omega), List.length_map,
    Nat.add_sub_cancel_left]

private theorem agrees_counters {km : KmCore} {r : GetReport} (host : KmHost)
    (total : r.cia1ReadsTotal = km.shown.cia1ReadsTotal)
    (sampling : r.cia1ReadsSampling = km.shown.cia1ReadsSampling)
    (count : r.nKeys.toNat = km.shown.keys.length) :
    let ls := showLines host km ++ [[]]
    (km.active = true → ls.getD 12 [] = activeLine km.mode r.nKeys.toNat ∧
      ls.getD (13 + r.nKeys.toNat) [] = readsLine r.cia1ReadsTotal r.cia1ReadsSampling) ∧
    (km.active = false → km.last.valid = true →
      ls.getD 12 [] = idleLine ∧ ls.getD 14 [] = lastLine km.last.mode r.nKeys.toNat ∧
        ls.getD (16 + r.nKeys.toNat) [] = readsLine r.cia1ReadsTotal r.cia1ReadsSampling) ∧
    (km.active = false → km.last.valid = false →
      ls.drop 12 = [idleLine, []] ∧ r.nKeys = 0) := by
  refine ⟨?_, ?_, ?_⟩
  · intro active
    have shown : km.shown =
        ⟨km.cia1ReadsTotal, km.cia1ReadsSampling, km.lastReason, km.keys⟩ := by
      rw [KmCore.shown, if_pos active]
    rw [shown] at total sampling count
    change r.nKeys.toNat = km.keys.length at count
    have tail : activeLines km ++ lastLines km.last ++ [[]] =
        activeLine km.mode km.keys.length :: (km.keys.map keyLine ++
          readsLine km.cia1ReadsTotal km.cia1ReadsSampling :: (lastLines km.last ++ [[]])) := by
      simp only [activeLines, active, if_true, List.append_assoc, List.cons_append,
        List.nil_append]
    constructor
    · rw [showLines_tail host km 0, tail, count]
      rfl
    · have place : 13 + r.nKeys.toNat = 12 + (km.keys.length + 1) := by
        rw [count]
        omega
      rw [place, showLines_tail, tail, List.getD_cons_succ, total, sampling]
      exact getD_keys km.keys _ 0
  · intro idle valid
    have shown : km.shown = ⟨km.last.cia1ReadsTotal, km.last.cia1ReadsSampling, km.last.reason,
        km.last.keys⟩ := by
      rw [KmCore.shown, if_neg (by rw [idle]; decide), if_pos valid]
    rw [shown] at total sampling count
    change r.nKeys.toNat = km.last.keys.length at count
    have tail : activeLines km ++ lastLines km.last ++ [[]] =
        idleLine :: [] :: lastLine km.last.mode km.last.keys.length ::
          (km.last.keys.map keyLine ++ releasedLine km.last.framesHeld km.last.reason ::
            [readsLine km.last.cia1ReadsTotal km.last.cia1ReadsSampling, []]) := by
      simp only [activeLines, lastLines, idle, valid, Bool.false_eq_true, if_false, if_true,
        List.append_assoc, List.cons_append, List.nil_append]
    refine ⟨?_, ?_, ?_⟩
    · rw [showLines_tail host km 0, tail]
      rfl
    · rw [showLines_tail host km 2, tail, count]
      rfl
    · have place : 16 + r.nKeys.toNat = 12 + (km.last.keys.length + 1 + 1 + 1 + 1) := by
        rw [count]
        omega
      rw [place, showLines_tail, tail, List.getD_cons_succ, List.getD_cons_succ,
        List.getD_cons_succ, getD_keys, total, sampling]
      rfl
  · intro idle invalid
    have shown : km.shown = ⟨0, 0, .none, []⟩ := by
      rw [KmCore.shown, if_neg (by rw [idle]; decide), if_neg (by rw [invalid]; decide)]
    rw [shown] at count
    constructor
    · have twelve := length_matrixLines host
      rw [showLines, List.append_assoc, List.append_assoc, ← twelve, List.drop_left]
      simp only [activeLines, lastLines, idle, invalid, Bool.false_eq_true, if_false,
        List.nil_append, List.cons_append]
    · exact BitVec.eq_of_toNat_eq count

/-- In every reachable state `show` leaves everything as it is, and its lines and the response to
a GET at the same moment agree: the grid of the text, read back cell by cell, is the matrix of the
response, and both are what the calls of the run have left there; so are the custom keys; and
the text speaks of the same injection, with the same number of keys and the same counters. -/
theorem show_agrees (ticks : List KmTick) (now cpf : U64) :
    let sys := kmRun ticks
    let shown := kmStep sys ⟨now, cpf, .show⟩
    shown.1 = sys ∧
      ∃ r, decodeGet (getResponse (sys.env.host now cpf) sys.km) = some r ∧
        GetTruth ticks (kmMachine.emitted kmSysInit ticks) now cpf r ∧
        ShowAgrees (lines (monitorText shown.2)) sys.km r := by
  intro sys shown
  have truth := getReportOf_truth ticks now cpf
  have named := kmRun_named ticks
  have few := kmRun_few ticks
  have text := lines_show (sys.env.host now cpf) named few
  have total : (getReportOf (sys.env.host now cpf) sys.km).cia1ReadsTotal =
      sys.km.shown.cia1ReadsTotal := rfl
  have counters := agrees_counters (sys.env.host now cpf) total rfl
    (getReportOf_count ticks (sys.env.host now cpf))
  refine ⟨kmStep_eq sys ⟨now, cpf, .show⟩, _, decode_getResponse _ _, truth, ?_⟩
  change ShowAgrees (lines (monitorText (kmCoreShow (sys.env.host now cpf) sys.km).2)) _ _
  rw [text]
  refine ⟨?_, ?_, counters.1, counters.2.1, counters.2.2⟩
  · intro row small
    rw [showLines_matrix _ _ (by omega), matrixLines_row _ small, readRow_rowLine small]
    apply List.map_congr_left
    intro col inside
    have cols := List.mem_range.mp inside
    rw [getLsbD_row _ _ now cpf small cols]
    exact getLsbD_keyarr_col _ row cols
  · rw [showLines_matrix _ _ (by decide)]
    simp only [getReportOf, getLsbD_customBits]
    rfl

end Agreement

section Names

/-- The words of the lines between the title and the empty line. -/
def listedNames (text : Text) : List Text :=
  (((lines text).drop 1).takeWhile fun line => line ≠ []).flatMap tokens

private theorem listedNames_names (km : KmCore) :
    listedNames (monitorText (kmCoreNames km).2) = c64Keys.map fun entry => str entry.name := by
  have same : (kmCoreNames km).2 = (kmCoreNames kmCoreInit).2 := rfl
  rw [same]
  decide +kernel

/-- What `names` prints is the whole vocabulary of the key lists: a token without a comma is
accepted exactly if it is one of the printed words, up to case, and no word is printed twice. -/
theorem names_complete (ticks : List KmTick) (now cpf : U64) (tok : CString)
    (noComma : chr ',' ∉ tok.bytes) :
    let printed := kmStep (kmRun ticks) ⟨now, cpf, .names⟩
    printed.1 = kmRun ticks ∧ ((listedNames (monitorText printed.2)).map (·.map toLower)).Nodup ∧
      ((parseKeyToken tok.bytes).isSome ↔
        ∃ name ∈ listedNames (monitorText printed.2), EqIgnoreCase tok.bytes name) := by
  intro printed
  have listed : listedNames (monitorText printed.2) = c64Keys.map fun entry => str entry.name :=
    listedNames_names (kmRun ticks).km
  rw [listed]
  refine ⟨kmStep_eq (kmRun ticks) ⟨now, cpf, .names⟩, ?_, ?_⟩
  · rw [List.map_map]
    exact c64Keys_distinct
  · rw [parseKeyToken, if_neg noComma, Option.isSome_iff_exists]
    constructor
    · rintro ⟨key, found⟩
      obtain ⟨entry, member, same, -⟩ := (findKeyByName_iff tok.nulFree).mp found
      exact ⟨_, List.mem_map_of_mem member, same⟩
    · rintro ⟨name, member, same⟩
      obtain ⟨entry, inside, rfl⟩ := List.mem_map.mp member
      exact ⟨entry.key, (findKeyByName_iff tok.nulFree).mpr ⟨entry, inside, same, rfl⟩⟩

theorem names_complete_runstop :
    let printed := kmStep (kmRun []) ⟨0, 19656, .names⟩
    printed.1 = kmRun [] ∧ ((listedNames (monitorText printed.2)).map (·.map toLower)).Nodup ∧
      ((parseKeyToken (str "RunStop")).isSome ↔
        ∃ name ∈ listedNames (monitorText printed.2), EqIgnoreCase (str "RunStop") name) :=
  names_complete [] 0 19656 ⟨str "RunStop", by decide⟩ (by decide)

end Names

end Revice.Keymatrix

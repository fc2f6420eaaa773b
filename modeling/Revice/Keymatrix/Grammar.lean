/- Module: Revice/Keymatrix/Grammar
   source: libs/keymatrix/src/keymatrix_core.c
   digest: The grammar of key lists, and the parser that accepts exactly it. -/

import Mathlib.Data.List.Nodup
import Revice.General.Runs
import Revice.Keymatrix.Words

set_option autoImplicit false
set_option relaxedAutoImplicit false

namespace Revice.Keymatrix

open Revice.General

/-- The tokens of an argument line: the runs between blanks. -/
def tokens (s : Text) : List Text := runs isBlank s

/-- The same text up to the case of its letters. -/
def EqIgnoreCase (a b : Text) : Prop := a.map toLower = b.map toLower

instance (a b : Text) : Decidable (EqIgnoreCase a b) := by
  unfold EqIgnoreCase
  infer_instance

/-- The readings of a token list: a `for` takes the token after it as its count, and
every other token is a key. -/
inductive Reads : List Text → List KmKey → List Int → Prop
  | nil : Reads [] [] []
  | frames {word count : Text} {words : List Text} {keys : List KmKey} {v : Int}
      {frames : List Int} (named : EqIgnoreCase word (str "for"))
      (number : strtol count 0 = (v, [])) (inside : 1 ≤ v ∧ v ≤ 65535)
      (rest : Reads words keys frames) : Reads (word :: count :: words) keys (v :: frames)
  | key {tok : Text} {words : List Text} {key : KmKey} {keys : List KmKey} {frames : List Int}
      (other : ¬EqIgnoreCase tok (str "for")) (accepted : parseKeyToken tok = some key)
      (rest : Reads words keys frames) : Reads (tok :: words) (key :: keys) frames

private theorem isWord_of_mem {args : CString} {tok : Text} (member : tok ∈ tokens args.bytes) :
    IsWord tok := by
  obtain ⟨some_char, inside⟩ := mem_runs member
  refine ⟨some_char, fun b here => ⟨(inside b here).1, ?_⟩⟩
  rintro rfl
  exact args.nulFree (inside 0 here).2

theorem tokens_append (s t : Text) : tokens (s ++ chr ' ' :: t) = tokens s ++ tokens t :=
  runs_append_break (by decide) s t

theorem Reads.append {words later : List Text} {keys more : List KmKey} {frames last : List Int}
    (first : Reads words keys frames) (second : Reads later more last) :
    Reads (words ++ later) (keys ++ more) (frames ++ last) := by
  induction first with
  | nil => exact second
  | frames named number inside _ ih => exact .frames named number inside ih
  | key other accepted _ ih => exact .key other accepted ih

private theorem kmTok_none {s : Text} (none_left : kmTok s = none) : tokens s = [] := by
  simp only [kmTok] at none_left
  split at none_left
  · rename_i blank
    exact runs_eq_nil blank
  · cases none_left

private theorem kmTok_some {s tok rest : Text} (found : kmTok s = some (tok, rest)) :
    tokens s = tok :: tokens rest := by
  simp only [kmTok] at found
  split at found
  · cases found
  · rename_i some_run
    cases found
    exact runs_eq_cons some_run

private theorem kmTok_of_tokens {s tok : Text} {more : List Text} (split : tokens s = tok :: more) :
    ∃ rest, kmTok s = some (tok, rest) ∧ tokens rest = more := by
  cases found : kmTok s with
  | none =>
    rw [kmTok_none found] at split
    cases split
  | some next =>
    obtain ⟨first, rest⟩ := next
    rw [kmTok_some found] at split
    cases split
    exact ⟨rest, rfl, rfl⟩

private theorem kmTok_of_no_tokens {s : Text} (ended : tokens s = []) : kmTok s = none := by
  cases found : kmTok s with
  | none => rfl
  | some next =>
    rw [kmTok_some found] at ended
    cases ended

private theorem kmTok_subset {s tok rest : Text} (found : kmTok s = some (tok, rest)) :
    tok ⊆ s ∧ rest ⊆ s := by
  have skipped := (List.dropWhile_suffix isBlank (l := s)).subset
  simp only [kmTok] at found
  split at found
  · cases found
  · cases found
    constructor
    · intro b member
      exact skipped (List.takeWhile_subset _ member)
    · intro b member
      exact skipped ((List.dropWhile_suffix _).subset (List.drop_subset 1 _ member))

private theorem toLower_ne_zero {b : U8} (nonzero : b ≠ 0) : toLower b ≠ 0 := by
  have all : ∀ b : U8, b ≠ 0 → toLower b ≠ 0 := by decide
  exact all b nonzero

private theorem kmStrcasecmp_eq_zero {a b : Text} (here : (0 : U8) ∉ a) (there : (0 : U8) ∉ b) :
    kmStrcasecmp a b = 0 ↔ EqIgnoreCase a b := by
  induction a generalizing b with
  | nil =>
    cases b with
    | nil => simp [kmStrcasecmp, EqIgnoreCase]
    | cons d b =>
      have nonzero := toLower_ne_zero fun zero => there (zero ▸ List.mem_cons_self)
      have positive : (toLower d).toNat ≠ 0 := fun zero => nonzero (BitVec.eq_of_toNat_eq zero)
      simp only [kmStrcasecmp, EqIgnoreCase, List.map_nil, List.map_cons, reduceCtorEq, iff_false]
      omega
  | cons c a ih =>
    cases b with
    | nil =>
      have nonzero := toLower_ne_zero fun zero => here (zero ▸ List.mem_cons_self)
      have positive : (toLower c).toNat ≠ 0 := fun zero => nonzero (BitVec.eq_of_toNat_eq zero)
      simp only [kmStrcasecmp, EqIgnoreCase, List.map_nil, List.map_cons, reduceCtorEq, iff_false]
      omega
    | cons d b =>
      have rest := ih (fun member => here (List.mem_cons_of_mem c member))
        (fun member => there (List.mem_cons_of_mem d member))
      simp only [kmStrcasecmp, EqIgnoreCase, List.map_cons, List.cons.injEq] at rest ⊢
      by_cases same : toLower c = toLower d
      · rw [if_neg (by rw [same]; simp), rest]
        simp [same]
      · have apart : ((toLower c).toNat : Int) ≠ (toLower d).toNat := by
          intro values
          exact same (BitVec.eq_of_toNat_eq (by exact_mod_cast values))
        rw [if_pos apart]
        simp only [same, false_and, iff_false]
        omega

private theorem kmStrcasecmp_for {tok : Text} (nulFree : (0 : U8) ∉ tok) :
    kmStrcasecmp tok (str "for") = 0 ↔ EqIgnoreCase tok (str "for") :=
  kmStrcasecmp_eq_zero nulFree (by decide)

theorem reads_nil {keys : List KmKey} {frames : List Int} :
    Reads [] keys frames ↔ keys = [] ∧ frames = [] := by
  constructor
  · intro reading
    cases reading
    exact ⟨rfl, rfl⟩
  · rintro ⟨rfl, rfl⟩
    exact .nil

private theorem parseKeyListLoop_reads {maxKeys fuel : Nat} {s : Text} {before after : List Text}
    {keys found : List KmKey} {forFrames : Int} {frames : List Int} (enough : s.length < fuel)
    (nulFree : (0 : U8) ∉ s) (split : tokens s = before ++ after)
    (reading : Reads before found frames) (room : keys.length + found.length ≤ maxKeys) :
    ∃ more rest, rest.length < more ∧ (0 : U8) ∉ rest ∧ tokens rest = after ∧
      parseKeyListLoop maxKeys fuel s keys forFrames =
        parseKeyListLoop maxKeys more rest (keys ++ found) (frames.getLastD forFrames) := by
  induction reading generalizing fuel s keys forFrames with
  | nil => exact ⟨fuel, s, enough, nulFree, split, by simp⟩
  | frames named number inside _ ih =>
    obtain ⟨rest, next, restSplit⟩ := kmTok_of_tokens split
    obtain ⟨last, counted, lastSplit⟩ := kmTok_of_tokens restSplit
    obtain ⟨fuel, rfl⟩ : ∃ n, fuel = n + 1 := ⟨fuel - 1, by omega⟩
    have isFor := (kmStrcasecmp_for fun member =>
      nulFree ((kmTok_subset next).1 member)).mpr named
    have lastFree : (0 : U8) ∉ last :=
      fun member => nulFree ((kmTok_subset next).2 ((kmTok_subset counted).2 member))
    have shorter := kmTok_shorter next
    have shorterStill := kmTok_shorter counted
    rw [parseKeyListLoop_for next isFor counted number inside, List.getLastD_cons]
    exact ih (by omega) lastFree lastSplit room
  | @key _ _ key found _ notFor accepted _ ih =>
    obtain ⟨rest, next, restSplit⟩ := kmTok_of_tokens split
    obtain ⟨fuel, rfl⟩ : ∃ n, fuel = n + 1 := ⟨fuel - 1, by omega⟩
    have unnamed := (kmStrcasecmp_for fun member =>
      nulFree ((kmTok_subset next).1 member)).not.mpr notFor
    have restFree : (0 : U8) ∉ rest := fun member => nulFree ((kmTok_subset next).2 member)
    have shorter := kmTok_shorter next
    rw [List.length_cons] at room
    have roomLeft : (keys ++ [key]).length + found.length ≤ maxKeys := by
      rw [List.length_append, List.length_singleton]
      omega
    have fits : keys.length < maxKeys := by omega
    rw [parseKeyListLoop_key next unnamed fits accepted, List.append_cons keys key found]
    exact ih (by omega) restFree restSplit roomLeft

private theorem parseKeyListLoop_sound {maxKeys fuel : Nat} {s : Text} {keys parsed : List KmKey}
    {forFrames final : Int} (enough : s.length < fuel) (nulFree : (0 : U8) ∉ s)
    (few : keys.length ≤ maxKeys)
    (accepted : parseKeyListLoop maxKeys fuel s keys forFrames = .ok (parsed, final)) :
    ∃ more frames, Reads (tokens s) more frames ∧ keys.length + more.length ≤ maxKeys ∧
      parsed = keys ++ more ∧ final = frames.getLastD forFrames := by
  induction fuel generalizing s keys forFrames with
  | zero => omega
  | succ fuel ih =>
    rw [parseKeyListLoop] at accepted
    cases found : kmTok s with
    | none =>
      rw [found] at accepted
      cases accepted
      rw [kmTok_none found]
      exact ⟨[], [], .nil, by simpa using few, by simp, rfl⟩
    | some next =>
      obtain ⟨tok, rest⟩ := next
      have shorter := kmTok_shorter found
      have isFor := kmStrcasecmp_for fun member => nulFree ((kmTok_subset found).1 member)
      have restFree : (0 : U8) ∉ rest := fun member => nulFree ((kmTok_subset found).2 member)
      rw [kmTok_some found]
      simp only [found] at accepted
      split at accepted
      · rename_i named
        cases counted : kmTok rest with
        | none => simp [counted] at accepted
        | some next =>
          obtain ⟨count, last⟩ := next
          have shorterStill := kmTok_shorter counted
          have lastFree : (0 : U8) ∉ last :=
            fun member => restFree ((kmTok_subset counted).2 member)
          rw [kmTok_some counted]
          obtain ⟨v, left, read⟩ : ∃ v left, strtol count 0 = (v, left) := ⟨_, _, rfl⟩
          simp only [counted, read] at accepted
          split at accepted
          · cases accepted
          · rename_i range
            obtain ⟨rfl, inside⟩ := not_not.mp ((count_rejected read).not.mp range)
            obtain ⟨more, frames, reading, room, rfl, rfl⟩ := ih (by omega) lastFree few accepted
            exact ⟨more, v :: frames, .frames (isFor.mp named) read inside reading, room, rfl,
              List.getLastD_cons.symm⟩
      · rename_i unnamed
        split at accepted
        · cases accepted
        · split at accepted
          · cases accepted
          · rename_i key parsedKey
            obtain ⟨more, frames, reading, room, rfl, rfl⟩ := ih (by omega) restFree
              (by rw [List.length_append, List.length_singleton]; omega) accepted
            rw [List.length_append, List.length_singleton] at room
            refine ⟨key :: more, frames, .key (isFor.not.mp unnamed) parsedKey reading, ?_, ?_, rfl⟩
            · rw [List.length_cons]
              omega
            · rw [← List.append_cons]

theorem parseKeyList_iff {s : Text} (nulFree : (0 : U8) ∉ s) {keys : List KmKey}
    {forFrames : Int} :
    parseKeyList s kmMaxKeys = .ok (keys, forFrames) ↔
      ∃ frames, Reads (tokens s) keys frames ∧ keys.length ≤ 16 ∧
        forFrames = frames.getLastD (-1) := by
  constructor
  · intro accepted
    obtain ⟨more, frames, reading, room, rfl, rfl⟩ :=
      parseKeyListLoop_sound (Nat.lt_succ_self _) nulFree (Nat.zero_le _) accepted
    rw [List.length_nil, Nat.zero_add] at room
    exact ⟨frames, reading, room, rfl⟩
  · rintro ⟨frames, reading, few, rfl⟩
    have fits : ([] : List KmKey).length + keys.length ≤ kmMaxKeys := by simpa using few
    obtain ⟨more, rest, enough, _, ended, loop⟩ := parseKeyListLoop_reads
      (Nat.lt_succ_self _) nulFree (List.append_nil _).symm reading fits
    obtain ⟨more, rfl⟩ : ∃ n, more = n + 1 := ⟨more - 1, by omega⟩
    rw [parseKeyList, loop, parseKeyListLoop, kmTok_of_no_tokens ended]
    rfl

def unknownKey (tok : Text) : Text :=
  str "error: unknown key '" ++ tok ++ str "' (try 'keymatrix names')\n"

theorem parseKeyListLoop_unknown {maxKeys fuel : Nat} {s tok : Text} {before after : List Text}
    {keys found : List KmKey} {forFrames : Int} {frames : List Int} (enough : s.length < fuel)
    (nulFree : (0 : U8) ∉ s) (split : tokens s = before ++ tok :: after)
    (reading : Reads before found frames) (room : keys.length + found.length < maxKeys)
    (other : ¬EqIgnoreCase tok (str "for")) (unknown : parseKeyToken tok = none) :
    parseKeyListLoop maxKeys fuel s keys forFrames = .error (unknownKey tok) := by
  obtain ⟨more, rest, shorter, restFree, restSplit, loop⟩ :=
    parseKeyListLoop_reads enough nulFree split reading (Nat.le_of_lt room)
  obtain ⟨last, next, _⟩ := kmTok_of_tokens restSplit
  obtain ⟨more, rfl⟩ : ∃ n, more = n + 1 := ⟨more - 1, by omega⟩
  have unnamed := (kmStrcasecmp_for fun member =>
    restFree ((kmTok_subset next).1 member)).not.mpr other
  rw [loop, parseKeyListLoop, next]
  rw [← List.length_append] at room
  simp only [unnamed, if_false, Nat.not_le.mpr room, unknown]
  rfl

def KmxKeydef.key (entry : KmxKeydef) : KmKey where
  row := entry.row
  col := entry.col
  kind := entry.kind
  name := str entry.name

private theorem c64Keys_names : ∀ entry ∈ c64Keys,
    (0 : U8) ∉ str entry.name ∧ (str entry.name).length ≤ 15 := by
  decide +kernel

theorem c64Keys_distinct :
    (c64Keys.map fun entry => (str entry.name).map toLower).Nodup := by
  decide +kernel

private theorem entry_unique {tok : Text} {entry other : KmxKeydef} (member : entry ∈ c64Keys)
    (also : other ∈ c64Keys) (same : EqIgnoreCase tok (str entry.name))
    (alike : EqIgnoreCase tok (str other.name)) : other = entry :=
  List.inj_on_of_nodup_map c64Keys_distinct also member (alike.symm.trans same)

theorem findKeyByName_iff {tok : Text} (nulFree : (0 : U8) ∉ tok) {key : KmKey} :
    findKeyByName tok = some key ↔
      ∃ entry ∈ c64Keys, EqIgnoreCase tok (str entry.name) ∧ key = entry.key := by
  have sameName : ∀ entry ∈ c64Keys,
      kmStrcasecmp tok (str entry.name) = 0 ↔ EqIgnoreCase tok (str entry.name) :=
    fun entry member => kmStrcasecmp_eq_zero nulFree (c64Keys_names entry member).1
  have toKey : ∀ entry ∈ c64Keys,
      KmKey.mk entry.row entry.col entry.kind (keyName (str entry.name)) = entry.key := by
    intro entry member
    rw [keyName, List.take_of_length_le (c64Keys_names entry member).2]
    rfl
  rw [findKeyByName, Option.map_eq_some_iff]
  constructor
  · rintro ⟨entry, found, rfl⟩
    have member := List.mem_of_find?_eq_some found
    have zero := List.find?_some found
    rw [decide_eq_true_eq, sameName entry member] at zero
    exact ⟨entry, member, zero, toKey entry member⟩
  · rintro ⟨entry, member, same, rfl⟩
    have some_entry :
        (c64Keys.find? fun entry => kmStrcasecmp tok (str entry.name) = 0).isSome := by
      rw [List.find?_isSome]
      exact ⟨entry, member, decide_eq_true ((sameName entry member).mpr same)⟩
    obtain ⟨first, found⟩ := Option.isSome_iff_exists.mp some_entry
    have also := List.mem_of_find?_eq_some found
    have zero := List.find?_some found
    rw [decide_eq_true_eq, sameName first also] at zero
    refine ⟨first, found, ?_⟩
    rw [entry_unique member also same zero]
    exact toKey entry member

/-- The key list parser accepts exactly the grammar of key lists. -/
structure ParsesGrammar (args : CString) : Prop where
  copied : kmCopyArgs args 256 = some args.bytes
  accepts : ∀ keys forFrames, parseKeyList args.bytes kmMaxKeys = .ok (keys, forFrames) ↔
    ∃ frames, Reads (tokens args.bytes) keys frames ∧ keys.length ≤ 16 ∧
      forFrames = frames.getLastD (-1)
  names : ∀ tok ∈ tokens args.bytes, chr ',' ∉ tok → ∀ key, parseKeyToken tok = some key ↔
    ∃ entry ∈ c64Keys, EqIgnoreCase tok (str entry.name) ∧
      (∀ other ∈ c64Keys, EqIgnoreCase tok (str other.name) → other = entry) ∧ key = entry.key

theorem parseKeyList_grammar (args : CString) (short : args.bytes.length ≤ 255) :
    ParsesGrammar args where
  copied := by
    rw [kmCopyArgs, if_neg (by omega)]
  accepts := by
    intro keys forFrames
    exact parseKeyList_iff args.nulFree
  names := by
    intro tok member noComma key
    have nulFree : (0 : U8) ∉ tok := fun zero => ((isWord_of_mem member).plain 0 zero).2 rfl
    rw [parseKeyToken, if_neg noComma, findKeyByName_iff nulFree]
    constructor
    · rintro ⟨entry, here, same, rfl⟩
      exact ⟨entry, here, same, fun other also alike => entry_unique here also same alike, rfl⟩
    · rintro ⟨entry, here, same, _, rfl⟩
      exact ⟨entry, here, same, rfl⟩

theorem parseKeyList_grammar_last_for :
    parseKeyList (str "a FOR 3\tfor 0x10 7,7 ") kmMaxKeys =
      .ok ([⟨1, 2, .matrix, str "A"⟩, ⟨7, 7, .matrix, str "7,7"⟩], 16) := by
  have split : tokens (str "a FOR 3\tfor 0x10 7,7 ") =
      [str "a", str "FOR", str "3", str "for", str "0x10", str "7,7"] := by decide
  have grammar := parseKeyList_grammar ⟨str "a FOR 3\tfor 0x10 7,7 ", by decide⟩ (by decide)
  refine (grammar.accepts _ _).mpr ⟨[3, 16], ?_, by decide, rfl⟩
  rw [split]
  exact .key (by decide) (by decide +kernel)
    (.frames (by decide) (by decide) (by decide)
      (.frames (by decide) (by decide) (by decide)
        (.key (by decide) (by decide +kernel) .nil)))

end Revice.Keymatrix

/- Module: Revice/Asid/Port
   source: libs/asid/vice/soundasid.c
   digest: Which port and which form the device argument selects, and when the device opens. -/

import Mathlib.Data.Nat.Bitwise
import Revice.Asid.Session
import Revice.General.Decimal

set_option autoImplicit false
set_option relaxedAutoImplicit false

namespace Revice.Asid

open Revice.General

/-- The addresses of the ports that count, in the order of the enumeration. -/
def usablePorts (clients : List SeqClient) : List (Int × Int) :=
  (clients.filter fun client => client.number ≠ 0).flatMap fun client =>
    (client.ports.filter SeqPort.usable).map fun port => (client.number, port.number)

def pick {α : Type} (wanted : Int) : List α → Int → Option α × Int
  | [], count => (none, count)
  | a :: as, count => if count = wanted then (some a, count) else pick wanted as (count + 1)

section Pick

variable {α : Type} {wanted : Int}

private theorem pick_append (as bs : List α) (count : Int) :
    pick wanted (as ++ bs) count =
      if (pick wanted as count).1.isSome then pick wanted as count
      else pick wanted bs (pick wanted as count).2 := by
  induction as generalizing count with
  | nil => rfl
  | cons a as ih =>
    rw [List.cons_append, pick, pick]
    split
    · rfl
    · exact ih (count + 1)

private theorem pick_nth (as : List α) (n : Nat) (count : Int) :
    (pick (count + n) as count).1 = as[n]? := by
  induction as generalizing n count with
  | nil => rfl
  | cons a as ih =>
    rw [pick]
    cases n with
    | zero => simp
    | succ n =>
      have shifted : count + ((n + 1 : Nat) : Int) = count + 1 + n := by omega
      rw [if_neg (by omega), shifted, ih]
      rfl

private theorem pick_past (as : List α) (count : Int) (past : wanted < count) :
    pick wanted as count = (none, count + as.length) := by
  induction as generalizing count with
  | nil => simp [pick]
  | cons a as ih =>
    rw [pick, if_neg (by omega), ih _ (by omega), List.length_cons]
    simp only [Prod.mk.injEq, true_and]
    omega

end Pick

private theorem scanPorts_pick (client wanted : Int) (ports : List SeqPort) (count : Int) :
    scanPorts client wanted ports count =
      pick wanted ((ports.filter SeqPort.usable).map fun port => (client, port.number)) count := by
  induction ports generalizing count with
  | nil => rfl
  | cons port ports ih =>
    rw [scanPorts]
    cases usable : port.usable with
    | true => rw [List.filter_cons_of_pos usable, List.map_cons, pick, if_pos rfl, ih]
    | false =>
      rw [List.filter_cons_of_neg (by simp [usable])]
      exact ih count

private theorem scanClients_pick (wanted : Int) (clients : List SeqClient) (count : Int) :
    scanClients wanted clients count = pick wanted (usablePorts clients) count := by
  induction clients generalizing count with
  | nil => rfl
  | cons client clients ih =>
    rw [scanClients]
    by_cases listed : client.number ≠ 0
    · have split : usablePorts (client :: clients) =
          (client.ports.filter SeqPort.usable).map (fun port => (client.number, port.number)) ++
            usablePorts clients := by
        rw [usablePorts, List.filter_cons_of_pos (by simpa using listed), List.flatMap_cons]
        rfl
      rw [if_pos listed, split, pick_append, ← scanPorts_pick]
      simp only [ih]
    · have skipped : usablePorts (client :: clients) = usablePorts clients := by
        rw [usablePorts, List.filter_cons_of_neg (by simpa using listed)]
        rfl
      rw [if_neg listed, skipped, ih]

private theorem getPortInfo_nth (clients : List SeqClient) (n : Nat) :
    (getPortInfo clients n).2 = (usablePorts clients)[n]? := by
  have found := pick_nth (usablePorts clients) n 0
  rw [Int.zero_add, ← scanClients_pick] at found
  rw [getPortInfo]
  simp only [found]
  cases (usablePorts clients)[n]? with
  | some address => rfl
  | none =>
    have port : ((n : Int) = allMidiPorts) = False := by
      rw [allMidiPorts]
      simp only [eq_iff_iff, iff_false]
      omega
    simp [port]

private theorem getPortCount_eq (clients : List SeqClient) :
    getPortCount clients = (usablePorts clients).length := by
  have past : allMidiPorts < 0 := by decide
  have counted := pick_past (usablePorts clients) 0 past
  rw [← scanClients_pick, Int.zero_add] at counted
  rw [getPortCount, getPortInfo, counted]
  rfl

/-- The host lets the port with number `n` be opened. -/
structure PortOpens (host : InitAnswers) (n : Nat) : Prop where
  remaining : 0 < (usablePorts host.recounted).length
  found : n < (usablePorts host.lookedUp).length
  simplePort : 0 ≤ host.simplePort
  subscribed : host.subscribePort = 0
  start : host.start.accepts 4 = true

private theorem send_start (s : AsidSession) {answer : SendAnswer}
    (taken : answer.accepts 4 = true) :
    sendMessage s asidCoreStartMsg 4 0 answer =
      ⟨{ s with bytesTotal := s.bytesTotal + 4 }, 0, [.event asidCoreStartMsg 0]⟩ := by
  rw [SendAnswer.accepts, Bool.and_eq_true, decide_eq_true_iff, decide_eq_true_iff] at taken
  rw [sendMessage, if_neg (by simpa using taken.1), if_neg (by simpa using taken.2)]
  rfl

private theorem send_refused (s : AsidSession) {message : List U8} {nsec : U64}
    {answer : SendAnswer} (refused : answer.accepts 4 = false) :
    (sendMessage s message 4 nsec answer).result = -1 := by
  rw [SendAnswer.accepts, Bool.and_eq_false_iff, decide_eq_false_iff_not,
    decide_eq_false_iff_not] at refused
  rw [sendMessage]
  split
  · rfl
  · rename_i encoded
    rcases refused with short | failed
    · exact absurd (not_lt.mp encoded) short
    · rw [if_pos (not_le.mp failed)]

private theorem openPort_opens (s : AsidSession) {n : Nat} {host : InitAnswers}
    (opens : PortOpens host n)
    {client port : Int} (address : (usablePorts host.lookedUp)[n]? = some (client, port)) :
    openPort s n host = ⟨⟨⟨s.dev.core, fun _ => ⟨0, 0⟩⟩, host.simplePort, 4⟩, 0,
      [.subscribe client port, .event asidCoreStartMsg 0]⟩ := by
  rw [openPort, getPortCount_eq, getPortInfo_nth, address, if_neg (by
    have remaining := opens.remaining
    omega)]
  simp only [opens.subscribed, not_lt.mpr opens.simplePort, if_false, ne_eq, not_true_eq_false,
    send_start _ opens.start]
  rfl

private theorem openPort_needs {s : AsidSession} {n : Nat} {host : InitAnswers}
    (opened : (openPort s n host).result = 0) : PortOpens host n := by
  rw [openPort, getPortCount_eq, getPortInfo_nth] at opened
  split at opened
  · cases opened
  · rename_i remaining
    cases address : (usablePorts host.lookedUp)[n]? with
    | none =>
      rw [address] at opened
      cases opened
    | some found =>
      have inside := (List.getElem?_eq_some_iff.mp address).1
      rw [address] at opened
      simp only at opened
      split at opened
      · cases opened
      · rename_i simple
        split at opened
        · cases opened
        · rename_i subscribed
          cases taken : host.start.accepts 4 with
          | true =>
            exact ⟨by omega, inside, not_lt.mp simple, not_not.mp subscribed, taken⟩
          | false =>
            rw [send_refused _ taken] at opened
            cases opened

def portOf (param : Text) : Nat := (atoi param &&& 1023#32).toNat

def formOf (param : Text) : Bool := decide (atoi param &&& 1024#32 ≠ 0)

private theorem portOf_small (param : Text) : portOf param < 1024 := by
  have mask : (1023#32).toNat = 2 ^ 10 - 1 := rfl
  rw [portOf, BitVec.toNat_and, mask, Nat.and_two_pow_sub_one_eq_mod]
  exact Nat.mod_lt _ (by decide)

private theorem low_bits (v : Int) : (BitVec.ofInt 32 v &&& 1023#32).toNat = (v % 1024).toNat := by
  have mask : (1023#32).toNat = 2 ^ 10 - 1 := rfl
  rw [BitVec.toNat_and, mask, Nat.and_two_pow_sub_one_eq_mod, BitVec.toNat_ofInt]
  omega

private theorem form_bit (v : Int) : BitVec.ofInt 32 v &&& 1024#32 ≠ 0 ↔ v / 1024 % 2 = 1 := by
  have mask : (1024#32).toNat = 2 ^ 10 := rfl
  rw [ne_eq, ← BitVec.toNat_inj, BitVec.toNat_and, mask, Nat.and_two_pow, BitVec.toNat_ofInt,
    Nat.testBit_eq_decide_div_mod_eq]
  simp only [BitVec.ofNat_eq_ofNat, BitVec.toNat_ofNat, Nat.zero_mod, mul_eq_zero,
    Bool.toNat_eq_zero, decide_eq_false_iff_not]
  omega

theorem argument_decimal {v : Int} (fits : longMin ≤ v ∧ v ≤ longMax) :
    portOf (decimal v) = (v % 1024).toNat ∧
      formOf (decimal v) = decide (v / 1024 % 2 = 1) := by
  have whole : strtol (decimal v ++ []) 10 = (v, []) := strtol_decimal_ten fits (by simp)
  rw [List.append_nil] at whole
  rw [portOf, formOf, atoi, whole]
  exact ⟨low_bits v, decide_eq_decide.mpr (form_bit v)⟩

/-- The conditions under which the device opens. -/
structure Opens (host : InitAnswers) (n : Nat) : Prop where
  seqOpen : 0 ≤ host.seqOpen
  eventNew : 0 ≤ host.eventNew
  listed : n < (usablePorts host.counted).length
  port : PortOpens host n

def subscriptions (calls : List AsidHostCall) : List (Int × Int) :=
  calls.filterMap fun
    | .subscribe client port => some (client, port)
    | _ => none

/-- What an opened device has done: nothing of an earlier session is left. -/
structure OpenedOn (host : InitAnswers) (n : Nat) (form : Bool) (done : SessionDone) : Prop where
  session : done.session = ⟨openDevice form.toNat, host.simplePort, 4⟩
  address : subscriptions done.calls = ((usablePorts host.lookedUp)[n]?).toList
  opening : scheduled done.calls = [asidCoreStartMsg]

private theorem port_int (x : BitVec 32) (small : (x &&& 1023#32).toNat < 1024) :
    (x &&& 1023#32).toInt = ((x &&& 1023#32).toNat : Int) :=
  BitVec.toInt_eq_toNat_of_lt (by omega)

private theorem form_int (param : Text) :
    (if atoi param &&& 1024#32 ≠ 0 then (1 : Int) else 0) = ((formOf param).toNat : Int) := by
  rw [formOf]
  split <;> simp_all

theorem asidInit_opens (s : AsidSession) {param : Text} {host : InitAnswers}
    (opens : Opens host (portOf param)) :
    (asidInit s (some param) host).result = 0 ∧
      OpenedOn host (portOf param) (formOf param) (asidInit s (some param) host) := by
  have port : (atoi param &&& 1023#32).toInt = (portOf param : Int) :=
    port_int _ (portOf_small param)
  obtain ⟨⟨client, number⟩, address⟩ : ∃ found, (usablePorts host.lookedUp)[portOf param]? =
      some found := ⟨_, List.getElem?_eq_getElem opens.port.found⟩
  have midi : initializeMidi s host = ⟨{ s with vport := noPort }, 0, []⟩ := by
    rw [initializeMidi, if_neg (not_lt.mpr opens.seqOpen)]
    simp only [not_lt.mpr opens.eventNew, if_false]
  have listed := opens.listed
  rw [asidInit, midi]
  simp only [ne_eq, not_true_eq_false, if_false, getPortCount_eq, form_int, port]
  rw [if_neg (by omega), if_neg (by omega), openPort_opens _ opens.port address]
  simp only [not_true_eq_false, if_false]
  refine ⟨trivial, rfl, ?_, ?_⟩
  · rw [address]
    split <;> rfl
  · split <;> rfl

private theorem asidInit_needs {s : AsidSession} {param : Option Text} {host : InitAnswers}
    (opened : (asidInit s param host).result = 0) :
    ∃ text, param = some text ∧ Opens host (portOf text) := by
  rw [asidInit] at opened
  split at opened
  · cases opened
  · rename_i midi
    have seqOpen : 0 ≤ host.seqOpen := by
      by_contra failed
      rw [initializeMidi, if_pos (not_le.mp failed)] at midi
      exact midi (show (-1 : Int) ≠ 0 by decide)
    have eventNew : 0 ≤ host.eventNew := by
      by_contra failed
      rw [initializeMidi, if_neg (not_lt.mpr seqOpen)] at midi
      simp only [not_le.mp failed, if_true] at midi
      exact midi (show (-1 : Int) ≠ 0 by decide)
    simp only at opened
    split at opened
    · cases opened
    · cases param with
      | none => cases opened
      | some text =>
        have port : (atoi text &&& 1023#32).toInt = (portOf text : Int) :=
          port_int _ (portOf_small text)
        simp only [port, getPortCount_eq, form_int] at opened
        split at opened
        · cases opened
        · rename_i inside
          split at opened
          · cases opened
          · rename_i result
            exact ⟨text, rfl, seqOpen, eventNew, by omega, openPort_needs (not_not.mp result)⟩

theorem asidInit_opened {s : AsidSession} {param : Text} {host : InitAnswers}
    (opened : (asidInit s (some param) host).result = 0) : Opens host (portOf param) ∧
      OpenedOn host (portOf param) (formOf param) (asidInit s (some param) host) := by
  obtain ⟨text, same, opens⟩ := asidInit_needs opened
  obtain rfl := Option.some.inj same
  exact ⟨opens, (asidInit_opens s opens).2⟩

/-- The device argument. For every number `v` as argument, whatever state an earlier session
left: the device opens exactly when the host allows it on the port with number `v` modulo 1024
of its enumeration, it then subscribes to that port, uses the form that bit ten of `v` selects,
and starts afresh. Without an argument it does not open. -/
theorem device_argument (s : AsidSession) (host : InitAnswers) (v : Int)
    (fits : longMin ≤ v ∧ v ≤ longMax) :
    ((asidInit s (some (decimal v)) host).result = 0 ↔ Opens host (v % 1024).toNat) ∧
      (Opens host (v % 1024).toNat → OpenedOn host (v % 1024).toNat (decide (v / 1024 % 2 = 1))
        (asidInit s (some (decimal v)) host)) ∧
      (asidInit s none host).result ≠ 0 := by
  obtain ⟨port, form⟩ := argument_decimal fits
  refine ⟨⟨?_, ?_⟩, ?_, ?_⟩
  · intro opened
    have opens := (asidInit_opened opened).1
    rwa [port] at opens
  · intro opens
    rw [← port] at opens
    exact (asidInit_opens s opens).1
  · intro opens
    rw [← port] at opens
    have done := (asidInit_opens s opens).2
    rwa [port, form] at done
  · intro opened
    obtain ⟨text, same, _⟩ := asidInit_needs opened
    cases same

def synthHost : InitAnswers where
  seqOpen := 0
  eventNew := 0
  counted := [⟨128, [⟨0, true, true, true⟩]⟩]
  recounted := [⟨128, [⟨0, true, true, true⟩]⟩]
  lookedUp := [⟨128, [⟨0, true, true, true⟩]⟩]
  simplePort := 0
  subscribePort := 0
  start := ⟨4, 0⟩

theorem synthHost_opens : Opens synthHost 0 :=
  ⟨by decide, by decide, by decide, ⟨by decide, by decide, by decide, rfl, by decide⟩⟩

theorem device_argument_synth :
    OpenedOn synthHost 0 true (asidInit ⟨openDevice 0, noPort, 0⟩ (some (decimal 1024))
      synthHost) :=
  (device_argument ⟨openDevice 0, noPort, 0⟩ synthHost 1024 (by decide)).2.1 synthHost_opens

end Revice.Asid

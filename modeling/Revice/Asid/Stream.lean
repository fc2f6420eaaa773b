/- Module: Revice/Asid/Stream
   source: libs/asid/vice/soundasid.c, libs/asid/src/asid_core.c
   digest: One byte stream carries both chips, and what a receiver makes of it. -/

import Revice.Asid.Message
import Revice.Asid.Port
import Revice.General.Splitter

set_option autoImplicit false
set_option relaxedAutoImplicit false

namespace Revice.Asid

open Revice.General

/-- What a MIDI byte means to a reader of SysEx messages. -/
def midiRole (b : U8) : Role :=
  if b = asidSysexStart then .start
  else if b = asidSysexStop then .stop
  else if b < 0x80#8 then .data
  else if 0xf8#8 ≤ b then .transparent
  else .abort

private theorem midiRole_data {b : U8} (small : b < 0x80#8) : midiRole b = .data := by
  revert b
  decide

theorem Framed.delimited {opcode : U8} {bytes : List U8} (framed : Framed opcode bytes) :
    Delimited midiRole bytes := by
  obtain ⟨body, rfl, small⟩ := framed.framed
  refine ⟨asidSysexStart, [asidSysexManId, opcode] ++ body, asidSysexStop, by simp [asidSysexStart,
    asidSysexManId, asidSysexStop], by decide, ?_, by decide⟩
  intro b member
  apply midiRole_data
  rcases List.mem_append.mp member with head | tail
  · simp only [List.mem_cons, List.not_mem_nil, or_false] at head
    rcases head with rfl | rfl
    · decide
    · exact framed.opcode_small
  · exact small b tail

/-- An emitted message is framed with an opcode of its chip and is short. -/
structure Addressed (msg : AsidMsg) : Prop where
  framed : Framed (asidUpdate msg.chip) msg.bytes ∨ Framed (asidUpdateReg msg.chip) msg.bytes
  short : msg.bytes.length < 256

private theorem chipFlush_addressed {c : Chip} {state : AsidChip} (inv : ChipInv c state)
    (useUpdateReg : Bool) (nsec : U64) :
    ∀ msg ∈ (chipFlush useUpdateReg c state nsec).msgs, Addressed msg := by
  cases dirty : state.sidModifiedFlag with
  | false =>
    rw [chipFlush_idle useUpdateReg nsec dirty]
    intro msg sent
    cases sent
  | true =>
    obtain ⟨bytes, saved, flushed, form⟩ := chipFlush_form inv useUpdateReg nsec dirty
    have few : (dirtyRegs state).length ≤ 25 := length_dirtyRegs state
    rw [flushed]
    intro msg sent
    obtain rfl := List.mem_singleton.mp sent
    split at form
    · have length := form.length
      exact ⟨Or.inr form.framed, by simp only; omega⟩
    · have length := form.length
      exact ⟨Or.inl form.framed, by simp only; omega⟩

private theorem chipCall_addressed {c : Chip} {state : AsidChip} (inv : ChipInv c state)
    (useUpdateReg : Bool) (call : AsidCall) :
    ∀ msg ∈ (chipCall useUpdateReg c state call).msgs, Addressed msg := by
  cases call with
  | flush chip nsec => exact chipFlush_addressed inv useUpdateReg nsec
  | setReg chip reg byte =>
    rw [chipCall]
    split
    · rw [chipSetReg]
      split
      · simp [ChipDone.nothing]
      · simp only
        split
        · exact chipFlush_addressed inv useUpdateReg 0
        · simp [ChipDone.nothing]
    · simp [ChipDone.nothing]

private theorem perform_addressed {core : AsidCore} (inv : CoreInv core) (call : AsidCall) :
    ∀ msg ∈ (call.perform core).2, Addressed msg := by
  by_cases inside : call.chip.toNat < asidChips
  · rw [perform_selected (c := ⟨call.chip.toNat, inside⟩) rfl]
    exact chipCall_addressed (inv _) _ call
  · rw [perform_elsewhere inside]
    intro msg sent
    cases sent

private theorem opcodes_apart (c d : Chip) (apart : d ≠ c) :
    asidUpdate d ≠ asidUpdate c ∧ asidUpdate d ≠ asidUpdateReg c ∧
      asidUpdateReg d ≠ asidUpdate c ∧ asidUpdateReg d ≠ asidUpdateReg c := by
  revert c d
  decide

private theorem decodeMessage_other {c : Chip} {opcode : U8} {bytes : List U8}
    (framed : Framed opcode bytes) (standard : opcode ≠ asidUpdate c)
    (pairs : opcode ≠ asidUpdateReg c) : decodeMessage c bytes = none := by
  obtain ⟨body, rfl, _⟩ := framed.framed
  simp [decodeMessage, standard, pairs]

theorem Addressed.decode {msg : AsidMsg} (addressed : Addressed msg) (c : Chip) :
    decodeMessage c msg.bytes = messageFrame c msg := by
  rw [messageFrame]
  split
  · rfl
  · rename_i apart
    obtain ⟨standard, mixed, pairs, both⟩ := opcodes_apart c msg.chip apart
    rcases addressed.framed with framed | framed
    · exact decodeMessage_other framed standard mixed
    · exact decodeMessage_other framed pairs both

private theorem startMsg_framed : Framed 0x4c asidCoreStartMsg :=
  ⟨⟨[], rfl, by simp⟩, by decide⟩

private theorem stopMsg_framed : Framed 0x4d asidCoreStopMsg :=
  ⟨⟨[], rfl, by simp⟩, by decide⟩

private theorem framing_silent (c : Chip) :
    decodeMessage c asidCoreStartMsg = none ∧ decodeMessage c asidCoreStopMsg = none := by
  revert c
  decide

def sessionMessages (msgs : List AsidMsg) (stopped : Bool) : List (List U8) :=
  asidCoreStartMsg :: msgs.map AsidMsg.bytes ++ (if stopped then [asidCoreStopMsg] else [])

section Messages

variable {msgs : List AsidMsg} (addressed : ∀ msg ∈ msgs, Addressed msg) (stopped : Bool)

include addressed

private theorem sessionMessages_delimited :
    ∀ message ∈ sessionMessages msgs stopped, Delimited midiRole message := by
  intro message member
  simp only [sessionMessages, List.cons_append, List.mem_cons, List.mem_append,
    List.mem_map] at member
  rcases member with rfl | ⟨msg, found, rfl⟩ | last
  · exact startMsg_framed.delimited
  · rcases (addressed msg found).framed with framed | framed
    · exact framed.delimited
    · exact framed.delimited
  · split at last
    · exact (List.mem_singleton.mp last) ▸ stopMsg_framed.delimited
    · cases last

private theorem sessionMessages_decode (c : Chip) :
    (sessionMessages msgs stopped).filterMap (decodeMessage c) =
      msgs.filterMap (messageFrame c) := by
  obtain ⟨start, stop⟩ := framing_silent c
  have last : (if stopped then [asidCoreStopMsg] else []).filterMap (decodeMessage c) = [] := by
    split
    · rw [List.filterMap_cons_none stop]
      rfl
    · rfl
  rw [sessionMessages, List.cons_append, List.filterMap_cons_none start, List.filterMap_append,
    List.filterMap_map, last, List.append_nil]
  exact List.filterMap_congr fun msg found => (addressed msg found).decode c

end Messages

def SessionOp.attempts (cps : U64) (s : AsidSession) : SessionOp → List (AsidMsg × Bool)
  | .dump call answers => (asidDump2 cps s.dev call).2.zipIdx.map fun p =>
      (p.1, (answers p.2).accepts p.1.bytes.length)
  | .write => []
  | .flush => []

/-- The messages of a session, and whether the queue takes them. -/
def attempts (cps : U64) : AsidSession → List SessionOp → List (AsidMsg × Bool)
  | _, [] => []
  | s, op :: ops => op.attempts cps s ++ attempts cps (op.perform cps s).1 ops

def through (sent : List (AsidMsg × Bool)) : List AsidMsg := (sent.filter Prod.snd).map Prod.fst

def dumpsOf (ops : List SessionOp) : List DumpCall :=
  ops.filterMap fun
    | .dump call _ => some call
    | .write => none
    | .flush => none

private theorem through_append (first later : List (AsidMsg × Bool)) :
    through (first ++ later) = through first ++ through later := by
  rw [through, List.filter_append, List.map_append]
  rfl

private theorem asidEmit_whole (s : AsidSession) {msg : AsidMsg} (addressed : Addressed msg)
    (answer : SendAnswer) :
    (asidEmit s msg answer).1.dev = s.dev ∧ (asidEmit s msg answer).1.vport = s.vport ∧
      scheduled (asidEmit s msg answer).2 =
        (if answer.accepts msg.bytes.length then [msg.bytes] else []) ∧
      (asidEmit s msg answer).1.bytesTotal = s.bytesTotal +
        (if answer.accepts msg.bytes.length then BitVec.ofNat 32 msg.bytes.length else 0) :=
  sendMessage_whole s msg.bytes msg.nsec answer (by
    have short := addressed.short
    rw [BitVec.toNat_ofNat]
    omega)

/-- What a run of the device leaves behind: the codec and the port are not touched by the
queue's answers, the stream holds what got through, and the counter counts it. -/
structure Sent (before after : AsidSession) (calls : List AsidHostCall)
    (sent : List (AsidMsg × Bool)) : Prop where
  vport : after.vport = before.vport
  stream : scheduled calls = (through sent).map AsidMsg.bytes
  counted : after.bytesTotal = before.bytesTotal + BitVec.ofNat 32 (wire calls).length

theorem Sent.refl (s : AsidSession) : Sent s s [] [] := ⟨rfl, rfl, (BitVec.add_zero _).symm⟩

theorem Sent.trans {s t u : AsidSession} {first later : List AsidHostCall}
    {early late : List (AsidMsg × Bool)} (head : Sent s t first early)
    (tail : Sent t u later late) : Sent s u (first ++ later) (early ++ late) where
  vport := tail.vport.trans head.vport
  stream := by
    rw [scheduled_append, through_append, List.map_append, head.stream, tail.stream]
  counted := by
    rw [tail.counted, head.counted, wire, wire, wire, scheduled_append, List.flatten_append,
      List.length_append, BitVec.ofNat_add, BitVec.add_assoc]

private theorem emitAll_sent (answers : Nat → SendAnswer) {msgs : List AsidMsg}
    (addressed : ∀ msg ∈ msgs, Addressed msg) (i : Nat) (s : AsidSession) :
    (emitAll answers i msgs s).1.dev = s.dev ∧
      Sent s (emitAll answers i msgs s).1 (emitAll answers i msgs s).2
        ((msgs.zipIdx i).map fun p => (p.1, (answers p.2).accepts p.1.bytes.length)) := by
  induction msgs generalizing i s with
  | nil => exact ⟨rfl, Sent.refl s⟩
  | cons msg msgs ih =>
    obtain ⟨here, later⟩ := List.forall_mem_cons.mp addressed
    obtain ⟨dev, vport, stream, counted⟩ := asidEmit_whole s here (answers i)
    obtain ⟨devLater, sentLater⟩ := ih later (i + 1) (asidEmit s msg (answers i)).1
    have first : Sent s (asidEmit s msg (answers i)).1 (asidEmit s msg (answers i)).2
        [(msg, (answers i).accepts msg.bytes.length)] := by
      refine ⟨vport, ?_, ?_⟩
      · rw [stream]
        cases accepted : (answers i).accepts msg.bytes.length with
        | true => simp [through]
        | false => simp [through]
      · rw [counted, wire, stream]
        cases accepted : (answers i).accepts msg.bytes.length with
        | true => simp
        | false => simp
    exact ⟨devLater.trans dev, first.trans sentLater⟩

private theorem emitted_addressed {core : AsidCore} (inv : CoreInv core) (calls : List AsidCall) :
    ∀ msg ∈ asidMachine.emitted core calls, Addressed msg := by
  refine (asidMachine.run_induction
    (fun _ core msgs => CoreInv core ∧ ∀ msg ∈ msgs, Addressed msg)
    ⟨inv, by simp⟩ ?_ (asidMachine_legal _ _)).2
  rintro calls call _ _ ⟨inv, before⟩
  refine ⟨perform_inv _ call inv, ?_⟩
  intro msg sent
  rcases List.mem_append.mp sent with early | late
  · exact before msg early
  · exact perform_addressed inv call msg late

private theorem perform_sent (cps : U64) {s : AsidSession} (inv : CoreInv s.dev.core)
    (op : SessionOp) :
    (op.perform cps s).1.dev = (deviceMachine cps).exec s.dev (dumpsOf [op]) ∧
      (op.attempts cps s).map Prod.fst =
        ((deviceMachine cps).emitted s.dev (dumpsOf [op])).map Delivery.msg ∧
      Sent s (op.perform cps s).1 (op.perform cps s).2 (op.attempts cps s) := by
  cases op with
  | write => exact ⟨rfl, rfl, Sent.refl s⟩
  | flush => exact ⟨rfl, rfl, Sent.refl s⟩
  | dump call answers =>
    have addressed := emitted_addressed inv (codecCalls cps s.dev call)
    rw [(asidDump2_codec cps s.dev call).2] at addressed
    obtain ⟨dev, sent⟩ := emitAll_sent answers addressed 0
      { s with dev := (asidDump2 cps s.dev call).1 }
    refine ⟨dev, ?_, ⟨sent.vport, sent.stream, sent.counted⟩⟩
    have kept : ((asidDump2 cps s.dev call).2.zipIdx.map fun p =>
        (p.1, (answers p.2).accepts p.1.bytes.length)).map Prod.fst =
          (asidDump2 cps s.dev call).2 := by
      rw [List.map_map]
      exact List.zipIdx_map_fst 0 _
    have unwrap : ((asidDump2 cps s.dev call).2.map (Delivery.mk call.now)).map Delivery.msg =
        (asidDump2 cps s.dev call).2 := by
      rw [List.map_map]
      exact List.map_id _
    refine kept.trans (unwrap.symm.trans ?_)
    exact congrArg (List.map Delivery.msg) (List.append_nil _).symm

private theorem session_sent (cps : U64) {s : AsidSession} (inv : CoreInv s.dev.core)
    (ops : List SessionOp) :
    ((sessionMachine cps).exec s ops).dev = (deviceMachine cps).exec s.dev (dumpsOf ops) ∧
      (attempts cps s ops).map Prod.fst =
        ((deviceMachine cps).emitted s.dev (dumpsOf ops)).map Delivery.msg ∧
      Sent s ((sessionMachine cps).exec s ops) ((sessionMachine cps).emitted s ops)
        (attempts cps s ops) := by
  induction ops generalizing s with
  | nil => exact ⟨rfl, rfl, Sent.refl s⟩
  | cons op ops ih =>
    obtain ⟨dev, msgs, sent⟩ := perform_sent cps inv op
    have invLater : CoreInv (op.perform cps s).1.dev.core := by
      rw [dev]
      exact (deviceMachine cps).exec_invariant
        (P := fun dev => CoreInv dev.core) (fun dev call inv _ => asidDump2_inv cps inv call) inv
        ((deviceMachine cps).legal_of_enabled (fun _ _ => trivial) _ _)
    obtain ⟨devLater, msgsLater, sentLater⟩ := ih invLater
    have split : dumpsOf (op :: ops) = dumpsOf [op] ++ dumpsOf ops :=
      @List.filterMap_append _ _ [op] ops _
    refine ⟨?_, ?_, sent.trans sentLater⟩
    · rw [split, Machine.exec_append, ← dev]
      exact devLater
    · rw [split, Machine.emitted_append, List.map_append, ← msgs, ← dev, ← msgsLater, attempts,
        List.map_append]

/-- Everything a session does, from the device argument to the close. -/
def sessionCalls (cps : U64) (s : AsidSession) (param : Text) (host : InitAnswers)
    (ops : List SessionOp) (stop : SendAnswer) : List AsidHostCall :=
  let init := asidInit s (some param) host
  init.calls ++ (sessionMachine cps).emitted init.session ops ++
    (closePort ((sessionMachine cps).exec init.session ops) stop).calls

/-- What a reader of the session has that gets the messages in the order of the hand-over: those
that got through, between the start and the stop message, and every settled register whose last
message was not lost. -/
structure SessionHeard (core : AsidCore) (sent : List (AsidMsg × Bool)) (stop : SendAnswer)
    (received : List (List U8)) : Prop where
  messages : received = sessionMessages (through sent) (stop.accepts 4)
  registers : ∀ c r, (core.chip c).sidModified r = false →
    (∀ p, (sent.filter fun p => (messageFrame c p.1).any (Mirror.carries r)).getLast? = some p →
      p.2 = true) →
    Mirror.receive (fun _ => 0) (received.filterMap (decodeMessage c)) r =
      (core.chip c).sidRegister r

private theorem closePort_scheduled {s : AsidSession} (port : s.vport ≠ noPort)
    (stop : SendAnswer) :
    scheduled (closePort s stop).calls = if stop.accepts 4 then [asidCoreStopMsg] else [] := by
  have four : (4 : U8).toNat = asidCoreStopMsg.length := rfl
  obtain ⟨_, _, stopped, _⟩ := sendMessage_whole s asidCoreStopMsg 0 stop four
  refine Eq.trans ?_ stopped
  rw [closePort, if_pos port]
  change scheduled (_ ++ [.removeEvents]) = _
  rw [scheduled_append]
  exact List.append_nil _

section Opened

variable (cps : U64) {s : AsidSession} {param : Text} {host : InitAnswers} (ops : List SessionOp)
  (opened : (asidInit s (some param) host).result = 0)

include opened

private theorem opened_run :
    let t := (sessionMachine cps).exec (asidInit s (some param) host).session ops
    let calls := codecRun cps (openDevice (formOf param).toNat) (dumpsOf ops)
    t.vport ≠ noPort ∧
      t.dev.core = asidMachine.exec (asidCoreInit (formOf param).toNat) calls ∧
      (attempts cps (asidInit s (some param) host).session ops).map Prod.fst =
        asidMachine.emitted (asidCoreInit (formOf param).toNat) calls ∧
      Sent (asidInit s (some param) host).session t
        ((sessionMachine cps).emitted (asidInit s (some param) host).session ops)
        (attempts cps (asidInit s (some param) host).session ops) := by
  intro t calls
  obtain ⟨opens, done⟩ := asidInit_opened opened
  have session := done.session
  have inv : CoreInv (asidInit s (some param) host).session.dev.core := by
    rw [session]
    exact coreInv_init _
  obtain ⟨dev, msgs, sent⟩ := session_sent cps inv ops
  obtain ⟨core, codec⟩ := codecRun_exec cps (openDevice (formOf param).toNat) (dumpsOf ops)
  refine ⟨?_, ?_, ?_, sent⟩
  · rw [sent.vport, session]
    have simple := opens.port.simplePort
    simp only [noPort]
    omega
  · refine (congrArg AsidDevice.core dev).trans ?_
    rw [session]
    exact core.symm
  · refine msgs.trans ?_
    rw [session]
    exact codec.symm

private theorem sessionCalls_scheduled (stop : SendAnswer) :
    scheduled (sessionCalls cps s param host ops stop) = sessionMessages
      (through (attempts cps (asidInit s (some param) host).session ops)) (stop.accepts 4) := by
  obtain ⟨port, _, _, sent⟩ := opened_run cps ops opened
  rw [sessionCalls]
  simp only [scheduled_append]
  rw [(asidInit_opened opened).2.opening, sent.stream, closePort_scheduled port]
  rfl

/-- The session as one stream, in the order in which the queue is handed its messages. A device
that opened, on whatever earlier state, any calls for both chips, any answers of the queue: a
reader of the bytes, in whatever state it starts and whatever real-time bytes come in between,
gets the start message, the messages that got through and the stop message, tells the two chips
apart by the opcodes alone, and holds every settled register whose last message was not lost. -/
theorem session_stream (stop : SendAnswer) (before : Option (List U8)) (heard : List U8)
    (same : heard.filter (fun b => midiRole b ≠ .transparent) =
      (wire (sessionCalls cps s param host ops stop)).filter (fun b => midiRole b ≠ .transparent)) :
    SessionHeard ((sessionMachine cps).exec (asidInit s (some param) host).session ops).dev.core
      (attempts cps (asidInit s (some param) host).session ops) stop
      ((splitter midiRole).emitted before heard) := by
  obtain ⟨_, core, msgs, sent⟩ := opened_run cps ops opened
  have whole := sessionCalls_scheduled cps ops opened stop
  rw [core]
  set sends := attempts cps (asidInit s (some param) host).session ops
  have addressed : ∀ msg ∈ through sends, Addressed msg := by
    intro msg found
    obtain ⟨p, kept, rfl⟩ := List.mem_map.mp found
    apply emitted_addressed (coreInv_init _)
    rw [← msgs]
    exact List.mem_map_of_mem (List.mem_of_mem_filter kept)
  have received : (splitter midiRole).emitted before heard =
      sessionMessages (through sends) (stop.accepts 4) := by
    rw [splitter.emitted_transparent, same, ← splitter.emitted_transparent, wire, whole]
    exact splitter.messages_run (sessionMessages_delimited addressed _) before
  refine ⟨received, ?_⟩
  intro c r clean last
  rw [received, sessionMessages_decode addressed]
  refine (Mirror.receive_thinned (messageFrame c) _ r sends last).trans ?_
  rw [msgs]
  exact receiver_agrees (formOf param).toNat _ c r clean

/-- The byte count. The closing line of the log tells how many bytes the queue has taken since
the port was opened, start message included and modulo 2^32, whichever messages were lost. -/
theorem session_count (stop : SendAnswer) :
    let t := (sessionMachine cps).exec (asidInit s (some param) host).session ops
    (closePort t stop).calls.head? = some (.logMessage
      (decimal ((wire ((asidInit s (some param) host).calls ++ (sessionMachine cps).emitted
        (asidInit s (some param) host).session ops)).length % 2 ^ 32 : Nat) ++
        str " asid bytes sent, " ++
        decimal t.dev.core.bytesSaved.toNat ++ str " bytes saved")) := by
  intro t
  obtain ⟨port, _, _, sent⟩ := opened_run cps ops opened
  have done := (asidInit_opened opened).2
  have counted : t.bytesTotal.toNat = (wire ((asidInit s (some param) host).calls ++
      (sessionMachine cps).emitted (asidInit s (some param) host).session ops)).length %
        2 ^ 32 := by
    have start : (asidInit s (some param) host).session.bytesTotal = 4 := by rw [done.session]
    have total : t.bytesTotal = _ := sent.counted
    rw [total, start, wire, wire, scheduled_append, List.flatten_append, List.length_append,
      done.opening, BitVec.toNat_add, BitVec.toNat_ofNat, Nat.add_mod_mod]
    rfl
  rw [closePort, if_pos port]
  simp only [List.cons_append, List.head?_cons]
  rw [← counted]

end Opened

private theorem synth_opened :
    (asidInit ⟨openDevice 0, noPort, 0⟩ (some (decimal 1024)) synthHost).result = 0 := by
  have port : portOf (decimal 1024) = 0 := (argument_decimal (by decide)).1
  exact (asidInit_opens _ (port ▸ synthHost_opens)).1

/-- Two stores to both chips; the queue is full when the first chip's frame is due. -/
def synthOps : List SessionOp :=
  [.dump ⟨1000000, 1000, 0, 0, 0x42⟩ fun _ => ⟨256, 0⟩,
    .dump ⟨1000100, 1000, 1, 4, 0x11⟩ fun _ => ⟨256, 0⟩,
    .dump ⟨2000000, 21000, 0, 4, 0x10⟩ fun _ => ⟨256, -11⟩,
    .dump ⟨2000100, 21000, 1, 4, 0x10⟩ fun _ => ⟨256, 0⟩]

theorem session_stream_synth :
    SessionHeard
      ((sessionMachine 985248).exec (asidInit ⟨openDevice 0, noPort, 0⟩ (some (decimal 1024))
        synthHost).session synthOps).dev.core
      (attempts 985248 (asidInit ⟨openDevice 0, noPort, 0⟩ (some (decimal 1024))
        synthHost).session synthOps) ⟨4, 0⟩
      ((splitter midiRole).emitted none (wire (sessionCalls 985248 ⟨openDevice 0, noPort, 0⟩
        (decimal 1024) synthHost synthOps ⟨4, 0⟩))) :=
  session_stream 985248 synthOps synth_opened ⟨4, 0⟩ none _ rfl

theorem session_count_synth :
    (closePort ((sessionMachine 985248).exec (asidInit ⟨openDevice 0, noPort, 0⟩
      (some (decimal 1024)) synthHost).session synthOps) ⟨4, 0⟩).calls.head? =
        some (.logMessage (str "10 asid bytes sent, 14 bytes saved")) := by
  refine (session_count 985248 synthOps synth_opened ⟨4, 0⟩).trans ?_
  exact congrArg (fun line => some (AsidHostCall.logMessage line)) (by decide +kernel)

end Revice.Asid

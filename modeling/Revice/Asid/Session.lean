/- Module: Revice/Asid/Session
   source: libs/asid/vice/soundasid.c
   digest: The sound device from init to close: port choice, the MIDI queue, the byte count. -/

import Revice.Asid.Schedule
import Revice.General.Text

set_option autoImplicit false
set_option relaxedAutoImplicit false

namespace Revice.Asid

open Revice.General

def asidCoreStartMsg : List U8 := [0xf0, 0x2d, 0x4c, 0xf7]
def asidCoreStopMsg : List U8 := [0xf0, 0x2d, 0x4d, 0xf7]

def allMidiPorts : Int := -1
def noPort : Int := -1

structure SeqPort where
  number : Int
  midiGeneric : Bool
  capWrite : Bool
  capSubsWrite : Bool

structure SeqClient where
  number : Int
  ports : List SeqPort

structure SendAnswer where
  encoded : Int
  output : Int

/-- What the sequencer answers while the device is initialised. Clients come and go, so each
of the three enumerations has its own list. -/
structure InitAnswers where
  seqOpen : Int
  eventNew : Int
  counted : List SeqClient
  recounted : List SeqClient
  lookedUp : List SeqClient
  simplePort : Int
  subscribePort : Int
  start : SendAnswer

/-- What the device does to the world: a scheduled event, the queue's pending events dropped,
a subscription, a line of the log. The lines that print port names are left out. -/
inductive AsidHostCall
  | event (bytes : List U8) (nsec : U64)
  | removeEvents
  | subscribe (client port : Int)
  | logMessage (line : Text)

structure AsidSession where
  dev : AsidDevice
  vport : Int
  bytesTotal : U32

structure SessionDone where
  session : AsidSession
  result : Int
  calls : List AsidHostCall

def SeqPort.usable (port : SeqPort) : Bool :=
  port.midiGeneric && (port.capWrite && port.capSubsWrite)

def scanPorts (client : Int) (portNumber : Int) : List SeqPort → Int → Option (Int × Int) × Int
  | [], count => (none, count)
  | port :: ports, count =>
    if port.usable then
      if count = portNumber then (some (client, port.number), count)
      else scanPorts client portNumber ports (count + 1)
    else scanPorts client portNumber ports count

/-- The outer loop; client 0 is the sequencer itself. -/
def scanClients (portNumber : Int) : List SeqClient → Int → Option (Int × Int) × Int
  | [], count => (none, count)
  | client :: clients, count =>
    if client.number ≠ 0 then
      let scanned := scanPorts client.number portNumber client.ports count
      if scanned.1.isSome then scanned else scanClients portNumber clients scanned.2
    else scanClients portNumber clients count

def getPortInfo (clients : List SeqClient) (portNumber : Int) : Nat × Option (Int × Int) :=
  let scanned := scanClients portNumber clients 0
  if scanned.1.isSome then (1, scanned.1)
  else if portNumber = allMidiPorts then (scanned.2.toNat, none)
  else (0, none)

def getPortCount (clients : List SeqClient) : Nat := (getPortInfo clients allMidiPorts).1

def sendMessage (s : AsidSession) (message : List U8) (messageLen : U8) (nsec : U64)
    (answer : SendAnswer) : SessionDone :=
  if answer.encoded < messageLen.toNat then
    ⟨s, -1, [.logMessage (str "snd_midi_event_encode() failed")]⟩
  else if answer.output < 0 then
    ⟨s, -1, [.logMessage
      (str "snd_seq_ev_schedule_real() " ++ decimal nsec.toNat ++ str " failed")]⟩
  else
    ⟨{ s with bytesTotal := s.bytesTotal + messageLen.setWidth 32 }, 0,
      [.event (message.take messageLen.toNat) nsec]⟩

/-- The emit callback: the length becomes a byte and the result is dropped. -/
def asidEmit (s : AsidSession) (msg : AsidMsg) (answer : SendAnswer) :
    AsidSession × List AsidHostCall :=
  let sent := sendMessage s msg.bytes (BitVec.ofNat 8 msg.bytes.length) msg.nsec answer
  (sent.session, sent.calls)

def initializeMidi (s : AsidSession) (host : InitAnswers) : SessionDone :=
  if host.seqOpen < 0 then ⟨s, -1, [.logMessage (str "snd_seq_open() failed")]⟩
  else
    let s := { s with vport := noPort }
    if host.eventNew < 0 then ⟨s, -1, [.logMessage (str "snd_midi_event_new() failed")]⟩
    else ⟨s, 0, []⟩

def openPort (s : AsidSession) (portNumber : Int) (host : InitAnswers) : SessionDone :=
  let s := { s with bytesTotal := 0 }
  if getPortCount host.recounted < 1 then ⟨s, -1, []⟩
  else
    match (getPortInfo host.lookedUp portNumber).2 with
    | none => ⟨s, -1, []⟩
    | some (client, port) =>
      let s := { s with vport := host.simplePort }
      if host.simplePort < 0 then ⟨s, -1, []⟩
      else if host.subscribePort ≠ 0 then ⟨s, -1, []⟩
      else
        let sent := sendMessage s asidCoreStartMsg 4 0 host.start
        if sent.result ≠ 0 then
          ⟨sent.session, -1, .subscribe client port :: sent.calls ++
            [.logMessage (str "asid start failed")]⟩
        else
          ⟨{ sent.session with dev := ⟨sent.session.dev.core, fun _ => ⟨0, 0⟩⟩ }, 0,
            .subscribe client port :: sent.calls⟩

/-- `atoi`, as the conversion of `strtol` to `int`. -/
def atoi (s : Text) : BitVec 32 := BitVec.ofInt 32 (strtol s 10).1

def asidInit (s : AsidSession) (param : Option Text) (host : InitAnswers) : SessionDone :=
  let midi := initializeMidi s host
  if midi.result ≠ 0 then
    { midi with result := -1, calls := midi.calls ++
        [.logMessage (str "failed to initialize MIDI")] }
  else
    let s := midi.session
    let nports : Int := getPortCount host.counted
    if nports = 0 then ⟨s, -1, [.logMessage (str "No MIDI ports available")]⟩
    else
      let listed : List AsidHostCall := [.logMessage (str "asid open, available ports")]
      match param with
      | none => ⟨s, -1, listed ++ [.logMessage (str "-soundarg <n> is required")]⟩
      | some param =>
        let asidParam := atoi param
        let asidPort := (asidParam &&& 1023#32).toInt
        let useUpdateReg : Int := if asidParam &&& 1024#32 ≠ 0 then 1 else 0
        if asidPort < 0 ∨ asidPort > nports - 1 then
          ⟨s, -1, listed ++ [.logMessage (str "invalid MIDI port in -soundarg")]⟩
        else
          let form : List AsidHostCall := if useUpdateReg ≠ 0 then
            [.logMessage (str "Using asid register update messages")] else []
          let s := { s with dev := ⟨asidCoreInit useUpdateReg, s.dev.timing⟩ }
          let opened := openPort s asidPort host
          if opened.result ≠ 0 then
            { opened with result := -1, calls := listed ++ form ++ opened.calls ++
                [.logMessage (str "Open port failed")] }
          else { opened with result := 0, calls := listed ++ form ++ opened.calls }

/-- The emit callbacks of one call; `answers` is what the queue says to each of them. -/
def emitAll (answers : Nat → SendAnswer) :
    Nat → List AsidMsg → AsidSession → AsidSession × List AsidHostCall
  | _, [], s => (s, [])
  | i, msg :: msgs, s =>
    let sent := asidEmit s msg (answers i)
    let rest := emitAll answers (i + 1) msgs sent.1
    (rest.1, sent.2 ++ rest.2)

def sessionDump2 (cps : U64) (s : AsidSession) (call : DumpCall) (answers : Nat → SendAnswer) :
    AsidSession × List AsidHostCall :=
  let dumped := asidDump2 cps s.dev call
  emitAll answers 0 dumped.2 { s with dev := dumped.1 }

def closePort (s : AsidSession) (stop : SendAnswer) : SessionDone :=
  let total : AsidHostCall := .logMessage (decimal s.bytesTotal.toNat ++ str " asid bytes sent, " ++
    decimal s.dev.core.bytesSaved.toNat ++ str " bytes saved")
  if s.vport ≠ noPort then
    let sent := sendMessage s asidCoreStopMsg 4 0 stop
    ⟨{ sent.session with vport := noPort }, 0, total :: sent.calls ++ [.removeEvents]⟩
  else ⟨s, 0, [total, .removeEvents]⟩

/-- What the sound system does with an initialised device. -/
inductive SessionOp
  | dump (call : DumpCall) (answers : Nat → SendAnswer)
  | write
  | flush

def SessionOp.perform (cps : U64) (s : AsidSession) : SessionOp → AsidSession × List AsidHostCall
  | .dump call answers => sessionDump2 cps s call answers
  | .write => (s, [])
  | .flush => (s, [])

def sessionMachine (cps : U64) : Machine AsidSession SessionOp AsidHostCall where
  step := SessionOp.perform cps
  enabled := fun _ _ => True

/-- The messages of a list of device actions, in the order in which the queue is handed them. When
each of them falls due, and what the close removes before it is due, is left out. -/
def scheduled (calls : List AsidHostCall) : List (List U8) :=
  calls.filterMap fun
    | .event bytes _ => some bytes
    | _ => none

/-- The bytes of these messages in the order of the hand-over, not of their delivery: the one
stream both chips share. -/
def wire (calls : List AsidHostCall) : List U8 := (scheduled calls).flatten

theorem scheduled_append (first later : List AsidHostCall) :
    scheduled (first ++ later) = scheduled first ++ scheduled later := List.filterMap_append

def SendAnswer.accepts (answer : SendAnswer) (length : Nat) : Bool :=
  decide ((length : Int) ≤ answer.encoded) && decide (0 ≤ answer.output)

theorem sendMessage_whole (s : AsidSession) (message : List U8) {length : U8} (nsec : U64)
    (answer : SendAnswer) (whole : length.toNat = message.length) :
    (sendMessage s message length nsec answer).session.dev = s.dev ∧
      (sendMessage s message length nsec answer).session.vport = s.vport ∧
      scheduled (sendMessage s message length nsec answer).calls =
        (if answer.accepts message.length then [message] else []) ∧
      (sendMessage s message length nsec answer).session.bytesTotal =
        s.bytesTotal + (if answer.accepts message.length then BitVec.ofNat 32 message.length
          else 0) := by
  have widened : length.setWidth 32 = BitVec.ofNat 32 message.length := by
    rw [← whole]
    exact BitVec.eq_of_toNat_eq (by simp)
  rw [sendMessage, SendAnswer.accepts, whole]
  split
  · rename_i encoding
    have refused : ¬((message.length : Int) ≤ answer.encoded) := by omega
    simp [refused, scheduled]
  · rename_i encoding
    have encoded : (message.length : Int) ≤ answer.encoded := by omega
    split
    · rename_i output
      have refused : ¬(0 ≤ answer.output) := by omega
      simp [refused, scheduled]
    · rename_i output
      have accepted : 0 ≤ answer.output := by omega
      simp [encoded, accepted, scheduled, widened]

end Revice.Asid

/- Module: Revice/Binmon/Client
   source: integration/vice/smoke_test.py
   digest: The client finds the reply to each of its calls in the stream of frames. -/

import Revice.Binmon.Replies
import Revice.General.Socket

set_option autoImplicit false
set_option relaxedAutoImplicit false

namespace Revice.Binmon

open Revice.General
open Revice.Driveattach (MonErr)
open Revice.Keymatrix (Vice)
open Revice.Screen (C64)

structure Frame where
  stx : U8
  ver : U8
  op : U8
  err : U8
  rid : U32
  body : List U8
  fits : body.length < 2 ^ 32

/-- The packed form `<BBIBBI`, and the body behind it. -/
def Frame.encode (f : Frame) : List U8 :=
  [f.stx, f.ver] ++ leBytes 4 (BitVec.ofNat 32 f.body.length) ++ [f.op, f.err] ++
    leBytes 4 f.rid ++ f.body

structure Reply where
  op : U8
  err : U8
  rid : U32
  body : List U8
  deriving DecidableEq

def Frame.reply (f : Frame) : Reply := ⟨f.op, f.err, f.rid, f.body⟩

def announced (hdr : List U8) : Nat := (ofLeBytes 32 ((hdr.drop 2).take 4)).toNat

/-- The two loops of `read_one`: only the first one tests for the end of the stream. -/
def readHeader (rounds : Nat) (sock : Socket U8) : Received (List U8) × Socket U8 :=
  Socket.collect true 12 rounds sock []

def readBody (blen rounds : Nat) (sock : Socket U8) : Received (List U8) × Socket U8 :=
  Socket.collect false blen rounds sock []

def readOne (rounds : Nat) (sock : Socket U8) : Received Reply × Socket U8 :=
  match readHeader rounds sock with
  | (.done hdr, sock) =>
    match readBody (announced hdr) rounds sock with
    | (.done body, sock) =>
      (.done ⟨hdr.getD 6 0, hdr.getD 7 0, ofLeBytes 32 (hdr.drop 8), body⟩, sock)
    | (.closed, sock) => (.closed, sock)
    | (.waiting, sock) => (.waiting, sock)
  | (.closed, sock) => (.closed, sock)
  | (.waiting, sock) => (.waiting, sock)

/-- The loop of `call` behind the request: frames of other requests are dropped. -/
def call (rounds : Nat) (req : U32) : Nat → Socket U8 → Received Reply × Socket U8
  | 0, sock => (.waiting, sock)
  | tries + 1, sock =>
    match readOne rounds sock with
    | (.done r, sock) => if r.rid = req then (.done r, sock) else call rounds req tries sock
    | (.closed, sock) => (.closed, sock)
    | (.waiting, sock) => (.waiting, sock)

def calls (rounds tries : Nat) : List U32 → Socket U8 → Received (List Reply) × Socket U8
  | [], sock => (.done [], sock)
  | req :: reqs, sock =>
    match call rounds req tries sock with
    | (.done r, sock) =>
      match calls rounds tries reqs sock with
      | (.done rs, sock) => (.done (r :: rs), sock)
      | (.closed, sock) => (.closed, sock)
      | (.waiting, sock) => (.waiting, sock)
    | (.closed, sock) => (.closed, sock)
    | (.waiting, sock) => (.waiting, sock)

section Read

variable {incoming : List U8} (sizes : List Nat)

private theorem readOne_whole (header : 12 ≤ incoming.length)
    (body : announced (incoming.take 12) ≤ incoming.length - 12) {rounds : Nat}
    (enough : incoming.length ≤ rounds) :
    ∃ later, readOne rounds ⟨incoming, sizes⟩ =
      (.done ⟨(incoming.take 12).getD 6 0, (incoming.take 12).getD 7 0,
          ofLeBytes 32 ((incoming.take 12).drop 8),
          (incoming.drop 12).take (announced (incoming.take 12))⟩,
        ⟨(incoming.drop 12).drop (announced (incoming.take 12)), later⟩) := by
  have nothing : ([] : List U8).length = 0 := rfl
  obtain ⟨between, first⟩ := Socket.collect_enough true (s := ⟨incoming, sizes⟩)
    (nothing ▸ Nat.zero_add 12) header (Nat.le_trans header enough)
  have there : announced (incoming.take 12) ≤ (incoming.drop 12).length := by
    rw [List.length_drop]
    exact body
  have few : announced (incoming.take 12) ≤ rounds := by omega
  obtain ⟨later, second⟩ := Socket.collect_enough false (s := ⟨incoming.drop 12, between⟩)
    (nothing ▸ Nat.zero_add (announced (incoming.take 12))) there few
  rw [List.nil_append] at first second
  refine ⟨later, ?_⟩
  rw [readOne, readHeader, first]
  simp only [readBody, second]

private theorem readOne_short (short : incoming.length < 12) {rounds : Nat}
    (enough : incoming.length < rounds) : (readOne rounds ⟨incoming, sizes⟩).1 = .closed := by
  have first : (Socket.collect true 12 rounds ⟨incoming, sizes⟩ []).1 = .closed :=
    Socket.collect_closed (by simpa using short) enough
  rw [readOne, readHeader]
  generalize Socket.collect true 12 rounds ⟨incoming, sizes⟩ [] = found at first
  obtain ⟨result, sock⟩ := found
  obtain rfl : result = .closed := first
  rfl

private theorem readOne_cut (header : 12 ≤ incoming.length)
    (cut : incoming.length - 12 < announced (incoming.take 12)) {rounds : Nat}
    (enough : 12 ≤ rounds) : (readOne rounds ⟨incoming, sizes⟩).1 = .waiting := by
  have nothing : ([] : List U8).length = 0 := rfl
  obtain ⟨between, first⟩ := Socket.collect_enough true (s := ⟨incoming, sizes⟩)
    (nothing ▸ Nat.zero_add 12) header enough
  have second : (Socket.collect false (announced (incoming.take 12)) rounds
      ⟨incoming.drop 12, between⟩ []).1 = .waiting := by
    apply Socket.collect_spins
    rw [List.length_drop, nothing]
    omega
  rw [List.nil_append] at first
  rw [readOne, readHeader, first]
  simp only [readBody]
  generalize Socket.collect false (announced (incoming.take 12)) rounds
    ⟨incoming.drop 12, between⟩ [] = found at second
  obtain ⟨result, sock⟩ := found
  obtain rfl : result = .waiting := second
  rfl

end Read

section Frames

variable (f : Frame) (rest : List U8)

private theorem encode_drop : (f.encode ++ rest).drop 12 = f.body ++ rest :=
  rfl

private theorem encode_announced : announced ((f.encode ++ rest).take 12) = f.body.length := by
  have bytes : (((f.encode ++ rest).take 12).drop 2).take 4 =
      leBytes 4 (BitVec.ofNat 32 f.body.length) := rfl
  rw [announced, bytes, ofLeBytes_leBytes (by decide), BitVec.toNat_ofNat,
    Nat.mod_eq_of_lt f.fits]

private theorem length_encode : f.encode.length = 12 + f.body.length := by
  simp only [Frame.encode, List.length_append, length_groups, List.length_cons, List.length_nil]

private theorem readOne_frame {rounds : Nat} (sizes : List Nat)
    (enough : (f.encode ++ rest).length ≤ rounds) :
    ∃ later, readOne rounds ⟨f.encode ++ rest, sizes⟩ = (.done f.reply, ⟨rest, later⟩) := by
  have whole : (f.encode ++ rest).length = 12 + f.body.length + rest.length := by
    rw [List.length_append, length_encode]
  have header : 12 ≤ (f.encode ++ rest).length := by omega
  have body : announced ((f.encode ++ rest).take 12) ≤ (f.encode ++ rest).length - 12 := by
    rw [encode_announced]
    omega
  obtain ⟨later, read⟩ := readOne_whole sizes header body enough
  have bytes : ((f.encode ++ rest).take 12).drop 8 = leBytes 4 f.rid := rfl
  have id : ofLeBytes 32 (((f.encode ++ rest).take 12).drop 8) = f.rid := by
    rw [bytes, ofLeBytes_leBytes (by decide)]
  rw [id, encode_announced, encode_drop, List.take_left, List.drop_left] at read
  exact ⟨later, read⟩

private theorem frame_of_announced {incoming : List U8} (header : 12 ≤ incoming.length)
    (body : announced (incoming.take 12) ≤ incoming.length - 12) :
    ∃ (f : Frame) (rest : List U8), incoming = f.encode ++ rest := by
  match incoming, header with
  | stx :: ver :: l0 :: l1 :: l2 :: l3 :: op :: err :: r0 :: r1 :: r2 :: r3 :: more, _ =>
    have long : (ofLeBytes 32 [l0, l1, l2, l3]).toNat ≤ more.length := body
    have whole : (more.take (ofLeBytes 32 [l0, l1, l2, l3]).toNat).length =
        (ofLeBytes 32 [l0, l1, l2, l3]).toNat := by
      rw [List.length_take]
      omega
    refine ⟨⟨stx, ver, op, err, ofLeBytes 32 [r0, r1, r2, r3],
      more.take (ofLeBytes 32 [l0, l1, l2, l3]).toNat, ?_⟩,
      more.drop (ofLeBytes 32 [l0, l1, l2, l3]).toNat, ?_⟩
    · rw [whole]
      exact BitVec.isLt _
    · have len : leBytes 4 (BitVec.ofNat 32
          (more.take (ofLeBytes 32 [l0, l1, l2, l3]).toNat).length) = [l0, l1, l2, l3] := by
        rw [whole, BitVec.ofNat_toNat, BitVec.setWidth_eq]
        exact @leBytes_ofLeBytes 32 [l0, l1, l2, l3] (Nat.le_refl 32)
      have rid : leBytes 4 (ofLeBytes 32 [r0, r1, r2, r3]) = [r0, r1, r2, r3] :=
        @leBytes_ofLeBytes 32 [r0, r1, r2, r3] (Nat.le_refl 32)
      simp only [Frame.encode, len, rid, List.take_append_drop, List.cons_append,
        List.nil_append]

end Frames

section Calls

variable {e : U32} {rounds : Nat}

private theorem call_frames {req : U32} (f : Frame) (wanted : f.rid = req) (other : req ≠ e)
    (rest : List U8) {skipped : List Frame} (passed : ∀ g ∈ skipped, g.rid = e) {tries : Nat}
    (enough : skipped.length < tries)
    (long : (skipped.flatMap Frame.encode ++ (f.encode ++ rest)).length ≤ rounds)
    (sizes : List Nat) :
    ∃ later, call rounds req tries ⟨skipped.flatMap Frame.encode ++ (f.encode ++ rest), sizes⟩ =
      (.done f.reply, ⟨rest, later⟩) := by
  induction skipped generalizing tries sizes with
  | nil =>
    obtain ⟨tries, rfl⟩ := Nat.exists_eq_succ_of_ne_zero (Nat.ne_of_gt enough)
    obtain ⟨later, read⟩ := readOne_frame f rest sizes long
    refine ⟨later, ?_⟩
    rw [call, List.flatMap_nil, List.nil_append, read]
    exact if_pos wanted
  | cons g skipped ih =>
    obtain ⟨tries, rfl⟩ := Nat.exists_eq_succ_of_ne_zero (Nat.ne_of_gt (Nat.zero_lt_of_lt enough))
    rw [List.flatMap_cons, List.append_assoc] at long ⊢
    obtain ⟨between, read⟩ := readOne_frame g _ sizes long
    have apart : g.reply.rid ≠ req := by
      rw [Frame.reply, passed g List.mem_cons_self]
      exact other.symm
    rw [List.length_append] at long
    obtain ⟨later, found⟩ := ih (fun h inside => passed h (List.mem_cons_of_mem _ inside))
      (Nat.lt_of_succ_lt_succ enough) (by omega) between
    refine ⟨later, ?_⟩
    rw [call, read]
    exact (if_neg apart).trans found

theorem calls_frames {ids : List U32} {frames : List Frame} {tries : Nat}
    (carried : (frames.filter fun f => f.rid ≠ e).map Frame.rid = ids)
    (enough : frames.length ≤ tries) (after : List U8)
    (long : (frames.flatMap Frame.encode ++ after).length ≤ rounds) (sizes : List Nat) :
    ∃ (events : List Frame) (later : List Nat), (∀ f ∈ events, f.rid = e) ∧
      calls rounds tries ids ⟨frames.flatMap Frame.encode ++ after, sizes⟩ =
        (.done ((frames.filter fun f => f.rid ≠ e).map Frame.reply),
          ⟨events.flatMap Frame.encode ++ after, later⟩) := by
  induction ids generalizing frames sizes with
  | nil =>
    have none_left := List.map_eq_nil_iff.mp carried
    refine ⟨frames, sizes, ?_, ?_⟩
    · intro f inside
      simpa using List.filter_eq_nil_iff.mp none_left f inside
    · rw [none_left]
      rfl
  | cons id ids ih =>
    obtain ⟨f, left, kept, rid, carriedRest⟩ := List.map_eq_cons_iff.mp carried
    obtain ⟨skipped, rest, rfl, passed, isReply, keptRest⟩ := List.filter_eq_cons_iff.mp kept
    have events : ∀ g ∈ skipped, g.rid = e := by
      intro g inside
      simpa using passed g inside
    have other : id ≠ e := by
      rw [← rid]
      simpa using isReply
    rw [List.length_append, List.length_cons] at enough
    rw [List.flatMap_append, List.flatMap_cons, List.append_assoc, List.append_assoc] at long ⊢
    obtain ⟨between, found⟩ := call_frames f rid other (rest.flatMap Frame.encode ++ after)
      events (by omega : skipped.length < tries) long sizes
    rw [List.length_append, List.length_append] at long
    obtain ⟨unread, later, only, others⟩ := ih (by rw [keptRest, carriedRest]) (by omega)
      (by omega) between
    refine ⟨unread, later, only, ?_⟩
    rw [calls, found, kept]
    simp only [others, keptRest, List.map_cons]

end Calls

/-- What one read comes to on a stream, however it is handed over: the first frame of it, and
the rest of the stream untouched; the end of the stream, where it is shorter than a header; and
no result at all, however long the client goes on, where it ends inside a body. -/
structure ReadsFrames (incoming : List U8) : Prop where
  done : ∀ (f : Frame) (rest : List U8), incoming = f.encode ++ rest →
    ∀ (sizes : List Nat) (rounds : Nat), incoming.length ≤ rounds →
      ∃ later, readOne rounds ⟨incoming, sizes⟩ = (.done f.reply, ⟨rest, later⟩)
  closed : incoming.length < 12 → ∀ (sizes : List Nat) (rounds : Nat),
    incoming.length < rounds → (readOne rounds ⟨incoming, sizes⟩).1 = .closed
  waiting : 12 ≤ incoming.length → (¬∃ (f : Frame) (rest : List U8), incoming = f.encode ++ rest) →
    ∀ (sizes : List Nat) (rounds : Nat), 12 ≤ rounds →
      (readOne rounds ⟨incoming, sizes⟩).1 = .waiting

/-- The client reads back exactly the frames; it notices the end of the stream in front of a
header or inside it, and not behind it. -/
theorem client_reads (incoming : List U8) : ReadsFrames incoming := by
  refine ⟨?_, ?_, ?_⟩
  · rintro f rest rfl sizes rounds enough
    exact readOne_frame f rest sizes enough
  · intro short sizes rounds enough
    exact readOne_short sizes short enough
  · intro header unframed sizes rounds enough
    have cut : incoming.length - 12 < announced (incoming.take 12) := by
      by_contra whole
      exact unframed (frame_of_announced header (Nat.le_of_not_lt whole))
    exact readOne_cut sizes header cut enough

section Session

variable {ε α : Type} [Vice ε α]

/-- The frames that the monitor makes of what the handlers ask for: each of them carries the
request number that it is given. -/
def Echoes (transport : BinmonOut → Option Frame) : Prop :=
  ∀ out, (transport out).map Frame.rid = out.requestId

theorem transport_ids {s : BinmonSys ε α} {ops : List (BinmonOp α)}
    (legal : binmonMachine.Legal s ops) {transport : BinmonOut → Option Frame}
    (echoes : Echoes transport) :
    ((binmonMachine.emitted s ops).filterMap transport).map Frame.rid =
      ops.filterMap BinmonOp.requestId := by
  rw [← session_ids legal, List.map_filterMap]
  apply List.filterMap_congr
  intro out _
  exact echoes out

/-- What the calls of a script return: to each command the frame that its handler sent, with
its number, while all that stays in the stream are frames of events. -/
structure Returned (e : ε) (c64 : C64) (ops : List (BinmonOp α))
    (transport : BinmonOut → Option Frame) (event : U32) (after : List U8)
    (result : Received (List Reply) × Socket U8) : Prop where
  replies : result.1 = .done (((binmonMachine.emitted (binmonInit e c64) ops).filterMap
    transport).map Frame.reply)
  ids : (((binmonMachine.emitted (binmonInit e c64) ops).filterMap transport).map
    Frame.reply).map Reply.rid = ops.filterMap BinmonOp.requestId
  left : ∃ events : List Frame, (∀ f ∈ events, f.rid = event) ∧
    result.2.incoming = events.flatMap Frame.encode ++ after

/-- A script of commands on any run of the monitor: with frames of events anywhere in the
stream, and the stream cut into chunks in any way, the calls return the replies to their
commands, none of them twice, in another's place or not at all. -/
theorem client_session (e : ε) (c64 : C64) (ops : List (BinmonOp α))
    (legal : binmonMachine.Legal (binmonInit e c64) ops)
    (transport : BinmonOut → Option Frame) (echoes : Echoes transport) (event : U32)
    (frames : List Frame) (sent : frames.filter (fun f => f.rid ≠ event) =
      (binmonMachine.emitted (binmonInit e c64) ops).filterMap transport)
    (after : List U8) (sizes : List Nat) (rounds tries : Nat)
    (long : (frames.flatMap Frame.encode ++ after).length ≤ rounds)
    (enough : frames.length ≤ tries) :
    Returned e c64 ops transport event after (calls rounds tries
      (ops.filterMap BinmonOp.requestId) ⟨frames.flatMap Frame.encode ++ after, sizes⟩) := by
  have ids := transport_ids legal echoes
  have carried : (frames.filter fun f => f.rid ≠ event).map Frame.rid =
      ops.filterMap BinmonOp.requestId := by
    rw [sent]
    exact ids
  obtain ⟨events, later, only, found⟩ := calls_frames carried enough after long sizes
  rw [found, sent]
  refine ⟨rfl, ?_, events, only, rfl⟩
  rw [List.map_map]
  exact ids

end Session

/-- The documented error codes. -/
def errorCode : MonErr → U8
  | .ok => 0x00
  | .cmdInvalidLength => 0x80
  | .invalidParameter => 0x81
  | .cmdFailure => 0x8f

/-- The documented frame of a reply. -/
def replyFrame : BinmonOut → Option Frame
  | .mon (.monitorBinaryError err requestId) =>
    some ⟨0x02, 0x02, 0x00, errorCode err, requestId, [], by decide⟩
  | .mon (.monitorBinaryResponse length type err requestId body) =>
    some ⟨0x02, 0x02, type, errorCode err, requestId, (body.getD []).take length.toNat,
      Nat.lt_of_le_of_lt (List.length_take_le _ _) length.isLt⟩
  | .mon (.fileSystemDetachDisk _ _) => none
  | .mon (.fileSystemAttachDisk _ _ _) => none
  | .host _ => none

theorem replyFrame_echoes : Echoes replyFrame := by
  intro out
  cases out with
  | mon call => cases call <;> rfl
  | host call => rfl

def stoppedFrame : Frame := ⟨0x02, 0x02, 0x62, 0x00, 0, [0x00, 0x10], by decide⟩

theorem stoppedFrame_sent {ε α : Type} [Vice ε α] {s : BinmonSys ε α} {ops : List (BinmonOp α)}
    (legal : binmonMachine.Legal s ops)
    (numbered : ∀ id ∈ ops.filterMap BinmonOp.requestId, id ≠ 0) :
    (stoppedFrame :: (binmonMachine.emitted s ops).filterMap replyFrame).filter
      (fun f => f.rid ≠ 0) = (binmonMachine.emitted s ops).filterMap replyFrame := by
  rw [List.filter_cons_of_neg (by decide), List.filter_eq_self]
  intro f inside
  have carried : f.rid ∈ ops.filterMap BinmonOp.requestId := by
    rw [← transport_ids legal replyFrame_echoes]
    exact List.mem_map_of_mem inside
  exact decide_eq_true (numbered f.rid carried)

def smokeFrames : List Frame :=
  stoppedFrame ::
    (binmonMachine.emitted (binmonInit Keymatrix.Bench.blank Screen.blankC64) smokeRun).filterMap
      replyFrame

private theorem smokeFrames_sent : smokeFrames.filter (fun f => f.rid ≠ 0) =
    (binmonMachine.emitted (binmonInit Keymatrix.Bench.blank Screen.blankC64) smokeRun).filterMap
      replyFrame := by
  have ids : smokeRun.filterMap BinmonOp.requestId = [2, 3, 4] := rfl
  refine stoppedFrame_sent smokeRun_legal ?_
  rw [ids]
  simp

theorem client_session_smoke :
    Returned Keymatrix.Bench.blank Screen.blankC64 smokeRun replyFrame 0 []
    (calls (smokeFrames.flatMap Frame.encode ++ []).length smokeFrames.length
      (smokeRun.filterMap BinmonOp.requestId) ⟨smokeFrames.flatMap Frame.encode ++ [], [1, 7]⟩) :=
  client_session Keymatrix.Bench.blank Screen.blankC64 smokeRun smokeRun_legal replyFrame
    replyFrame_echoes 0 smokeFrames smokeFrames_sent [] [1, 7] _ _ (Nat.le_refl _) (Nat.le_refl _)

end Revice.Binmon

/- Module: Revice/Binmon/Smoke
   source: integration/vice/smoke_test.py
   digest: The smoke test passes, whatever the machine does between its three commands. -/

import Revice.Binmon.Client

set_option autoImplicit false
set_option relaxedAutoImplicit false

namespace Revice.Binmon

open Revice.General
open Revice.Keymatrix (KmTick Vice decodeGet)
open Revice.Screen (C64 decodeScreen)

def screenPasses (r : Reply) : Bool :=
  r.op = monCmdScreenGet ∧ r.err = 0 ∧ r.body.length = 4072 ∧
    r.body.getD 1 0 = 25 ∧ r.body.getD 2 0 = 40

def keysPass (r : Reply) : Bool :=
  r.op = monCmdKeymatrixGet ∧ r.err = 0 ∧ r.body.length = 24 ∧ r.body.getD 21 0 = 1

/-- `main` from the first of its three commands on; `false` is an assertion that fails. -/
def smokeMain (rounds tries : Nat) (sock : Socket U8) : Received Bool × Socket U8 :=
  match call rounds 2 tries sock with
  | (.done screen, sock) =>
    if !screenPasses screen then (.done false, sock)
    else
      match call rounds 3 tries sock with
      | (.done _, sock) =>
        match call rounds 4 tries sock with
        | (.done keys, sock) => (.done (keysPass keys), sock)
        | (.closed, sock) => (.closed, sock)
        | (.waiting, sock) => (.waiting, sock)
      | (.closed, sock) => (.closed, sock)
      | (.waiting, sock) => (.waiting, sock)
  | (.closed, sock) => (.closed, sock)
  | (.waiting, sock) => (.waiting, sock)

/-- No injection starts and no key is released on request. -/
def BinmonOp.keepsKeys {α : Type} (op : BinmonOp α) : Bool :=
  op.kmTick.all fun tick => tick.op.keepsKeys

/-- A run of the emulator under the test: what came before, the three commands of the test, and
what happens between them. -/
structure SmokeSession (α : Type) where
  before : List (BinmonOp α)
  screen : BinaryTick
  between : List (BinmonOp α)
  tap : BinaryTick
  meanwhile : List (BinmonOp α)
  get : BinaryTick

namespace SmokeSession

variable {α : Type}

def front (s : SmokeSession α) : List (BinmonOp α) :=
  .command s.screen :: s.between ++ .command s.tap :: s.meanwhile

def script (s : SmokeSession α) : List (BinmonOp α) := s.front ++ [.command s.get]

/-- The emulator is a C64, the test is the only client, and nobody taps, presses or releases
keys while it waits for what becomes of its tap. -/
structure Plays (s : SmokeSession α) : Prop where
  c64 : .c64screenInit ∈ s.before
  screen : s.screen.type = monCmdScreenGet ∧ s.screen.command.requestId = 2
  tap : s.tap.type = monCmdKeymatrixTap ∧ s.tap.command.requestId = 3 ∧
    s.tap.content = [0, 60, 0, 1, 1, 2]
  get : s.get.type = monCmdKeymatrixGet ∧ s.get.command.requestId = 4
  between : ∀ op ∈ s.between, op.requestId = none
  meanwhile : ∀ op ∈ s.meanwhile, op.requestId = none ∧ op.keepsKeys = true

theorem Plays.ids {s : SmokeSession α} (plays : s.Plays) :
    s.script.filterMap BinmonOp.requestId = [2, 3, 4] := by
  have command (tick : BinaryTick) :
      (BinmonOp.command tick : BinmonOp α).requestId = some tick.command.requestId := rfl
  have between := List.filterMap_eq_nil_iff.mpr plays.between
  have meanwhile := List.filterMap_eq_nil_iff.mpr fun op inside => (plays.meanwhile op inside).1
  rw [script, front, List.filterMap_append, List.cons_append, List.filterMap_cons_some (command _),
    List.filterMap_append, List.filterMap_cons_some (command _), between, meanwhile,
    plays.screen.2, plays.tap.2.1, List.filterMap_cons_some (command _), plays.get.2]
  rfl

end SmokeSession

/-- The frame of a successful reply carries its type, the code of success, and its body. -/
structure Delivers (transport : BinmonOut → Option Frame) : Prop where
  echoes : Echoes transport
  response : ∀ length type requestId body, ∃ f : Frame,
    transport (.mon (.monitorBinaryResponse length type .ok requestId (some body))) = some f ∧
      f.op = type ∧ f.err = 0 ∧ f.body = body.take length.toNat

section Client

variable {rounds tries : Nat} {sock rest : Socket U8}

private theorem calls_cons_done {req : U32} {reqs : List U32} {r : Reply} {rs : List Reply}
    (returned : calls rounds tries (req :: reqs) sock = (.done (r :: rs), rest)) :
    ∃ between, call rounds req tries sock = (.done r, between) ∧
      calls rounds tries reqs between = (.done rs, rest) := by
  rw [calls] at returned
  rcases first : call rounds req tries sock with ⟨_ | _ | _, between⟩
  · rcases later : calls rounds tries reqs between with ⟨_ | _ | _, left⟩
    · simp only [first, later] at returned
      cases returned
      exact ⟨between, rfl, later⟩
    · simp [first, later] at returned
    · simp [first, later] at returned
  · simp [first] at returned
  · simp [first] at returned

private theorem smokeMain_calls {screen tap keys : Reply} (passes : screenPasses screen = true)
    (returned : calls rounds tries [2, 3, 4] sock = (.done [screen, tap, keys], rest)) :
    smokeMain rounds tries sock = (.done (keysPass keys), rest) := by
  obtain ⟨afterScreen, first, returned⟩ := calls_cons_done returned
  obtain ⟨afterTap, second, returned⟩ := calls_cons_done returned
  obtain ⟨afterKeys, third, returned⟩ := calls_cons_done returned
  obtain rfl : afterKeys = rest := congrArg Prod.snd returned
  simp only [smokeMain, first, passes, Bool.not_true, Bool.false_eq_true, if_false, second, third]

end Client

section Session

variable {ε α : Type} [Vice ε α] {e : ε} {c64 : C64} {ops : List (BinmonOp α)}

private theorem provider_stays (legal : binmonMachine.Legal (binmonInit e c64) ops)
    (here : .c64screenInit ∈ ops) :
    (binmonMachine.exec (binmonInit e c64) ops).screen.sProvider =
      some Screen.c64screenGetState := by
  obtain ⟨first, later, rfl⟩ := List.append_of_mem here
  obtain ⟨-, -, legalLater⟩ := (binmonMachine.legal_append _ _ _).mp legal
  rw [binmonMachine.exec_append, binmonMachine.exec_cons]
  refine binmonMachine.exec_invariant
    (P := fun s => s.screen.sProvider = some Screen.c64screenGetState) ?_ rfl legalLater
  intro s op held _
  exact (provider_step s op).elim (fun same => same.trans held) id

private theorem tapBody_count {content : List U8} {mode : Keymatrix.KmMode} {frames : Int}
    {keys : List Keymatrix.KmKey} (read : Keymatrix.tapBody content = some (mode, frames, keys)) :
    keys.length = (content.getD 3 0).toNat := by
  simp only [Keymatrix.tapBody] at read
  split at read
  · cases read
  · split at read
    · cases read
    · split at read
      · cases read
      · cases read
        rw [List.length_map, List.length_range]

private theorem fits_starts {content : List U8} (fits : TapFits content) :
    ∃ injection, (Keymatrix.KmOp.binmonTap content).action = .start injection ∧
      injection.keys.length = (content.getD 3 0).toNat := by
  cases read : Keymatrix.tapBody content with
  | none => exact absurd fits ((tapBody_iff content).mp read)
  | some body =>
    obtain ⟨mode, frames, keys⟩ := body
    refine ⟨⟨mode, keys, some frames, Keymatrix.tapBody_ok read⟩, ?_, tapBody_count read⟩
    rw [Keymatrix.KmOp.action, Keymatrix.bodyInjection, Option.pmap_some' read]
    rfl

private theorem tap_reported [DecidableEq α] (clear : ∀ cell, (Vice.state e).matrix cell = false)
    {before meanwhile : List (BinmonOp α)} {tap : BinaryTick}
    (legal : binmonMachine.Legal (binmonInit e c64)
      (before ++ .command tap :: meanwhile))
    (type : tap.type = monCmdKeymatrixTap) (fits : TapFits tap.content)
    (keep : ∀ op ∈ meanwhile, op.keepsKeys = true) :
    (binmonMachine.exec (binmonInit e c64)
      (before ++ .command tap :: meanwhile)).km.kmx.shown.keys.length =
        (tap.content.getD 3 0).toNat := by
  obtain ⟨injection, starts, count⟩ := fits_starts fits
  have ticks : (before ++ .command tap :: meanwhile).filterMap BinmonOp.kmTick =
      before.filterMap BinmonOp.kmTick ++
        [⟨tap.now, tap.cyclesPerFrame, .binmonTap tap.content⟩] ++
        meanwhile.filterMap BinmonOp.kmTick := by
    have tick : (BinmonOp.command tap : BinmonOp α).kmTick =
        some ⟨tap.now, tap.cyclesPerFrame, .binmonTap tap.content⟩ := by
      rw [BinmonOp.kmTick, BinmonOp.keymatrixOp, BinaryTick.keymatrixOp, type, if_neg (by decide),
        if_pos rfl]
      rfl
    rw [List.filterMap_append, List.filterMap_cons_some tick, List.append_assoc]
    rfl
  have view := congrArg Keymatrix.KmSys.km (session_core clear legal).1
  have core : (binmonMachine.exec (binmonInit e c64)
      (before ++ .command tap :: meanwhile)).km.kmx = _ := view
  rw [core, ticks, Keymatrix.kmRun_append, Keymatrix.shown_keys_run, Keymatrix.kmRun_snoc,
    Keymatrix.shown_keys_started _ starts, count]
  intro tick member
  obtain ⟨op, inside, same⟩ := List.mem_filterMap.mp member
  have kept := keep op inside
  rw [BinmonOp.keepsKeys, same] at kept
  exact kept

end Session

section Delivered

variable {transport : BinmonOut → Option Frame} (delivers : Delivers transport)
  {ε α : Type} [Vice ε α] {s : BinmonSys ε α} {tick : BinaryTick}

include delivers

private theorem screen_delivered (here : tick.type = monCmdScreenGet)
    (provider : s.screen.sProvider = some Screen.c64screenGetState) :
    ∃ f, (monitorBinaryProcessCommand s tick).2.filterMap transport = [f] ∧
      screenPasses f.reply = true := by
  obtain ⟨-, -, present⟩ := screen_answer here (Or.inr provider)
  obtain ⟨body, out, decoded⟩ := present (by rw [provider]; exact Option.some_ne_none _)
  obtain ⟨f, sent, op, err, same⟩ := delivers.response 4072 tick.type tick.command.requestId body
  rw [decodeScreen] at decoded
  split at decoded
  · rename_i size
    have rows := congrArg Screen.ScreenResponse.rows (Option.some.inj decoded)
    have cols := congrArg Screen.ScreenResponse.cols (Option.some.inj decoded)
    have whole : body.take (4072 : U32).toNat = body := List.take_of_length_le (Nat.le_of_eq size)
    refine ⟨f, by rw [out, List.filterMap_cons_some sent]; rfl, ?_⟩
    rw [screenPasses, Frame.reply, op, err, same, whole]
    exact decide_eq_true ⟨here, rfl, size, rows, cols⟩
  · cases decoded

private theorem get_delivered (here : tick.type = monCmdKeymatrixGet) (formed : s.km.WellFormed)
    {ticks : List KmTick} (view : s.km.view = Keymatrix.kmRun ticks)
    (one : s.km.kmx.shown.keys.length = 1) :
    ∃ f, (monitorBinaryProcessCommand s tick).2.filterMap transport = [f] ∧
      keysPass f.reply = true := by
  obtain ⟨-, body, r, out, decoded, truth⟩ := get_answer formed here view
  obtain ⟨f, sent, op, err, same⟩ := delivers.response 24 tick.type tick.command.requestId body
  rw [decodeGet] at decoded
  split at decoded
  · rename_i size
    have named := congrArg Keymatrix.GetReport.nKeys (Option.some.inj decoded)
    have core : s.km.kmx = (Keymatrix.kmRun ticks).km := congrArg Keymatrix.KmSys.km view
    rw [core] at one
    have count : (body.getD 21 0).toNat = 1 :=
      (congrArg BitVec.toNat named).trans (truth.count.trans one)
    have whole : body.take (24 : U32).toNat = body := List.take_of_length_le (Nat.le_of_eq size)
    refine ⟨f, by rw [out, List.filterMap_cons_some sent]; rfl, ?_⟩
    rw [keysPass, Frame.reply, op, err, same, whole]
    exact decide_eq_true ⟨here, rfl, size, BitVec.eq_of_toNat_eq count⟩
  · cases decoded

end Delivered

section Script

variable {ε α : Type} [Vice ε α] {e : ε} {c64 : C64} {session : SmokeSession α}
  (plays : session.Plays)
  (legal : binmonMachine.Legal (binmonInit e c64) (session.before ++ session.script))

include legal in
private theorem legal_front :
    binmonMachine.Legal (binmonInit e c64) (session.before ++ session.front) := by
  rw [SmokeSession.script, ← List.append_assoc] at legal
  exact ((binmonMachine.legal_append _ _ _).mp legal).1

variable [DecidableEq α] (clear : ∀ cell, (Vice.state e).matrix cell = false)

include plays legal clear

private theorem one_reported : (binmonMachine.exec (binmonInit e c64)
    (session.before ++ session.front)).km.kmx.shown.keys.length = 1 := by
  have split : session.before ++ session.front =
      (session.before ++ .command session.screen :: session.between) ++
        .command session.tap :: session.meanwhile := by
    rw [SmokeSession.front, ← List.append_assoc]
  have reached := legal_front legal
  have fits : TapFits session.tap.content := by
    rw [plays.tap.2.2, TapFits]
    decide
  rw [split] at reached ⊢
  rw [tap_reported clear reached plays.tap.1 fits fun op inside => (plays.meanwhile op inside).2,
    plays.tap.2.2]
  rfl

variable {transport : BinmonOut → Option Frame} (delivers : Delivers transport)

include delivers

private theorem script_frames : ∃ screen tap keys : Frame,
    (binmonMachine.emitted (binmonMachine.exec (binmonInit e c64) session.before)
      session.script).filterMap transport = [screen, tap, keys] ∧
    [screen, tap, keys].map Frame.rid = [2, 3, 4] ∧
    screenPasses screen.reply = true ∧ keysPass keys.reply = true := by
  obtain ⟨reached, inScript⟩ := (binmonMachine.legal_append _ session.before _).mp legal
  have numbers := transport_ids inScript delivers.echoes
  rw [plays.ids] at numbers
  obtain ⟨screen, tap, keys, replies⟩ := List.length_eq_three.mp
    ((List.length_map Frame.rid).symm.trans (congrArg List.length numbers))
  rw [replies] at numbers
  refine ⟨screen, tap, keys, replies, numbers, ?_, ?_⟩
  · -- the first reply comes from the handler of the screen
    obtain ⟨f, first, passes⟩ := screen_delivered delivers plays.screen.1
      (provider_stays reached plays.c64)
    rw [SmokeSession.script, SmokeSession.front, List.append_assoc, List.cons_append,
      binmonMachine.emitted_cons, List.filterMap_append] at replies
    change List.filterMap transport (monitorBinaryProcessCommand _ _).2 ++ _ = _ at replies
    rw [first] at replies
    rw [← (List.cons.inj replies).1]
    exact passes
  · -- the last one comes from the handler of the keys, in the state behind the tap
    have front := legal_front legal
    obtain ⟨g, last, passes⟩ := get_delivered delivers plays.get.1
      (session_adapted clear front).1 (session_core clear front).1 (one_reported plays legal clear)
    rw [SmokeSession.script, binmonMachine.emitted_snoc, List.filterMap_append,
      ← binmonMachine.exec_append] at replies
    change _ ++ List.filterMap transport (monitorBinaryProcessCommand _ _).2 = _ at replies
    rw [last] at replies
    have ends := congrArg List.getLast? replies
    rw [List.getLast?_concat] at ends
    obtain rfl : g = keys := Option.some.inj ends
    exact passes

end Script

/-- The smoke test passes. In every run of a C64 in which nobody else works the keyboard while the
test waits, whatever the machine, the alarms and the monitor do between its commands, whatever
events the monitor sends, and however the stream is cut: no assertion fails. -/
theorem smoke_passes {ε α : Type} [Vice ε α] [DecidableEq α] (e : ε)
    (clear : ∀ cell, (Vice.state e).matrix cell = false) (c64 : C64) (session : SmokeSession α)
    (plays : session.Plays)
    (legal : binmonMachine.Legal (binmonInit e c64) (session.before ++ session.script))
    (transport : BinmonOut → Option Frame) (delivers : Delivers transport) (event : U32)
    (frames : List Frame) (sent : frames.filter (fun f => f.rid ≠ event) =
      (binmonMachine.emitted (binmonMachine.exec (binmonInit e c64) session.before)
        session.script).filterMap transport)
    (after : List U8) (sizes : List Nat) (rounds tries : Nat)
    (long : (frames.flatMap Frame.encode ++ after).length ≤ rounds)
    (enough : frames.length ≤ tries) :
    (smokeMain rounds tries ⟨frames.flatMap Frame.encode ++ after, sizes⟩).1 = .done true := by
  obtain ⟨screen, tap, keys, replies, numbers, screenOk, keysOk⟩ :=
    script_frames plays legal clear delivers
  rw [replies] at sent
  have carried : (frames.filter fun f => f.rid ≠ event).map Frame.rid = [2, 3, 4] := by
    rw [sent]
    exact numbers
  obtain ⟨events, later, -, returned⟩ := calls_frames carried enough after long sizes
  rw [sent] at returned
  rw [smokeMain_calls screenOk returned, keysOk]

private theorem replyFrame_delivers : Delivers replyFrame where
  echoes := replyFrame_echoes
  response _ _ _ _ := ⟨_, rfl, rfl, rfl, rfl⟩

/-- The program scans the keyboard, and the alarm comes up, before the test asks for the keys. -/
def releasedSession : SmokeSession Nat where
  before := [.c64screenInit]
  screen := smokeScreen
  between := []
  tap := smokeTap
  meanwhile := [.keymatrix (.entry ⟨20, 19656, .paRead 0xfd⟩),
    .keymatrix (.entry ⟨21, 19656, .onAlarm⟩)]
  get := smokeGet

private theorem releasedSession_plays : releasedSession.Plays where
  c64 := List.mem_singleton_self _
  screen := ⟨rfl, rfl⟩
  tap := ⟨rfl, rfl, rfl⟩
  get := ⟨rfl, rfl⟩
  between := by simp [releasedSession]
  meanwhile := by decide

private theorem releasedSession_legal :
    binmonMachine.Legal (binmonInit Keymatrix.Bench.blank Screen.blankC64)
    (releasedSession.before ++ releasedSession.script) := by
  refine ⟨trivial, ?_, ?_, ?_, ?_, ?_, trivial⟩
  · exact Or.inr (Or.inr (Or.inr (Or.inl rfl)))
  · exact Or.inr (Or.inl rfl)
  · intro callback
    exact Keymatrix.KmOp.noConfusion callback
  · intro callback
    decide
  · exact Or.inr (Or.inr (Or.inl rfl))

def releasedFrames : List Frame :=
  stoppedFrame :: (binmonMachine.emitted
    (binmonMachine.exec (binmonInit Keymatrix.Bench.blank Screen.blankC64) releasedSession.before)
    releasedSession.script).filterMap replyFrame

private theorem releasedFrames_sent : releasedFrames.filter (fun f => f.rid ≠ 0) =
    (binmonMachine.emitted
      (binmonMachine.exec (binmonInit Keymatrix.Bench.blank Screen.blankC64) releasedSession.before)
      releasedSession.script).filterMap replyFrame := by
  refine stoppedFrame_sent ((binmonMachine.legal_append _ _ _).mp releasedSession_legal).2 ?_
  rw [releasedSession_plays.ids]
  simp

theorem smoke_passes_released : (smokeMain (releasedFrames.flatMap Frame.encode ++ []).length
    releasedFrames.length ⟨releasedFrames.flatMap Frame.encode ++ [], [5, 1, 40]⟩).1 = .done true :=
  smoke_passes Keymatrix.Bench.blank (fun _ => rfl) Screen.blankC64 releasedSession
    releasedSession_plays releasedSession_legal replyFrame replyFrame_delivers 0 releasedFrames
    releasedFrames_sent [] [5, 1, 40] _ _ (Nat.le_refl _) (Nat.le_refl _)

end Revice.Binmon

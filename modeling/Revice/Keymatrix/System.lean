/- Module: Revice/Keymatrix/System
   source: libs/keymatrix/src/keymatrix_core.c, libs/keymatrix/vice/mon_keymatrix.c
   digest: The core with its host: the key matrix, the release alarm, and runs of operations. -/

import Mathlib.Logic.Function.Basic
import Revice.General.Machine
import Revice.Keymatrix.Core

set_option autoImplicit false
set_option relaxedAutoImplicit false

namespace Revice.Keymatrix

open Revice.General

/-- What the host keeps for the core: a bit for every place, and the single alarm. -/
structure KmEnv where
  matrix : Int × Int → Bool
  alarm : Option U64

def KmEnv.apply (env : KmEnv) : HostCall → KmEnv
  | .setKeyarrAny row col value =>
    { env with matrix := Function.update env.matrix (row, col) value }
  | .clearKeymatrix =>
    { env with matrix := fun cell => if 0 ≤ cell.1 then false else env.matrix cell }
  | .setAlarm clk => { env with alarm := some clk }
  | .cancelAlarm => { env with alarm := none }
  | .emit _ => env

def KmEnv.run (env : KmEnv) (calls : List HostCall) : KmEnv := calls.foldl KmEnv.apply env

/-- The place where the host keeps a custom key. -/
def KmCustom.cell : KmCustom → Int × Int
  | .restore1 => (kmRowRestore1, kmColRestore1)
  | .restore2 => (kmRowRestore2, kmColRestore2)
  | .caps => (kmRowCapslock, kmColCapslock)
  | .col4080 => (kmRow4080Column, kmCol4080Column)

def KmEnv.keyarr (env : KmEnv) (row : Nat) : U32 :=
  (List.range 8).foldl
    (fun bits (col : Nat) =>
      if env.matrix ((row : Int), (col : Int)) then bits ||| 1#32 <<< col else bits) 0

theorem getLsbD_keyarr (env : KmEnv) (row : Nat) {i : Nat} (inside : i < 32) :
    (env.keyarr row).getLsbD i = (decide (i < 8) && env.matrix (row, i)) :=
  getLsbD_foldBits (fun col : Nat => env.matrix (row, col)) 8 inside

theorem getLsbD_keyarr_col (env : KmEnv) (row : Nat) {col : Nat} (inside : col < 8) :
    (env.keyarr row).getLsbD col = env.matrix (row, col) := by
  rw [getLsbD_keyarr env row (Nat.lt_trans inside (by decide)), decide_eq_true inside,
    Bool.true_and]

def KmEnv.host (env : KmEnv) (now cyclesPerFrame : U64) : KmHost where
  getKeyarr := env.keyarr
  customKeyGet key := env.matrix key.cell
  now := now
  cyclesPerFrame := cyclesPerFrame

@[simp] theorem host_now (env : KmEnv) (now cyclesPerFrame : U64) :
    (env.host now cyclesPerFrame).now = now := rfl

@[simp] theorem host_cyclesPerFrame (env : KmEnv) (now cyclesPerFrame : U64) :
    (env.host now cyclesPerFrame).cyclesPerFrame = cyclesPerFrame := rfl

structure KmSys where
  km : KmCore
  env : KmEnv

def kmSysInit : KmSys := ⟨kmCoreInit, ⟨fun _ => false, none⟩⟩

inductive KmOp
  | tap (args : Option CString)
  | press (args : Option CString)
  | release (args : Option CString)
  | poke (args : Option CString)
  | show
  | names
  | paRead (rowScanMask : U8)
  | pbRead (colScanMask : U8)
  | binmonSet (body : List U8)
  | binmonTap (body : List U8)
  | binmonGet (buf : GetBuffer)
  | onAlarm

def KmOp.perform (host : KmHost) (km : KmCore) : KmOp → KmCore × List HostCall
  | .tap args => kmCoreTap host args km
  | .press args => kmCorePress host args km
  | .release args => kmCoreRelease host args km
  | .poke args => kmCorePoke args km
  | .show => kmCoreShow host km
  | .names => kmCoreNames km
  | .paRead mask => kmCoreCia1PaRead host mask km
  | .pbRead mask => kmCoreCia1PbRead host mask km
  | .binmonSet body => (kmCoreBinmonSet km body).2
  | .binmonTap body => (kmCoreBinmonTap host km body).2
  | .binmonGet _ => (km, [])
  | .onAlarm => kmCoreOnAlarm host km

structure KmTick where
  now : U64
  cyclesPerFrame : U64
  op : KmOp

def kmStep (sys : KmSys) (tick : KmTick) : KmSys × List HostCall :=
  let done := tick.op.perform (sys.env.host tick.now tick.cyclesPerFrame) sys.km
  (⟨done.1, sys.env.run done.2⟩, done.2)

/-- The alarm callback runs only while the alarm is armed. -/
def kmMachine : Machine KmSys KmTick HostCall where
  step := kmStep
  enabled sys tick := tick.op = .onAlarm → sys.env.alarm.isSome

def kmRun (ticks : List KmTick) : KmSys := kmMachine.exec kmSysInit ticks

def KmLegal (ticks : List KmTick) : Prop := kmMachine.Legal kmSysInit ticks

theorem kmRun_append (first later : List KmTick) :
    kmRun (first ++ later) = kmMachine.exec (kmRun first) later :=
  kmMachine.exec_append _ _ _

@[simp] theorem kmRun_snoc (ticks : List KmTick) (tick : KmTick) :
    kmRun (ticks ++ [tick]) = (kmStep (kmRun ticks) tick).1 := kmMachine.exec_snoc _ _ _

end Revice.Keymatrix

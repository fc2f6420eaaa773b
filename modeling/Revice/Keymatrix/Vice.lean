/- Module: Revice/Keymatrix/Vice
   source: libs/keymatrix/vice/mon_keymatrix.c, libs/keymatrix/include/revice_keymatrix.h
   digest: What the adapter uses of the emulator: the keyboard and the alarms, with their laws. -/

import Revice.Keymatrix.System

set_option autoImplicit false
set_option relaxedAutoImplicit false

namespace Revice.Keymatrix

open Revice.General

/-- What can be seen of the emulator: the places of the keyboard that are down, and the alarms of
the main processor with the time that each of them is pending for. -/
structure ViceState (α : Type) where
  matrix : Int × Int → Bool
  alarms : List α
  pending : α → Option U64

/-- One alarm changes, and nothing else. -/
structure ViceState.Sets {α : Type} (before after : ViceState α) (alarm : α) (clk : Option U64) :
    Prop where
  matrix : after.matrix = before.matrix
  alarms : after.alarms = before.alarms
  here : after.pending alarm = clk
  others : ∀ other, other ≠ alarm → after.pending other = before.pending other

/-- The functions of the emulator that the adapter calls, and what it relies on. A place that is
no key of the machine is taken as one more place that can be set. -/
class Vice (ε : Type) (α : outParam Type) where
  keyboardSetKeyarrAny (row col : Int) (value : Bool) (e : ε) : ε
  keyboardClearKeymatrix (e : ε) : ε
  keyarr (e : ε) (row : Nat) : U32
  keyboardCustomKeyGet (e : ε) (id : KmCustom) : Bool
  alarmNew (e : ε) : α × ε
  alarmSet (alarm : α) (clk : U64) (e : ε) : ε
  alarmUnset (alarm : α) (e : ε) : ε
  state (e : ε) : ViceState α
  keyarr_bit : ∀ e (row col : Nat), col < 8 →
    (keyarr e row).getLsbD col = (state e).matrix (row, col)
  customKeyGet_cell : ∀ e key, keyboardCustomKeyGet e key = (state e).matrix key.cell
  setKeyarrAny_state : ∀ e row col value, state (keyboardSetKeyarrAny row col value e) =
    { state e with matrix := Function.update (state e).matrix (row, col) value }
  clearKeymatrix_state : ∀ e, state (keyboardClearKeymatrix e) =
    { state e with matrix := fun cell => if 0 ≤ cell.1 then false else (state e).matrix cell }
  alarmNew_state : ∀ e, state (alarmNew e).2 =
    { state e with alarms := (state e).alarms ++ [(alarmNew e).1] }
  alarmNew_fresh : ∀ e, (alarmNew e).1 ∉ (state e).alarms
  alarmSet_sets : ∀ e, ∀ alarm ∈ (state e).alarms, ∀ clk,
    (state e).Sets (state (alarmSet alarm clk e)) alarm (some clk)
  alarmUnset_sets : ∀ e, ∀ alarm ∈ (state e).alarms,
    (state e).Sets (state (alarmUnset alarm e)) alarm none
  unknown_idle : ∀ e, ∀ alarm ∉ (state e).alarms, (state e).pending alarm = none

/-- An emulator that keeps no more than that. -/
structure Bench where
  matrix : Int × Int → Bool
  alarms : List (Option U64)

namespace Bench

def blank : Bench := ⟨fun _ => false, []⟩

def state (b : Bench) : ViceState Nat where
  matrix := b.matrix
  alarms := List.range b.alarms.length
  pending alarm := b.alarms.getD alarm none

private theorem set_sets (b : Bench) {alarm : Nat} (known : alarm ∈ b.state.alarms)
    (clk : Option U64) :
    b.state.Sets (state { b with alarms := b.alarms.set alarm clk }) alarm clk := by
  have inside : alarm < b.alarms.length := List.mem_range.mp known
  refine ⟨rfl, ?_, ?_, ?_⟩
  · simp only [state, List.length_set]
  · simp only [state, List.getD_eq_getElem?_getD, List.getElem?_set_self inside,
      Option.getD_some]
  · intro other apart
    simp only [state, List.getD_eq_getElem?_getD, List.getElem?_set_ne (Ne.symm apart)]

private theorem new_state (b : Bench) : state { b with alarms := b.alarms ++ [none] } =
    { b.state with alarms := b.state.alarms ++ [b.alarms.length] } := by
  have pending (alarm : Nat) : (b.alarms ++ [none]).getD alarm none = b.alarms.getD alarm none := by
    rw [List.getD_eq_getElem?_getD, List.getD_eq_getElem?_getD, List.getElem?_append]
    split_ifs with inside
    · rfl
    · rw [List.getElem?_eq_none (Nat.le_of_not_lt inside), List.getElem?_singleton]
      split_ifs <;> rfl
  simp only [state, pending, List.length_append, List.length_singleton, List.range_succ]

instance : Vice Bench Nat where
  keyboardSetKeyarrAny row col value b :=
    { b with matrix := Function.update b.matrix (row, col) value }
  keyboardClearKeymatrix b :=
    { b with matrix := fun cell => if 0 ≤ cell.1 then false else b.matrix cell }
  keyarr b row := KmEnv.keyarr ⟨b.matrix, none⟩ row
  keyboardCustomKeyGet b key := b.matrix key.cell
  alarmNew b := (b.alarms.length, { b with alarms := b.alarms ++ [none] })
  alarmSet alarm clk b := { b with alarms := b.alarms.set alarm (some clk) }
  alarmUnset alarm b := { b with alarms := b.alarms.set alarm none }
  state := state
  keyarr_bit b row _ inside := getLsbD_keyarr_col ⟨b.matrix, none⟩ row inside
  customKeyGet_cell _ _ := rfl
  setKeyarrAny_state _ _ _ _ := rfl
  clearKeymatrix_state _ := rfl
  alarmNew_state := new_state
  alarmNew_fresh _ := List.not_mem_range_self
  alarmSet_sets b _ known clk := b.set_sets known (some clk)
  alarmUnset_sets b _ known := b.set_sets known none
  unknown_idle b alarm unknown := by
    rw [state, List.mem_range, Nat.not_lt] at unknown
    exact List.getD_eq_default _ none unknown

end Bench

end Revice.Keymatrix

/- Module: Revice/Screen/Render
   source: libs/screen/src/screen_core.c
   digest: Rendering a response as text, with every byte read and every string emitted. -/

import Revice.General.Log
import Revice.General.Print
import Revice.Screen.Core

set_option autoImplicit false
set_option relaxedAutoImplicit false

namespace Revice.Screen

open Revice.General

/-- What rendering does: reading the buffer at an index, and calling the emit callback. -/
inductive RenderEvent
  | read (index : Nat)
  | emit (text : Text)
  deriving DecidableEq

def screenScreencodeToAscii (sc : U8) : U8 :=
  let sc := sc &&& 0x7f#8
  if sc = 0x00#8 then chr '@'
  else if sc ≤ 0x1a#8 then chr 'A' + sc - 1
  else if sc = 0x1b#8 then chr '['
  else if sc = 0x1c#8 then chr '\\'
  else if sc = 0x1d#8 then chr ']'
  else if sc = 0x1e#8 then chr '^'
  else if sc = 0x1f#8 then chr '_'
  else if sc ≥ 0x20#8 ∧ sc ≤ 0x3f#8 then sc
  else chr '.'

def vicModeName (m : U8) : Text :=
  match m.toNat with
  | 0 => str "normal-text"
  | 1 => str "multicolor-text"
  | 2 => str "hires-bitmap"
  | 3 => str "multicolor-bitmap"
  | 4 => str "extended-text"
  | 5 => str "illegal-text"
  | 6 => str "illegal-bitmap-1"
  | 7 => str "illegal-bitmap-2"
  | _ => str "?"

def charsetKindName (k : U8) : Text :=
  if k = screenCharsetRomUpperGfx then str "ROM upper/graphics"
  else if k = screenCharsetRomUpperLower then str "ROM upper/lowercase"
  else if k = screenCharsetRam then str "custom (RAM)"
  else str "?"

def readByte (buf : List U8) (i : Nat) : Logged RenderEvent U8 := do
  note (.read i)
  return buf.getD i 0

/-- Formats into a local buffer of 256 bytes and emits what is in it. -/
def eOutf (text : Text) : Logged RenderEvent Unit := note (.emit (cBuffer 256 text))

def showStateHeader (hdr : List U8) : Logged RenderEvent Unit := do
  let screenAddr : U16 := (← readByte hdr 14).setWidth 16 ||| (← readByte hdr 15).setWidth 16 <<< 8
  let charsetAddr : U16 := (← readByte hdr 16).setWidth 16 ||| (← readByte hdr 17).setWidth 16 <<< 8
  let bitmapAddr : U16 := (← readByte hdr 18).setWidth 16 ||| (← readByte hdr 19).setWidth 16 <<< 8
  let payloadLen : U32 := (← readByte hdr 20).setWidth 32 |||
    (← readByte hdr 21).setWidth 32 <<< 8 ||| (← readByte hdr 22).setWidth 32 <<< 16 |||
    (← readByte hdr 23).setWidth 32 <<< 24
  eOutf (str "screen: vic_mode=" ++ vicModeName (← readByte hdr 0) ++
    str " rows=" ++ decimalNat (← readByte hdr 1).toNat ++
    str " cols=" ++ decimalNat (← readByte hdr 2).toNat ++
    str " vic_bank=" ++ decimalNat (← readByte hdr 4).toNat ++ str "\n")
  eOutf (str "        screen=$" ++ zeroPad 4 (hexNat screenAddr.toNat) ++
    str " charset=$" ++ zeroPad 4 (hexNat charsetAddr.toNat) ++
    str " bitmap=$" ++ zeroPad 4 (hexNat bitmapAddr.toNat) ++ str "\n")
  eOutf (str "        charset_kind=" ++ charsetKindName (← readByte hdr 3) ++
    str "   payload_bytes=" ++ decimalNat payloadLen.toNat ++ str "\n")
  eOutf (str "        D011=$" ++ zeroPad 2 (hexNat (← readByte hdr 10).toNat) ++
    str " D016=$" ++ zeroPad 2 (hexNat (← readByte hdr 11).toNat) ++
    str " D018=$" ++ zeroPad 2 (hexNat (← readByte hdr 12).toNat) ++ str "\n")
  eOutf (str "        border=" ++ decimalNat (← readByte hdr 5).toNat ++
    str " bg0=" ++ decimalNat (← readByte hdr 6).toNat ++
    str " bg1=" ++ decimalNat (← readByte hdr 7).toNat ++
    str " bg2=" ++ decimalNat (← readByte hdr 8).toNat ++
    str " bg3=" ++ decimalNat (← readByte hdr 9).toNat ++ str "\n")

/-- The branch of `screen_render` for raw output; the cells start behind the header. -/
def renderRaw (buf : List U8) (rows cols : Nat) : Logged RenderEvent Unit := do
  eOutf (str "\nscreen RAM hex (first " ++ decimalNat (rows * cols) ++ str " bytes):\n")
  (List.range (rows * cols)).forM fun r => do
    if r % 16 = 0 then
      eOutf (str "\n  +" ++ zeroPad 3 (hexNat r) ++ str ":")
    eOutf (str " " ++ zeroPad 2 (hexNat (← readByte buf (screenHeaderBytes + r)).toNat))
  eOutf (str "\n")

def renderGrid (buf : List U8) (rows cols : Nat) : Logged RenderEvent Unit := do
  eOutf (str "\n        +")
  (List.range cols).forM fun _ => eOutf (str "-")
  eOutf (str "+\n")
  (List.range rows).forM fun r => do
    eOutf (str "  r" ++ zeroPad 2 (decimalNat r) ++ str ":  |")
    (List.range cols).forM fun c => do
      eOutf [screenScreencodeToAscii (← readByte buf (screenHeaderBytes + (r * cols + c)))]
    eOutf (str "|\n")
  eOutf (str "        +")
  (List.range cols).forM fun _ => eOutf (str "-")
  eOutf (str "+\n")
  eOutf (str "(approximate ASCII; '.' = unmappable. Use 'screen raw' for hex.)\n")

def screenRender (buf : Option (List U8)) (len : U32) (raw : Bool) : Logged RenderEvent Unit :=
  match buf with
  | none => eOutf (str "screen: response too short (" ++ decimalNat len.toNat ++ str " bytes)\n")
  | some bytes =>
    if len.toNat < screenHeaderBytes then
      eOutf (str "screen: response too short (" ++ decimalNat len.toNat ++ str " bytes)\n")
    else do
      showStateHeader bytes
      let rows := (← readByte bytes 1).toNat
      let cols := (← readByte bytes 2).toNat
      -- two bytes multiply far below the range of `int`
      if rows ≤ 0 ∨ cols ≤ 0 ∨ BitVec.ofNat 32 (screenHeaderBytes + rows * cols) > len then
        eOutf (str "screen: header reports rows=" ++ decimalNat rows ++ str " cols=" ++
          decimalNat cols ++ str " which doesn't fit in " ++ decimalNat len.toNat ++
          str "-byte response\n")
      else if raw then renderRaw bytes rows cols
      else renderGrid bytes rows cols

end Revice.Screen

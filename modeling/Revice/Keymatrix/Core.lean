/- Module: Revice/Keymatrix/Core
   source: libs/keymatrix/src/keymatrix_core.c, libs/keymatrix/include/revice_keymatrix.h
   digest: The injection core: tap, press, release, observation, and the binary monitor. -/

import Revice.Keymatrix.Key

set_option autoImplicit false
set_option relaxedAutoImplicit false

namespace Revice.Keymatrix

open Revice.General

def kmDefaultTimeoutFrames : Int := 60
def kmBinmonGetResponseSize : Nat := 24

inductive KmReleaseReason
  | none
  | observed
  | timeout
  | manual
  deriving DecidableEq

def KmReleaseReason.code : KmReleaseReason → U8
  | .none => 0
  | .observed => 1
  | .timeout => 2
  | .manual => 3

inductive KmMode
  | idle
  | tapObserved
  | tapFixed
  | pressSticky
  deriving DecidableEq

inductive KmCustom
  | restore1
  | restore2
  | caps
  | col4080
  deriving DecidableEq

structure KmHost where
  getKeyarr : Nat → U32
  customKeyGet : KmCustom → Bool
  now : U64
  /-- A C `long`; not positive if unknown. -/
  cyclesPerFrame : BitVec 64

inductive HostCall
  | setKeyarrAny (row col : Int) (value : Bool)
  | clearKeymatrix
  | setAlarm (clk : U64)
  | cancelAlarm
  | emit (text : Text)
  deriving DecidableEq

structure KmLast where
  valid : Bool
  keys : List KmKey
  cia1ReadsTotal : U32
  cia1ReadsSampling : U32
  reason : KmReleaseReason
  mode : KmMode
  framesHeld : U16
  deriving DecidableEq

/-- The tracked keys are the used part of the key array; nothing reads the rest. -/
structure KmCore where
  active : Bool
  mode : KmMode
  keys : List KmKey
  cia1ReadsTotal : U32
  cia1ReadsSampling : U32
  timeoutClk : U64
  lastReason : KmReleaseReason
  pressClk : U64
  last : KmLast
  deriving DecidableEq

def kmCoreInit : KmCore where
  active := false
  mode := .idle
  keys := []
  cia1ReadsTotal := 0
  cia1ReadsSampling := 0
  timeoutClk := 0
  lastReason := .none
  pressClk := 0
  last := ⟨false, [], 0, 0, .none, .idle, 0⟩

/-- A formatted chunk of monitor text, cut to the format buffer. -/
def kmOutf (text : Text) : HostCall := .emit (text.take 511)

def kmApplyBits (keys : List KmKey) (value : Bool) : List HostCall :=
  keys.map fun key => .setKeyarrAny key.row key.col value

def kmReasonStr : KmReleaseReason → Text
  | .observed => str "observed"
  | .timeout => str "timeout"
  | .manual => str "manual"
  | .none => str "none"

def kmModeStr : KmMode → Text
  | .tapObserved => str "tap-observed"
  | .tapFixed => str "tap-fixed"
  | .pressSticky => str "press"
  | .idle => str "idle"

def clampFrames (f : U64) : U16 := if f > 65535#64 then 65535#16 else f.setWidth 16

/-- The whole frames since the press; zero if they cannot be told. -/
def framesHeld (host : KmHost) (pressClk : U64) : U16 :=
  if host.cyclesPerFrame.toInt > 0 && pressClk ≤ host.now then
    clampFrames ((host.now - pressClk) / host.cyclesPerFrame)
  else 0

/-- The report of the active injection if it ends now; a pending reason wins. -/
def endReport (host : KmHost) (reason : KmReleaseReason) (km : KmCore) : KmLast where
  valid := true
  keys := km.keys
  cia1ReadsTotal := km.cia1ReadsTotal
  cia1ReadsSampling := km.cia1ReadsSampling
  reason := if km.lastReason ≠ .none then km.lastReason else reason
  mode := km.mode
  framesHeld := framesHeld host km.pressClk

def kmReleaseNow (host : KmHost) (reason : KmReleaseReason) (km : KmCore) :
    KmCore × List HostCall :=
  if km.active then
    ({ km with
        last := endReport host reason km
        active := false
        keys := []
        mode := .idle
        cia1ReadsTotal := 0
        cia1ReadsSampling := 0
        lastReason := .none },
      kmApplyBits km.keys false ++ [.cancelAlarm])
  else (km, [])

def kmCoreOnAlarm (host : KmHost) (km : KmCore) : KmCore × List HostCall :=
  kmReleaseNow host (if km.lastReason ≠ .none then km.lastReason else .timeout) km

def kmSupersedeActive (host : KmHost) (km : KmCore) : KmCore × List HostCall :=
  if km.active then kmReleaseNow host .manual km else (km, [])

/-- The frame length, with PAL as the fallback. -/
def kmCpfOrPal (host : KmHost) : BitVec 64 :=
  if host.cyclesPerFrame.toInt ≤ 0 then 19656#64 else host.cyclesPerFrame

/-- What tap, press and the binary tap share: end the active injection, press the
new keys, reset the counters; a frame count arms the release alarm. -/
def kmStart (host : KmHost) (mode : KmMode) (keys : List KmKey) (frames : Option Int)
    (km : KmCore) : KmCore × List HostCall :=
  let superseded := kmSupersedeActive host km
  let km :=
    { superseded.1 with
      keys := keys
      mode := mode
      cia1ReadsTotal := 0
      cia1ReadsSampling := 0
      lastReason := .none
      active := true
      pressClk := host.now }
  let calls := superseded.2 ++ kmApplyBits keys true
  match frames with
  | none => (km, calls)
  | some frames =>
    let timeoutClk := host.now + BitVec.ofInt 64 frames * kmCpfOrPal host
    ({ km with timeoutClk := timeoutClk }, calls ++ [.setAlarm timeoutClk])

/-- Absent and empty arguments are the same. -/
def givenArgs (args : Option CString) : Option CString :=
  args.filter fun args => args.bytes ≠ []

def parseArgs (args : CString) : Except Text (List KmKey × Int) :=
  match kmCopyArgs args 256 with
  | none => .error (str "error: argument too long\n")
  | some buf => parseKeyList buf kmMaxKeys

def plural (n : Int) : Text := if n = 1 then [] else str "s"

def noKeys : Text := str "error: no keys specified\n"

def tapFrames (forFrames : Int) : KmMode × Int :=
  if forFrames > 0 then (.tapFixed, forFrames) else (.tapObserved, kmDefaultTimeoutFrames)

def kmCoreTap (host : KmHost) (args : Option CString) (km : KmCore) : KmCore × List HostCall :=
  match givenArgs args with
  | none => (km, [kmOutf (str "usage: keymatrix tap <key> [<key> ...] [for <frames>]\n")])
  | some args =>
    match parseArgs args with
    | .error text => (km, [kmOutf text])
    | .ok (keys, forFrames) =>
      if keys = [] then (km, [kmOutf noKeys])
      else
        let (mode, frames) := tapFrames forFrames
        let started := kmStart host mode keys (some frames) km
        (started.1, started.2 ++
          [kmOutf (str "keymatrix: tap " ++ decimal keys.length ++ str " key" ++
            plural keys.length ++ str ", mode=" ++ kmModeStr mode ++ str ", max " ++
            decimal frames ++ str " frame" ++ plural frames ++ str "\n")])

def kmCorePress (host : KmHost) (args : Option CString) (km : KmCore) :
    KmCore × List HostCall :=
  match givenArgs args with
  | none => (km, [kmOutf (str "usage: keymatrix press <key> [<key> ...]\n")])
  | some args =>
    match parseArgs args with
    | .error text => (km, [kmOutf text])
    | .ok (keys, forFrames) =>
      let note := if forFrames > 0
        then [kmOutf (str "note: 'for <frames>' has no effect on press; use 'tap' for that\n")]
        else []
      if keys = [] then (km, note ++ [kmOutf noKeys])
      else
        let started := kmStart host .pressSticky keys none km
        (started.1, note ++ started.2 ++
          [kmOutf (str "keymatrix: pressed " ++ decimal keys.length ++ str " key" ++
            plural keys.length ++ str " (sticky; clear with 'keymatrix release')\n")])

def survivingKeys (tracked listed : List KmKey) : List KmKey :=
  tracked.filter fun key => !listed.any fun other => key.row = other.row && key.col = other.col

/-- The release of listed keys; it ends the injection when none survives. -/
def kmReleaseListed (host : KmHost) (listed : List KmKey) (km : KmCore) :
    KmCore × List HostCall :=
  let cleared := kmApplyBits listed false
  if km.active then
    let km := { km with keys := survivingKeys km.keys listed }
    if km.keys = [] then
      let released := kmReleaseNow host .manual km
      (released.1, cleared ++ released.2)
    else (km, cleared)
  else (km, cleared)

def kmCoreRelease (host : KmHost) (args : Option CString) (km : KmCore) :
    KmCore × List HostCall :=
  match givenArgs args with
  | none =>
    let released := if km.active then kmReleaseNow host .manual km else (km, [])
    (released.1, released.2 ++
      [.clearKeymatrix, kmOutf (str "keymatrix: released all keys\n")])
  | some args =>
    match parseArgs args with
    | .error text => (km, [kmOutf text])
    | .ok (keys, _) =>
      if keys = [] then (km, [kmOutf noKeys])
      else
        let released := kmReleaseListed host keys km
        (released.1, released.2 ++
          [kmOutf (str "keymatrix: released " ++ decimal keys.length ++ str " key" ++
            plural keys.length ++ str "\n")])

def pokeUsage : Text := str "usage: keymatrix poke <row> <col> <0|1>\n"

def kmTokNumber (saveptr : Text) : Option (Int × Text) :=
  match kmTok saveptr with
  | none => none
  | some (tok, saveptr) =>
    let (value, rest) := strtol tok 0
    if rest ≠ [] then none else some (value, saveptr)

def pokeOperands (buf : Text) : Option (Int × Int × Int) :=
  match kmTokNumber buf with
  | none => none
  | some (row, saveptr) =>
    match kmTokNumber saveptr with
    | none => none
    | some (col, saveptr) =>
      match kmTokNumber saveptr with
      | none => none
      | some (value, _) => if value ≠ 0 && value ≠ 1 then none else some (row, col, value)

def kmCorePoke (args : Option CString) (km : KmCore) : KmCore × List HostCall :=
  match givenArgs args with
  | none => (km, [kmOutf pokeUsage])
  | some args =>
    match kmCopyArgs args 256 with
    | none => (km, [kmOutf (str "error: argument too long\n")])
    | some buf =>
      match pokeOperands buf with
      | none => (km, [kmOutf pokeUsage])
      | some (row, col, value) =>
        if col < 0 || col > 7 || row < -8 || row > 15 then
          (km, [kmOutf (str "error: row must be -8..15, col must be 0..7\n")])
        else
          (km, [.setKeyarrAny row col (value = 1),
            kmOutf (str "keymatrix: poked (" ++ decimal row ++ str "," ++ decimal col ++
              str ") <- " ++ decimal value ++ str "\n")])

def showKeys (keys : List KmKey) : List HostCall :=
  keys.map fun key =>
    kmOutf (str "  " ++ key.name ++ str " (" ++ decimal key.row ++ str "," ++
      decimal key.col ++ str ")\n")

def showReads (total sampling : U32) : HostCall :=
  kmOutf (str "  cia1 reads: " ++ decimal total.toNat ++ str " total, " ++
    decimal sampling.toNat ++ str " sampled injected bits\n")

def onOff (on : Bool) : Text := if on then str "on" else str "off"

def showRow (host : KmHost) (r : Nat) : List HostCall :=
  kmOutf (str "  r" ++ decimal r ++ str ":  ") ::
    (List.range 8).map (fun c =>
      kmOutf (if (host.getKeyarr r).getLsbD c then str "* " else str ". ")) ++
    [kmOutf (str "\n")]

def kmCoreShow (host : KmHost) (km : KmCore) : KmCore × List HostCall :=
  (km,
    [kmOutf (str "keymatrix: live keyarr (rows down, cols right):\n"),
      kmOutf (str "       ")] ++
    (List.range 8).map (fun c => kmOutf (decimal c ++ str " ")) ++ [kmOutf (str "\n")] ++
    (List.range 8).flatMap (showRow host) ++
    [kmOutf (str "  RESTORE: " ++ onOff (host.customKeyGet .restore1) ++
      str "   CAPSLOCK: " ++ onOff (host.customKeyGet .caps) ++
      str "   4080: " ++ onOff (host.customKeyGet .col4080) ++ str "\n")] ++
    (if km.active then
      kmOutf (str "\nactive injection: " ++ kmModeStr km.mode ++ str ", " ++
        decimal km.keys.length ++ str " key" ++ plural km.keys.length ++ str "\n") ::
      showKeys km.keys ++ [showReads km.cia1ReadsTotal km.cia1ReadsSampling]
    else [kmOutf (str "\nno active injection\n")]) ++
    (if km.last.valid then
      kmOutf (str "\nlast tap: " ++ decimal km.last.keys.length ++ str " key" ++
        plural km.last.keys.length ++ str " (" ++ kmModeStr km.last.mode ++ str ")\n") ::
      showKeys km.last.keys ++
      [kmOutf (str "  released after " ++ decimal km.last.framesHeld.toNat ++ str " frame" ++
        plural km.last.framesHeld.toNat ++ str "; reason: " ++ kmReasonStr km.last.reason ++
        str "\n"),
        showReads km.last.cia1ReadsTotal km.last.cia1ReadsSampling]
    else []))

/-- The name table, five to a line; `col` counts the names of the current line. -/
def showNames : Nat → List KmxKeydef → List HostCall
  | col, [] => if col ≠ 0 then [kmOutf (str "\n")] else []
  | col, entry :: entries =>
    let name := str entry.name
    kmOutf (name ++ List.replicate (12 - name.length) (chr ' ')) ::
      if col + 1 = 5 then kmOutf (str "\n  ") :: showNames 0 entries
      else showNames (col + 1) entries

def kmCoreNames (km : KmCore) : KmCore × List HostCall :=
  (km, kmOutf (str "keymatrix: known C64 key names (case-insensitive):\n  ") ::
    showNames 0 c64Keys ++
    [kmOutf (str "\n  Use 'keymatrix poke <row> <col> <0|1>' for raw matrix bits.\n"),
      kmOutf (str "  Combine names for chords, e.g. 'keymatrix tap lshift a'.\n")])

/-- The first sampling read of an observed tap moves the release to the next cycle. -/
def kmObserve (host : KmHost) (sampled : Bool) (km : KmCore) : KmCore × List HostCall :=
  if sampled then
    let km := { km with cia1ReadsSampling := km.cia1ReadsSampling + 1 }
    if km.mode = .tapObserved ∧ km.lastReason = .none then
      ({ km with lastReason := .observed }, [.setAlarm (host.now + 1)])
    else (km, [])
  else (km, [])

/-- A bit of the scan mask is driven low at one of the given coordinates of a matrix key. -/
def scanSamples (coord : KmKey → Int) (keys : List KmKey) (mask : U8) : Bool :=
  keys.any fun key =>
    key.kind = .matrix && !(coord key < 0 || coord key > 7) && !mask.getLsbD (coord key).toNat

/-- What both read hooks do; they differ in the coordinate the mask is tested at. -/
def kmScan (coord : KmKey → Int) (host : KmHost) (mask : U8) (km : KmCore) :
    KmCore × List HostCall :=
  if km.active then
    kmObserve host (scanSamples coord km.keys mask)
      { km with cia1ReadsTotal := km.cia1ReadsTotal + 1 }
  else (km, [])

def kmCoreCia1PaRead (host : KmHost) (rowScanMask : U8) (km : KmCore) : KmCore × List HostCall :=
  kmScan KmKey.row host rowScanMask km

def kmCoreCia1PbRead (host : KmHost) (colScanMask : U8) (km : KmCore) : KmCore × List HostCall :=
  kmScan KmKey.col host colScanMask km

/-- The triples of a SET body; `none` is a malformed body. -/
def setTriples (body : List U8) : Option (List (Int × Int × Bool)) :=
  let count := (body.getD 0 0).toNat
  if body.length < 1 then none
  else if body.length < 1 + count * 3 then none
  else some ((List.range count).map fun i =>
    ((body.getD (1 + i * 3) 0).toInt, (body.getD (1 + i * 3 + 1) 0).toInt,
      body.getD (1 + i * 3 + 2) 0 ≠ 0))

/-- The return code and the effect of a binary-monitor request. -/
def kmCoreBinmonSet (km : KmCore) (body : List U8) : Int × KmCore × List HostCall :=
  match setTriples body with
  | none => (-1, km, [])
  | some triples => (0, km, triples.map fun (row, col, value) => .setKeyarrAny row col value)

def pairKey (row col : U8) : KmKey where
  row := row.toInt
  col := col.toInt
  kind := if row.toInt < 0 then .custom else .matrix
  name := keyName (decimal row.toInt ++ chr ',' :: decimal col.toInt)

def tapBody (body : List U8) : Option (KmMode × Int × List KmKey) :=
  let frames : Nat := (body.getD 1 0).toNat + (body.getD 2 0).toNat * 256
  let count := (body.getD 3 0).toNat
  if body.length < 4 then none
  else if body.length < 4 + count * 2 then none
  else if count = 0 || count > kmMaxKeys then none
  else some (if body.getD 0 0 = 1#8 then .tapFixed else .tapObserved,
    if frames > 0 then frames else kmDefaultTimeoutFrames,
    (List.range count).map fun i => pairKey (body.getD (4 + i * 2) 0) (body.getD (4 + i * 2 + 1) 0))

def kmCoreBinmonTap (host : KmHost) (km : KmCore) (body : List U8) :
    Int × KmCore × List HostCall :=
  match tapBody body with
  | none => (-1, km, [])
  | some (mode, frames, keys) => (0, kmStart host mode keys (some frames) km)

def customBits (host : KmHost) : U8 :=
  (if host.customKeyGet .restore1 then 1#8 <<< 0 else 0) |||
  (if host.customKeyGet .restore2 then 1#8 <<< 1 else 0) |||
  (if host.customKeyGet .caps then 1#8 <<< 2 else 0) |||
  (if host.customKeyGet .col4080 then 1#8 <<< 3 else 0)

def getReport (km : KmCore) : List U8 :=
  if km.active then
    leBytes 4 km.cia1ReadsTotal ++ leBytes 4 km.cia1ReadsSampling ++
      [km.lastReason.code, BitVec.ofNat 8 km.keys.length]
  else if km.last.valid then
    leBytes 4 km.last.cia1ReadsTotal ++ leBytes 4 km.last.cia1ReadsSampling ++
      [km.last.reason.code, BitVec.ofNat 8 km.last.keys.length]
  else leBytes 4 (0 : U32) ++ leBytes 4 (0 : U32) ++ [0, 0]

def framesLeft (host : KmHost) (km : KmCore) : U16 :=
  if km.active && host.now < km.timeoutClk then
    if host.cyclesPerFrame.toInt > 0 then
      clampFrames ((km.timeoutClk - host.now) / host.cyclesPerFrame)
    else 0
  else 0

def getResponse (host : KmHost) (km : KmCore) : List U8 :=
  (List.range 8).map (fun i => (host.getKeyarr i &&& 0xff#32).setWidth 8) ++
    [customBits host, 0, 0, 0] ++ getReport km ++ leBytes 2 (framesLeft host km)

/-- The caller's response buffer and length; `none` is a null pointer. -/
structure GetBuffer where
  out : Option (List U8)
  outLength : Option U32
  deriving DecidableEq

def kmCoreBinmonGet (host : KmHost) (km : KmCore) (buf : GetBuffer) : Int × GetBuffer :=
  match buf.out, buf.outLength with
  | some out, some outLength =>
    if outLength.toNat < kmBinmonGetResponseSize then (-1, buf)
    else (0, ⟨some (getResponse host km ++ out.drop kmBinmonGetResponseSize),
      some (BitVec.ofNat 32 kmBinmonGetResponseSize)⟩)
  | _, _ => (-1, buf)

end Revice.Keymatrix

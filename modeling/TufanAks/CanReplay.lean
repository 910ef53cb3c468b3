import TufanAks.CanParse
import TufanAks.Machine.Run
import TufanAks.Text.Scan

/-!
# `can_replay.cpp`

The offline tool that reads the log of a CAN sniffer, gives its frames to the parsers of `CanParse`
and checks what they read.  Text is a list of characters, one for each byte.  What `main` prints is
left out, and so are its two other exit codes, for a missing argument and for a log that cannot be
opened.
-/

namespace TufanAks.CanReplay

open Text

abbrev TWAI_FRAME_MAX_DLC : ℕ := 8

/-- `struct Frame`. -/
structure Frame where
  isExt : Bool
  id : UInt32
  msg : twai_message_t
  lineNo : ℕ
  deriving DecidableEq

/-- `struct Stats`; the keys of the map and of the set are those of `idKey`. -/
structure Stats where
  total : ℕ := 0
  countsById : List Char → ℕ := fun _ => 0
  unknownIds : List (List Char) := []
  /-- The first twenty violations, for the report. -/
  violations : List String := []
  violationCount : ℕ := 0

def Stats.addViolation (v : String) (st : Stats) : Stats :=
  { st with
    violationCount := st.violationCount + 1
    violations := if st.violations.length < 20 then st.violations ++ [v] else st.violations }

/-! ### Constants of the idle session -/

def kExpectedPackVDeciV : UInt16 := 790
def kExpectedChargerVsetDeciV : UInt16 := 880
def kExpectedChargerIsetDeciA : UInt16 := 1000

/-- The known identifiers; the tool reads only the second set, `processExtFrame` has a branch for
each element of the first. -/
def kKnownExtIds : List UInt32 :=
  [0x0000E000, 0x0000E001, 0x0000E002, 0x0000E003, 0x0000E004, 0x0000E005, 0x0000E032, 0x0000E033,
    0x1806E5F4]

def kKnownStdIds : List UInt32 := [0x000]

/-! ### Lines -/

/-- The blanks that `trim` takes off. -/
def isBlank (c : Char) : Bool := c = ' ' || c = '\t' || c = '\r' || c = '\n'

def idKey (isExt : Bool) (id : UInt32) : List Char :=
  (if isExt then "EXT".toList else "STD".toList) ++ " 0x".toList ++ fixedDigits 16 8 id.toNat

/-- The loop over the words of the fourth field. -/
def readBytes : ℕ → (Fin 8 → UInt8) → List (List Char) → Except String (ℕ × (Fin 8 → UInt8))
  | n, data, [] => .ok (n, data)
  | n, data, byteStr :: rest =>
    if h : n < TWAI_FRAME_MAX_DLC then
      readBytes (n + 1) (Function.update data ⟨n, h⟩ (strtoul 16 byteStr).toUInt8) rest
    else .error "8'den fazla veri byte'i"

def parseLine (line : List Char) (lineNo : ℕ) : Except String Frame :=
  let parts := (getlines '|' line).map (trim isBlank)
  match parts with
  | [fmt, idText, dlcText, hexText] =>
    if fmt ≠ "EXT".toList ∧ fmt ≠ "STD".toList then
      .error ("bilinmeyen frame formati: '" ++ String.ofList fmt ++ "'")
    else
      let id := (strtoul 16 idText).toUInt32
      let dlc := strtol 10 dlcText
      if dlc < 0 ∨ dlc > TWAI_FRAME_MAX_DLC then .error ("gecersiz DLC: " ++ String.ofList dlcText)
      else
        match readBytes 0 (fun _ => 0) (words hexText) with
        | .error err => .error err
        | .ok (n, data) =>
          if n ≠ dlc then
            .error ("DLC=" ++ toString dlc ++ " ama " ++ toString n ++ " hex byte var")
          else .ok
            { isExt := fmt = "EXT".toList
              id
              msg := { identifier := id, data_length_code := UInt8.ofNat dlc.toNat, data }
              lineNo }
  | _ => .error ("beklenen 4 alan (FMT|ID|DLC|HEX), bulunan " ++ toString parts.length)

/-! ### Frames -/

/-- `msg.data[i]`. -/
def byteAt (msg : twai_message_t) (i : ℕ) : UInt8 :=
  if h : i < TWAI_FRAME_MAX_DLC then msg.data ⟨i, h⟩ else 0

def processExtFrame (f : Frame) (sessionAsserts : Bool) (st : Stats) : Stats :=
  let whereText := "satir " ++ toString f.lineNo
  if f.id = 0x0000E000 then
    match CanParse.parseLbBmsE000 f.msg {} with
    | none => st.addViolation (whereText ++ ": parseLbBmsE000 false dondu (DLC<8)")
    | some out =>
      if !sessionAsserts then st
      else
        let st :=
          if out.TEL_bmsPackVoltageDeciV ≠ kExpectedPackVDeciV then
            st.addViolation (whereText ++ ": E000 packV=" ++
              toString out.TEL_bmsPackVoltageDeciV ++ " deciV, beklenen 790 (79.0 V)")
          else st
        let st :=
          if byteAt f.msg 2 ≠ 0x03 ∨ byteAt f.msg 3 ≠ 0x16 then
            st.addViolation (whereText ++ ": E000 byte[2:3] != 0x0316")
          else st
        let cur := out.TEL_bmsCurrentCentiA
        if cur ≠ -10 ∧ cur ≠ -20 then
          st.addViolation (whereText ++ ": E000 akim " ++ toString cur ++
            ", beklenen {-10,-20} centi-A (idle)")
        else st
  else if f.id = 0x1806E5F4 then
    match CanParse.parseCharger1806E5F4 f.msg with
    | none => st.addViolation (whereText ++ ": parseCharger1806E5F4 false dondu (DLC<4)")
    | some cmd =>
      if !sessionAsserts then st
      else if cmd.chargeVoltageSetpointDeciV ≠ kExpectedChargerVsetDeciV ∨
          cmd.chargeCurrentSetpointDeciA ≠ kExpectedChargerIsetDeciA then
        st.addViolation (whereText ++ ": charger setpoint Vset=" ++
          toString cmd.chargeVoltageSetpointDeciV ++ " Iset=" ++
          toString cmd.chargeCurrentSetpointDeciA ++ ", beklenen 880/1000 (88.0 V / 100.0 A)")
      else st
  -- of the other known identifiers the result of the parser is not looked at
  else if f.id = 0x0000E001 ∨ f.id = 0x0000E002 ∨ f.id = 0x0000E003 ∨ f.id = 0x0000E004 ∨
      f.id = 0x0000E005 ∨ f.id = 0x0000E032 ∨ f.id = 0x0000E033 then st
  else { st with unknownIds := st.unknownIds.insert (idKey true f.id) }

/-! ### `main` -/

/-- The variables of the loop. -/
structure Replay where
  st : Stats := {}
  lineNo : ℕ := 0
  badLines : ℕ := 0

/-- One round of the loop. -/
def replayLine (sessionAsserts : Bool) (r : Replay) (line : List Char) : Replay :=
  let lineNo := r.lineNo + 1
  let t := trim isBlank line
  if t = [] ∨ t.head? = some '#' then { r with lineNo }
  else
    match parseLine t lineNo with
    | .error err =>
      { lineNo
        badLines := r.badLines + 1
        st := r.st.addViolation
          ("satir " ++ toString lineNo ++ ": log satiri bozuk — " ++ err) }
    | .ok f =>
      let key := idKey f.isExt f.id
      let st :=
        { r.st with
          total := r.st.total + 1
          countsById := Function.update r.st.countsById key (r.st.countsById key + 1) }
      { r with
        lineNo
        st :=
          if f.isExt then processExtFrame f sessionAsserts st
          else if f.id ∉ kKnownStdIds then
            { st with unknownIds := st.unknownIds.insert (idKey false f.id) }
          else st }

/-- The loop over the lines of the log. -/
def replay (sessionAsserts : Bool) (log : List Char) : Replay :=
  Machine.exec (replayLine sessionAsserts) {} (getlines '\n' log)

/-- The exit code of a log that was read. -/
def exitCode (sessionAsserts : Bool) (log : List Char) : ℕ :=
  if (replay sessionAsserts log).st.violationCount > 0 then 1 else 0

end TufanAks.CanReplay

import TufanAks.Text.Decimal

/-!
# `HMIHelpers`

The texts and numbers that the display layer shows, and the commands by which it shows them.  A
`NextionCommand` is one command to the screen, without the three bytes `0xFF` that end each of them
on the UART; `body` is its text.
-/

namespace TufanAks

/-- `enum class HMI_VcuState`. -/
inductive HMI_VcuState
  | INIT
  | IDLE
  | READY
  | DRIVE
  | EMERGENCY_STOP
  | FAULT
  deriving DecidableEq, Repr

/-! ### Texts -/

def HMI_getStateText : HMI_VcuState → String
  | .INIT => "INIT"
  | .IDLE => "IDLE"
  | .READY => "READY"
  | .DRIVE => "DRIVE"
  | .EMERGENCY_STOP => "ESTOP"
  | .FAULT => "FAULT"

/-- A hexadecimal digit of the conversion `%X`. -/
def hexDigit (n : ℕ) : Char := (Nat.digitChar n).toUpper

def HMI_formatErrorText (HMI_errorFlags : UInt8) : String :=
  String.ofList
    ['0', 'x', hexDigit (HMI_errorFlags.toNat / 16), hexDigit (HMI_errorFlags.toNat % 16)]

def HMI_getValidityText (HMI_dataValid HMI_timeoutActive : Bool) : String :=
  if HMI_timeoutActive then "TIMEOUT"
  else if HMI_dataValid then "VALID"
  else "INVALID"

def HMI_getContactorText (HMI_contactorClosed : Bool) : String :=
  if HMI_contactorClosed then "CLOSED" else "OPEN"

/-! ### Numbers -/

def HMI_BATTERY_NO_DATA : UInt8 := 255
def HMI_TEMP_NO_DATA : Int16 := -127

def HMI_SOC_SOURCE_VERIFIED : Bool := true
def HMI_TEMP_SOURCE_VERIFIED : Bool := true

def HMI_batteryDisplayValue (HMI_sourceVerified HMI_bmsDataValid : Bool)
    (HMI_socHundredths : UInt16) : UInt8 :=
  if !HMI_sourceVerified || !HMI_bmsDataValid then HMI_BATTERY_NO_DATA
  else
    let HMI_percent := HMI_socHundredths / 100
    if HMI_percent > 100 then 100 else HMI_percent.toUInt8

def HMI_temperatureDisplayValue (HMI_sourceVerified HMI_bmsDataValid : Bool)
    (HMI_temperatureC : Int16) : Int16 :=
  if !HMI_sourceVerified || !HMI_bmsDataValid then HMI_TEMP_NO_DATA else HMI_temperatureC

def HMI_packVoltageToXfloat (HMI_packVoltageDeciV : UInt16) : ℤ := HMI_packVoltageDeciV.toNat

def HMI_packCurrentToXfloat (HMI_packCurrentCentiA : Int32) : ℤ := HMI_packCurrentCentiA.toInt

/-! ### Commands -/

/-- A command that gives a component of the screen a number or a text. -/
inductive NextionCommand
  | val (component : String) (value : ℤ)
  | txt (component : String) (value : String)
  deriving DecidableEq

/-- What is written to the UART, up to the end bytes. -/
def NextionCommand.body : NextionCommand → List Char
  | .val component value => component.toList ++ ".val=".toList ++ Text.decimal value
  | .txt component value => component.toList ++ ".txt=\"".toList ++ value.toList ++ ['"']

def HMI_sendNumericIfChanged (HMI_component : String) (HMI_value HMI_lastValue : ℤ)
    (HMI_force : Bool) : List NextionCommand :=
  if !HMI_force && HMI_value = HMI_lastValue then [] else [.val HMI_component HMI_value]

def HMI_sendTextIfChanged (HMI_component HMI_value HMI_lastValue : String)
    (HMI_force : Bool) : List NextionCommand :=
  if !HMI_force && HMI_value = HMI_lastValue then [] else [.txt HMI_component HMI_value]

end TufanAks

import TufanAks.HMIHelpers

/-!
# `DisplayHMI::updateScreen`

The sending side of the display: every call sends the components whose rendering differs from that
of the data sent before; the first call sends all of them.
-/

namespace TufanAks

/-- `struct HMI_DisplayData`. -/
structure HMI_DisplayData where
  HMI_currentSpeed : UInt16 := 0
  HMI_currentBattery : UInt8 := 0
  HMI_motorRpm : UInt16 := 0
  HMI_motorTorqueFeedback : Int16 := 0
  HMI_motorErrorFlags : UInt8 := 0
  HMI_motorDataValid : Bool := false
  HMI_motorTimeoutActive : Bool := false
  HMI_bmsTemperatureC : Int16 := 0
  HMI_bmsPackVoltageDeciV : UInt16 := 0
  HMI_bmsPackCurrentCentiA : Int32 := 0
  HMI_contactorClosed : Bool := false
  HMI_vcuState : HMI_VcuState := .INIT
  deriving DecidableEq

/-- The members of the class that sending uses. -/
structure Screen where
  HMI_isInitialized : Bool := false
  HMI_hasCachedScreen : Bool := false
  HMI_lastScreenData : HMI_DisplayData := {}
  deriving DecidableEq

/-- `begin`, with the outcome of the driver installation; the command `bkcmd=0`, which addresses no
component, is left out. -/
def Screen.begin (driverInstalled : Bool) (s : Screen) : Screen :=
  if s.HMI_isInitialized then s
  else if !driverInstalled then s
  else { s with HMI_isInitialized := true }

/-- `updateScreen`: the commands sent, and the display after the call. -/
def Screen.updateScreen (HMI_data : HMI_DisplayData) (s : Screen) :
    List NextionCommand × Screen :=
  if !s.HMI_isInitialized then ([], s)
  else
    let HMI_forceRefresh := !s.HMI_hasCachedScreen
    let HMI_last := s.HMI_lastScreenData
    let HMI_currentErrorText := HMI_formatErrorText HMI_data.HMI_motorErrorFlags
    let HMI_lastErrorText := HMI_formatErrorText HMI_last.HMI_motorErrorFlags
    (HMI_sendNumericIfChanged "speed" HMI_data.HMI_currentSpeed.toNat
        HMI_last.HMI_currentSpeed.toNat HMI_forceRefresh ++
      HMI_sendNumericIfChanged "bat" HMI_data.HMI_currentBattery.toNat
        HMI_last.HMI_currentBattery.toNat HMI_forceRefresh ++
      HMI_sendNumericIfChanged "rpm" HMI_data.HMI_motorRpm.toNat
        HMI_last.HMI_motorRpm.toNat HMI_forceRefresh ++
      HMI_sendNumericIfChanged "torque" HMI_data.HMI_motorTorqueFeedback.toInt
        HMI_last.HMI_motorTorqueFeedback.toInt HMI_forceRefresh ++
      HMI_sendNumericIfChanged "temp" HMI_data.HMI_bmsTemperatureC.toInt
        HMI_last.HMI_bmsTemperatureC.toInt HMI_forceRefresh ++
      HMI_sendNumericIfChanged "packv" (HMI_packVoltageToXfloat HMI_data.HMI_bmsPackVoltageDeciV)
        (HMI_packVoltageToXfloat HMI_last.HMI_bmsPackVoltageDeciV) HMI_forceRefresh ++
      HMI_sendNumericIfChanged "packa" (HMI_packCurrentToXfloat HMI_data.HMI_bmsPackCurrentCentiA)
        (HMI_packCurrentToXfloat HMI_last.HMI_bmsPackCurrentCentiA) HMI_forceRefresh ++
      HMI_sendTextIfChanged "state" (HMI_getStateText HMI_data.HMI_vcuState)
        (HMI_getStateText HMI_last.HMI_vcuState) HMI_forceRefresh ++
      HMI_sendTextIfChanged "motorErr" HMI_currentErrorText HMI_lastErrorText HMI_forceRefresh ++
      HMI_sendTextIfChanged "valid"
        (HMI_getValidityText HMI_data.HMI_motorDataValid HMI_data.HMI_motorTimeoutActive)
        (HMI_getValidityText HMI_last.HMI_motorDataValid HMI_last.HMI_motorTimeoutActive)
        HMI_forceRefresh ++
      HMI_sendTextIfChanged "contactor" (HMI_getContactorText HMI_data.HMI_contactorClosed)
        (HMI_getContactorText HMI_last.HMI_contactorClosed) HMI_forceRefresh,
      { s with HMI_lastScreenData := HMI_data, HMI_hasCachedScreen := true })

end TufanAks

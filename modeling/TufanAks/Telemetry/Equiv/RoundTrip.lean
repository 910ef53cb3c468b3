import TufanAks.Telemetry.Equiv.Acceptance

/-!
# The round trip of a telemetry line

`sentValue` gives the value that a packet sends under the name of each field.  If all of them are
in range, `parse_uks_frame` reads exactly these values from the line that `sendStatus` writes, and
`build_tel_line` prints the same line from them (`roundTrip`).
-/

namespace TufanAks.Telemetry

open Contract

/-- The value of a packet that is sent as a field. -/
def sentValue (seq : UInt32) (d : TelemetryData) : Field → ℤ
  | .ver => VER
  | .seq => seq.toNat
  | .rpm => d.TEL_motorRpm.toInt
  | .torque => d.TEL_motorVoltageDeciV.toNat
  | .motor_err => d.TEL_motorErrorFlags.toNat
  | .motor_valid => if d.TEL_motorDataValid then 1 else 0
  | .motor_timeout => if d.TEL_motorTimeoutActive then 1 else 0
  | .cell_vmax => d.TEL_bmsCellVoltageMaxDeciMv.toNat
  | .cell_vmin => d.TEL_bmsCellVoltageMinDeciMv.toNat
  | .temp_h => d.TEL_bmsTempHighestC.toInt
  | .temp_l => d.TEL_bmsTempLowestC.toInt
  | .sys_state => d.TEL_bmsSystemState.toNat
  | .pack_v => d.TEL_bmsPackVoltageDeciV.toNat
  | .current => d.TEL_bmsCurrentCentiA.toInt
  | .soc => d.TEL_bmsSocHundredths.toNat
  | .bms_valid => if d.TEL_bmsDataValid then 1 else 0
  | .ts_ms => d.TEL_timestampMs.toNat
  | .spd_x10 => d.TEL_speedKmhX10.toNat

/-- The conversions of the format are in the order in which the ground station names them. -/
theorem arguments_eq_map (seq : UInt32) (d : TelemetryData) :
    arguments seq d = FIELD_ORDER.map (sentValue seq d) :=
  rfl

/-- What `sendStatus` writes shows the value of each field. -/
theorem sendStatus_eq_lineOf (TEL_written : ℤ) (seq : UInt32) (d : TelemetryData) :
    (sendStatus TEL_written d ⟨true, seq⟩).1 = some (lineOf (sentValue seq d)) := by
  rw [sendStatus_eq, arguments_eq_map]
  rfl

/-- **The round trip of a line**: what `sendStatus` writes is read back as the values that were
sent, and printing these gives the same line. -/
theorem roundTrip (TEL_written : ℤ) (seq : UInt32) (d : TelemetryData)
    (hrange : ∀ f, InRange f (sentValue seq (sanitizeForUplink d) f))
    (hrpm : sentValue seq (sanitizeForUplink d) .rpm ≤ TEL_RPM_MAX) :
    ∃ line values,
      (sendStatus TEL_written (sanitizeForUplink d) ⟨true, seq⟩).1 = some line ∧
      parseUksFrame line = .ok values ∧
      values = FIELD_ORDER.map (fun f => (f, sentValue seq (sanitizeForUplink d) f)) ∧
      buildTelLine values = some line :=
  ⟨lineOf (sentValue seq (sanitizeForUplink d)), _, sendStatus_eq_lineOf TEL_written seq _,
    parseUksFrame_lineOf hrange rfl hrpm, rfl, buildTelLine_eq _⟩

/-- A packet with a speed, a discharge current and a temperature below zero. -/
def drivingPacket : TelemetryData where
  TEL_motorRpm := 1500
  TEL_motorVoltageDeciV := 840
  TEL_motorDataValid := true
  TEL_bmsSystemState := 2
  TEL_bmsPackVoltageDeciV := 845
  TEL_bmsCurrentCentiA := -1234
  TEL_bmsSocHundredths := 7350
  TEL_bmsTempHighestC := 21
  TEL_bmsTempLowestC := -3
  TEL_bmsDataValid := true
  TEL_timestampMs := 61000
  TEL_speedKmhX10 := 425

theorem roundTrip_drivingPacket :
    (∀ f, InRange f (sentValue 7 (sanitizeForUplink drivingPacket) f)) ∧
    ∃ line values,
      (sendStatus 80 (sanitizeForUplink drivingPacket) ⟨true, 7⟩).1 = some line ∧
      parseUksFrame line = .ok values ∧
      values = FIELD_ORDER.map
        (fun f => (f, sentValue 7 (sanitizeForUplink drivingPacket) f)) ∧
      buildTelLine values = some line := by
  have hrange : ∀ f, InRange f (sentValue 7 (sanitizeForUplink drivingPacket) f) := by
    intro f
    cases f <;> exact ⟨by decide, by decide⟩
  exact ⟨hrange, roundTrip 80 7 drivingPacket hrange (by decide)⟩

end TufanAks.Telemetry

import Mathlib.Data.UInt

/-!
# `SystemConfig.h`

The constants of `include/SystemConfig.h` that the modelled functions read, under the source's
names, in the unit of the field each is compared with.  Thresholds on decoded signals are plain
integers (the source promotes both sides of these comparisons to `int`); times compared with a
32-bit timer or tick counter are `UInt32`.
-/

namespace TufanAks

/-! ### Motor driver integration -/

/-- `MOTOR_DRIVER_PRESENT`: the flag that switches the `#if` branches for the motor driver on. -/
def MOTOR_DRIVER_PRESENT : Bool := false

/-- Consecutive faulty motor frames that confirm a motor fault. -/
def MOTOR_ERROR_DEBOUNCE_FRAMES : UInt16 := 3

/-- Time from the zero-torque request to the opening of the contactors, in ms. -/
def VCU_CONTACTOR_OPEN_DELAY_MS : UInt32 := 20

/-! ### Safety thresholds -/

def BMS_WARN_MIN_PACK_VOLTAGE_DECI_V : UInt16 := 720
def BMS_CRITICAL_MIN_PACK_VOLTAGE_DECI_V : UInt16 := 600
def BMS_WARN_MAX_PACK_VOLTAGE_DECI_V : UInt16 := 852
def BMS_CRITICAL_MAX_PACK_VOLTAGE_DECI_V : UInt16 := 876

def BMS_WARN_MAX_TEMP_C : Int := 55
def BMS_CRITICAL_MAX_TEMP_C : Int := 70

def BMS_WARN_MAX_CHARGE_CURRENT_CENTI_A : Int := 1100
def BMS_CRITICAL_MAX_CHARGE_CURRENT_CENTI_A : Int := 1300
def BMS_WARN_MAX_DISCHARGE_CURRENT_CENTI_A : Int := 900
def BMS_CRITICAL_MAX_DISCHARGE_CURRENT_CENTI_A : Int := 1500

/-! ### Relays -/

def RELAY_TOTAL_CHANNELS : ℕ := 10

/-- Time between two periodic verifications of the relay outputs, in ms. -/
def RELAY_VERIFY_PERIOD_MS : UInt32 := 100

/-! ### Display commands -/

def HMI_CMD_START : UInt8 := 1
def HMI_CMD_RESET : UInt8 := 2
def HMI_CMD_EMERGENCY_STOP : UInt8 := 3
def HMI_CMD_DRIVE_ENABLE : UInt8 := 4

/-! ### CAN reception -/

def CAN_ID_MOTOR_STATUS : UInt32 := 0x200
def CAN_ID_LB_BMS_E000 : UInt32 := 0x0000E000
def CAN_ID_LB_BMS_E001 : UInt32 := 0x0000E001
def CAN_ID_LB_BMS_E015 : UInt32 := 0x0000E015
def CAN_ID_LB_BMS_E016 : UInt32 := 0x0000E016
def CAN_ID_LB_BMS_E017 : UInt32 := 0x0000E017
def CAN_ID_LB_BMS_E018 : UInt32 := 0x0000E018
def CAN_ID_LB_BMS_E019 : UInt32 := 0x0000E019
def CAN_ID_LB_BMS_E020 : UInt32 := 0x0000E020
def CAN_ID_LB_CHARGER_CMD : UInt32 := 0x1806E5F4

/-- Upper bound on the frames that one `processRxMessages` call takes from the driver. -/
def CAN_RX_DRAIN_MAX : ℕ := 32

/-- Shortest time between two queue-full log lines, in ms. -/
def CAN_RX_STATS_LOG_INTERVAL_MS : UInt32 := 1000

/-- `CONFIG_FREERTOS_HZ` of the `esp32dev` build. -/
def configTICK_RATE_HZ : UInt32 := 100

/-- FreeRTOS `pdMS_TO_TICKS`, in 32-bit `TickType_t` arithmetic. -/
def pdMS_TO_TICKS (ms : UInt32) : UInt32 := ms * configTICK_RATE_HZ / 1000

def CAN_MOTOR_STATUS_TIMEOUT_MS : UInt32 := 1500
def CAN_BMS_STATUS_TIMEOUT_MS : UInt32 := 500
def CAN_CELL_VOLTAGE_TIMEOUT_MS : UInt32 := 500
def CAN_CHARGER_TIMEOUT_MS : UInt32 := 2000

/-! ### LoRa link -/

def LORA_PROTOCOL_VERSION : ℤ := 2

/-- The byte that the ground station sends about once a second. -/
def UKS_HEARTBEAT_BYTE : UInt8 := 0xB0

def LORA_UART_BAUD : ℕ := 9600

/-- Failed attempts after which the setup of the LoRa UART is given up. -/
def LORA_UART_MAX_INIT_ATTEMPTS : ℤ := 5

/-- Time between two TX ticks, in ms. -/
def LORA_TX_PERIOD_MS : ℕ := 500

/-- What a telemetry frame takes in the worst case, in bytes. -/
def LORA_TEL_FRAME_MAX_BYTES : ℕ := 120

/-- Time without a heartbeat after which the link is down, in ms. -/
def LINK_TIMEOUT_MS : UInt32 := 9000

/-- The same before the first heartbeat, counted from boot. -/
def BOOT_LINK_GRACE_MS : UInt32 := 5000

/-- Time between two samples while the link is down, in ms. -/
def OFFLINE_SAMPLE_PERIOD_MS : UInt32 := 1000

/-- Buffered packets that are sent in one TX tick, at most. -/
def REPLAY_BURST_PER_TICK : UInt8 := 1

/-- Time between two warnings about unknown bytes, in ms. -/
def LORA_UNKNOWN_BYTE_WARN_INTERVAL_MS : UInt32 := 10000

/-! ### LoRa module -/

def LORA_MODE_NORMAL_M0_LEVEL : ℕ := 0
def LORA_MODE_NORMAL_M1_LEVEL : ℕ := 0
def LORA_MODE_CONFIG_M0_LEVEL : ℕ := 0
def LORA_MODE_CONFIG_M1_LEVEL : ℕ := 1

/-- Time to wait for the module after a change of its mode, in ms. -/
def LORA_AUX_MODE_TIMEOUT_MS : UInt32 := 500

/-- Time to wait for the end of a permanent write, in ms. -/
def LORA_AUX_CFG_TIMEOUT_MS : UInt32 := 2000

/-- Time to wait for an answer of the module, in ms. -/
def LORA_CFG_READ_TIMEOUT_MS : UInt32 := 500

end TufanAks

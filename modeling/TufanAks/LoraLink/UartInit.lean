import TufanAks.SystemConfig

/-!
# `EspLoraHal::begin` and `UartInitRetry.h`

The setup of the LoRa UART at the start of the LoRa task: three calls to the UART driver of the
platform, repeated until all of them succeed or too many rounds have failed.  The driver is not part
of the firmware.  It is a parameter, a `UartDriver` with states of any type, and of what it is
documented to do `UartDriver.Documented` names what the code relies on.

The loop runs with fuel; `none` means that the fuel ran out.  The setup of the pins, the waiting
between two rounds and the log are left out.
-/

namespace TufanAks

/-- `enum class UartInitDecision`. -/
inductive UartInitDecision
  | RETRY
  | GIVE_UP_DISABLED
  deriving DecidableEq, Repr

def uart_init_retry_decision (failedAttempts maxAttempts : ℤ) : UartInitDecision :=
  if failedAttempts ≥ maxAttempts then .GIVE_UP_DISABLED else .RETRY

/-! ### The driver -/

/-- A UART driver: what its calls make of its state, and whether they return `ESP_OK`. -/
structure UartDriver (σ : Type*) where
  uart_is_driver_installed : σ → Bool
  uart_driver_delete : σ → σ
  uart_param_config : σ → Bool × σ
  uart_set_pin : σ → Bool × σ
  uart_driver_install : σ → Bool × σ

variable {σ : Type*}

/-- What the code relies on. -/
structure UartDriver.Documented (drv : UartDriver σ) : Prop where
  uart_driver_delete : ∀ s, drv.uart_is_driver_installed (drv.uart_driver_delete s) = false
  uart_param_config : ∀ s, drv.uart_is_driver_installed (drv.uart_param_config s).2 =
    drv.uart_is_driver_installed s
  uart_set_pin : ∀ s, drv.uart_is_driver_installed (drv.uart_set_pin s).2 =
    drv.uart_is_driver_installed s
  uart_driver_install : ∀ s, (drv.uart_driver_install s).1 = true →
    drv.uart_is_driver_installed (drv.uart_driver_install s).2 = true

/-! ### `begin` -/

namespace EspLoraHal

variable (drv : UartDriver σ)

/-- What an earlier round has installed is deleted first. -/
def deleteInstalled (s : σ) : σ :=
  if drv.uart_is_driver_installed s then drv.uart_driver_delete s else s

/-- One round of the loop up to the test of the three results. -/
def attempt (s : σ) : Bool × σ :=
  let (err1, s) := drv.uart_param_config (deleteInstalled drv s)
  let (err2, s) := drv.uart_set_pin s
  let (err3, s) := drv.uart_driver_install s
  (err1 && err2 && err3, s)

/-- The loop of `begin`, in its round `uart_failedAttempts`. -/
def beginLoop : ℕ → ℕ → σ → Option (Bool × σ)
  | 0, _, _ => none
  | fuel + 1, uart_failedAttempts, s =>
    match attempt drv s with
    | (true, s) => some (true, s)
    | (false, s) =>
      if uart_init_retry_decision (uart_failedAttempts + 1) LORA_UART_MAX_INIT_ATTEMPTS =
          .GIVE_UP_DISABLED then some (false, s)
      else beginLoop fuel (uart_failedAttempts + 1) s

def begin (fuel : ℕ) (s : σ) : Option (Bool × σ) := beginLoop drv fuel 0 s

end EspLoraHal

end TufanAks

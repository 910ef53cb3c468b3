import TufanAks.CanManager

/-!
# The bit rate detection of `CanManager::begin`

`begin` listens at three bit rates, one after the other, for a second each, and keeps the first at
which it hears a frame; if it hears none, it goes on at 500 kbit/s.  For each try it installs the
TWAI driver and takes it down again.  The driver is not part of the firmware.  It is a parameter, a
`TwaiDriver` with states of any type, and of what it is documented to do `TwaiDriver.Documented`
names what the code relies on.  The log is left out.
-/

namespace TufanAks

/-! ### The driver -/

/-- The timing configurations of the three bit rates. -/
inductive TwaiTiming
  | CONFIG_500KBITS
  | CONFIG_125KBITS
  | CONFIG_250KBITS
  deriving DecidableEq, Repr

/-- The states of an installed driver. -/
inductive TwaiState
  | STOPPED
  | RUNNING
  | BUS_OFF
  deriving DecidableEq, Repr

/-- A TWAI driver: what its calls make of its state, and whether they return `ESP_OK` where the code
asks for it. -/
structure TwaiDriver (σ : Type*) where
  /-- The state of the driver and the timing that it was installed with, if it is installed. -/
  status : σ → Option (TwaiState × TwaiTiming)
  twai_driver_install : TwaiTiming → σ → Bool × σ
  twai_start : σ → Bool × σ
  /-- A second of waiting for a frame. -/
  twai_receive : σ → Bool × σ
  twai_stop : σ → σ
  twai_driver_uninstall : σ → σ

variable {σ : Type*}

/-- What the code relies on, for each call in the states in which the code makes it. -/
structure TwaiDriver.Documented (drv : TwaiDriver σ) : Prop where
  twai_driver_install : ∀ s timing, drv.status s = none →
    drv.status (drv.twai_driver_install timing s).2 =
      if (drv.twai_driver_install timing s).1 then some (.STOPPED, timing) else none
  twai_start : ∀ s timing, drv.status s = some (.STOPPED, timing) →
    drv.status (drv.twai_start s).2 =
      some (if (drv.twai_start s).1 then .RUNNING else .STOPPED, timing)
  /-- A controller with too many errors leaves the bus. -/
  twai_receive : ∀ s timing, drv.status s = some (.RUNNING, timing) →
    drv.status (drv.twai_receive s).2 = some (.RUNNING, timing) ∨
      drv.status (drv.twai_receive s).2 = some (.BUS_OFF, timing)
  twai_stop : ∀ s timing, drv.status s = some (.RUNNING, timing) →
    drv.status (drv.twai_stop s) = some (.STOPPED, timing)
  /-- The call is refused: the driver is not running. -/
  twai_stop_of_bus_off : ∀ s timing, drv.status s = some (.BUS_OFF, timing) →
    drv.status (drv.twai_stop s) = some (.BUS_OFF, timing)
  twai_driver_uninstall : ∀ s state timing, drv.status s = some (state, timing) →
    state = .STOPPED ∨ state = .BUS_OFF → drv.status (drv.twai_driver_uninstall s) = none

namespace CanManager

variable (drv : TwaiDriver σ)

/-! ### `begin` -/

/-- One round of the loop: whether a frame was heard, and the driver after it. -/
def tryRate (timing : TwaiTiming) (s : σ) : Bool × σ :=
  let (installed, s) := drv.twai_driver_install timing s
  if !installed then (false, s)
  else
    let (started, s) := drv.twai_start s
    if !started then (false, drv.twai_driver_uninstall s)
    else
      let (received, s) := drv.twai_receive s
      if received then (true, s) else (false, drv.twai_driver_uninstall (drv.twai_stop s))

/-- The loop: the bit rate found, if any. -/
def detectRate : List TwaiTiming → σ → Option TwaiTiming × σ
  | [], s => (none, s)
  | timing :: t_configs, s =>
    match tryRate drv timing s with
    | (true, s) => (some timing, s)
    | (false, s) => detectRate t_configs s

def t_configs : List TwaiTiming := [.CONFIG_500KBITS, .CONFIG_125KBITS, .CONFIG_250KBITS]

/-- The driver part of `begin`: the value of `t_config`, if the driver is started. -/
def startDriver (s : σ) : Option TwaiTiming × σ :=
  match detectRate drv t_configs s with
  | (some timing, s) => (some timing, s)
  | (none, s) =>
    let (installed, s) := drv.twai_driver_install .CONFIG_500KBITS s
    if !installed then (none, s)
    else
      let (started, s) := drv.twai_start s
      if !started then (none, drv.twai_driver_uninstall s) else (some .CONFIG_500KBITS, s)

/-- `begin`, with the driver and the outcome of the creation of the mutex. -/
def beginWithDriver (mutexCreated : Bool) (c : CanManager) (s : σ) : CanManager × σ :=
  if c.isInitialized then (c, s)
  else if !mutexCreated then ({ c with s_mutex := false }, s)
  else
    match startDriver drv s with
    | (none, s) => ({ c with s_mutex := false }, s)
    | (some _, s) => ({ c with s_mutex := true, isInitialized := true }, s)

end CanManager

end TufanAks

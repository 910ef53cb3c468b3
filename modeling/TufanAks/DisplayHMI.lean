import TufanAks.Machine.Reader
import TufanAks.Machine.Run
import TufanAks.SystemConfig

/-!
# `DisplayHMI.cpp`

The receiving side of the display: `begin` and `readTouchCommand`.  What is sent to the screen does
not influence it and is left out.

The two static variables of `readTouchCommand` form a `TouchParser`; `touchByte` is the body of its
loop.  The UART driver is a queue `rx` of received bytes that have not been read: a byte that
arrives while a call waits for one is modelled as received before the call.
-/

namespace TufanAks

/-- The header of a command frame. -/
def HMI_FRAME_HEADER : UInt8 := 0x5A

/-- The static variables of `readTouchCommand`. -/
structure TouchParser where
  /-- 0: waiting for a header, 1: for a command, 2: for its checksum. -/
  rxState : ℕ := 0
  pendingCmd : UInt8 := 0
  deriving DecidableEq

/-- One received byte: the parser after it, and the command that it completes. -/
def touchByte (s : TouchParser) (rxByte : UInt8) : TouchParser × Option UInt8 :=
  -- what is left of a Nextion answer resets the parser
  if rxByte = 0xFF ∨ rxByte = 0x00 then ({ s with rxState := 0 }, none)
  else if s.rxState = 0 then
    (if rxByte = HMI_FRAME_HEADER then { s with rxState := 1 } else s, none)
  else if s.rxState = 1 then ({ rxState := 2, pendingCmd := rxByte }, none)
  else if s.rxState = 2 then
    let expectedChecksum := ~~~s.pendingCmd
    ({ s with rxState := 0 }, if rxByte = expectedChecksum then some s.pendingCmd else none)
  else (s, none)

/-- The display object, the parser, the bytes in the UART driver and the commands returned so
far. -/
structure DisplayHMI where
  HMI_isInitialized : Bool := false
  touch : TouchParser := {}
  /-- The received bytes that have not been read, oldest first. -/
  rx : List UInt8 := []
  /-- The commands that `readTouchCommand` has returned, oldest first. -/
  commands : List UInt8 := []

namespace DisplayHMI

/-- `begin`, with the outcome of the driver installation; what was received is drained. -/
def begin (driverInstalled : Bool) (h : DisplayHMI) : DisplayHMI :=
  if h.HMI_isInitialized then h
  else if !driverInstalled then h
  else { h with HMI_isInitialized := true, rx := [] }

/-- `readTouchCommand`: the bytes in the driver are read up to the first that completes a
command. -/
def readTouchCommand (h : DisplayHMI) : Option UInt8 × DisplayHMI :=
  if !h.HMI_isInitialized then (none, h)
  else
    let (command, touch, rest) := Machine.readOne touchByte h.touch h.rx
    (command, { h with touch := touch, rx := rest })

/-- One call, or bytes that arrive from the display. -/
inductive Action
  | begin (driverInstalled : Bool)
  | receive (bytes : List UInt8)
  | readTouchCommand

/-- Perform one action; without an installed driver nothing is received. -/
def step (h : DisplayHMI) : Action → DisplayHMI
  | .begin driverInstalled => begin driverInstalled h
  | .receive bytes => if h.HMI_isInitialized then { h with rx := h.rx ++ bytes } else h
  | .readTouchCommand =>
    { (readTouchCommand h).2 with commands := h.commands ++ (readTouchCommand h).1.toList }

/-- The display after the actions `as` on a fresh object. -/
abbrev after (as : List Action) : DisplayHMI := Machine.exec step {} as

end DisplayHMI

end TufanAks

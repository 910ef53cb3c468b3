import TufanAks.OfflineBuffer
import TufanAks.SystemConfig

/-!
# `UplinkScheduler.cpp`

The scheduler of the LoRa uplink: it decides from the heartbeats whether the link is up, samples
packets into the offline buffer while it is down, and replays them beside the live packets when it
is up.  An `UplinkScheduler` holds the members of the class and the offline buffer that it feeds,
which is static in the source.  The calls of the send callback and their results are recorded, in
order, in `sends`.

The link predicates are those of `LinkMonitor.h`, the classification of received bytes is that of
`LoraRxHandler.h`.
-/

namespace TufanAks

/-! ### `LinkMonitor.h` and `LoraRxHandler.h` -/

/-- `link_check_timeout`; a last heartbeat of 0 stands for none. -/
def linkCheckTimeout (nowMs lastHbMs : UInt64) (timeoutMs : UInt32) : Bool :=
  if lastHbMs = 0 then false else nowMs - lastHbMs > timeoutMs.toUInt64

/-- `link_check_timeout_with_boot_grace`. -/
def linkCheckTimeoutWithBootGrace (nowMs lastHbMs : UInt64) (timeoutMs : UInt32) (bootMs : UInt64)
    (bootGraceMs : UInt32) : Bool :=
  if lastHbMs = 0 then nowMs - bootMs > bootGraceMs.toUInt64
  else linkCheckTimeout nowMs lastHbMs timeoutMs

/-- `enum class LoraRxByteKind`. -/
inductive LoraRxByteKind
  | HEARTBEAT
  | UNKNOWN
  deriving DecidableEq, Repr

/-- `lora_classify_rx_byte`. -/
def loraClassifyRxByte (rxByte : UInt8) : LoraRxByteKind :=
  if rxByte = UKS_HEARTBEAT_BYTE then .HEARTBEAT else .UNKNOWN

/-- `lora_note_unknown_byte`: whether to warn, the new count and the new time of the last
warning. -/
def loraNoteUnknownByte (nowMs : UInt64) (count : UInt32) (lastWarnMs : UInt64)
    (warnIntervalMs : UInt32) : Bool × UInt32 × UInt64 :=
  if nowMs - lastWarnMs ≥ warnIntervalMs.toUInt64 then (true, count + 1, nowMs)
  else (false, count + 1, lastWarnMs)

/-! ### The class -/

/-- A call of the send callback, with its result. -/
structure Send where
  pkt : TelemetryData
  isReplay : Bool
  ok : Bool
  deriving DecidableEq

/-- The packets of the sends that succeeded. -/
def sent (rs : List Send) : List TelemetryData := (rs.filter Send.ok).map Send.pkt

/-- A send callback; what it answers may depend on the calls before. -/
abbrev SendFn := List Send → (pkt : TelemetryData) → (isReplay : Bool) → Bool

/-- The members of the class, the offline buffer and the sends so far. -/
structure UplinkScheduler where
  m_linkTimeoutMs : UInt32
  m_bootGraceMs : UInt32
  m_offlineSamplePeriodMs : UInt32
  m_replayBurstPerTick : UInt8
  m_unknownByteWarnIntervalMs : UInt32
  m_linkDown : Bool := false
  m_lastHeartbeatMs : UInt64 := 0
  m_unknownRxByteCount : UInt32 := 0
  m_lastUnknownRxByteWarnMs : UInt64 := 0
  m_lastOfflineSampleMs : UInt64 := 0
  m_offlineFirstTs : UInt32 := 0
  m_offlineLastTs : UInt32 := 0
  m_offlineHasSamples : Bool := false
  buffer : OfflineBuffer := .empty
  sends : List Send := []

namespace UplinkScheduler

/-- The constructor. -/
def configured (linkTimeoutMs bootGraceMs offlineSamplePeriodMs : UInt32)
    (replayBurstPerTick : UInt8) (unknownByteWarnIntervalMs : UInt32) : UplinkScheduler where
  m_linkTimeoutMs := linkTimeoutMs
  m_bootGraceMs := bootGraceMs
  m_offlineSamplePeriodMs := offlineSamplePeriodMs
  m_replayBurstPerTick := replayBurstPerTick
  m_unknownByteWarnIntervalMs := unknownByteWarnIntervalMs

/-- `enum class RxResult`. -/
inductive RxResult
  | HEARTBEAT
  | UNKNOWN_QUIET
  | UNKNOWN_WARN
  deriving DecidableEq, Repr

/-- `struct LinkTransition`. -/
structure LinkTransition where
  changed : Bool := false
  linkDown : Bool := false
  becameDown : Bool := false
  becameUp : Bool := false
  hadSamples : Bool := false
  bufferedCount : ℕ := 0
  firstTs : UInt32 := 0
  lastTs : UInt32 := 0

def onRxByte (rxByte : UInt8) (nowMs : UInt64) (u : UplinkScheduler) :
    RxResult × UplinkScheduler :=
  if loraClassifyRxByte rxByte = .HEARTBEAT then
    (.HEARTBEAT, { u with m_lastHeartbeatMs := nowMs })
  else
    let (warn, count, lastWarn) := loraNoteUnknownByte nowMs u.m_unknownRxByteCount
      u.m_lastUnknownRxByteWarnMs u.m_unknownByteWarnIntervalMs
    (if warn then .UNKNOWN_WARN else .UNKNOWN_QUIET,
      { u with m_unknownRxByteCount := count, m_lastUnknownRxByteWarnMs := lastWarn })

def updateLink (nowMs bootMs : UInt64) (u : UplinkScheduler) : LinkTransition × UplinkScheduler :=
  let timeout := linkCheckTimeoutWithBootGrace nowMs u.m_lastHeartbeatMs u.m_linkTimeoutMs bootMs
    u.m_bootGraceMs
  if timeout && !u.m_linkDown then
    -- a new outage: the sampling clock starts anew
    ({ changed := true, becameDown := true, linkDown := true },
      { u with m_linkDown := true, m_lastOfflineSampleMs := 0, m_offlineHasSamples := false })
  else if !timeout && u.m_linkDown && u.m_lastHeartbeatMs != 0 then
    ({ changed := true, becameUp := true, linkDown := false
       hadSamples := u.m_offlineHasSamples
       bufferedCount := u.buffer.obCount
       firstTs := u.m_offlineFirstTs
       lastTs := u.m_offlineLastTs },
      { u with m_linkDown := false })
  else ({ linkDown := u.m_linkDown }, u)

def isLinkDown (u : UplinkScheduler) : Bool := u.m_linkDown

/-- `offlineSample`; the flag says whether a sample was taken. -/
def offlineSample (nowMs : UInt64) (live : TelemetryData) (u : UplinkScheduler) :
    Bool × UplinkScheduler :=
  if !OfflineBuffer.offlineShouldSample nowMs u.m_lastOfflineSampleMs u.m_offlineHasSamples
      u.m_offlineSamplePeriodMs then (false, u)
  else
    (true,
      { u with
        m_lastOfflineSampleMs := nowMs
        buffer := (u.buffer.obPush live).2
        m_offlineFirstTs :=
          if u.m_offlineHasSamples then u.m_offlineFirstTs else live.TEL_timestampMs
        m_offlineHasSamples := true
        m_offlineLastTs := live.TEL_timestampMs })

/-- Call the callback. -/
def callSend (send : SendFn) (pkt : TelemetryData) (isReplay : Bool) (u : UplinkScheduler) :
    Bool × UplinkScheduler :=
  let ok := send u.sends pkt isReplay
  (ok, { u with sends := u.sends ++ [⟨pkt, isReplay, ok⟩] })

/-- The replay loop with `n` rounds left: how many packets it sends, and the state after it. -/
def replayLoop (send : SendFn) : ℕ → UplinkScheduler → ℕ × UplinkScheduler
  | 0, u => (0, u)
  | n + 1, u =>
    match u.buffer.obPeek with
    | none => (0, u)
    | some replay =>
      match callSend send replay true u with
      -- the packet stays in the buffer
      | (false, u) => (0, u)
      | (true, u) =>
        let (sent, u) := replayLoop send n { u with buffer := u.buffer.obDropFront.2 }
        (sent + 1, u)

/-- `onTxTickLinkUp`; the number is that of the packets sent. -/
def onTxTickLinkUp (haveLive : Bool) (live : TelemetryData) (send : SendFn) (u : UplinkScheduler) :
    ℕ × UplinkScheduler :=
  let (sent, u) := replayLoop send u.m_replayBurstPerTick.toNat u
  if haveLive then
    let (ok, u) := callSend send live false u
    (if ok then sent + 1 else sent, u)
  else (sent, u)

/-! ### The class as a machine -/

/-- One call of a public function. -/
inductive Action
  | onRxByte (rxByte : UInt8) (nowMs : UInt64)
  | updateLink (nowMs bootMs : UInt64)
  | offlineSample (nowMs : UInt64) (live : TelemetryData)
  | onTxTickLinkUp (haveLive : Bool) (live : TelemetryData) (send : SendFn)

/-- Perform one action. -/
def step (u : UplinkScheduler) : Action → UplinkScheduler
  | .onRxByte rxByte nowMs => (onRxByte rxByte nowMs u).2
  | .updateLink nowMs bootMs => (updateLink nowMs bootMs u).2
  | .offlineSample nowMs live => (offlineSample nowMs live u).2
  | .onTxTickLinkUp haveLive live send => (onTxTickLinkUp haveLive live send u).2

end UplinkScheduler

end TufanAks

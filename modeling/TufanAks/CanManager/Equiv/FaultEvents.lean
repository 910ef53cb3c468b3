import TufanAks.CanManager.Equiv.Parts
import TufanAks.Debounce.Confirmed

/-!
# The fault events

Two kinds of frames report faults: the motor status with its error bits, and `0xE000` with the pack
voltage.  `FaultState` says what the manager remembers of the frames it has accepted: the debounced
error bits and the class of the last pack voltage.  From it comes `faultEvents_exact`: a frame is
reported exactly when its fault is a new one.
-/

namespace TufanAks.CanManager

open CanParse

/-! ### The faults in a run -/

/-- The error bits of a motor frame: byte 7 without its lowest bit. -/
def errorBits (msg : twai_message_t) : UInt8 := msg.data ⟨7, by decide⟩ &&& 0xFE

/-- The class of the pack voltage of an `0xE000` frame. -/
def packVoltageClass (msg : twai_message_t) : BmsPackVoltageFault :=
  checkPackVoltageFault (msg.word ⟨1, by decide⟩) BMS_CRITICAL_MIN_PACK_VOLTAGE_DECI_V
    BMS_CRITICAL_MAX_PACK_VOLTAGE_DECI_V

/-- The error bits of an accepted motor frame. -/
def Part.motorError : Part → Option UInt8
  | .frame msg _ => if acceptedAs msg = some .motor then some (errorBits msg) else none
  | _ => none

/-- The voltage class of an accepted `0xE000` frame. -/
def Part.packFault : Part → Option BmsPackVoltageFault
  | .frame msg _ => if acceptedAs msg = some .bmsE000 then some (packVoltageClass msg) else none
  | _ => none

/-- The error bits of the accepted motor frames, oldest first. -/
abbrev motorErrors (bs : List Part) : List UInt8 := bs.filterMap Part.motorError

/-- The last error bits, if the last `MOTOR_ERROR_DEBOUNCE_FRAMES` were all non-zero. -/
def confirmedErrors (errors : List UInt8) : UInt8 :=
  if Debounce.Confirmed (· != 0) MOTOR_ERROR_DEBOUNCE_FRAMES.toNat errors then errors.getLastD 0
  else 0

/-- The voltage class of the last accepted `0xE000` frame. -/
def lastPackFault (bs : List Part) : BmsPackVoltageFault :=
  (bs.filterMap Part.packFault).getLastD .NONE

/-- The bits that stand for a voltage class. -/
def packFaultFlags : BmsPackVoltageFault → UInt8
  | .NONE => 0x00
  | .UNDERVOLTAGE => 0x01
  | .OVERVOLTAGE => 0x02

theorem packFaultFlags_inj {f g : BmsPackVoltageFault} :
    packFaultFlags f = packFaultFlags g ↔ f = g := by
  cases f <;> cases g <;> decide

theorem packFaultFlags_eq_zero_iff {f : BmsPackVoltageFault} :
    packFaultFlags f = 0 ↔ f = .NONE := by
  cases f <;> decide

/-- The events that a manager with a fault reports. -/
def reported (c : CanManager) (fault : Prop) [Decidable fault] : List CAN_Event :=
  if c.CAN_eventCallback = true ∧ fault then [.FAULT_DETECTED] else []

/-! ### What the manager remembers of the faults -/

/-- The members that the fault detection uses. -/
structure FaultView where
  errorFlags : UInt8
  consecutive : UInt16
  packFaultFlags : UInt8
  events : List CAN_Event

def faultView (c : CanManager) : FaultView where
  errorFlags := c.s_telemetryData.TEL_motorErrorFlags
  consecutive := c.CAN_motorErrorConsecutive
  packFaultFlags := c.CAN_bmsPackFaultFlags
  events := c.events

/-- No fault was reported or forgotten. -/
def SameFaults (c c' : CanManager) : Prop := faultView c' = faultView c

/-- The manager remembers the faults among the parts `bs`. -/
structure FaultState (bs : List Part) (c : CanManager) : Prop where
  errorFlags : c.s_telemetryData.TEL_motorErrorFlags = confirmedErrors (motorErrors bs)
  consecutive : c.CAN_motorErrorConsecutive.toNat =
    min 0xFFFF (Debounce.run (· != 0) (motorErrors bs))
  packFault : c.CAN_bmsPackFaultFlags = packFaultFlags (lastPackFault bs)

theorem FaultState.of_faultView {bs bs' : List Part} {c c' : CanManager} (h : FaultState bs c)
    (hview : SameFaults c c') (hmotor : motorErrors bs' = motorErrors bs)
    (hpack : lastPackFault bs' = lastPackFault bs) : FaultState bs' c' where
  errorFlags := by
    rw [hmotor]
    exact (congrArg FaultView.errorFlags hview).trans h.errorFlags
  consecutive := by
    rw [hmotor]
    exact (congrArg (fun v => v.consecutive.toNat) hview).trans h.consecutive
  packFault := by
    rw [hpack]
    exact (congrArg FaultView.packFaultFlags hview).trans h.packFault

/-! ### The debounce -/

/-- The counter stops at its largest value. -/
theorem toNat_motorErrorFaultConfirmed (e : UInt8) (count n : UInt16) :
    (motorErrorFaultConfirmed e count n).2.toNat =
      if e = 0 then 0 else min 0xFFFF (count.toNat + 1) := by
  unfold motorErrorFaultConfirmed
  by_cases he : e = 0
  · rw [if_pos he, if_pos he]
    rfl
  rw [if_neg he, if_neg he]
  dsimp only
  have hle : count.toNat ≤ 0xFFFF := Nat.le_of_lt_succ count.toNat_lt
  split_ifs with hlt
  · have hsmall : count.toNat < 0xFFFF := hlt
    have hone : (1 : UInt16).toNat = 1 := rfl
    rw [UInt16.toNat_add, hone]
    omega
  · have hfull : ¬count.toNat < 0xFFFF := hlt
    omega

theorem motorErrorFaultConfirmed_iff (e : UInt8) (count n : UInt16) :
    (motorErrorFaultConfirmed e count n).1 = true ↔
      e ≠ 0 ∧ n.toNat ≤ (motorErrorFaultConfirmed e count n).2.toNat := by
  unfold motorErrorFaultConfirmed
  by_cases he : e = 0
  · simp [he]
  · rw [if_neg he]
    simp [he, UInt16.le_iff_toNat_le]

section debounce

variable {errors : List UInt8} {count : UInt16}
  (hcount : count.toNat = min 0xFFFF (Debounce.run (· != 0) errors)) (e : UInt8)

include hcount

/-- The counter keeps the number of faulty frames in a row. -/
theorem consecutive_concat :
    (motorErrorFaultConfirmed e count MOTOR_ERROR_DEBOUNCE_FRAMES).2.toNat =
      min 0xFFFF (Debounce.run (· != 0) (errors ++ [e])) := by
  rw [toNat_motorErrorFaultConfirmed, Debounce.run_concat, hcount]
  by_cases he : e = 0
  · simp [he]
  · simp only [he, if_false, bne_iff_ne, ne_eq, not_false_eq_true, if_true]
    omega

/-- What is reported as the error bits are the debounced ones. -/
theorem confirmedErrors_concat :
    (if (motorErrorFaultConfirmed e count MOTOR_ERROR_DEBOUNCE_FRAMES).1 = true then e else 0) =
      confirmedErrors (errors ++ [e]) := by
  have hlimit : MOTOR_ERROR_DEBOUNCE_FRAMES.toNat ≤ 0xFFFF := by decide
  have hlast : (errors ++ [e]).getLastD 0 = e := by simp
  rw [confirmedErrors, hlast]
  refine if_congr ?_ rfl rfl
  rw [motorErrorFaultConfirmed_iff, consecutive_concat hcount,
    ← Debounce.confirmed_iff_le_min hlimit]
  refine and_iff_right_of_imp fun h => ?_
  -- a confirmed fault ends with an error
  have hbad := ((Debounce.confirmed_concat_succ 2 errors e).mp h).1
  exact bne_iff_ne.mp hbad

end debounce

/-! ### One frame -/

/-- A notification reports flags that are set and new. -/
theorem notifyFaultIfNeeded_eq_reported (previous current : UInt8) (c : CanManager) :
    notifyFaultIfNeeded previous current c =
      { c with events := c.events ++ reported c (current ≠ 0 ∧ current ≠ previous) } := by
  unfold notifyFaultIfNeeded reported
  by_cases hsilent : current = 0 ∨ current = previous
  · have hfault : ¬(c.CAN_eventCallback = true ∧ current ≠ 0 ∧ current ≠ previous) :=
      fun h => hsilent.elim h.2.1 h.2.2
    rw [if_pos hsilent, if_neg hfault, List.append_nil]
  · rw [if_neg hsilent]
    rw [not_or] at hsilent
    by_cases hbound : c.CAN_eventCallback = true
    · rw [if_pos hbound, if_pos ⟨hbound, hsilent⟩]
    · rw [if_neg hbound, if_neg (fun h => hbound h.1), List.append_nil]

section handlers

variable {msg : twai_message_t} {tick : UInt32} {c : CanManager}

theorem faultView_handleMessage_of_motor (tick : UInt32) (hmutex : c.s_mutex = true)
    (hmotor : acceptedAs msg = some .motor) {errors : List UInt8}
    (hcount : c.CAN_motorErrorConsecutive.toNat =
      min 0xFFFF (Debounce.run (· != 0) errors)) :
    faultView (handleMessage msg tick c) =
      { errorFlags := confirmedErrors (errors ++ [errorBits msg])
        consecutive := (motorErrorFaultConfirmed (errorBits msg) c.CAN_motorErrorConsecutive
          MOTOR_ERROR_DEBOUNCE_FRAMES).2
        packFaultFlags := c.CAN_bmsPackFaultFlags
        events := c.events ++ reported c (confirmedErrors (errors ++ [errorBits msg]) ≠ 0 ∧
          confirmedErrors (errors ++ [errorBits msg]) ≠ c.s_telemetryData.TEL_motorErrorFlags) } :=
    by
  have h := dispatched msg tick c
  rw [hmotor] at h
  generalize handleMessage msg tick c = c' at h
  cases h with
  | motor hdlc =>
    rw [← confirmedErrors_concat hcount]
    unfold handleMotorStatus parseMotorStatus
    rw [if_neg hdlc]
    dsimp only
    rw [if_neg (by simp [hmutex] : ¬(!c.s_mutex) = true), notifyFaultIfNeeded_eq_reported]
    rfl

theorem packFaultFlags_packVoltageClass :
    ((if packVoltageClass msg = .UNDERVOLTAGE then 0x01 else 0) |||
        (if packVoltageClass msg = .OVERVOLTAGE then 0x02 else 0) : UInt8) =
      packFaultFlags (packVoltageClass msg) := by
  cases packVoltageClass msg <;> decide

theorem faultView_handleMessage_of_bmsE000 (tick : UInt32) (hmutex : c.s_mutex = true)
    (hE000 : acceptedAs msg = some .bmsE000) :
    faultView (handleMessage msg tick c) =
      { errorFlags := c.s_telemetryData.TEL_motorErrorFlags
        consecutive := c.CAN_motorErrorConsecutive
        packFaultFlags := packFaultFlags (packVoltageClass msg)
        events := c.events ++ reported c (packFaultFlags (packVoltageClass msg) ≠ 0 ∧
          packFaultFlags (packVoltageClass msg) ≠ c.CAN_bmsPackFaultFlags) } := by
  have h := dispatched msg tick c
  rw [hE000] at h
  generalize handleMessage msg tick c = c' at h
  cases h with
  | bmsE000 hdlc =>
    rw [← packFaultFlags_packVoltageClass]
    unfold handleLbBmsE000 parseLbBmsE000
    rw [if_neg (by simp [hmutex] : ¬(!c.s_mutex) = true), if_neg hdlc]
    dsimp only
    rw [notifyFaultIfNeeded_eq_reported]
    rfl

/-- **The other frames** report nothing. -/
theorem sameFaults_handleMessage (hmotor : acceptedAs msg ≠ some .motor)
    (hE000 : acceptedAs msg ≠ some .bmsE000) :
    SameFaults c (handleMessage msg tick c) := by
  have h := dispatched msg tick c
  generalize acceptedAs msg = src, handleMessage msg tick c = c' at h hmotor hE000 ⊢
  cases h with
  | ignored => rfl
  | motor => exact absurd rfl hmotor
  | bmsE000 => exact absurd rfl hE000
  | bmsE001 => exact frame faultView (withoutBmsE001_handleLbBmsE001 msg tick c) fun _ => rfl
  | cells k => exact frame faultView (withoutCells_handleCellGroup msg tick c _ k) fun _ => rfl
  | charger => exact frame faultView (withoutCharger_handleCharger1806E5F4 msg tick c) fun _ => rfl

end handlers

/-! ### One part -/

/-- A part that is no frame reports nothing. -/
theorem sameFaults_perform {b : Part} (h : b.isFrame = false) (c : CanManager) :
    SameFaults c (perform c b) :=
  congrArg (fun p : Payload =>
    FaultView.mk p.telemetry.TEL_motorErrorFlags p.motorErrorConsecutive p.bmsPackFaultFlags
      p.events) (payload_perform h c)

theorem motorErrors_concat (bs : List Part) (b : Part) :
    motorErrors (bs ++ [b]) = motorErrors bs ++ b.motorError.toList := by
  rw [motorErrors, List.filterMap_append]
  cases hb : b.motorError <;> simp [hb]

theorem lastPackFault_concat (bs : List Part) (b : Part) :
    lastPackFault (bs ++ [b]) = b.packFault.getD (lastPackFault bs) := by
  rw [lastPackFault, List.filterMap_append]
  cases hb : b.packFault <;> simp [hb, lastPackFault]

section frames

variable {msg : twai_message_t} {tick : UInt32} {c : CanManager} {bs : List Part}

theorem motorErrors_concat_frame :
    motorErrors (bs ++ [.frame msg tick]) =
      if acceptedAs msg = some .motor then motorErrors bs ++ [errorBits msg]
      else motorErrors bs := by
  rw [motorErrors_concat, Part.motorError]
  split_ifs
  · rfl
  · exact List.append_nil _

theorem lastPackFault_concat_frame :
    lastPackFault (bs ++ [.frame msg tick]) =
      if acceptedAs msg = some .bmsE000 then packVoltageClass msg else lastPackFault bs := by
  rw [lastPackFault_concat, Part.packFault]
  split_ifs <;> rfl

/-- A motor frame: the debounced bits, and an event if they are new. -/
theorem FaultState.motor (h : FaultState bs c) (tick : UInt32) (hmutex : c.s_mutex = true)
    (hmotor : acceptedAs msg = some .motor) :
    FaultState (bs ++ [.frame msg tick]) (handleMessage msg tick c) ∧
      (handleMessage msg tick c).events = c.events ++ reported c
        (confirmedErrors (motorErrors bs ++ [errorBits msg]) ≠ 0 ∧
          confirmedErrors (motorErrors bs ++ [errorBits msg]) ≠
            confirmedErrors (motorErrors bs)) := by
  have hview := faultView_handleMessage_of_motor tick hmutex hmotor h.consecutive
  rw [h.errorFlags] at hview
  refine ⟨⟨?_, ?_, ?_⟩, congrArg FaultView.events hview⟩
  · rw [motorErrors_concat_frame, if_pos hmotor]
    exact congrArg FaultView.errorFlags hview
  · rw [motorErrors_concat_frame, if_pos hmotor]
    exact (congrArg (fun v => v.consecutive.toNat) hview).trans
      (consecutive_concat h.consecutive (errorBits msg))
  · rw [lastPackFault_concat_frame, if_neg (by simp [hmotor])]
    exact (congrArg FaultView.packFaultFlags hview).trans h.packFault

/-- An `0xE000` frame: its voltage class, and an event if this is a new fault. -/
theorem FaultState.bmsE000 (h : FaultState bs c) (tick : UInt32) (hmutex : c.s_mutex = true)
    (hE000 : acceptedAs msg = some .bmsE000) :
    FaultState (bs ++ [.frame msg tick]) (handleMessage msg tick c) ∧
      (handleMessage msg tick c).events = c.events ++ reported c
        (packVoltageClass msg ≠ .NONE ∧ packVoltageClass msg ≠ lastPackFault bs) := by
  have hview := faultView_handleMessage_of_bmsE000 tick hmutex hE000
  refine ⟨⟨?_, ?_, ?_⟩, ?_⟩
  · rw [motorErrors_concat_frame, if_neg (by simp [hE000])]
    exact (congrArg FaultView.errorFlags hview).trans h.errorFlags
  · rw [motorErrors_concat_frame, if_neg (by simp [hE000])]
    exact (congrArg (fun v => v.consecutive.toNat) hview).trans h.consecutive
  · rw [lastPackFault_concat_frame, if_pos hE000]
    exact congrArg FaultView.packFaultFlags hview
  · have hevents := congrArg FaultView.events hview
    simp only [ne_eq, packFaultFlags_eq_zero_iff, h.packFault, packFaultFlags_inj] at hevents
    exact hevents

/-- Any other frame. -/
theorem FaultState.other (h : FaultState bs c) (hmotor : acceptedAs msg ≠ some .motor)
    (hE000 : acceptedAs msg ≠ some .bmsE000) :
    FaultState (bs ++ [.frame msg tick]) (handleMessage msg tick c) := by
  refine h.of_faultView (sameFaults_handleMessage hmotor hE000) ?_ ?_
  · rw [motorErrors_concat_frame, if_neg hmotor]
  · rw [lastPackFault_concat_frame, if_neg hE000]

end frames

/-- **One part**: the faults stay remembered. -/
theorem FaultState.perform {bs : List Part} {c : CanManager} (h : FaultState bs c) {b : Part}
    (hready : Ready c b) : FaultState (bs ++ [b]) (perform c b) := by
  cases b with
  | frame msg tick =>
    by_cases hmotor : acceptedAs msg = some .motor
    · exact (h.motor tick hready hmotor).1
    by_cases hE000 : acceptedAs msg = some .bmsE000
    · exact (h.bmsE000 tick hready hE000).1
    · exact h.other hmotor hE000
  | _ =>
    refine h.of_faultView (sameFaults_perform rfl c) ?_ ?_
    · exact (motorErrors_concat bs _).trans (List.append_nil _)
    · exact lastPackFault_concat bs _

/-! ### Runs -/

/-- The manager after the parts `bs`. -/
abbrev reached (bs : List Part) : CanManager := Machine.exec perform {} bs

/-- **Every run** remembers the faults it has seen. -/
theorem faultState_reached {as : List Action} {pre post : List Part}
    (h : partsOf as = pre ++ post) : FaultState pre (reached pre) := by
  have halong : Machine.Along perform Ready {} (pre ++ post) := h ▸ along_partsOf as
  exact Machine.exec_history_of_along FaultState ⟨rfl, rfl, rfl⟩
    (fun _ _ _ hstate hready => hstate.perform hready) ((Machine.along_append _ _ _).mp halong).1

/-- **The fault events are exact**: in every run, after an accepted motor frame the error flags are
the debounced error bits, and the frame is reported when these are set and new; an accepted `0xE000`
frame is reported when its voltage class is a fault and new; no other frame is reported. -/
theorem faultEvents_exact {as : List Action} {pre post : List Part} {msg : twai_message_t}
    {tick : UInt32} (h : partsOf as = pre ++ .frame msg tick :: post) :
    (acceptedAs msg = some .motor →
      (reached (pre ++ [.frame msg tick])).s_telemetryData.TEL_motorErrorFlags =
          confirmedErrors (motorErrors pre ++ [errorBits msg]) ∧
        (reached (pre ++ [.frame msg tick])).events =
          (reached pre).events ++ reported (reached pre)
            (confirmedErrors (motorErrors pre ++ [errorBits msg]) ≠ 0 ∧
              confirmedErrors (motorErrors pre ++ [errorBits msg]) ≠
                confirmedErrors (motorErrors pre))) ∧
      (acceptedAs msg = some .bmsE000 →
        (reached (pre ++ [.frame msg tick])).events =
          (reached pre).events ++ reported (reached pre)
            (packVoltageClass msg ≠ .NONE ∧ packVoltageClass msg ≠ lastPackFault pre)) ∧
      (acceptedAs msg ≠ some .motor → acceptedAs msg ≠ some .bmsE000 →
        (reached (pre ++ [.frame msg tick])).events = (reached pre).events) := by
  have hstate := faultState_reached h
  have hmutex := mutex_of_partsOf h
  have hlast : reached (pre ++ [.frame msg tick]) = handleMessage msg tick (reached pre) :=
    Machine.exec_concat _ _ _
  rw [hlast]
  refine ⟨fun hmotor => ?_, fun hE000 => ?_, fun hmotor hE000 => ?_⟩
  · obtain ⟨hnext, hevents⟩ := hstate.motor tick hmutex hmotor
    have hflags := hnext.errorFlags
    rw [motorErrors_concat_frame, if_pos hmotor] at hflags
    exact ⟨hflags, hevents⟩
  · exact (hstate.bmsE000 tick hmutex hE000).2
  · exact congrArg FaultView.events (sameFaults_handleMessage hmotor hE000)

/-- A motor frame with an error bit. -/
def errorMessage : twai_message_t where
  identifier := CAN_ID_MOTOR_STATUS
  data _ := 2

/-- The third error in a row is reported. -/
theorem faultEvents_exact_third_error :
    let pre : List Part :=
      [.begin true true, .setEventCallback true, .frame errorMessage 0, .frame errorMessage 0]
    (reached (pre ++ [.frame errorMessage 0])).s_telemetryData.TEL_motorErrorFlags = 2 ∧
      (reached (pre ++ [.frame errorMessage 0])).events = [.FAULT_DETECTED] := by
  intro pre
  have hparts : partsOf [.begin true true, .setEventCallback true,
      .processRxMessages (messagePoll [errorMessage, errorMessage, errorMessage])] =
      pre ++ .frame errorMessage 0 ::
        [.validity (messagePoll [errorMessage, errorMessage, errorMessage])] := rfl
  obtain ⟨hflags, hevents⟩ := (faultEvents_exact hparts).1 (by decide)
  exact ⟨hflags.trans (by decide), hevents.trans (by decide)⟩

end TufanAks.CanManager

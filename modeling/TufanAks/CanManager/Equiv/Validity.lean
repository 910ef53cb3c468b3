import TufanAks.CanManager.Equiv.CellVoltage
import TufanAks.Word.Ticks

/-!
# The validity flags and the latest accepted frames

Every source of data leaves a stamp in the manager, the tick of its latest accepted frame
(`stamp`), and the four groups of data have a validity flag each (`valid`).  `Handled` lists what
one received frame can do to the manager; from it come the stamps of a whole run (`stamp_after`:
they are the ticks of the frames last accepted) and the frame rule `received_drain` (a flag is only
raised by a frame of its own group).

* `flagsRight_of_poll`: after every poll, the BMS flags say exactly whether the two BMS frames are
  fresh or stale, and no group is valid and timed out at once.
* `noRevival_iff`: data that was lost comes back only with a new frame, except for the BMS data,
  whose flag is computed again from the ticks on every call and comes back when the tick counter
  has gone round.
-/

namespace TufanAks.CanManager

open CanParse

/-! ### Sources and groups -/

/-- The sources whose frames the manager times; the six cell frames share one tick. -/
inductive Source
  | motor
  | bmsE000
  | bmsE001
  | cells
  | charger
  deriving DecidableEq, Repr

/-- The groups of data that are valid or not as a whole. -/
inductive Group
  | motor
  | bms
  | cells
  | charger
  deriving DecidableEq, Repr

/-- The group whose data a source carries. -/
def Source.group : Source → Group
  | .motor => .motor
  | .bmsE000 => .bms
  | .bmsE001 => .bms
  | .cells => .cells
  | .charger => .charger

/-- The source as a frame of which a message is accepted: a data frame with one of the known
identifiers and a payload that is long enough. -/
def acceptedAs (msg : twai_message_t) : Option Source :=
  if msg.rtr then none
  else if msg.extd then
    if msg.identifier = CAN_ID_LB_CHARGER_CMD then
      if msg.data_length_code < 4 then none else some .charger
    else if msg.data_length_code < 8 then none
    else if msg.identifier = CAN_ID_LB_BMS_E000 then some .bmsE000
    else if msg.identifier = CAN_ID_LB_BMS_E001 then some .bmsE001
    else if ∃ k, msg.identifier = cellId k then some .cells
    else none
  else if msg.identifier = CAN_ID_MOTOR_STATUS ∧ ¬msg.data_length_code < 8 then some .motor
  else none

/-- The tick of the latest frame of a source, as the manager remembers it. -/
def stamp (c : CanManager) : Source → Option UInt32
  | .motor => if c.CAN_hasSeenMotorStatus then some c.CAN_lastMotorStatusTick else none
  | .bmsE000 => if c.CAN_hasSeen_BmsE000 then some c.CAN_lastBmsE000Tick else none
  | .bmsE001 => if c.CAN_hasSeen_BmsE001 then some c.CAN_lastBmsE001Tick else none
  | .cells => if c.CAN_hasSeen_CellVoltage then some c.CAN_lastCellVoltageTick else none
  | .charger => if c.CAN_hasSeenCharger then some c.CAN_lastChargerTick else none

/-- The validity flag of a group. -/
def valid (c : CanManager) : Group → Bool
  | .motor => c.s_telemetryData.TEL_motorDataValid
  | .bms => c.s_telemetryData.TEL_bmsDataValid
  | .cells => c.s_telemetryData.TEL_cellVoltageDataValid
  | .charger => c.CAN_chargerValid

/-- The timeout flag of a group; the charger has none. -/
def timedOut (c : CanManager) : Group → Bool
  | .motor => c.s_telemetryData.TEL_motorTimeoutActive
  | .bms => c.s_telemetryData.TEL_bmsTimeoutActive
  | .cells => c.s_telemetryData.TEL_cellVoltageTimeoutActive
  | .charger => false

/-! ### One frame -/

/-- The six flags of the telemetry record. -/
structure Flags where
  motorDataValid : Bool
  motorTimeoutActive : Bool
  bmsDataValid : Bool
  bmsTimeoutActive : Bool
  cellVoltageDataValid : Bool
  cellVoltageTimeoutActive : Bool

def flags (d : TelemetryData) : Flags where
  motorDataValid := d.TEL_motorDataValid
  motorTimeoutActive := d.TEL_motorTimeoutActive
  bmsDataValid := d.TEL_bmsDataValid
  bmsTimeoutActive := d.TEL_bmsTimeoutActive
  cellVoltageDataValid := d.TEL_cellVoltageDataValid
  cellVoltageTimeoutActive := d.TEL_cellVoltageTimeoutActive

/-- What a frame received at `tick` does to an initialized manager, by the source it is accepted
from. -/
inductive Handled (tick : UInt32) (c : CanManager) : Option Source → CanManager → Prop
  | ignored (remoteFrames : UInt32) :
      Handled tick c none { c with CAN_rxRemoteFrameCount := remoteFrames }
  | motor (status : MotorStatus) (count : UInt16) (events : List CAN_Event) (d : TelemetryData)
      (hd : flags d =
        { flags c.s_telemetryData with motorDataValid := true, motorTimeoutActive := false }) :
      Handled tick c (some .motor)
        { c with
          s_motorStatus := status
          CAN_lastMotorStatusTick := tick
          CAN_hasSeenMotorStatus := true
          CAN_motorTimeoutLogged := false
          CAN_motorErrorConsecutive := count
          s_telemetryData := d
          events := events }
  | bmsE000 (fault : UInt8) (events : List CAN_Event) (d : TelemetryData)
      (hd : flags d = flags c.s_telemetryData) :
      Handled tick c (some .bmsE000)
        { c with
          s_telemetryData := d
          CAN_lastBmsE000Tick := tick
          CAN_hasSeen_BmsE000 := true
          CAN_bmsPackFaultFlags := fault
          events := events }
  | bmsE001 (d : TelemetryData) (hd : flags d = flags c.s_telemetryData) :
      Handled tick c (some .bmsE001)
        { c with
          s_telemetryData := d
          CAN_lastBmsE001Tick := tick
          CAN_hasSeen_BmsE001 := true }
  | cells (mask : UInt8) (complete : Bool) (d : TelemetryData) (valid : Bool)
      (hd : flags d = { flags c.s_telemetryData with cellVoltageDataValid := valid }) :
      Handled tick c (some .cells)
        { c with
          s_telemetryData := d
          CAN_lastCellVoltageTick := tick
          CAN_hasSeen_CellVoltage := true
          CAN_cellVoltageSeenMask := mask
          CAN_cellVoltageComplete := complete }
  | charger (command : ChargerCommand) :
      Handled tick c (some .charger)
        { c with
          s_chargerCommand := command
          CAN_lastChargerTick := tick
          CAN_hasSeenCharger := true
          CAN_chargerValid := true
          CAN_chargerStaleLogged := false }

section handlers

variable {msg : twai_message_t} {tick : UInt32} {c : CanManager}

theorem handled_handleMotorStatus (hmutex : c.s_mutex = true) (hdlc : ¬msg.data_length_code < 8) :
    Handled tick c (some .motor) (handleMotorStatus msg tick c) := by
  unfold handleMotorStatus parseMotorStatus
  rw [if_neg hdlc]
  dsimp only
  rw [if_neg (by simp [hmutex] : ¬(!c.s_mutex) = true)]
  obtain ⟨events, h⟩ := notifyFaultIfNeeded_eq c.s_telemetryData.TEL_motorErrorFlags _ _
  rw [h]
  exact .motor _ _ events _ rfl

theorem handled_handleLbBmsE000 (hmutex : c.s_mutex = true) (hdlc : ¬msg.data_length_code < 8) :
    Handled tick c (some .bmsE000) (handleLbBmsE000 msg tick c) := by
  unfold handleLbBmsE000 parseLbBmsE000
  rw [if_neg (by simp [hmutex] : ¬(!c.s_mutex) = true), if_neg hdlc]
  dsimp only
  obtain ⟨events, h⟩ := notifyFaultIfNeeded_eq c.CAN_bmsPackFaultFlags _ _
  rw [h]
  exact .bmsE000 _ events _ rfl

theorem handled_handleLbBmsE001 (hmutex : c.s_mutex = true) (hdlc : ¬msg.data_length_code < 8) :
    Handled tick c (some .bmsE001) (handleLbBmsE001 msg tick c) := by
  unfold handleLbBmsE001 parseLbBmsE001
  rw [if_neg (by simp [hmutex] : ¬(!c.s_mutex) = true), if_neg hdlc]
  exact .bmsE001 _ rfl

theorem handled_handleCellGroup (first k : ℕ) (hdlc : ¬msg.data_length_code < 8) :
    Handled tick c (some .cells) (handleCellGroup (parseCellGroup first) k msg tick c) := by
  unfold handleCellGroup parseCellGroup
  rw [if_neg hdlc]
  exact .cells _ _ _ _ rfl

theorem handled_handleCharger1806E5F4 (hmutex : c.s_mutex = true)
    (hdlc : ¬msg.data_length_code < 4) :
    Handled tick c (some .charger) (handleCharger1806E5F4 msg tick c) := by
  unfold handleCharger1806E5F4 parseCharger1806E5F4
  rw [if_neg (by simp [hmutex] : ¬(!c.s_mutex) = true), if_neg hdlc]
  exact .charger _

theorem acceptedAs_of_extd (hrtr : msg.rtr = false) (hext : msg.extd = true) :
    acceptedAs msg =
      if msg.identifier = CAN_ID_LB_CHARGER_CMD then
        if msg.data_length_code < 4 then none else some .charger
      else if msg.data_length_code < 8 then none
      else if msg.identifier = CAN_ID_LB_BMS_E000 then some .bmsE000
      else if msg.identifier = CAN_ID_LB_BMS_E001 then some .bmsE001
      else if ∃ k, msg.identifier = cellId k then some .cells
      else none := by
  rw [acceptedAs, hrtr, hext]
  rfl

theorem acceptedAs_of_not_extd (hrtr : msg.rtr = false) (hext : msg.extd = false) :
    acceptedAs msg =
      if msg.identifier = CAN_ID_MOTOR_STATUS ∧ ¬msg.data_length_code < 8 then some .motor
      else none := by
  rw [acceptedAs, hrtr, hext]
  rfl

/-- An extended frame with none of the identifiers of the cells. -/
theorem dispatch_of_not_cellId (hext : msg.extd = true)
    (hcell : ¬∃ k, msg.identifier = cellId k) :
    dispatch msg tick c =
      if msg.identifier = CAN_ID_LB_BMS_E000 then handleLbBmsE000 msg tick c
      else if msg.identifier = CAN_ID_LB_CHARGER_CMD then handleCharger1806E5F4 msg tick c
      else if msg.identifier = CAN_ID_LB_BMS_E001 then handleLbBmsE001 msg tick c
      else c := by
  rw [not_exists] at hcell
  have h0 : msg.identifier ≠ CAN_ID_LB_BMS_E015 := hcell 0
  have h1 : msg.identifier ≠ CAN_ID_LB_BMS_E016 := hcell 1
  have h2 : msg.identifier ≠ CAN_ID_LB_BMS_E017 := hcell 2
  have h3 : msg.identifier ≠ CAN_ID_LB_BMS_E018 := hcell 3
  have h4 : msg.identifier ≠ CAN_ID_LB_BMS_E019 := hcell 4
  have h5 : msg.identifier ≠ CAN_ID_LB_BMS_E020 := hcell 5
  unfold dispatch
  rw [if_pos hext, if_neg h0, if_neg h1, if_neg h2, if_neg h3, if_neg h4, if_neg h5]

/-- A cell frame is accepted from the cells. -/
theorem acceptedAs_of_cellFrame {k : Fin 6} (h : cellFrame msg = some k) :
    acceptedAs msg = some .cells := by
  obtain ⟨hrtr, hext, hdlc, hid⟩ := cellFrame_eq_some h
  have hne : ∀ k, cellId k ≠ CAN_ID_LB_CHARGER_CMD ∧ cellId k ≠ CAN_ID_LB_BMS_E000 ∧
      cellId k ≠ CAN_ID_LB_BMS_E001 := by decide
  obtain ⟨hcharger, hE000, hE001⟩ := hne k
  have hmem : ∃ j, cellId k = cellId j := ⟨k, rfl⟩
  rw [acceptedAs_of_extd hrtr hext, hid, if_neg hcharger, if_neg hdlc, if_neg hE000, if_neg hE001,
    if_pos hmem]

/-- The function that handles a frame, by the source it is accepted from. -/
inductive Dispatched (msg : twai_message_t) (tick : UInt32) (c : CanManager) :
    Option Source → CanManager → Prop
  | ignored (remoteFrames : UInt32) :
      Dispatched msg tick c none { c with CAN_rxRemoteFrameCount := remoteFrames }
  | motor : ¬msg.data_length_code < 8 →
      Dispatched msg tick c (some .motor) (handleMotorStatus msg tick c)
  | bmsE000 : ¬msg.data_length_code < 8 →
      Dispatched msg tick c (some .bmsE000) (handleLbBmsE000 msg tick c)
  | bmsE001 : ¬msg.data_length_code < 8 →
      Dispatched msg tick c (some .bmsE001) (handleLbBmsE001 msg tick c)
  | cells (k : Fin 6) : cellFrame msg = some k →
      Dispatched msg tick c (some .cells) (handleCellGroup (parseCellGroup (4 * k)) k msg tick c)
  | charger : ¬msg.data_length_code < 4 →
      Dispatched msg tick c (some .charger) (handleCharger1806E5F4 msg tick c)

/-- A frame that is dropped leaves the manager as it is. -/
theorem dispatched_self : Dispatched msg tick c none c := .ignored c.CAN_rxRemoteFrameCount

theorem handleMotorStatus_of_short (h : msg.data_length_code < 8) :
    handleMotorStatus msg tick c = c := by
  unfold handleMotorStatus parseMotorStatus
  rw [if_pos h]

theorem handleLbBmsE000_of_short (h : msg.data_length_code < 8) :
    handleLbBmsE000 msg tick c = c := by
  unfold handleLbBmsE000 parseLbBmsE000
  rw [if_pos h]
  exact ite_self c

theorem handleLbBmsE001_of_short (h : msg.data_length_code < 8) :
    handleLbBmsE001 msg tick c = c := by
  unfold handleLbBmsE001 parseLbBmsE001
  rw [if_pos h]
  exact ite_self c

theorem handleCharger1806E5F4_of_short (h : msg.data_length_code < 4) :
    handleCharger1806E5F4 msg tick c = c := by
  unfold handleCharger1806E5F4 parseCharger1806E5F4
  rw [if_pos h]
  exact ite_self c

/-- An extended frame goes to the handler of its source. -/
theorem dispatched_of_extd (hrtr : msg.rtr = false) (hext : msg.extd = true) :
    Dispatched msg tick c (acceptedAs msg) (dispatch msg tick c) := by
  by_cases hcell : ∃ k, msg.identifier = cellId k
  · obtain ⟨k, hid⟩ := hcell
    rw [dispatch_cellId hext hid]
    by_cases hdlc : msg.data_length_code < 8
    · have hcharger : ∀ k, cellId k ≠ CAN_ID_LB_CHARGER_CMD := by decide
      rw [acceptedAs_of_extd hrtr hext, hid, if_neg (hcharger k), if_pos hdlc, handleCellGroup,
        (parseCellGroup_eq_none_iff (4 * k) msg {}).mpr hdlc]
      exact dispatched_self
    · have hframe := cellFrame_of_cellId hrtr hext hdlc hid
      rw [acceptedAs_of_cellFrame hframe]
      exact .cells k hframe
  rw [acceptedAs_of_extd hrtr hext, dispatch_of_not_cellId hext hcell, if_neg hcell]
  by_cases hE000 : msg.identifier = CAN_ID_LB_BMS_E000
  · have hcharger : CAN_ID_LB_BMS_E000 ≠ CAN_ID_LB_CHARGER_CMD := by decide
    rw [if_pos hE000, hE000, if_neg hcharger, if_pos rfl]
    by_cases hdlc : msg.data_length_code < 8
    · rw [if_pos hdlc, handleLbBmsE000_of_short hdlc]
      exact dispatched_self
    · rw [if_neg hdlc]
      exact .bmsE000 hdlc
  rw [if_neg hE000, if_neg hE000]
  by_cases hcharger : msg.identifier = CAN_ID_LB_CHARGER_CMD
  · rw [if_pos hcharger, if_pos hcharger]
    by_cases hdlc : msg.data_length_code < 4
    · rw [if_pos hdlc, handleCharger1806E5F4_of_short hdlc]
      exact dispatched_self
    · rw [if_neg hdlc]
      exact .charger hdlc
  rw [if_neg hcharger, if_neg hcharger]
  by_cases hE001 : msg.identifier = CAN_ID_LB_BMS_E001
  · rw [if_pos hE001, if_pos hE001]
    by_cases hdlc : msg.data_length_code < 8
    · rw [if_pos hdlc, handleLbBmsE001_of_short hdlc]
      exact dispatched_self
    · rw [if_neg hdlc]
      exact .bmsE001 hdlc
  · rw [if_neg hE001, if_neg hE001, ite_self]
    exact dispatched_self

/-- **One frame** goes to the handler of the source it is accepted from. -/
theorem dispatched (msg : twai_message_t) (tick : UInt32) (c : CanManager) :
    Dispatched msg tick c (acceptedAs msg) (handleMessage msg tick c) := by
  unfold handleMessage
  cases hrtr : msg.rtr with
  | true =>
    rw [acceptedAs, if_pos hrtr]
    exact .ignored _
  | false =>
    rw [if_neg Bool.false_ne_true]
    cases hext : msg.extd with
    | true => exact dispatched_of_extd hrtr hext
    | false =>
      rw [acceptedAs_of_not_extd hrtr hext]
      unfold dispatch
      rw [hext, if_neg Bool.false_ne_true]
      by_cases hid : msg.identifier = CAN_ID_MOTOR_STATUS
      · rw [if_pos hid]
        by_cases hdlc : msg.data_length_code < 8
        · rw [if_neg (fun h => h.2 hdlc), handleMotorStatus_of_short hdlc]
          exact dispatched_self
        · rw [if_pos ⟨hid, hdlc⟩]
          exact .motor hdlc
      · rw [if_neg hid, if_neg (fun h => hid h.1)]
        exact dispatched_self

/-- What a frame does, by the source it is accepted from. -/
theorem handled_handleMessage (hmutex : c.s_mutex = true) (msg : twai_message_t) (tick : UInt32) :
    Handled tick c (acceptedAs msg) (handleMessage msg tick c) := by
  have h := dispatched msg tick c
  generalize acceptedAs msg = src, handleMessage msg tick c = c' at h ⊢
  cases h with
  | ignored remoteFrames => exact .ignored remoteFrames
  | motor hdlc => exact handled_handleMotorStatus hmutex hdlc
  | bmsE000 hdlc => exact handled_handleLbBmsE000 hmutex hdlc
  | bmsE001 hdlc => exact handled_handleLbBmsE001 hmutex hdlc
  | cells k hframe => exact handled_handleCellGroup (4 * k) k (cellFrame_eq_some hframe).2.2.1
  | charger hdlc => exact handled_handleCharger1806E5F4 hmutex hdlc

end handlers

/-! ### The receive loop -/

/-- The ticks of the latest frames after one more frame. -/
def record (h : Source → Option UInt32) (e : Source × UInt32) : Source → Option UInt32 :=
  Function.update h e.1 (some e.2)

/-- The frames that the receive loop accepts, with the ticks at which it does. -/
def acceptedFrames : ℕ → List Reception → List (Source × UInt32)
  | 0, _ => []
  | _ + 1, [] => []
  | n + 1, rx :: rest =>
    match rx.result with
    | .timeout => []
    | .error => []
    | .message msg => ((acceptedAs msg).map (·, rx.tick)).toList ++ acceptedFrames n rest

/-- From `c` to `c'` the frames `l` have been accepted. -/
structure Received (c : CanManager) (l : List (Source × UInt32)) (c' : CanManager) : Prop where
  mutex : c'.s_mutex = c.s_mutex
  initialized : c'.isInitialized = c.isInitialized
  stamps : stamp c' = l.foldl record (stamp c)
  valid_eq : ∀ g, (∀ e ∈ l, e.1.group ≠ g) → valid c' g = valid c g
  motor : ¬(valid c .motor = true ∧ timedOut c .motor = true) →
    ¬(valid c' .motor = true ∧ timedOut c' .motor = true)

theorem Received.refl (c : CanManager) : Received c [] c :=
  ⟨rfl, rfl, rfl, fun _ _ => rfl, id⟩

theorem Received.trans {c c₁ c₂ : CanManager} {l l' : List (Source × UInt32)}
    (h : Received c l c₁) (h' : Received c₁ l' c₂) : Received c (l ++ l') c₂ where
  mutex := h'.mutex.trans h.mutex
  initialized := h'.initialized.trans h.initialized
  stamps := by rw [h'.stamps, h.stamps, List.foldl_append]
  valid_eq g hg := by
    have hl : ∀ e ∈ l, e.1.group ≠ g := fun e he => hg e (List.mem_append_left _ he)
    have hl' : ∀ e ∈ l', e.1.group ≠ g := fun e he => hg e (List.mem_append_right _ he)
    rw [h'.valid_eq g hl', h.valid_eq g hl]
  motor := h'.motor ∘ h.motor

/-- The flags of a record that agrees with that of `c` in all six of them. -/
theorem valid_of_flags {c c' : CanManager} (h : flags c'.s_telemetryData = flags c.s_telemetryData)
    (hcharger : c'.CAN_chargerValid = c.CAN_chargerValid) (g : Group) : valid c' g = valid c g := by
  cases g with
  | motor => exact congrArg Flags.motorDataValid h
  | bms => exact congrArg Flags.bmsDataValid h
  | cells => exact congrArg Flags.cellVoltageDataValid h
  | charger => exact hcharger

theorem timedOut_of_flags {c c' : CanManager}
    (h : flags c'.s_telemetryData = flags c.s_telemetryData) (g : Group) :
    timedOut c' g = timedOut c g := by
  cases g with
  | motor => exact congrArg Flags.motorTimeoutActive h
  | bms => exact congrArg Flags.bmsTimeoutActive h
  | cells => exact congrArg Flags.cellVoltageTimeoutActive h
  | charger => rfl

/-- Frames that keep the flags. -/
theorem Received.of_flags {c c' : CanManager} {l : List (Source × UInt32)}
    (hmutex : c'.s_mutex = c.s_mutex) (hinit : c'.isInitialized = c.isInitialized)
    (hstamps : stamp c' = l.foldl record (stamp c))
    (hflags : flags c'.s_telemetryData = flags c.s_telemetryData)
    (hcharger : c'.CAN_chargerValid = c.CAN_chargerValid) : Received c l c' where
  mutex := hmutex
  initialized := hinit
  stamps := hstamps
  valid_eq g _ := valid_of_flags hflags hcharger g
  motor h := by rwa [valid_of_flags hflags hcharger, timedOut_of_flags hflags]

/-- One frame is received from the source it is accepted from. -/
theorem Handled.received {tick : UInt32} {c c' : CanManager} {src : Option Source}
    (h : Handled tick c src c') : Received c (src.map (·, tick)).toList c' := by
  cases h with
  | ignored => exact .of_flags rfl rfl rfl rfl rfl
  | motor status count events d hd =>
    refine ⟨rfl, rfl, ?_, ?_, ?_⟩
    · funext s
      cases s <;> rfl
    · intro g hg
      have hne : Group.motor ≠ g := hg (.motor, tick) (by simp)
      cases g with
      | motor => exact absurd rfl hne
      | bms => exact congrArg Flags.bmsDataValid hd
      | cells => exact congrArg Flags.cellVoltageDataValid hd
      | charger => rfl
    · rintro - ⟨-, htimeout⟩
      have hfalse : d.TEL_motorTimeoutActive = false := congrArg Flags.motorTimeoutActive hd
      exact absurd (htimeout.symm.trans hfalse) (by decide)
  | bmsE000 fault events d hd =>
    refine .of_flags rfl rfl ?_ hd rfl
    funext s
    cases s <;> rfl
  | bmsE001 d hd =>
    refine .of_flags rfl rfl ?_ hd rfl
    funext s
    cases s <;> rfl
  | cells mask complete d valid hd =>
    refine ⟨rfl, rfl, ?_, ?_, ?_⟩
    · funext s
      cases s <;> rfl
    · intro g hg
      have hne : Group.cells ≠ g := hg (.cells, tick) (by simp)
      cases g with
      | motor => exact congrArg Flags.motorDataValid hd
      | bms => exact congrArg Flags.bmsDataValid hd
      | cells => exact absurd rfl hne
      | charger => rfl
    · have hvalid : d.TEL_motorDataValid = c.s_telemetryData.TEL_motorDataValid :=
        congrArg Flags.motorDataValid hd
      have htimeout : d.TEL_motorTimeoutActive = c.s_telemetryData.TEL_motorTimeoutActive :=
        congrArg Flags.motorTimeoutActive hd
      rintro h ⟨hv, ht⟩
      exact h ⟨hvalid.symm.trans hv, htimeout.symm.trans ht⟩
  | charger command =>
    refine ⟨rfl, rfl, ?_, ?_, id⟩
    · funext s
      cases s <;> rfl
    · intro g hg
      have hne : Group.charger ≠ g := hg (.charger, tick) (by simp)
      cases g with
      | motor => rfl
      | bms => rfl
      | cells => rfl
      | charger => exact absurd rfl hne

/-- **The receive loop** receives the frames that it accepts. -/
theorem received_drain (n : ℕ) (rxs : List Reception) {c : CanManager} (hmutex : c.s_mutex = true) :
    Received c (acceptedFrames n rxs) (drain n rxs c) := by
  induction n generalizing rxs c with
  | zero => exact .refl c
  | succ n ih =>
    rcases rxs with _ | ⟨rx, rest⟩
    · exact .refl c
    unfold drain acceptedFrames
    rcases rx.result with msg | _ | _
    · have hframe := (handled_handleMessage hmutex msg rx.tick).received
      exact hframe.trans (ih rest (hframe.mutex.trans hmutex))
    · exact .refl c
    · exact .refl c

/-- The alerts receive nothing. -/
theorem received_handleAlerts (a : Alerts) (c : CanManager) : Received c [] (handleAlerts a c) := by
  unfold handleAlerts
  dsimp only
  split_ifs <;> exact .of_flags rfl rfl rfl rfl rfl

/-! ### The validity updates -/

/-- A validity update of the group `g`: it leaves the stamps and the other groups alone. -/
structure Updated (g : Group) (c c' : CanManager) : Prop where
  mutex : c'.s_mutex = c.s_mutex
  initialized : c'.isInitialized = c.isInitialized
  stamps : stamp c' = stamp c
  valid_eq : ∀ g' ≠ g, valid c' g' = valid c g'
  timedOut_eq : ∀ g' ≠ g, timedOut c' g' = timedOut c g'

theorem Updated.refl (g : Group) (c : CanManager) : Updated g c c :=
  ⟨rfl, rfl, rfl, fun _ _ => rfl, fun _ _ => rfl⟩

/-- Both flags of each other group are kept. -/
theorem Updated.of_others {g : Group} {c c' : CanManager} (hmutex : c'.s_mutex = c.s_mutex)
    (hinit : c'.isInitialized = c.isInitialized) (hstamps : stamp c' = stamp c)
    (h : ∀ g' ≠ g, (valid c' g', timedOut c' g') = (valid c g', timedOut c g')) :
    Updated g c c' where
  mutex := hmutex
  initialized := hinit
  stamps := hstamps
  valid_eq g' hg := congrArg Prod.fst (h g' hg)
  timedOut_eq g' hg := congrArg Prod.snd (h g' hg)

section updates

variable (now : UInt32) (c : CanManager)

theorem updated_updateMotorStatusValidity :
    Updated .motor c (updateMotorStatusValidity now c) := by
  unfold updateMotorStatusValidity
  split_ifs
  · exact .refl _ c
  · refine .of_others rfl rfl rfl fun g hg => ?_
    cases g <;> first | rfl | exact absurd rfl hg
  · exact .refl _ c

/-- The motor data is only invalidated, and then it is timed out. -/
theorem valid_updateMotorStatusValidity :
    (valid (updateMotorStatusValidity now c) .motor = true → valid c .motor = true) ∧
      (¬(valid c .motor = true ∧ timedOut c .motor = true) →
        ¬(valid (updateMotorStatusValidity now c) .motor = true ∧
          timedOut (updateMotorStatusValidity now c) .motor = true)) := by
  unfold updateMotorStatusValidity
  split_ifs
  · exact ⟨id, id⟩
  · exact ⟨fun h => absurd h (by simp [valid]), fun _ h => absurd h.1 (by simp [valid])⟩
  · exact ⟨id, id⟩

theorem updated_updateBmsValidity : Updated .bms c (updateBmsValidity now c) := by
  unfold updateBmsValidity
  split_ifs
  · exact .refl _ c
  · refine .of_others rfl rfl rfl fun g hg => ?_
    cases g <;> first | rfl | exact absurd rfl hg

theorem updated_updateCellVoltageValidity :
    Updated .cells c (updateCellVoltageValidity now c) := by
  unfold updateCellVoltageValidity
  split_ifs
  · exact .refl _ c
  all_goals
    refine .of_others rfl rfl rfl fun g hg => ?_
    cases g <;> first | rfl | exact absurd rfl hg

/-- The cell data is only invalidated, and it is not both valid and timed out after the check. -/
theorem valid_updateCellVoltageValidity :
    (valid (updateCellVoltageValidity now c) .cells = true → valid c .cells = true) ∧
      (c.s_mutex = true → ¬(valid (updateCellVoltageValidity now c) .cells = true ∧
        timedOut (updateCellVoltageValidity now c) .cells = true)) := by
  unfold updateCellVoltageValidity
  split_ifs with hmutex hstale hvalid hvalid
  · exact ⟨id, fun h => absurd h (by simpa using hmutex)⟩
  · exact ⟨fun h => absurd h (by simp [valid]), fun _ h => absurd h.1 (by simp [valid])⟩
  · exact ⟨fun h => h, fun _ h => hvalid h.1⟩
  · exact ⟨fun h => h, fun _ h => absurd h.2 (by simp [timedOut])⟩
  · exact ⟨fun h => h, fun _ h => hvalid h.1⟩

theorem updated_updateChargerValidity : Updated .charger c (updateChargerValidity now c) := by
  unfold updateChargerValidity
  split_ifs
  · exact .refl _ c
  · refine .of_others rfl rfl rfl fun g hg => ?_
    cases g <;> first | rfl | exact absurd rfl hg
  · exact .refl _ c

theorem valid_updateChargerValidity
    (h : valid (updateChargerValidity now c) .charger = true) : valid c .charger = true := by
  unfold updateChargerValidity at h
  split_ifs at h
  · exact h
  · exact absurd h (by simp [valid])
  · exact h

end updates

/-! ### Fresh and stale stamps -/

/-- `CAN_BMS_STATUS_TIMEOUT_MS` in ticks. -/
abbrev bmsTimeout : UInt32 := pdMS_TO_TICKS CAN_BMS_STATUS_TIMEOUT_MS

/-- A source with the latest tick `last` has been heard of, less than the BMS timeout before
`now`; ages are differences of 32-bit ticks. -/
def Young (last : Option UInt32) (now : UInt32) : Prop :=
  ∃ t, last = some t ∧ now - t < bmsTimeout

/-- A source with the latest tick `last` has been heard of, but not since the BMS timeout. -/
def Old (last : Option UInt32) (now : UInt32) : Prop :=
  ∃ t, last = some t ∧ bmsTimeout ≤ now - t

theorem bms_id_fresh_iff (seen : Bool) (now last : UInt32) :
    bms_id_fresh seen now last bmsTimeout = true ↔
      Young (if seen then some last else none) now := by
  cases seen
  · simp [bms_id_fresh, Young]
  · simp [bms_id_fresh, Young]

theorem stale_iff (seen : Bool) (now last : UInt32) :
    (seen && !bms_id_fresh seen now last bmsTimeout) = true ↔
      Old (if seen then some last else none) now := by
  cases seen
  · simp [Old]
  · simp [bms_id_fresh, Old]

/-- What `updateBmsValidity` makes of the two stamps. -/
theorem valid_updateBmsValidity (now : UInt32) {c : CanManager} (hmutex : c.s_mutex = true) :
    (valid (updateBmsValidity now c) .bms = true ↔
        Young (stamp c .bmsE000) now ∧ Young (stamp c .bmsE001) now) ∧
      (timedOut (updateBmsValidity now c) .bms = true ↔
        Old (stamp c .bmsE000) now ∨ Old (stamp c .bmsE001) now) := by
  unfold updateBmsValidity
  rw [if_neg (by simp [hmutex] : ¬(!c.s_mutex) = true)]
  constructor
  · show (_ && _) = true ↔ _
    rw [Bool.and_eq_true, bms_id_fresh_iff, bms_id_fresh_iff]
    rfl
  · show (_ || _) = true ↔ _
    rw [Bool.or_eq_true, stale_iff, stale_iff]
    rfl

/-! ### One call -/

/-- The frames that one call accepts, with their ticks. -/
def accepted (c : CanManager) : Action → List (Source × UInt32)
  | .processRxMessages p =>
    if c.isInitialized then acceptedFrames CAN_RX_DRAIN_MAX p.receptions else []
  | _ => []

/-- What a poll that accepts the frames `l` makes of the stamps and flags of `c`. -/
structure Polled (c : CanManager) (l : List (Source × UInt32)) (bmsTick : UInt32)
    (c' : CanManager) : Prop where
  mutex : c'.s_mutex = true
  initialized : c'.isInitialized = true
  stamps : stamp c' = l.foldl record (stamp c)
  raised : ∀ g ≠ .bms, (∀ e ∈ l, e.1.group ≠ g) → valid c' g = true → valid c g = true
  bmsValid : valid c' .bms = true ↔
    Young (stamp c' .bmsE000) bmsTick ∧ Young (stamp c' .bmsE001) bmsTick
  bmsTimedOut : timedOut c' .bms = true ↔
    Old (stamp c' .bmsE000) bmsTick ∨ Old (stamp c' .bmsE001) bmsTick
  motor : ¬(valid c .motor = true ∧ timedOut c .motor = true) →
    ¬(valid c' .motor = true ∧ timedOut c' .motor = true)
  cells : ¬(valid c' .cells = true ∧ timedOut c' .cells = true)

/-- The parts of one call: the alerts receive nothing. -/
theorem exists_received_processRxMessages {c : CanManager} (hinit : c.isInitialized = true)
    (p : Poll) :
    ∃ c₀, Received c [] c₀ ∧
      processRxMessages p c =
        updateChargerValidity p.chargerTick
          (updateCellVoltageValidity p.cellTick
            (updateBmsValidity p.bmsTick
              (updateMotorStatusValidity p.motorTick
                (drain CAN_RX_DRAIN_MAX p.receptions c₀)))) := by
  unfold processRxMessages
  rw [if_neg (by simp [hinit])]
  cases p.alerts with
  | none => exact ⟨c, .refl c, rfl⟩
  | some a => exact ⟨handleAlerts a c, received_handleAlerts a c, rfl⟩

/-- **One call**: the frames are received, then the four validity updates run. -/
theorem polled_processRxMessages {c : CanManager} (hinit : c.isInitialized = true)
    (hmutex : c.s_mutex = true) (p : Poll) :
    Polled c (accepted c (.processRxMessages p)) p.bmsTick (processRxMessages p c) := by
  have haccepted : accepted c (.processRxMessages p) =
      acceptedFrames CAN_RX_DRAIN_MAX p.receptions := if_pos hinit
  obtain ⟨c₀, halerts, heq⟩ := exists_received_processRxMessages hinit p
  rw [haccepted, heq]
  have hrx := halerts.trans
    (received_drain CAN_RX_DRAIN_MAX p.receptions (halerts.mutex.trans hmutex))
  rw [List.nil_append] at hrx
  generalize drain CAN_RX_DRAIN_MAX p.receptions c₀ = c₁ at hrx ⊢
  -- the four updates, each on the result of the one before
  have h₂ := updated_updateMotorStatusValidity p.motorTick c₁
  obtain ⟨hlower₂, hexcl₂⟩ := valid_updateMotorStatusValidity p.motorTick c₁
  generalize updateMotorStatusValidity p.motorTick c₁ = c₂ at h₂ hlower₂ hexcl₂ ⊢
  have hmutex₂ : c₂.s_mutex = true := h₂.mutex.trans (hrx.mutex.trans hmutex)
  have h₃ := updated_updateBmsValidity p.bmsTick c₂
  obtain ⟨hvalid₃, htimeout₃⟩ := valid_updateBmsValidity p.bmsTick hmutex₂
  generalize updateBmsValidity p.bmsTick c₂ = c₃ at h₃ hvalid₃ htimeout₃ ⊢
  have hmutex₃ : c₃.s_mutex = true := h₃.mutex.trans hmutex₂
  have h₄ := updated_updateCellVoltageValidity p.cellTick c₃
  obtain ⟨hlower₄, hexcl₄⟩ := valid_updateCellVoltageValidity p.cellTick c₃
  generalize updateCellVoltageValidity p.cellTick c₃ = c₄ at h₄ hlower₄ hexcl₄ ⊢
  have h₅ := updated_updateChargerValidity p.chargerTick c₄
  have hlower₅ := valid_updateChargerValidity p.chargerTick c₄
  generalize updateChargerValidity p.chargerTick c₄ = c₅ at h₅ hlower₅ ⊢
  have hstamps : stamp c₅ = stamp c₂ := h₅.stamps.trans (h₄.stamps.trans h₃.stamps)
  have hmotor : valid c₅ .motor = valid c₂ .motor ∧ timedOut c₅ .motor = timedOut c₂ .motor := by
    rw [h₅.valid_eq _ (by decide), h₄.valid_eq _ (by decide), h₃.valid_eq _ (by decide),
      h₅.timedOut_eq _ (by decide), h₄.timedOut_eq _ (by decide), h₃.timedOut_eq _ (by decide)]
    exact ⟨rfl, rfl⟩
  have hbms : valid c₅ .bms = valid c₃ .bms ∧ timedOut c₅ .bms = timedOut c₃ .bms := by
    rw [h₅.valid_eq _ (by decide), h₄.valid_eq _ (by decide), h₅.timedOut_eq _ (by decide),
      h₄.timedOut_eq _ (by decide)]
    exact ⟨rfl, rfl⟩
  have hcells : valid c₅ .cells = valid c₄ .cells ∧ timedOut c₅ .cells = timedOut c₄ .cells :=
    ⟨h₅.valid_eq _ (by decide), h₅.timedOut_eq _ (by decide)⟩
  refine ⟨h₅.mutex.trans (h₄.mutex.trans hmutex₃), ?_, ?_, ?_, ?_, ?_, ?_, ?_⟩
  · rw [h₅.initialized, h₄.initialized, h₃.initialized, h₂.initialized, hrx.initialized, hinit]
  · rw [hstamps, h₂.stamps, hrx.stamps]
  · intro g hg hnone hvalid
    rw [← hrx.valid_eq g hnone]
    cases g with
    | motor => exact hlower₂ (hmotor.1 ▸ hvalid)
    | bms => exact absurd rfl hg
    | cells =>
      rw [hcells.1] at hvalid
      rw [← h₂.valid_eq .cells (by decide), ← h₃.valid_eq .cells (by decide)]
      exact hlower₄ hvalid
    | charger =>
      have hvalid₄ := hlower₅ hvalid
      rwa [h₄.valid_eq .charger (by decide), h₃.valid_eq .charger (by decide),
        h₂.valid_eq .charger (by decide)] at hvalid₄
  · rw [hbms.1, hvalid₃, hstamps]
  · rw [hbms.2, htimeout₃, hstamps]
  · intro h
    rw [hmotor.1, hmotor.2]
    exact hexcl₂ (hrx.motor h)
  · rw [hcells.1, hcells.2]
    exact hexcl₄ hmutex₃

/-! ### The runs -/

/-- The tick at which the calls `as` last accepted a frame of each source. -/
def lastAccepted (as : List Action) : Source → Option UInt32 :=
  Machine.ghost step (fun h c a => (accepted c a).foldl record h) (fun _ => none) {} as

theorem lastAccepted_concat (as : List Action) (a : Action) :
    lastAccepted (as ++ [a]) = (accepted (after as) a).foldl record (lastAccepted as) :=
  Machine.ghost_concat _ _ _ _

/-- What holds after every run. -/
structure Consistent (as : List Action) : Prop where
  mutex : (after as).isInitialized = true → (after as).s_mutex = true
  idle : (after as).isInitialized = false →
    (∀ s, stamp (after as) s = none) ∧ (∀ g, valid (after as) g = false) ∧
      ∀ g, timedOut (after as) g = false
  stamps : stamp (after as) = lastAccepted as
  motor : ¬(valid (after as) .motor = true ∧ timedOut (after as) .motor = true)

/-- A call that accepts no frame and leaves the stamps and flags alone. -/
theorem Consistent.silent {as : List Action} (h : Consistent as) {a : Action}
    (haccepted : accepted (after as) a = [])
    (hstamps : stamp (step (after as) a) = stamp (after as))
    (hvalid : valid (step (after as) a) = valid (after as))
    (htimedOut : timedOut (step (after as) a) = timedOut (after as))
    (hmutex : (step (after as) a).isInitialized = true → (step (after as) a).s_mutex = true)
    (hidle : (step (after as) a).isInitialized = false → (after as).isInitialized = false) :
    Consistent (as ++ [a]) := by
  have hafter : after (as ++ [a]) = step (after as) a := Machine.exec_concat _ _ _
  refine ⟨hafter ▸ hmutex, fun hinit => ?_, ?_, ?_⟩
  · rw [hafter] at hinit ⊢
    rw [hstamps, hvalid, htimedOut]
    exact h.idle (hidle hinit)
  · rw [lastAccepted_concat, haccepted, hafter, hstamps]
    exact h.stamps
  · rw [hafter, hvalid, htimedOut]
    exact h.motor

/-- `begin` touches neither stamps nor flags. -/
theorem stamp_begin (mutexCreated driverStarted : Bool) (c : CanManager) :
    stamp (begin mutexCreated driverStarted c) = stamp c ∧
      valid (begin mutexCreated driverStarted c) = valid c ∧
      timedOut (begin mutexCreated driverStarted c) = timedOut c := by
  unfold begin
  split_ifs
  · exact ⟨rfl, rfl, rfl⟩
  · exact ⟨rfl, rfl, rfl⟩
  · exact ⟨rfl, rfl, rfl⟩
  · exact ⟨rfl, rfl, rfl⟩

/-- Before `begin` a poll does nothing. -/
theorem processRxMessages_of_not_initialized {c : CanManager} (hinit : ¬c.isInitialized = true)
    (p : Poll) : processRxMessages p c = c := by
  simp [processRxMessages, hinit]

theorem consistent (as : List Action) : Consistent as := by
  induction as using List.reverseRecOn with
  | nil =>
    refine ⟨by decide, fun _ => ⟨fun s => ?_, fun g => ?_, fun g => ?_⟩, ?_, by decide⟩
    · cases s <;> rfl
    · cases g <;> rfl
    · cases g <;> rfl
    · funext s
      cases s <;> rfl
  | append_singleton as a ih =>
    cases a with
    | begin mutexCreated driverStarted =>
      obtain ⟨hstamps, hvalid, htimedOut⟩ := stamp_begin mutexCreated driverStarted (after as)
      obtain ⟨-, -, hmutex, hidle⟩ := begin_spec mutexCreated driverStarted (after as)
      exact ih.silent rfl hstamps hvalid htimedOut (hmutex ih.mutex) hidle
    | setEventCallback bound => exact ih.silent rfl rfl rfl rfl ih.mutex id
    | processRxMessages p =>
      by_cases hinit : (after as).isInitialized = true
      · have hpolled := polled_processRxMessages hinit (ih.mutex hinit) p
        have hafter : after (as ++ [.processRxMessages p]) = processRxMessages p (after as) :=
          Machine.exec_concat _ _ _
        refine ⟨fun _ => hafter ▸ hpolled.mutex, fun hfalse => ?_, ?_, ?_⟩
        · rw [hafter, hpolled.initialized] at hfalse
          cases hfalse
        · rw [hafter, hpolled.stamps, lastAccepted_concat, ih.stamps]
        · rw [hafter]
          exact hpolled.motor ih.motor
      · have hsame := processRxMessages_of_not_initialized hinit p
        refine ih.silent (if_neg hinit) ?_ ?_ ?_ ?_ ?_ <;> rw [step, hsame]
        · exact ih.mutex
        · exact id

/-- The manager's stamps are the ticks of the frames last accepted. -/
theorem stamp_after (as : List Action) : stamp (after as) = lastAccepted as :=
  (consistent as).stamps

/-- What the flags say after the calls `as`, the last BMS check having been made at `now`. -/
structure FlagsRight (as : List Action) (now : UInt32) : Prop where
  bmsDataValid : (after as).s_telemetryData.TEL_bmsDataValid = true ↔
    Young (lastAccepted as .bmsE000) now ∧ Young (lastAccepted as .bmsE001) now
  bmsTimeoutActive : (after as).s_telemetryData.TEL_bmsTimeoutActive = true ↔
    Old (lastAccepted as .bmsE000) now ∨ Old (lastAccepted as .bmsE001) now
  exclusive : ∀ g, ¬(valid (after as) g = true ∧ timedOut (after as) g = true)

/-- **The flags after every `processRxMessages` call** say what the frames accepted so far and the
tick counter say. -/
theorem flagsRight_of_poll (as : List Action) (p : Poll) :
    FlagsRight (as ++ [.processRxMessages p]) p.bmsTick := by
  have hafter : after (as ++ [.processRxMessages p]) = processRxMessages p (after as) :=
    Machine.exec_concat _ _ _
  have hbefore := consistent as
  by_cases hinit : (after as).isInitialized = true
  · have hpolled := polled_processRxMessages hinit (hbefore.mutex hinit) p
    rw [← hafter] at hpolled
    refine ⟨?_, ?_, fun g => ?_⟩
    · rw [← stamp_after]
      exact hpolled.bmsValid
    · rw [← stamp_after]
      exact hpolled.bmsTimedOut
    · cases g with
      | motor => exact hpolled.motor hbefore.motor
      | bms =>
        rw [hpolled.bmsValid, hpolled.bmsTimedOut]
        -- a stamp is not both young and old
        rintro ⟨⟨⟨t, ht, hyoung⟩, u, hu, hyoung'⟩, ⟨t', ht', hold⟩ | ⟨u', hu', hold⟩⟩
        · obtain rfl : t = t' := Option.some.inj (ht.symm.trans ht')
          exact absurd hyoung (UInt32.not_lt.mpr hold)
        · obtain rfl : u = u' := Option.some.inj (hu.symm.trans hu')
          exact absurd hyoung' (UInt32.not_lt.mpr hold)
      | cells => exact hpolled.cells
      | charger => exact fun h => absurd h.2 (by simp [timedOut])
  · -- before `begin` no frame has been accepted and no flag is set
    obtain ⟨hstamps, hvalid, htimedOut⟩ := hbefore.idle (Bool.eq_false_iff.mpr hinit)
    have hsame : after (as ++ [.processRxMessages p]) = after as :=
      hafter.trans (processRxMessages_of_not_initialized hinit p)
    have hnone : ∀ s, lastAccepted (as ++ [.processRxMessages p]) s = none := by
      intro s
      rw [← stamp_after, hsame]
      exact hstamps s
    refine ⟨?_, ?_, fun g => ?_⟩
    · have hfalse : (after as).s_telemetryData.TEL_bmsDataValid = false := hvalid .bms
      rw [hsame, hfalse]
      simp [Young, hnone]
    · have hfalse : (after as).s_telemetryData.TEL_bmsTimeoutActive = false := htimedOut .bms
      rw [hsame, hfalse]
      simp [Old, hnone]
    · rw [hsame, hvalid g]
      simp

/-! ### Lost data -/

/-- **Lost data stays lost**: a validity flag is raised only by a `processRxMessages` call that
accepts a frame of its group. -/
def NoRevival (as : List Action) : Prop :=
  ∀ pre a post, as = pre ++ a :: post → ∀ g,
    valid (after pre) g = false → valid (after (pre ++ [a])) g = true →
      (∃ p, a = .processRxMessages p) ∧ ∃ e ∈ accepted (after pre) a, e.1.group = g

/-- The call accepts no BMS frame and finds the BMS data invalid, but the 32-bit differences of its
tick and the two stamps are below the timeout. -/
def FindsYoung (c : CanManager) : Action → Prop
  | .processRxMessages p => c.isInitialized = true ∧ valid c .bms = false ∧
      (∀ e ∈ accepted c (.processRxMessages p), e.1.group ≠ .bms) ∧
      Young (stamp c .bmsE000) p.bmsTick ∧ Young (stamp c .bmsE001) p.bmsTick
  | _ => False

/-- Frames of other groups leave the stamps of the two BMS frames alone. -/
theorem foldl_record_of_group_ne {l : List (Source × UInt32)} {s : Source}
    (hl : ∀ e ∈ l, e.1.group ≠ s.group) (h : Source → Option UInt32) :
    l.foldl record h s = h s := by
  induction l generalizing h with
  | nil => rfl
  | cons e l ih =>
    rw [List.foldl_cons, ih fun e' he' => hl e' (List.mem_cons_of_mem _ he')]
    have hne : s ≠ e.1 := fun heq => hl e List.mem_cons_self (heq ▸ rfl)
    exact Function.update_of_ne hne _ _

/-- One call raises the flag of a group without a frame of it exactly when the group is the BMS and
the call finds its stamps young. -/
theorem raised_iff (as : List Action) (a : Action) (g : Group) :
    (valid (after as) g = false ∧ valid (step (after as) a) g = true ∧
        ¬((∃ p, a = .processRxMessages p) ∧ ∃ e ∈ accepted (after as) a, e.1.group = g)) ↔
      g = .bms ∧ FindsYoung (after as) a := by
  have hbefore := consistent as
  cases a with
  | begin mutexCreated driverStarted =>
    have hsame := (stamp_begin mutexCreated driverStarted (after as)).2.1
    simp only [step, hsame, FindsYoung, and_false, iff_false, not_and]
    intro hfalse htrue
    rw [hfalse] at htrue
    cases htrue
  | setEventCallback bound =>
    have hsame : valid (step (after as) (.setEventCallback bound)) = valid (after as) := rfl
    simp only [hsame, FindsYoung, and_false, iff_false, not_and]
    intro hfalse htrue
    rw [hfalse] at htrue
    cases htrue
  | processRxMessages p =>
    simp only [step, FindsYoung, Action.processRxMessages.injEq, exists_eq', true_and, not_exists,
      not_and]
    by_cases hinit : (after as).isInitialized = true
    · have hpolled := polled_processRxMessages hinit (hbefore.mutex hinit) p
      by_cases hg : g = .bms
      · subst hg
        rw [hpolled.bmsValid, hpolled.stamps]
        constructor
        · rintro ⟨hfalse, hyoung, hnone⟩
          rw [foldl_record_of_group_ne hnone, foldl_record_of_group_ne hnone] at hyoung
          exact ⟨rfl, hinit, hfalse, hnone, hyoung⟩
        · rintro ⟨-, -, hfalse, hnone, hyoung⟩
          rw [foldl_record_of_group_ne hnone, foldl_record_of_group_ne hnone]
          exact ⟨hfalse, hyoung, hnone⟩
      · refine ⟨fun h => ?_, fun h => absurd h.1 hg⟩
        obtain ⟨hfalse, htrue, hnone⟩ := h
        rw [hpolled.raised g hg hnone htrue] at hfalse
        cases hfalse
    · rw [processRxMessages_of_not_initialized hinit]
      refine ⟨fun h => ?_, fun h => absurd h.2.1 hinit⟩
      rw [h.1] at h
      exact absurd h.2.1 (by decide)

/-- **When lost data stays lost**: in exactly the runs in which no call without a BMS frame finds
the stamps of invalid BMS data young. -/
theorem noRevival_iff (as : List Action) :
    NoRevival as ↔ Machine.Along step (fun c a => ¬FindsYoung c a) {} as := by
  rw [Machine.along_iff_forall]
  refine forall_congr' fun pre => forall_congr' fun a => forall_congr' fun post => ?_
  refine imp_congr_right fun _ => ?_
  have hafter : after (pre ++ [a]) = step (after pre) a := Machine.exec_concat _ _ _
  rw [hafter]
  constructor
  · intro h hyoung
    obtain ⟨hfalse, htrue, hnone⟩ := (raised_iff pre a .bms).mpr ⟨rfl, hyoung⟩
    exact hnone (h .bms hfalse htrue)
  · intro h g hfalse htrue
    by_contra hnone
    exact h ((raised_iff pre a g).mp ⟨hfalse, htrue, hnone⟩).2

/-- A poll at tick `t` that receives the frames with the given extended identifiers. -/
def bmsPoll (ids : List UInt32) (t : UInt32) : Poll where
  receptions := ids.map fun id => ⟨.message { identifier := id, extd := true, data _ := 0 }, t⟩
  motorTick := t
  bmsTick := t
  cellTick := t
  chargerTick := t

/-- Both BMS frames come once, and then nothing does; the last poll is `2 ^ 32` ticks after the
first. -/
def silentBms : List Action :=
  [.begin true true, .processRxMessages (bmsPoll [CAN_ID_LB_BMS_E000, CAN_ID_LB_BMS_E001] 0),
    .processRxMessages (bmsPoll [] 50), .processRxMessages (bmsPoll [] (.ofNat (2 ^ 32)))]

/-- After 497 days without a BMS frame the BMS data is valid again. -/
theorem not_noRevival_of_silent_bms : ¬NoRevival silentBms := by
  intro h
  obtain ⟨-, e, he, -⟩ :=
    h (silentBms.take 3) (.processRxMessages (bmsPoll [] (.ofNat (2 ^ 32)))) [] rfl .bms
      (by decide) (by decide)
  have hnone : accepted (after (silentBms.take 3))
      (.processRxMessages (bmsPoll [] (.ofNat (2 ^ 32)))) = [] := by decide
  rw [hnone] at he
  cases he

end TufanAks.CanManager

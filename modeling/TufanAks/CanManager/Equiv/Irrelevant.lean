import TufanAks.CanManager.Equiv.Parts

/-!
# Frames that are not accepted

A remote frame, a frame that is too short and a frame whose identifier is not known in its format
change nothing but the counter of remote frames (`handleMessage_of_irrelevant`), and this counter
influences nothing (`Agree.perform`).  So such frames can be inserted anywhere
(`after_of_inserted`), as long as they do not keep others out of the receive loop.
-/

namespace TufanAks.CanManager

open CanParse

/-! ### The frames -/

/-- The identifiers that are handled in the extended and in the standard format. -/
def knownIds (extd : Bool) : List UInt32 :=
  if extd then
    [CAN_ID_LB_BMS_E000, CAN_ID_LB_CHARGER_CMD, CAN_ID_LB_BMS_E001, CAN_ID_LB_BMS_E015,
      CAN_ID_LB_BMS_E016, CAN_ID_LB_BMS_E017, CAN_ID_LB_BMS_E018, CAN_ID_LB_BMS_E019,
      CAN_ID_LB_BMS_E020]
  else [CAN_ID_MOTOR_STATUS]

/-- The payload that a frame needs at least. -/
def requiredLength (identifier : UInt32) : UInt8 :=
  if identifier = CAN_ID_LB_CHARGER_CMD then 4 else 8

/-- A remote frame, a frame whose identifier is not known in its format, or a frame that is too
short. -/
def Irrelevant (msg : twai_message_t) : Prop :=
  msg.rtr = true ∨ msg.identifier ∉ knownIds msg.extd ∨
    msg.data_length_code < requiredLength msg.identifier

instance (msg : twai_message_t) : Decidable (Irrelevant msg) :=
  inferInstanceAs (Decidable (_ ∨ _))

theorem exists_cellId_iff (identifier : UInt32) :
    (∃ k, identifier = cellId k) ↔
      identifier ∈ [CAN_ID_LB_BMS_E015, CAN_ID_LB_BMS_E016, CAN_ID_LB_BMS_E017,
        CAN_ID_LB_BMS_E018, CAN_ID_LB_BMS_E019, CAN_ID_LB_BMS_E020] := by
  have hmap : [CAN_ID_LB_BMS_E015, CAN_ID_LB_BMS_E016, CAN_ID_LB_BMS_E017, CAN_ID_LB_BMS_E018,
      CAN_ID_LB_BMS_E019, CAN_ID_LB_BMS_E020] = (List.finRange 6).map cellId := rfl
  rw [hmap, List.mem_map]
  constructor
  · rintro ⟨k, rfl⟩
    exact ⟨k, List.mem_finRange k, rfl⟩
  · rintro ⟨k, -, rfl⟩
    exact ⟨k, rfl⟩

/-- An irrelevant frame is not accepted. -/
theorem acceptedAs_of_irrelevant {msg : twai_message_t} (h : Irrelevant msg) :
    acceptedAs msg = none := by
  cases hrtr : msg.rtr with
  | true => rw [acceptedAs, if_pos hrtr]
  | false =>
    have hrest : msg.identifier ∉ knownIds msg.extd ∨
        msg.data_length_code < requiredLength msg.identifier :=
      h.resolve_left (by simp [hrtr])
    cases hext : msg.extd with
    | true =>
      rw [acceptedAs_of_extd hrtr hext]
      rw [hext] at hrest
      simp only [exists_cellId_iff]
      by_cases hcharger : msg.identifier = CAN_ID_LB_CHARGER_CMD
      · have hknown : CAN_ID_LB_CHARGER_CMD ∈ knownIds true := by decide
        rw [hcharger] at hrest
        have hshort : msg.data_length_code < 4 := hrest.resolve_left (not_not_intro hknown)
        rw [if_pos hcharger, if_pos hshort]
      rw [if_neg hcharger]
      unfold requiredLength at hrest
      rw [if_neg hcharger] at hrest
      rcases hrest with hunknown | hshort
      · simp only [knownIds, if_true, List.mem_cons, List.not_mem_nil, or_false, not_or] at hunknown
        obtain ⟨h0, -, h1, hcells⟩ := hunknown
        simp only [List.mem_cons, List.not_mem_nil, or_false]
        rw [if_neg h0, if_neg h1, if_neg (not_or.mpr ⟨hcells.1, by simpa using hcells.2⟩), ite_self]
      · rw [if_pos hshort]
    | false =>
      rw [acceptedAs_of_not_extd hrtr hext]
      rw [hext] at hrest
      unfold knownIds requiredLength at hrest
      refine if_neg ?_
      rintro ⟨hid, hlong⟩
      have hcharger : CAN_ID_MOTOR_STATUS ≠ CAN_ID_LB_CHARGER_CMD := by decide
      rw [hid, if_neg hcharger] at hrest
      rcases hrest with hunknown | hshort
      · exact hunknown (by simp)
      · exact hlong hshort

/-! ### Managers that agree -/

/-- The managers differ in the count of remote frames at most. -/
def Agree (c c' : CanManager) : Prop :=
  ∃ remoteFrames, c' = { c with CAN_rxRemoteFrameCount := remoteFrames }

theorem Agree.refl (c : CanManager) : Agree c c := ⟨c.CAN_rxRemoteFrameCount, rfl⟩

theorem Agree.trans {c c' c'' : CanManager} : Agree c c' → Agree c' c'' → Agree c c'' := by
  rintro ⟨m, rfl⟩ ⟨n, rfl⟩
  exact ⟨n, rfl⟩

theorem Agree.ite (p : Prop) [Decidable p] {a a' b b' : CanManager} (ha : Agree a a')
    (hb : Agree b b') : Agree (if p then a else b) (if p then a' else b') := by
  by_cases hp : p
  · rwa [if_pos hp, if_pos hp]
  · rwa [if_neg hp, if_neg hp]

/-- **An irrelevant frame** is at most counted. -/
theorem handleMessage_of_irrelevant {c : CanManager} (hmutex : c.s_mutex = true)
    {msg : twai_message_t} (h : Irrelevant msg) (tick : UInt32) :
    Agree c (handleMessage msg tick c) := by
  have hframe := handled_handleMessage hmutex msg tick
  rw [acceptedAs_of_irrelevant h] at hframe
  generalize handleMessage msg tick c = c' at hframe
  cases hframe with
  | ignored remoteFrames => exact ⟨remoteFrames, rfl⟩

section handlers

variable {msg : twai_message_t} {tick : UInt32} {c c' : CanManager}

theorem Agree.notifyFaultIfNeeded (h : Agree c c') (previous current : UInt8) :
    Agree (notifyFaultIfNeeded previous current c) (notifyFaultIfNeeded previous current c') := by
  obtain ⟨n, rfl⟩ := h
  refine ⟨n, ?_⟩
  simp only [CanManager.notifyFaultIfNeeded]
  split_ifs <;> rfl

theorem Agree.handleMotorStatus (h : Agree c c') :
    Agree (handleMotorStatus msg tick c) (handleMotorStatus msg tick c') := by
  obtain ⟨n, rfl⟩ := h
  unfold CanManager.handleMotorStatus
  cases parseMotorStatus msg with
  | none => exact ⟨n, rfl⟩
  | some parsed =>
    dsimp only
    by_cases hmutex : (!c.s_mutex) = true
    · rw [if_pos hmutex, if_pos hmutex]
      exact ⟨n, rfl⟩
    · rw [if_neg hmutex, if_neg hmutex]
      exact Agree.notifyFaultIfNeeded ⟨n, rfl⟩ _ _

theorem Agree.handleLbBmsE000 (h : Agree c c') :
    Agree (handleLbBmsE000 msg tick c) (handleLbBmsE000 msg tick c') := by
  obtain ⟨n, rfl⟩ := h
  unfold CanManager.handleLbBmsE000
  dsimp only
  split_ifs
  · exact ⟨n, rfl⟩
  · cases parseLbBmsE000 msg {} with
    | none => exact ⟨n, rfl⟩
    | some parsed => exact Agree.notifyFaultIfNeeded ⟨n, rfl⟩ _ _

theorem Agree.handleLbBmsE001 (h : Agree c c') :
    Agree (handleLbBmsE001 msg tick c) (handleLbBmsE001 msg tick c') := by
  obtain ⟨n, rfl⟩ := h
  unfold CanManager.handleLbBmsE001
  dsimp only
  split_ifs
  · exact ⟨n, rfl⟩
  · cases parseLbBmsE001 msg {} <;> exact ⟨n, rfl⟩

theorem Agree.handleCellGroup (h : Agree c c')
    (parse : twai_message_t → TelemetryData → Option TelemetryData) (k : ℕ) :
    Agree (handleCellGroup parse k msg tick c) (handleCellGroup parse k msg tick c') := by
  obtain ⟨n, rfl⟩ := h
  unfold CanManager.handleCellGroup
  cases parse msg {} <;> exact ⟨n, rfl⟩

theorem Agree.handleCharger1806E5F4 (h : Agree c c') :
    Agree (handleCharger1806E5F4 msg tick c) (handleCharger1806E5F4 msg tick c') := by
  obtain ⟨n, rfl⟩ := h
  unfold CanManager.handleCharger1806E5F4
  dsimp only
  split_ifs
  · exact ⟨n, rfl⟩
  · cases parseCharger1806E5F4 msg <;> exact ⟨n, rfl⟩

/-- A frame is handled in the same way. -/
theorem Agree.handleMessage (h : Agree c c') :
    Agree (handleMessage msg tick c) (handleMessage msg tick c') := by
  unfold CanManager.handleMessage dispatch
  refine .ite _ ?_ (.ite _ ?extended ?standard)
  case extended =>
    refine .ite _ h.handleLbBmsE000 (.ite _ h.handleCharger1806E5F4 (.ite _ h.handleLbBmsE001 ?_))
    -- the six cell frames
    refine .ite _ (h.handleCellGroup _ _) (.ite _ (h.handleCellGroup _ _) ?_)
    refine .ite _ (h.handleCellGroup _ _) (.ite _ (h.handleCellGroup _ _) ?_)
    exact .ite _ (h.handleCellGroup _ _) (.ite _ (h.handleCellGroup _ _) h)
  case standard => exact .ite _ h.handleMotorStatus h
  · obtain ⟨n, rfl⟩ := h
    exact ⟨n + 1, rfl⟩

end handlers

/-! ### Calls -/

section calls

variable {c c' : CanManager}

theorem Agree.handleAlerts (h : Agree c c') (a : Alerts) :
    Agree (handleAlerts a c) (handleAlerts a c') := by
  obtain ⟨n, rfl⟩ := h
  unfold CanManager.handleAlerts
  dsimp only
  split_ifs <;> exact ⟨n, rfl⟩

theorem Agree.updateMotorStatusValidity (h : Agree c c') (now : UInt32) :
    Agree (updateMotorStatusValidity now c) (updateMotorStatusValidity now c') := by
  obtain ⟨n, rfl⟩ := h
  unfold CanManager.updateMotorStatusValidity
  dsimp only
  exact .ite _ ⟨n, rfl⟩ (.ite _ ⟨n, rfl⟩ ⟨n, rfl⟩)

theorem Agree.updateBmsValidity (h : Agree c c') (now : UInt32) :
    Agree (updateBmsValidity now c) (updateBmsValidity now c') := by
  obtain ⟨n, rfl⟩ := h
  unfold CanManager.updateBmsValidity
  dsimp only
  exact .ite _ ⟨n, rfl⟩ ⟨n, rfl⟩

theorem Agree.updateCellVoltageValidity (h : Agree c c') (now : UInt32) :
    Agree (updateCellVoltageValidity now c) (updateCellVoltageValidity now c') := by
  obtain ⟨n, rfl⟩ := h
  unfold CanManager.updateCellVoltageValidity
  dsimp only
  split_ifs <;> exact ⟨n, rfl⟩

theorem Agree.updateChargerValidity (h : Agree c c') (now : UInt32) :
    Agree (updateChargerValidity now c) (updateChargerValidity now c') := by
  obtain ⟨n, rfl⟩ := h
  unfold CanManager.updateChargerValidity
  dsimp only
  exact .ite _ ⟨n, rfl⟩ (.ite _ ⟨n, rfl⟩ ⟨n, rfl⟩)

/-- Each part of a call does the same. -/
theorem Agree.perform (h : Agree c c') (b : Part) : Agree (perform c b) (perform c' b) := by
  cases b with
  | begin mutexCreated driverStarted =>
    obtain ⟨n, rfl⟩ := h
    show Agree (CanManager.begin mutexCreated driverStarted c)
      (CanManager.begin mutexCreated driverStarted _)
    unfold CanManager.begin
    split_ifs <;> exact ⟨n, rfl⟩
  | setEventCallback bound =>
    obtain ⟨n, rfl⟩ := h
    exact ⟨n, rfl⟩
  | alerts a => exact h.handleAlerts a
  | frame msg tick => exact h.handleMessage
  | validity p =>
    have hbms := (h.updateMotorStatusValidity p.motorTick).updateBmsValidity p.bmsTick
    exact (hbms.updateCellVoltageValidity p.cellTick).updateChargerValidity p.chargerTick

theorem Agree.exec (h : Agree c c') (bs : List Part) :
    Agree (Machine.exec CanManager.perform c bs) (Machine.exec CanManager.perform c' bs) := by
  induction bs generalizing c c' with
  | nil => exact h
  | cons b bs ih => exact ih (h.perform b)

end calls

/-! ### Inserting frames -/

/-- The second list is the first with irrelevant frames inserted, at any places and ticks. -/
inductive Inserted : List (twai_message_t × UInt32) → List (twai_message_t × UInt32) → Prop
  | nil : Inserted [] []
  | keep {xs ys : List (twai_message_t × UInt32)} (x : twai_message_t × UInt32) :
      Inserted xs ys → Inserted (x :: xs) (x :: ys)
  | insert {xs ys : List (twai_message_t × UInt32)} (msg : twai_message_t) (tick : UInt32) :
      Irrelevant msg → Inserted xs ys → Inserted xs ((msg, tick) :: ys)

/-- The second poll finds the same alerts, frames and ticks and some irrelevant frames, and not more
frames than one call receives. -/
structure Poll.Inserted (p p' : Poll) : Prop where
  alerts : p'.alerts = p.alerts
  queued : CanManager.Inserted p.queued p'.queued
  room : p'.queued.length ≤ CAN_RX_DRAIN_MAX
  motorTick : p'.motorTick = p.motorTick
  bmsTick : p'.bmsTick = p.bmsTick
  cellTick : p'.cellTick = p.cellTick
  chargerTick : p'.chargerTick = p.chargerTick

/-- The second call is the first, or a poll that finds some irrelevant frames as well. -/
inductive Action.Inserted : Action → Action → Prop
  | same (a : Action) : Action.Inserted a a
  | poll {p p' : Poll} :
      p.Inserted p' → Action.Inserted (.processRxMessages p) (.processRxMessages p')

theorem Inserted.length_le {xs ys : List (twai_message_t × UInt32)} (h : Inserted xs ys) :
    xs.length ≤ ys.length := by
  induction h with
  | nil => exact le_rfl
  | keep x _ ih => exact Nat.succ_le_succ ih
  | insert msg tick _ _ ih => exact ih.trans (Nat.le_succ _)

/-- Inserted frames are handled without a trace. -/
theorem Inserted.agree {xs ys : List (twai_message_t × UInt32)} (h : Inserted xs ys)
    {c c' : CanManager} (hc : Agree c c') (hmutex : c'.s_mutex = true) :
    Agree (Machine.exec perform c (xs.map fun x => .frame x.1 x.2))
      (Machine.exec perform c' (ys.map fun x => .frame x.1 x.2)) := by
  induction h generalizing c c' with
  | nil => exact hc
  | keep x _ ih =>
    have hframe := (handled_handleMessage hmutex x.1 x.2).received
    exact ih hc.handleMessage (hframe.mutex.trans hmutex)
  | insert msg tick hirrelevant _ ih =>
    have hframe := (handled_handleMessage hmutex msg tick).received
    have hstay := handleMessage_of_irrelevant hmutex hirrelevant tick
    exact ih (hc.trans hstay) (hframe.mutex.trans hmutex)

/-- **One poll** with inserted frames does the same. -/
theorem Poll.Inserted.agree {p p' : Poll} (h : p.Inserted p') {c c' : CanManager} (hc : Agree c c')
    (hmutex : c'.isInitialized = true → c'.s_mutex = true) :
    Agree (processRxMessages p c) (processRxMessages p' c') := by
  have hinit : c'.isInitialized = c.isInitialized := by
    obtain ⟨n, rfl⟩ := hc
    rfl
  have hroom : p.queued.length ≤ CAN_RX_DRAIN_MAX := h.queued.length_le.trans h.room
  by_cases hready : c.isInitialized = true
  · have hready' : c'.isInitialized = true := hinit.trans hready
    rw [processRxMessages_of_initialized hready, processRxMessages_of_initialized hready']
    unfold Poll.parts
    rw [List.take_of_length_le hroom, List.take_of_length_le h.room, h.alerts]
    simp only [Machine.exec_append, Machine.exec_cons, Machine.exec_nil]
    have halerts := hc.exec (p.alerts.toList.map .alerts)
    have hmutex' : (Machine.exec perform c' (p.alerts.toList.map .alerts)).s_mutex = true := by
      cases p.alerts with
      | none => exact hmutex hready'
      | some a => exact (received_handleAlerts a c').mutex.trans (hmutex hready')
    have hvalidity : updateValidity p' = updateValidity p := by
      unfold updateValidity
      rw [h.motorTick, h.bmsTick, h.cellTick, h.chargerTick]
    show Agree (updateValidity p _) (updateValidity p' _)
    rw [hvalidity]
    exact (h.queued.agree halerts hmutex').perform (.validity p)
  · rw [processRxMessages_of_not_initialized hready,
      processRxMessages_of_not_initialized (hinit ▸ hready)]
    exact hc

/-- **Irrelevant frames change nothing**: with such frames inserted into the polls of a run, every
call leaves the manager as it does without them, apart from the count of remote frames. -/
theorem after_of_inserted {as as' : List Action} (h : List.Forall₂ Action.Inserted as as')
    (k : ℕ) :
    ∃ remoteFrames, after (as'.take k) =
      { after (as.take k) with CAN_rxRemoteFrameCount := remoteFrames } := by
  have hstart : (({} : CanManager).isInitialized = true → ({} : CanManager).s_mutex = true) :=
    fun h => absurd h (by decide)
  refine (Machine.exec_simulation_of_forall₂
    (fun c c' => Agree c c' ∧ (c'.isInitialized = true → c'.s_mutex = true)) Action.Inserted ?_
    ⟨.refl {}, hstart⟩ (List.forall₂_take k h)).1
  rintro c c' a a' ⟨hc, hmutex⟩ haction
  refine ⟨?_, mutex_step hmutex a'⟩
  cases haction with
  | same a =>
    rw [← exec_parts c a, ← exec_parts c' a]
    have hparts : a.parts c' = a.parts c := by
      obtain ⟨n, rfl⟩ := hc
      cases a <;> rfl
    rw [hparts]
    exact hc.exec _
  | poll hpoll => exact hpoll.agree hc hmutex

/-- A remote frame, a short frame and a standard frame with an extended identifier before a motor
frame. -/
theorem after_of_inserted_three_frames :
    ∃ remoteFrames, after [.begin true true, .processRxMessages (messagePoll
        [{ identifier := CAN_ID_LB_BMS_E000, extd := true, rtr := true, data _ := 0 },
          { identifier := CAN_ID_LB_BMS_E001, extd := true, data_length_code := 7, data _ := 0 },
          { identifier := CAN_ID_LB_BMS_E015, data _ := 0 },
          { identifier := CAN_ID_MOTOR_STATUS, data _ := 1 }])] =
      { after [.begin true true, .processRxMessages (messagePoll
          [{ identifier := CAN_ID_MOTOR_STATUS, data _ := 1 }])] with
        CAN_rxRemoteFrameCount := remoteFrames } := by
  refine after_of_inserted (.cons (.same _) (.cons (.poll ?_) .nil)) 2
  refine ⟨rfl, .insert _ 0 ?remote (.insert _ 0 ?short (.insert _ 0 ?standard (.keep _ .nil))),
    by decide, rfl, rfl, rfl, rfl⟩
  case remote => decide
  case short => decide
  case standard => decide

end TufanAks.CanManager

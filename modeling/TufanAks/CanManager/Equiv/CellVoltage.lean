import Mathlib.Data.Nat.Bitwise
import Mathlib.Tactic.FinCases
import TufanAks.CanManager.Equiv.Handlers
import TufanAks.Freshness.Shared
import TufanAks.Machine.Ghost

/-!
# What `TEL_cellVoltageDataValid` promises

The manager watches the six cell frames with one tick for all of them and a mask of the frames seen:
it is a tracker of `Freshness.Shared`, with the mask as the set of sources.  `cells` reads the
tracker off the manager, `processRxMessages_spec` shows that one call of `processRxMessages` is a
sequence of `accept` steps and one `expire`, and `cellVoltageFresh_iff` carries the result about the
tracker over to the runs of the manager.
-/

namespace TufanAks.CanManager

open CanParse Freshness

/-! ### The tracker in the manager -/

/-- The tracker of the six cell frames. -/
def cells (c : CanManager) : Shared (Fin 6) where
  seen := {k : Fin 6 | c.CAN_cellVoltageSeenMask.toNat.testBit k = true}
  last := if c.CAN_hasSeen_CellVoltage then some c.CAN_lastCellVoltageTick.toNat else none
  valid := c.s_telemetryData.TEL_cellVoltageDataValid

/-- The identifier of each cell frame. -/
def cellId : Fin 6 → UInt32
  | 0 => CAN_ID_LB_BMS_E015
  | 1 => CAN_ID_LB_BMS_E016
  | 2 => CAN_ID_LB_BMS_E017
  | 3 => CAN_ID_LB_BMS_E018
  | 4 => CAN_ID_LB_BMS_E019
  | 5 => CAN_ID_LB_BMS_E020

/-- The cell frame that a message is accepted as: a data frame with a full payload and one of the
six extended identifiers. -/
def cellFrame (msg : twai_message_t) : Option (Fin 6) :=
  if msg.rtr = true ∨ msg.extd = false ∨ msg.data_length_code < 8 then none
  else (List.finRange 6).find? fun k => msg.identifier = cellId k

/-- The cell frames that the receive loop accepts, with the ticks at which it does. -/
def acceptedCells : ℕ → List Reception → List (Fin 6 × ℕ)
  | 0, _ => []
  | _ + 1, [] => []
  | n + 1, rx :: rest =>
    match rx.result with
    | .timeout => []
    | .error => []
    | .message msg =>
      ((cellFrame msg).map fun k => (k, rx.tick.toNat)).toList ++ acceptedCells n rest

/-- The members that the tracker is read from, and the two flags that guard it. -/
structure CellState where
  mask : UInt8
  hasSeen : Bool
  lastTick : UInt32
  valid : Bool
  mutex : Bool
  initialized : Bool

def cellState (c : CanManager) : CellState where
  mask := c.CAN_cellVoltageSeenMask
  hasSeen := c.CAN_hasSeen_CellVoltage
  lastTick := c.CAN_lastCellVoltageTick
  valid := c.s_telemetryData.TEL_cellVoltageDataValid
  mutex := c.s_mutex
  initialized := c.isInitialized

/-- The two managers agree in all of these. -/
def SameCells (c c' : CanManager) : Prop := cellState c' = cellState c

section SameCells

variable {c c' c'' : CanManager}

theorem SameCells.refl (c : CanManager) : SameCells c c := Eq.refl (cellState c)

theorem SameCells.trans (h : SameCells c c') (h' : SameCells c' c'') : SameCells c c'' :=
  Eq.trans h' h

theorem SameCells.mask (h : SameCells c c') :
    c'.CAN_cellVoltageSeenMask = c.CAN_cellVoltageSeenMask := congrArg CellState.mask h

theorem SameCells.mutex (h : SameCells c c') : c'.s_mutex = c.s_mutex :=
  congrArg CellState.mutex h

theorem SameCells.initialized (h : SameCells c c') : c'.isInitialized = c.isInitialized :=
  congrArg CellState.initialized h

theorem SameCells.cells_eq (h : SameCells c c') : cells c' = cells c := by
  have hseen : c'.CAN_hasSeen_CellVoltage = c.CAN_hasSeen_CellVoltage :=
    congrArg CellState.hasSeen h
  have hlast : c'.CAN_lastCellVoltageTick = c.CAN_lastCellVoltageTick :=
    congrArg CellState.lastTick h
  have hvalid : c'.s_telemetryData.TEL_cellVoltageDataValid =
      c.s_telemetryData.TEL_cellVoltageDataValid := congrArg CellState.valid h
  simp only [cells, h.mask, hseen, hlast, hvalid]

end SameCells

theorem sameCells_handleMotorStatus (msg : twai_message_t) (tick : UInt32) (c : CanManager) :
    SameCells c (handleMotorStatus msg tick c) :=
  frame cellState (withoutMotor_handleMotorStatus msg tick c) fun _ => rfl

theorem sameCells_handleLbBmsE000 (msg : twai_message_t) (tick : UInt32) (c : CanManager) :
    SameCells c (handleLbBmsE000 msg tick c) :=
  frame cellState (withoutBmsE000_handleLbBmsE000 msg tick c) fun _ => rfl

theorem sameCells_handleLbBmsE001 (msg : twai_message_t) (tick : UInt32) (c : CanManager) :
    SameCells c (handleLbBmsE001 msg tick c) :=
  frame cellState (withoutBmsE001_handleLbBmsE001 msg tick c) fun _ => rfl

theorem sameCells_handleCharger1806E5F4 (msg : twai_message_t) (tick : UInt32) (c : CanManager) :
    SameCells c (handleCharger1806E5F4 msg tick c) :=
  frame cellState (withoutCharger_handleCharger1806E5F4 msg tick c) fun _ => rfl

theorem sameCells_handleAlerts (a : Alerts) (c : CanManager) : SameCells c (handleAlerts a c) := by
  unfold handleAlerts
  dsimp only
  split_ifs <;> rfl

theorem sameCells_updateMotorStatusValidity (now : UInt32) (c : CanManager) :
    SameCells c (updateMotorStatusValidity now c) := by
  unfold updateMotorStatusValidity
  split_ifs <;> rfl

theorem sameCells_updateBmsValidity (now : UInt32) (c : CanManager) :
    SameCells c (updateBmsValidity now c) := by
  unfold updateBmsValidity
  split_ifs <;> rfl

theorem sameCells_updateChargerValidity (now : UInt32) (c : CanManager) :
    SameCells c (updateChargerValidity now c) := by
  unfold updateChargerValidity
  split_ifs <;> rfl

/-! ### The seen mask -/

/-- The mask after one more frame. -/
theorem testBit_seenMask (mask : UInt8) (k : Fin 6) (i : ℕ) :
    (mask ||| 1 <<< UInt8.ofNat k).toNat.testBit i = true ↔
      mask.toNat.testBit i = true ∨ k.val = i := by
  have hbit : ∀ k : Fin 6, ((1 : UInt8) <<< UInt8.ofNat k).toNat = 2 ^ k.val := by decide
  rw [UInt8.toNat_or, hbit, Nat.testBit_or, Nat.testBit_two_pow, Bool.or_eq_true, decide_eq_true_eq]

theorem seenMask_lt {mask : UInt8} (h : mask.toNat < 64) (k : Fin 6) :
    (mask ||| 1 <<< UInt8.ofNat k).toNat < 64 := by
  have hbit : ∀ k : Fin 6, ((1 : UInt8) <<< UInt8.ofNat k).toNat < 2 ^ 6 := by decide
  rw [UInt8.toNat_or]
  exact Nat.or_lt_two_pow h (hbit k)

/-- The mask is complete when all six frames were seen. -/
theorem seenMask_eq_iff {mask : UInt8} (h : mask.toNat < 64) :
    mask = 0x3F ↔ ∀ k : Fin 6, mask.toNat.testBit k = true := by
  constructor
  · rintro rfl
    decide
  · intro hall
    rw [← UInt8.toNat_inj]
    refine Nat.eq_of_testBit_eq fun i => ?_
    by_cases hi : i < 6
    · have hfull : ∀ k : Fin 6, (0x3F : UInt8).toNat.testBit k = true := by decide
      rw [hall ⟨i, hi⟩, hfull ⟨i, hi⟩]
    · -- neither word has a bit above the six
      have hpow : 2 ^ 6 ≤ 2 ^ i := Nat.pow_le_pow_right (by decide) (Nat.not_lt.mp hi)
      rw [Nat.testBit_lt_two_pow (by omega : mask.toNat < 2 ^ i),
        Nat.testBit_lt_two_pow (by show 63 < 2 ^ i; omega)]

/-- The tracker is valid after one more frame exactly when the mask is complete. -/
theorem insert_seen_eq_univ_iff {c : CanManager} (h : c.CAN_cellVoltageSeenMask.toNat < 64)
    (k : Fin 6) :
    insert k (cells c).seen = Finset.univ ↔
      c.CAN_cellVoltageSeenMask ||| 1 <<< UInt8.ofNat k = 0x3F := by
  rw [seenMask_eq_iff (seenMask_lt h k), Finset.eq_univ_iff_forall]
  refine forall_congr' fun i => ?_
  simp only [cells, Finset.mem_insert, Finset.mem_filter, Finset.mem_univ, true_and,
    testBit_seenMask, Fin.ext_iff]
  tauto

/-! ### One frame -/

theorem cellFrame_eq_some {msg : twai_message_t} {k : Fin 6} (h : cellFrame msg = some k) :
    msg.rtr = false ∧ msg.extd = true ∧ ¬msg.data_length_code < 8 ∧ msg.identifier = cellId k := by
  unfold cellFrame at h
  split_ifs at h with hbad
  simp only [not_or, Bool.not_eq_true, Bool.not_eq_false] at hbad
  exact ⟨hbad.1, hbad.2.1, hbad.2.2, by simpa using List.find?_some h⟩

/-- A frame with the identifier of a cell frame that is not accepted is a remote frame or short. -/
theorem rtr_or_short_of_cellFrame_eq_none {msg : twai_message_t} (h : cellFrame msg = none)
    (hext : msg.extd = true) {k : Fin 6} (hid : msg.identifier = cellId k) :
    msg.rtr = true ∨ msg.data_length_code < 8 := by
  by_contra hok
  rw [not_or] at hok
  unfold cellFrame at h
  rw [if_neg (by simp [hok, hext]), List.find?_eq_none] at h
  exact h k (List.mem_finRange k) (decide_eq_true hid)

/-- A full data frame with the identifier of a cell frame is accepted. -/
theorem cellFrame_of_cellId {msg : twai_message_t} (hrtr : msg.rtr = false) (hext : msg.extd = true)
    (hdlc : ¬msg.data_length_code < 8) {k : Fin 6} (hid : msg.identifier = cellId k) :
    cellFrame msg = some k := by
  unfold cellFrame
  rw [if_neg (by simp [hrtr, hext, hdlc]), hid]
  fin_cases k <;> rfl

/-- A cell frame goes to its handler. -/
theorem dispatch_cellId {msg : twai_message_t} (hext : msg.extd = true) {k : Fin 6}
    (hid : msg.identifier = cellId k) (tick : UInt32) (c : CanManager) :
    dispatch msg tick c = handleCellGroup (parseCellGroup (4 * k)) k msg tick c := by
  unfold dispatch
  rw [hext, hid]
  fin_cases k <;> rfl

theorem handleMessage_of_cellFrame {msg : twai_message_t} {k : Fin 6} (h : cellFrame msg = some k)
    (tick : UInt32) (c : CanManager) :
    handleMessage msg tick c = handleCellGroup (parseCellGroup (4 * k)) k msg tick c := by
  obtain ⟨hrtr, hext, -, hid⟩ := cellFrame_eq_some h
  unfold handleMessage
  rw [hrtr, if_neg Bool.false_ne_true, dispatch_cellId hext hid]

/-- No other frame changes the tracker. -/
theorem sameCells_dispatch {msg : twai_message_t} (hid : ∀ k, msg.identifier ≠ cellId k)
    (tick : UInt32) (c : CanManager) : SameCells c (dispatch msg tick c) := by
  unfold dispatch
  refine iteInduction (fun _ => ?_) fun _ => ?_
  · refine iteInduction (fun _ => sameCells_handleLbBmsE000 msg tick c) fun _ => ?_
    refine iteInduction (fun _ => sameCells_handleCharger1806E5F4 msg tick c) fun _ => ?_
    refine iteInduction (fun _ => sameCells_handleLbBmsE001 msg tick c) fun _ => ?_
    refine iteInduction (fun h => absurd h (hid 0)) fun _ => ?_
    refine iteInduction (fun h => absurd h (hid 1)) fun _ => ?_
    refine iteInduction (fun h => absurd h (hid 2)) fun _ => ?_
    refine iteInduction (fun h => absurd h (hid 3)) fun _ => ?_
    refine iteInduction (fun h => absurd h (hid 4)) fun _ => ?_
    exact iteInduction (fun h => absurd h (hid 5)) fun _ => .refl c
  · exact iteInduction (fun _ => sameCells_handleMotorStatus msg tick c) fun _ => .refl c

/-- What a cell handler does to the tracker. -/
theorem cells_handleCellGroup {c : CanManager} (hmask : c.CAN_cellVoltageSeenMask.toNat < 64)
    (k : Fin 6) {msg : twai_message_t} (hdlc : ¬msg.data_length_code < 8) (tick : UInt32) :
    cells (handleCellGroup (parseCellGroup (4 * k)) k msg tick c) =
      (cells c).accept k tick.toNat := by
  have hseen := insert_seen_eq_univ_iff hmask k
  obtain ⟨parsed, hparsed⟩ := Option.ne_none_iff_exists'.mp
    (mt (parseCellGroup_eq_none_iff (4 * k) msg {}).mp hdlc)
  simp only [handleCellGroup, hparsed, Shared.accept, hseen]
  simp only [cells, Shared.mk.injEq]
  refine ⟨?_, rfl, ?_⟩
  · ext i
    simp only [Finset.mem_filter, Finset.mem_univ, true_and, Finset.mem_insert,
      testBit_seenMask, Fin.ext_iff]
    tauto
  · by_cases hfull : c.CAN_cellVoltageSeenMask ||| 1 <<< UInt8.ofNat k = 0x3F <;> simp [hfull]

/-- A cell handler keeps the mask within its six bits and leaves the two flags alone. -/
theorem guards_handleCellGroup {c : CanManager} (hmask : c.CAN_cellVoltageSeenMask.toNat < 64)
    (parse : twai_message_t → TelemetryData → Option TelemetryData) (k : Fin 6)
    (msg : twai_message_t) (tick : UInt32) :
    (handleCellGroup parse k msg tick c).CAN_cellVoltageSeenMask.toNat < 64 ∧
      (handleCellGroup parse k msg tick c).s_mutex = c.s_mutex ∧
      (handleCellGroup parse k msg tick c).isInitialized = c.isInitialized := by
  unfold handleCellGroup
  split
  · exact ⟨hmask, rfl, rfl⟩
  · exact ⟨seenMask_lt hmask k, rfl, rfl⟩

/-- A frame is accepted by the tracker, or does not touch it. -/
theorem handleMessage_cases {c : CanManager} (hmask : c.CAN_cellVoltageSeenMask.toNat < 64)
    (msg : twai_message_t) (tick : UInt32) :
    (cellFrame msg = none ∧ SameCells c (handleMessage msg tick c)) ∨
      ∃ k, cellFrame msg = some k ∧
        handleMessage msg tick c = handleCellGroup (parseCellGroup (4 * k)) k msg tick c ∧
        cells (handleMessage msg tick c) = (cells c).accept k tick.toNat := by
  rcases hcell : cellFrame msg with _ | k
  · refine .inl ⟨rfl, ?_⟩
    unfold handleMessage
    split_ifs with hrtr
    · rfl
    by_cases hext : msg.extd = true
    · by_cases hid : ∃ k, msg.identifier = cellId k
      · -- a short frame is dropped by its parser
        obtain ⟨k, hid⟩ := hid
        have hshort := (rtr_or_short_of_cellFrame_eq_none hcell hext hid).resolve_left hrtr
        rw [dispatch_cellId hext hid, handleCellGroup,
          (parseCellGroup_eq_none_iff (4 * k) msg {}).mpr hshort]
        exact .refl c
      · exact sameCells_dispatch (not_exists.mp hid) tick c
    · unfold dispatch
      rw [if_neg hext]
      exact iteInduction (fun _ => sameCells_handleMotorStatus msg tick c) fun _ => .refl c
  · refine .inr ⟨k, rfl, handleMessage_of_cellFrame hcell tick c, ?_⟩
    rw [handleMessage_of_cellFrame hcell]
    exact cells_handleCellGroup hmask k (cellFrame_eq_some hcell).2.2.1 tick

/-! ### One call -/

/-- The receive loop feeds the accepted cell frames to the tracker. -/
theorem drain_spec (n : ℕ) (rxs : List Reception) {c : CanManager}
    (hmask : c.CAN_cellVoltageSeenMask.toNat < 64) :
    cells (drain n rxs c) =
        (acceptedCells n rxs).foldl (fun s e => s.accept e.1 e.2) (cells c) ∧
      (drain n rxs c).CAN_cellVoltageSeenMask.toNat < 64 ∧
      (drain n rxs c).s_mutex = c.s_mutex ∧
      (drain n rxs c).isInitialized = c.isInitialized := by
  induction n generalizing rxs c with
  | zero => exact ⟨rfl, hmask, rfl, rfl⟩
  | succ n ih =>
    rcases rxs with _ | ⟨rx, rest⟩
    · exact ⟨rfl, hmask, rfl, rfl⟩
    unfold drain acceptedCells
    rcases rx.result with msg | _ | _
    · dsimp only
      rcases handleMessage_cases hmask msg rx.tick with ⟨hnone, hsame⟩ | ⟨k, hsome, heq, hcells⟩
      · obtain ⟨hacc, hlt, hmutex, hinit⟩ := ih rest (hsame.mask ▸ hmask)
        refine ⟨?_, hlt, hmutex.trans hsame.mutex, hinit.trans hsame.initialized⟩
        rw [hacc, hnone, hsame.cells_eq]
        rfl
      · obtain ⟨hlt, hmutex, hinit⟩ :=
          guards_handleCellGroup hmask (parseCellGroup (4 * k)) k msg rx.tick
        rw [← heq] at hlt hmutex hinit
        obtain ⟨hacc, hlt', hmutex', hinit'⟩ := ih rest hlt
        refine ⟨?_, hlt', hmutex'.trans hmutex, hinit'.trans hinit⟩
        rw [hacc, hsome, hcells]
        rfl
    · exact ⟨rfl, hmask, rfl, rfl⟩
    · exact ⟨rfl, hmask, rfl, rfl⟩

/-- `CAN_CELL_VOLTAGE_TIMEOUT_MS` in ticks. -/
abbrev cellTimeout : ℕ := (pdMS_TO_TICKS CAN_CELL_VOLTAGE_TIMEOUT_MS).toNat

/-- The validity update is the check of the tracker, as long as the tick counter has not wrapped
since the latest frame. -/
theorem cells_updateCellVoltageValidity {c : CanManager} (hmutex : c.s_mutex = true)
    {now : UInt32} (hnow : ∀ t, (cells c).last = some t → t ≤ now.toNat) :
    cells (updateCellVoltageValidity now c) = (cells c).expire cellTimeout now.toNat := by
  unfold updateCellVoltageValidity Shared.expire
  rw [if_neg (by simp [hmutex] : ¬(!c.s_mutex) = true)]
  by_cases hseen : c.CAN_hasSeen_CellVoltage = true
  · have hlast : (cells c).last = some c.CAN_lastCellVoltageTick.toNat := if_pos hseen
    -- the 32-bit difference of the ticks is the age of the latest frame
    have hage : (now - c.CAN_lastCellVoltageTick).toNat =
        now.toNat - c.CAN_lastCellVoltageTick.toNat :=
      UInt32.toNat_sub_of_le _ _ (UInt32.le_iff_toNat_le.mpr (hnow _ hlast))
    rw [hlast]
    dsimp only
    by_cases hold : now - c.CAN_lastCellVoltageTick ≥ pdMS_TO_TICKS CAN_CELL_VOLTAGE_TIMEOUT_MS
    · have hold' : cellTimeout ≤ now.toNat - c.CAN_lastCellVoltageTick.toNat :=
        hage ▸ UInt32.le_iff_toNat_le.mp hold
      rw [if_pos ⟨hseen, hold⟩]
      by_cases hvalid : c.s_telemetryData.TEL_cellVoltageDataValid = true
      · rw [if_pos hvalid, if_pos ⟨hold', hvalid⟩]
        simp [cells, hseen]
      · -- stale data that is not valid is left alone, with its mask
        have hkept : ¬(cellTimeout ≤ now.toNat - c.CAN_lastCellVoltageTick.toNat ∧
            (cells c).valid = true) := fun h => hvalid h.2
        rw [if_neg hvalid, if_neg hkept]
        exact SameCells.cells_eq rfl
    · have hnew : ¬(cellTimeout ≤ now.toNat - c.CAN_lastCellVoltageTick.toNat ∧
          (cells c).valid = true) :=
        fun h => hold (UInt32.le_iff_toNat_le.mpr (hage ▸ h.1))
      rw [if_neg fun h => hold h.2, if_neg hnew]
      refine SameCells.cells_eq ?_
      split_ifs <;> rfl
  · have hlast : (cells c).last = none := if_neg hseen
    rw [hlast, if_neg fun h => hseen h.1]
    refine SameCells.cells_eq ?_
    split_ifs <;> rfl

theorem guards_updateCellVoltageValidity {c : CanManager}
    (hmask : c.CAN_cellVoltageSeenMask.toNat < 64) (now : UInt32) :
    (updateCellVoltageValidity now c).CAN_cellVoltageSeenMask.toNat < 64 ∧
      (updateCellVoltageValidity now c).s_mutex = c.s_mutex ∧
      (updateCellVoltageValidity now c).isInitialized = c.isInitialized := by
  have hzero : (0 : UInt8).toNat < 64 := by decide
  unfold updateCellVoltageValidity
  split_ifs
  · exact ⟨hmask, rfl, rfl⟩
  · exact ⟨hzero, rfl, rfl⟩
  · exact ⟨hmask, rfl, rfl⟩
  · exact ⟨hmask, rfl, rfl⟩
  · exact ⟨hmask, rfl, rfl⟩

/-- The cell frames that one call accepts, with their ticks. -/
def acceptedBy (c : CanManager) : Action → List (Fin 6 × ℕ)
  | .processRxMessages p =>
    if c.isInitialized then acceptedCells CAN_RX_DRAIN_MAX p.receptions else []
  | _ => []

/-- The parts of one call: the alerts do not touch the tracker. -/
theorem exists_processRxMessages_eq {c : CanManager} (hinit : c.isInitialized = true) (p : Poll) :
    ∃ c₁, SameCells c c₁ ∧
      processRxMessages p c =
        updateChargerValidity p.chargerTick
          (updateCellVoltageValidity p.cellTick
            (updateBmsValidity p.bmsTick
              (updateMotorStatusValidity p.motorTick
                (drain CAN_RX_DRAIN_MAX p.receptions c₁)))) := by
  unfold processRxMessages
  rw [if_neg (by simp [hinit])]
  cases p.alerts with
  | none => exact ⟨c, .refl c, rfl⟩
  | some a => exact ⟨handleAlerts a c, sameCells_handleAlerts a c, rfl⟩

/-- **One call**: the accepted frames, and the check at the tick of `updateCellVoltageValidity`. -/
theorem processRxMessages_spec {c : CanManager} (hinit : c.isInitialized = true)
    (hmutex : c.s_mutex = true) (hmask : c.CAN_cellVoltageSeenMask.toNat < 64) {p : Poll}
    (hnow : ∀ t, ((acceptedBy c (.processRxMessages p)).foldl (fun s e => s.accept e.1 e.2)
      (cells c)).last = some t → t ≤ p.cellTick.toNat) :
    cells (processRxMessages p c) =
        ((acceptedBy c (.processRxMessages p)).foldl (fun s e => s.accept e.1 e.2)
          (cells c)).expire cellTimeout p.cellTick.toNat ∧
      (processRxMessages p c).CAN_cellVoltageSeenMask.toNat < 64 ∧
      (processRxMessages p c).s_mutex = true ∧ (processRxMessages p c).isInitialized = true := by
  obtain ⟨c₁, halerts, heq⟩ := exists_processRxMessages_eq hinit p
  rw [heq]
  obtain ⟨hdrain, hlt, hmutex', hinit'⟩ :=
    drain_spec CAN_RX_DRAIN_MAX p.receptions (halerts.mask ▸ hmask)
  have hbefore := (sameCells_updateMotorStatusValidity p.motorTick
    (drain CAN_RX_DRAIN_MAX p.receptions c₁)).trans (sameCells_updateBmsValidity p.bmsTick _)
  generalize updateBmsValidity p.bmsTick _ = c₂ at hbefore ⊢
  have hcells₂ : cells c₂ = (acceptedBy c (.processRxMessages p)).foldl
      (fun s e => s.accept e.1 e.2) (cells c) := by
    rw [hbefore.cells_eq, hdrain, halerts.cells_eq, acceptedBy, if_pos hinit]
  have hmutex₂ : c₂.s_mutex = true :=
    (hbefore.mutex.trans hmutex').trans (halerts.mutex.trans hmutex)
  have hafter := sameCells_updateChargerValidity p.chargerTick
    (updateCellVoltageValidity p.cellTick c₂)
  obtain ⟨hlt₃, hmutex₃, hinit₃⟩ := guards_updateCellVoltageValidity
    (hbefore.mask ▸ hlt) p.cellTick
  refine ⟨?_, hafter.mask ▸ hlt₃, hafter.mutex.trans (hmutex₃.trans hmutex₂), ?_⟩
  · rw [hafter.cells_eq, ← hcells₂]
    exact cells_updateCellVoltageValidity hmutex₂ (hcells₂ ▸ hnow)
  · exact hafter.initialized.trans (hinit₃.trans
      ((hbefore.initialized.trans hinit').trans (halerts.initialized.trans hinit)))

/-! ### The runs -/

/-- The tick counts that a poll reads, in the order in which it does. -/
def Poll.ticks (p : Poll) : List ℕ :=
  p.alerts.toList.map (·.tick.toNat) ++ p.receptions.map (·.tick.toNat) ++
    [p.motorTick.toNat, p.bmsTick.toNat, p.cellTick.toNat, p.chargerTick.toNat]

/-- The tick counts that a call reads. -/
def Action.ticks : Action → List ℕ
  | .processRxMessages p => p.ticks
  | _ => []

/-- For each cell frame, the tick at which the calls `as` last accepted it. -/
def history (as : List Action) : History (Fin 6) :=
  Machine.ghost step (fun h c a => (acceptedBy c a).foldl (fun h e => h.record e.1 e.2) h)
    (fun _ => none) {} as

theorem history_concat (as : List Action) (a : Action) :
    history (as ++ [a]) =
      (acceptedBy (after as) a).foldl (fun h e => h.record e.1 e.2) (history as) :=
  Machine.ghost_concat _ _ _ _

/-- The receive loop accepts frames in the order in which it receives them. -/
theorem acceptedCells_sublist (n : ℕ) (rxs : List Reception) :
    ((acceptedCells n rxs).map Prod.snd).Sublist (rxs.map (·.tick.toNat)) := by
  induction n generalizing rxs with
  | zero => exact List.nil_sublist _
  | succ n ih =>
    rcases rxs with _ | ⟨rx, rest⟩
    · exact List.nil_sublist _
    unfold acceptedCells
    rcases rx.result with msg | _ | _
    · dsimp only
      rcases cellFrame msg with _ | k
      · exact (ih rest).cons _
      · exact (ih rest).cons_cons _
    · exact List.nil_sublist _
    · exact List.nil_sublist _

/-- If the tick counter does not go back during a poll, the frames are accepted in order and before
the check. -/
theorem accepted_ticks (c : CanManager) {p : Poll} (h : p.ticks.Pairwise (· ≤ ·)) :
    ((acceptedBy c (.processRxMessages p)).map Prod.snd).Pairwise (· ≤ ·) ∧
      ∀ t ∈ (acceptedBy c (.processRxMessages p)).map Prod.snd,
        t ∈ p.ticks ∧ t ≤ p.cellTick.toNat := by
  have hsub : ((acceptedBy c (.processRxMessages p)).map Prod.snd).Sublist
      (p.receptions.map (·.tick.toNat)) := by
    unfold acceptedBy
    split_ifs
    · exact acceptedCells_sublist _ _
    · exact List.nil_sublist _
  unfold Poll.ticks at h ⊢
  obtain ⟨hfront, -, hbefore⟩ := List.pairwise_append.mp h
  refine ⟨(List.pairwise_append.mp hfront).2.1.sublist hsub, fun t ht => ?_⟩
  have hmem := List.mem_append_right (p.alerts.toList.map (·.tick.toNat)) (hsub.subset ht)
  exact ⟨List.mem_append_left _ hmem, hbefore t hmem _ (by simp)⟩

/-- What every run establishes: the guards of the tracker, and its agreement with the history. -/
structure Tracked (as : List Action) : Prop where
  mask : (after as).CAN_cellVoltageSeenMask.toNat < 64
  mutex : (after as).isInitialized = true → (after as).s_mutex = true
  idle : (after as).isInitialized = false → cells (after as) = .start
  agrees : Agrees (cells (after as)) (history as)
  last : ∀ t, (cells (after as)).last = some t → t ∈ as.flatMap Action.ticks

/-- The tracker and the history through one poll of an initialized manager. -/
theorem Tracked.poll {as : List Action} (h : Tracked as) (hinit : (after as).isInitialized = true)
    {p : Poll}
    (hticks : ((as ++ [Action.processRxMessages p]).flatMap Action.ticks).Pairwise (· ≤ ·)) :
    ∃ s, Agrees s (history (as ++ [.processRxMessages p])) ∧
      (s.seen = Finset.univ ↔ ∀ k, k ∈ (cells (after as)).seen ∨
        k ∈ (acceptedBy (after as) (.processRxMessages p)).map Prod.fst) ∧
      cells (after (as ++ [.processRxMessages p])) = s.expire cellTimeout p.cellTick.toNat ∧
      Tracked (as ++ [.processRxMessages p]) := by
  rw [List.flatMap_append, List.flatMap_singleton] at hticks
  obtain ⟨-, hpoll, hbefore⟩ := List.pairwise_append.mp hticks
  obtain ⟨hsorted, haccepted⟩ := accepted_ticks (after as) hpoll
  have hagrees := h.agrees.foldl hsorted fun u hu e he =>
    hbefore u (h.last u hu) e.2 (haccepted e.2 (List.mem_map_of_mem he)).1
  rw [← history_concat] at hagrees
  -- the latest frame came in before this poll, or in it and before its check
  have hlast : ∀ t, ((acceptedBy (after as) (.processRxMessages p)).foldl
      (fun s e => s.accept e.1 e.2) (cells (after as))).last = some t →
        t ∈ as.flatMap Action.ticks ++ p.ticks ∧ t ≤ p.cellTick.toNat := by
    intro t ht
    rcases last_foldl ht with hold | hnew
    · exact ⟨List.mem_append_left _ (h.last t hold),
        hbefore t (h.last t hold) _ (by simp [Action.ticks, Poll.ticks])⟩
    · exact ⟨List.mem_append_right _ (haccepted t hnew).1, (haccepted t hnew).2⟩
  obtain ⟨hcells, hmask, hmutex, hinit'⟩ :=
    processRxMessages_spec hinit (h.mutex hinit) h.mask fun t ht => (hlast t ht).2
  have hafter : after (as ++ [.processRxMessages p]) = processRxMessages p (after as) :=
    Machine.exec_concat _ _ _
  refine ⟨_, hagrees, ?_, hafter ▸ hcells, ?_⟩
  · rw [Finset.eq_univ_iff_forall]
    exact forall_congr' (mem_seen_foldl _ _)
  · refine ⟨hafter ▸ hmask, fun _ => hafter ▸ hmutex, fun hfalse => ?_, ?_, fun t ht => ?_⟩
    · rw [hafter, hinit'] at hfalse
      cases hfalse
    · rw [hafter, hcells]
      exact hagrees.expire _ _
    · rw [hafter, hcells, last_expire] at ht
      rw [List.flatMap_append, List.flatMap_singleton]
      exact (hlast t ht).1

/-- A call that accepts no cell frame and leaves the tracker alone. -/
theorem Tracked.silent {as : List Action} (h : Tracked as) {a : Action}
    (haccepted : acceptedBy (after as) a = [])
    (hcells : cells (step (after as) a) = cells (after as))
    (hmask : (step (after as) a).CAN_cellVoltageSeenMask = (after as).CAN_cellVoltageSeenMask)
    (hmutex : (step (after as) a).isInitialized = true → (step (after as) a).s_mutex = true)
    (hidle : (step (after as) a).isInitialized = false → (after as).isInitialized = false) :
    Tracked (as ++ [a]) := by
  have hafter : after (as ++ [a]) = step (after as) a := Machine.exec_concat _ _ _
  have hhistory : history (as ++ [a]) = history as := by
    rw [history_concat, haccepted, List.foldl_nil]
  refine ⟨?_, hafter ▸ hmutex, fun hinit => ?_, ?_, fun t ht => ?_⟩
  · rw [hafter, hmask]
    exact h.mask
  · rw [hafter] at hinit ⊢
    exact hcells.trans (h.idle (hidle hinit))
  · rw [hafter, hcells, hhistory]
    exact h.agrees
  · rw [hafter, hcells] at ht
    rw [List.flatMap_append]
    exact List.mem_append_left _ (h.last t ht)

/-- `begin` does not touch the tracker, and sets the flag only together with the mutex. -/
theorem begin_spec (mutexCreated driverStarted : Bool) (c : CanManager) :
    cells (begin mutexCreated driverStarted c) = cells c ∧
      (begin mutexCreated driverStarted c).CAN_cellVoltageSeenMask = c.CAN_cellVoltageSeenMask ∧
      ((c.isInitialized = true → c.s_mutex = true) →
        (begin mutexCreated driverStarted c).isInitialized = true →
          (begin mutexCreated driverStarted c).s_mutex = true) ∧
      ((begin mutexCreated driverStarted c).isInitialized = false → c.isInitialized = false) := by
  unfold begin
  split_ifs with hinit
  · exact ⟨rfl, rfl, id, id⟩
  · exact ⟨rfl, rfl, fun _ htrue => absurd htrue hinit, id⟩
  · exact ⟨rfl, rfl, fun _ htrue => absurd htrue hinit, id⟩
  · exact ⟨rfl, rfl, fun _ _ => rfl, fun hfalse => nomatch hfalse⟩

theorem tracked {as : List Action} (hticks : (as.flatMap Action.ticks).Pairwise (· ≤ ·)) :
    Tracked as := by
  induction as using List.reverseRecOn with
  | nil => exact ⟨by decide, by decide, fun _ => rfl, agrees_start, by intro t ht; cases ht⟩
  | append_singleton as a ih =>
    have h := ih (List.pairwise_append.mp (List.flatMap_append ▸ hticks)).1
    cases a with
    | begin mutexCreated driverStarted =>
      obtain ⟨hcells, hmask, hmutex, hidle⟩ := begin_spec mutexCreated driverStarted (after as)
      exact h.silent rfl hcells hmask (hmutex h.mutex) hidle
    | setEventCallback bound => exact h.silent rfl rfl rfl h.mutex id
    | processRxMessages p =>
      by_cases hinit : (after as).isInitialized = true
      · obtain ⟨s, -, -, -, htracked⟩ := h.poll hinit hticks
        exact htracked
      · -- before `begin` a poll does nothing
        have hsame : step (after as) (.processRxMessages p) = after as := by
          simp [step, processRxMessages, hinit]
        refine h.silent (if_neg hinit) ?_ ?_ ?_ ?_ <;> rw [hsame]
        · exact h.mutex
        · exact id

/-- **The promise**: after every `processRxMessages` call, if `TEL_cellVoltageDataValid` is set,
each of the six cell frames was accepted less than `CAN_CELL_VOLTAGE_TIMEOUT_MS` before the call. -/
def CellVoltageFresh (as : List Action) : Prop :=
  ∀ pre p post, as = pre ++ .processRxMessages p :: post →
    (after (pre ++ [.processRxMessages p])).s_telemetryData.TEL_cellVoltageDataValid = true →
      ∀ k, (history (pre ++ [.processRxMessages p])).Fresh cellTimeout p.cellTick.toNat k

/-- At every check by which all six frames were seen since the mask was last cleared, they are all
fresh or all stale. -/
def StaleTogether (as : List Action) : Prop :=
  ∀ pre p post, as = pre ++ .processRxMessages p :: post →
    (∀ k, k ∈ (cells (after pre)).seen ∨
      k ∈ (acceptedBy (after pre) (.processRxMessages p)).map Prod.fst) →
    (∀ k, (history (pre ++ [.processRxMessages p])).Fresh cellTimeout p.cellTick.toNat k) ∨
      ∀ k, ¬(history (pre ++ [.processRxMessages p])).Fresh cellTimeout p.cellTick.toNat k

/-- **When `TEL_cellVoltageDataValid` can be believed**: as long as the tick counter does not go
back, the flag keeps its promise in exactly the runs in which the cell frames stop together. -/
theorem cellVoltageFresh_iff (as : List Action)
    (hticks : (as.flatMap Action.ticks).Pairwise (· ≤ ·)) :
    CellVoltageFresh as ↔ StaleTogether as := by
  refine forall_congr' fun pre => forall_congr' fun p => forall_congr' fun post => ?_
  refine imp_congr_right ?_
  rintro rfl
  rw [List.append_cons, List.flatMap_append] at hticks
  have hpoll := (List.pairwise_append.mp hticks).1
  have htracked := tracked (List.pairwise_append.mp (List.flatMap_append ▸ hpoll)).1
  by_cases hinit : (after pre).isInitialized = true
  · obtain ⟨s, hagrees, hseen, hcells, -⟩ := htracked.poll hinit hpoll
    rw [← hseen, ← hagrees.expire_fresh_iff, ← hcells]
    rfl
  · -- before `begin` no frame is accepted and the flag is never set
    have hidle := htracked.idle (Bool.eq_false_of_not_eq_true hinit)
    have hafter : after (pre ++ [.processRxMessages p]) = after pre := by
      rw [after, Machine.exec_concat]
      simp [step, processRxMessages, hinit]
    have hnone : acceptedBy (after pre) (.processRxMessages p) = [] := if_neg hinit
    have hinvalid : (after pre).s_telemetryData.TEL_cellVoltageDataValid = false :=
      congrArg Shared.valid hidle
    simp [hafter, hinvalid, hidle, hnone, Shared.start]

/-! ### A frame that stops -/

/-- A frame of the cell group `k`. -/
def cellMessage (k : Fin 6) : twai_message_t where
  identifier := cellId k
  extd := true
  data _ := 0

/-- A poll at tick `t` that receives the cell frames `ks`. -/
def cellPoll (ks : List (Fin 6)) (t : UInt32) : Poll where
  receptions := ks.map fun k => ⟨.message (cellMessage k), t⟩
  motorTick := t
  bmsTick := t
  cellTick := t
  chargerTick := t

/-- All six frames come once, and then only `0xE015` does. -/
def lostFrames : List Action :=
  [.begin true true, .processRxMessages (cellPoll [0, 1, 2, 3, 4, 5] 0),
    .processRxMessages (cellPoll [0] 49), .processRxMessages (cellPoll [] 60)]

/-- At tick 60 five of the six frames are 600 ms old, and the flag is still set. -/
theorem not_cellVoltageFresh_of_lost_frames :
    (lostFrames.flatMap Action.ticks).Pairwise (· ≤ ·) ∧ ¬CellVoltageFresh lostFrames := by
  refine ⟨by decide, fun h => ?_⟩
  obtain ⟨t, hlast, hfresh⟩ := h (lostFrames.take 3) (cellPoll [] 60) [] rfl (by decide) 1
  -- `0xE016` was last accepted at tick 0
  have hzero : some t = some 0 := hlast.symm.trans (by decide)
  cases hzero
  exact absurd hfresh (by decide)

/-- All six frames come in one poll. -/
theorem cellVoltageFresh_of_one_poll :
    CellVoltageFresh [.begin true true, .processRxMessages (cellPoll [0, 1, 2, 3, 4, 5] 0)] := by
  refine (cellVoltageFresh_iff _ (by decide)).mpr fun pre p post heq _ => .inl fun k => ?_
  -- the poll is the second call
  rcases pre with _ | ⟨a, _ | ⟨b, pre⟩⟩
  · cases heq
  · cases heq
    have hlast : ∀ k, history ([.begin true true] ++
        [.processRxMessages (cellPoll [0, 1, 2, 3, 4, 5] 0)]) k = some 0 := by decide
    exact ⟨0, hlast k, by decide⟩
  · simp at heq

end TufanAks.CanManager

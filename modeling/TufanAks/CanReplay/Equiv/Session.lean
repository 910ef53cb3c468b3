import TufanAks.CanManager.Equiv.FaultEvents
import TufanAks.CanReplay.Equiv.Verdict

/-!
# The session in the firmware

The frames of a log that the tool passes raise no fault in the firmware: a manager that receives
only such frames never reports an event, and the pack voltage, the current and the charger command
that it shows are the ones of the idle session (`session_quiet`).
-/

namespace TufanAks.CanReplay

open Text CanManager

/-- A frame of the log as the driver delivers it; the tool leaves the format out of the message. -/
def received (f : Frame) : twai_message_t := { f.msg with extd := f.isExt }

/-! ### The frames of a log that passes -/

section log

variable {log : List Char} {f : Frame} (hf : f ∈ frames log)

include hf

theorem wellFormed_of_mem_frames : WellFormed f := by
  obtain ⟨line, -, hline⟩ := List.mem_filterMap.mp hf
  unfold lineFrame at hline
  split_ifs at hline
  cases hparse : parseLine (trim isBlank line) 0 with
  | error err =>
    rw [hparse] at hline
    cases hline
  | ok f' =>
    rw [hparse] at hline
    obtain rfl := Option.some.inj hline
    exact (wellFormed_of_parseLine hparse).1

theorem expected_of_mem_frames {sessionAsserts : Bool} (hpass : exitCode sessionAsserts log = 0) :
    Expected sessionAsserts f := by
  obtain ⟨line, hmem, hline⟩ := List.mem_filterMap.mp hf
  rcases (exitCode_eq_zero_iff sessionAsserts log).mp hpass line hmem with hskip | ⟨f', hf', h⟩
  · have hnone : lineFrame line = none := if_pos hskip
    exact nomatch hnone.symm.trans hline
  · obtain rfl := Option.some.inj (hf'.symm.trans hline)
    exact h

end log

/-! ### One frame -/

/-- What a log of the idle session decides. -/
structure Shown where
  events : List CAN_Event
  motorErrorFlags : UInt8
  packVoltageDeciV : UInt16
  currentCentiA : Int32
  charger : ChargerCommand

def shown (c : CanManager) : Shown where
  events := c.events
  motorErrorFlags := c.s_telemetryData.TEL_motorErrorFlags
  packVoltageDeciV := c.s_telemetryData.TEL_bmsPackVoltageDeciV
  currentCentiA := c.s_telemetryData.TEL_bmsCurrentCentiA
  charger := c.s_chargerCommand

/-- Nothing but the idle session is shown. -/
structure Idle (s : Shown) : Prop where
  events : s.events = []
  motorErrorFlags : s.motorErrorFlags = 0
  pack : s.packVoltageDeciV = 0 ∧ s.currentCentiA = 0 ∨
    s.packVoltageDeciV = kExpectedPackVDeciV ∧ (s.currentCentiA = -10 ∨ s.currentCentiA = -20)
  charger : s.charger = {} ∨
    s.charger = ⟨kExpectedChargerVsetDeciV, kExpectedChargerIsetDeciA⟩

section frame

variable {msg : twai_message_t} {tick : UInt32} {c : CanManager}

/-- An `0xE000` frame of the idle session. -/
theorem Idle.handleLbBmsE000 (h : Idle (shown c)) (hpack : msg.word 1 = kExpectedPackVDeciV)
    (hraw : (msg.word 0).toInt16 = -1 ∨ (msg.word 0).toInt16 = -2) :
    Idle (shown (handleLbBmsE000 msg tick c)) := by
  unfold CanManager.handleLbBmsE000 CanParse.parseLbBmsE000
  split_ifs with hmutex hdlc
  · exact h
  · exact h
  -- 79.0 V is between the limits, so no fault is reported
  have hfault : CanParse.checkPackVoltageFault (msg.word 1) BMS_CRITICAL_MIN_PACK_VOLTAGE_DECI_V
      BMS_CRITICAL_MAX_PACK_VOLTAGE_DECI_V = .NONE := by
    rw [hpack]
    decide
  dsimp only
  rw [hfault, notifyFaultIfNeeded, if_pos (.inl (by decide))]
  constructor
  · exact h.events
  · exact h.motorErrorFlags
  · refine .inr ⟨hpack, ?_⟩
    show (msg.word 0).toInt16.toInt32 * 10 = -10 ∨ (msg.word 0).toInt16.toInt32 * 10 = -20
    rcases hraw with hraw | hraw
    · rw [hraw]
      exact .inl (by decide)
    · rw [hraw]
      exact .inr (by decide)
  · exact h.charger

/-- A frame of the charger in the idle session. -/
theorem Idle.handleCharger1806E5F4 (h : Idle (shown c))
    (hvoltage : msg.word 0 = kExpectedChargerVsetDeciV)
    (hcurrent : msg.word 1 = kExpectedChargerIsetDeciA) :
    Idle (shown (handleCharger1806E5F4 msg tick c)) := by
  unfold CanManager.handleCharger1806E5F4 CanParse.parseCharger1806E5F4
  split_ifs with hmutex hdlc
  · exact h
  · exact h
  · refine ⟨h.events, h.motorErrorFlags, h.pack, .inr ?_⟩
    show ChargerCommand.mk _ _ = _
    rw [hvoltage, hcurrent]

/-- The format and the identifier that a source needs. -/
theorem identifier_of_acceptedAs {src : Source} (h : acceptedAs msg = some src) :
    (src = .motor → msg.extd = false ∧ msg.identifier = CAN_ID_MOTOR_STATUS) ∧
      (src = .bmsE000 → msg.extd = true ∧ msg.identifier = CAN_ID_LB_BMS_E000) ∧
      (src = .charger → msg.extd = true ∧ msg.identifier = CAN_ID_LB_CHARGER_CMD) := by
  unfold acceptedAs at h
  split_ifs at h <;> obtain rfl := Option.some.inj h <;> simp_all

/-- **One frame of the log** shows nothing new. -/
theorem Idle.handleMessage (h : Idle (shown c)) {f : Frame} (hf : WellFormed f)
    (hexpected : Expected true f)
    (hmotor : ¬(f.isExt = false ∧ f.id = CAN_ID_MOTOR_STATUS)) :
    Idle (shown (handleMessage (received f) tick c)) := by
  have hsource := dispatched (received f) tick c
  have hformat := @identifier_of_acceptedAs (received f)
  have hid : (received f).identifier = f.id := hf.identifier
  generalize acceptedAs (received f) = src, CanManager.handleMessage (received f) tick c = c'
    at hsource hformat ⊢
  cases hsource with
  | ignored => exact h
  | motor =>
    obtain ⟨hext, hmsg⟩ := (hformat rfl).1 rfl
    exact absurd ⟨hext, hid.symm.trans hmsg⟩ hmotor
  | bmsE000 =>
    obtain ⟨hext, hmsg⟩ := (hformat rfl).2.1 rfl
    obtain ⟨hpack, hraw⟩ := (hexpected.pack hext (hid.symm.trans hmsg)).2 rfl
    exact h.handleLbBmsE000 hpack hraw
  | bmsE001 =>
    rw [CanManager.frame shown (withoutBmsE001_handleLbBmsE001 (received f) tick c) fun _ => rfl]
    exact h
  | cells k =>
    rw [CanManager.frame shown (withoutCells_handleCellGroup (received f) tick c _ k) fun _ => rfl]
    exact h
  | charger =>
    obtain ⟨hext, hmsg⟩ := (hformat rfl).2.2 rfl
    obtain ⟨hvoltage, hcurrent⟩ := (hexpected.charger hext (hid.symm.trans hmsg)).2 rfl
    exact h.handleCharger1806E5F4 hvoltage hcurrent

end frame

/-! ### Runs -/

/-- The other parts of a run bring no data. -/
theorem shown_perform {b : Part} (hb : b.isFrame = false) (c : CanManager) :
    shown (perform c b) = shown c :=
  congrArg (fun p : Payload => Shown.mk p.events p.telemetry.TEL_motorErrorFlags
    p.telemetry.TEL_bmsPackVoltageDeciV p.telemetry.TEL_bmsCurrentCentiA p.chargerCommand)
    (payload_perform hb c)

/-- **A session that the tool passes is quiet in the firmware**: if the tool passes a log and lists
no motor frame as unknown, a manager that handles only frames of the log, in any order and any
number of times, reports no event and no motor error, and shows no pack voltage, current or charger
command besides those of the idle session. -/
theorem session_quiet {log : List Char} (hpass : exitCode true log = 0)
    (hmotor : idKey false CAN_ID_MOTOR_STATUS ∉ (replay true log).st.unknownIds)
    {as : List CanManager.Action}
    (hlog : ∀ msg tick, Part.frame msg tick ∈ partsOf as → ∃ f ∈ frames log, msg = received f) :
    Idle (shown (after as)) := by
  have hnone : ∀ f ∈ frames log, ¬(f.isExt = false ∧ f.id = CAN_ID_MOTOR_STATUS) := by
    intro f hf hmsg
    exact hmotor ((mem_unknownIds_iff true log false _).mpr ⟨by decide, f, hf, hmsg⟩)
  rw [after_eq]
  apply Machine.exec_invariant fun c => Idle (shown c)
  · intro c b hb h
    cases b with
    | frame msg tick =>
      obtain ⟨f, hf, rfl⟩ := hlog msg tick hb
      exact h.handleMessage (wellFormed_of_mem_frames hf) (expected_of_mem_frames hf hpass)
        (hnone f hf)
    | _ =>
      rw [shown_perform rfl]
      exact h
  · exact ⟨rfl, rfl, .inl ⟨rfl, rfl⟩, .inl rfl⟩

/-- A log of one frame. -/
def packLog : List Char := "# idle\nEXT | 0xE000 | 8 | FF FF 03 16 0F 5E 09 71\n".toList

theorem mem_frames_packLog : { packFrame with lineNo := 0 } ∈ frames packLog := by
  have hparse : parseLine "EXT | 0xE000 | 8 | FF FF 03 16 0F 5E 09 71".toList 0 =
      .ok { packFrame with lineNo := 0 } :=
    parseLine_of_parts wellFormed_packFrame (by decide : 0 < 4) (by decide) (by decide +kernel)
  refine List.mem_filterMap.mpr
    ⟨"EXT | 0xE000 | 8 | FF FF 03 16 0F 5E 09 71".toList, by decide +kernel, ?_⟩
  have htrim : trim isBlank "EXT | 0xE000 | 8 | FF FF 03 16 0F 5E 09 71".toList =
      "EXT | 0xE000 | 8 | FF FF 03 16 0F 5E 09 71".toList := by decide +kernel
  rw [lineFrame, if_neg (by decide +kernel), htrim, hparse]
  rfl

theorem session_quiet_pack :
    Idle (shown (after [.begin true true, .setEventCallback true,
      .processRxMessages (messagePoll [received packFrame])])) := by
  refine @session_quiet packLog (by decide +kernel) (by decide +kernel) _ ?_
  intro msg tick hmsg
  have hparts : partsOf [.begin true true, .setEventCallback true,
      .processRxMessages (messagePoll [received packFrame])] =
      [.begin true true, .setEventCallback true, .frame (received packFrame) 0,
        .validity (messagePoll [received packFrame])] := rfl
  rw [hparts] at hmsg
  simp only [List.mem_cons, List.not_mem_nil, or_false, reduceCtorEq, false_or,
    Part.frame.injEq] at hmsg
  exact ⟨{ packFrame with lineNo := 0 }, mem_frames_packLog, hmsg.1⟩

end TufanAks.CanReplay

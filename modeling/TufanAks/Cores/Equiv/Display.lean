import TufanAks.AppMain.Equiv.Freshness
import TufanAks.CanManager.Equiv.MotorFresh
import TufanAks.Cores.Equiv.Contactors
import TufanAks.DisplayHMI.Equiv.Screen

/-!
# What the driver sees

The display task sends only what has changed since the call of `updateScreen` before, so what stands
on the screen is spread over all the commands of a run.  `ScreenRight` says that they are those of
one display that was given the data of the calls so far, so that each component shows the data of
the last call (`shown_of_updated`).

These data were read one after the other, while the other tasks went on.  So the screen need not
show the vehicle as it was at any single moment; but each thing that it shows was so at a moment
since the call before (`ReadRight`, `screen_tells_truth`).
-/

namespace TufanAks.Cores

open CanManager (Young MotorYoung lastAccepted)
open Firmware (Action BootInput HmiInput bench benchHmi)
open Machine
open RelayManager (Energised)
open Screen (lastSent)
open VcuLogic (VcuState lastContactorCommand)

/-! ### The commands of a run -/

/-- The data that the call of `updateScreen` in an action is given, if there is one. -/
def screenUpdate (c : Cores) : Action → Option HMI_DisplayData
  | .hmi input =>
    match c.tasks.hmiPc, c.reading with
    | .updateScreen, .done TEL_data vcuState closed =>
      some (shownData input c.tasks TEL_data vcuState closed)
    | _, _ => none
  | _ => none

/-- The commands that the call sends. -/
def updateCommands (c : Cores) : Action → List NextionCommand
  | .hmi input =>
    match c.tasks.hmiPc, c.reading with
    | .updateScreen, .done TEL_data vcuState closed =>
      ((smoothed TEL_data c.tasks.hmi).HMI_display.updateScreen
        (shownData input c.tasks TEL_data vcuState closed)).1
    | _, _ => []
  | _ => []

/-- The data of all calls of a run. -/
def screenUpdates (b : BootInput) (as : List Action) : List HMI_DisplayData :=
  observe step screenUpdate (booted b) as

/-- The commands of all calls of a run. -/
def screenCommands (b : BootInput) (as : List Action) : List NextionCommand :=
  ghost step (fun cmds c a => cmds ++ updateCommands c a) [] (booted b) as

/-- An action without a call. -/
theorem update_eq_none {c : Cores} {a : Action}
    (h : ∀ input, a = .hmi input → c.tasks.hmiPc = .updateScreen →
      ∀ TEL_data vcuState closed, c.reading ≠ .done TEL_data vcuState closed) :
    screenUpdate c a = none ∧ updateCommands c a = [] := by
  cases a with
  | hmi input =>
    cases hpc : c.tasks.hmiPc with
    | updateScreen =>
      cases hread : c.reading with
      | done TEL_data vcuState closed => exact absurd hread (h input rfl hpc _ _ _)
      | queue | state | relay => simp [screenUpdate, updateCommands, hpc, hread]
    | begin | buildBmsNextionCommands | readTouchCommand | degraded =>
      simp [screenUpdate, updateCommands, hpc]
  | can | vcu | lora | receive | chip => exact ⟨rfl, rfl⟩

/-! ### One display -/

/-- The screen has been given `datas` and has sent `cmds`; before it is started there are none. -/
def ScreenRight (f : Firmware) (datas : List HMI_DisplayData) (cmds : List NextionCommand) : Prop :=
  match f.hmiPc with
  | .begin _ | .degraded =>
    f.HMI_display.HMI_isInitialized = false ∧ f.hmi.HMI_display = {} ∧ datas = [] ∧ cmds = []
  | .updateScreen | .buildBmsNextionCommands | .readTouchCommand =>
    f.hmi.HMI_display = exec Screen.step Screen.begun datas ∧ cmds = Screen.sent Screen.begun datas

/-- What `ScreenRight` looks at. -/
theorem ScreenRight.congr {f g : Firmware} {datas : List HMI_DisplayData}
    {cmds : List NextionCommand} (h : ScreenRight f datas cmds) (hpc : g.hmiPc = f.hmiPc)
    (hinit : g.HMI_display.HMI_isInitialized = f.HMI_display.HMI_isInitialized)
    (hhmi : g.hmi = f.hmi) : ScreenRight g datas cmds := by
  unfold ScreenRight at h ⊢
  rw [hpc, hinit, hhmi]
  exact h

/-- The second half of an iteration leaves the screen alone. -/
theorem showCells_display (inputs : HmiInputs) (peeked : Option TelemetryData) (t : HmiTask) :
    (t.showCells inputs peeked).2.HMI_display = t.HMI_display := by
  unfold HmiTask.showCells
  split_ifs <;> rfl

/-- Smoothing the values does not touch the screen. -/
theorem smoothed_display (TEL_data : Option TelemetryData) (hmi : HmiTask) :
    (smoothed TEL_data hmi).HMI_display = hmi.HMI_display := by
  cases TEL_data <;> rfl

/-- The actions of `Firmware` that are not cut give the display nothing. -/
theorem ScreenRight.whole {f : Firmware} {datas : List HMI_DisplayData}
    {cmds : List NextionCommand} (h : ScreenRight f datas cmds) {a : Action}
    (ha : ∀ input, a = .hmi input → f.hmiPc ≠ .updateScreen) :
    ScreenRight (Firmware.step f a) datas cmds := by
  have hother : (∀ input, a ≠ .hmi input) → ScreenRight (Firmware.step f a) datas cmds := by
    intro hne
    obtain ⟨hpc, hinit, hhmi⟩ := Firmware.hmi_frame f hne
    exact h.congr hpc hinit hhmi
  cases a with
  | hmi input =>
    unfold ScreenRight at h
    cases hpc : f.hmiPc with
    | begin retry_count =>
      rw [hpc] at h
      -- one installation starts both sides of the display, or neither
      obtain ⟨hinit, hscreen, rfl, rfl⟩ := h
      have hstep : Firmware.step f (.hmi input) = Firmware.hmiStep input f := rfl
      unfold Firmware.hmiStep at hstep
      simp only [hpc, DisplayHMI.begin, hinit, hscreen, Screen.begin, Bool.false_eq_true,
        if_false] at hstep
      simp only [hstep, ScreenRight]
      cases hinstalled : input.driverInstalled with
      | false =>
        simp only [Bool.not_false, if_true, hinit, Bool.false_eq_true, if_false]
        split_ifs <;> simp
      | true => exact ⟨rfl, rfl⟩
    | updateScreen => exact absurd hpc (ha input rfl)
    | buildBmsNextionCommands =>
      rw [hpc] at h
      simpa [Firmware.step, Firmware.hmiStep, hpc, ScreenRight, showCells_display] using h
    | readTouchCommand | degraded =>
      rw [hpc] at h
      simpa [Firmware.step, Firmware.hmiStep, hpc, ScreenRight] using h
  | can | vcu | lora | receive | chip => exact hother (by simp)

/-- **One action** gives the display at most the data of one call. -/
theorem screenRight_step {c : Cores} {datas : List HMI_DisplayData} {cmds : List NextionCommand}
    (h : ScreenRight c.tasks datas cmds) (a : Action) :
    ScreenRight (step c a).tasks (datas ++ (screenUpdate c a).toList)
      (cmds ++ updateCommands c a) := by
  have hnone : (∀ input, a = .hmi input → c.tasks.hmiPc = .updateScreen →
      ∀ TEL_data vcuState closed, c.reading ≠ .done TEL_data vcuState closed) →
      datas ++ (screenUpdate c a).toList = datas ∧ cmds ++ updateCommands c a = cmds := by
    intro hno
    rw [(update_eq_none hno).1, (update_eq_none hno).2]
    exact ⟨List.append_nil _, List.append_nil _⟩
  have hstep := stepped_step c a
  generalize step c a = c' at hstep ⊢
  cases hstep with
  | whole _ hhmi =>
    obtain ⟨hdatas, hcmds⟩ := hnone fun input ha hpc => absurd hpc (hhmi input ha)
    rw [hdatas, hcmds]
    exact h.whole hhmi
  | phase hpc =>
    obtain ⟨hdatas, hcmds⟩ := hnone (by simp)
    rw [hdatas, hcmds]
    simp only [vcuStep, hpc]
    exact h.congr rfl rfl rfl
  | read hpc hread =>
    obtain ⟨hdatas, hcmds⟩ := hnone fun _ _ _ => hread
    rw [hdatas, hcmds]
    exact h
  | shown hpc hread =>
    -- the data of this call, and its commands, are appended
    unfold ScreenRight at h
    rw [hpc] at h
    obtain ⟨hscreen, rfl⟩ := h
    simp only [ScreenRight, screenUpdate, updateCommands, hpc, hread, smoothed_display, hscreen]
    rw [Option.toList_some, exec_concat, Screen.sent_concat]
    exact ⟨rfl, rfl⟩

/-- **Every run** gives the display the data of its calls. -/
theorem screenRight_after (b : BootInput) (as : List Action) :
    ScreenRight (after b as).tasks (screenUpdates b as) (screenCommands b as) := by
  induction as using List.reverseRecOn with
  | nil => exact ⟨rfl, rfl, rfl, rfl⟩
  | append_singleton as a ih =>
    have hafter : after b (as ++ [a]) = step (after b as) a := exec_concat _ _ _
    have hdatas : screenUpdates b (as ++ [a]) =
        screenUpdates b as ++ (screenUpdate (after b as) a).toList := observe_concat _ _ _
    have hcmds : screenCommands b (as ++ [a]) =
        screenCommands b as ++ updateCommands (after b as) a := ghost_concat _ _ _ _
    rw [hafter, hdatas, hcmds]
    exact screenRight_step ih a

/-- **Each component shows** the data of the last call, if there was one. -/
theorem lastSent_screenCommands (b : BootInput) (as : List Action) (comp : ScreenComponent) :
    lastSent comp (screenCommands b as) = (screenUpdates b as).getLast?.map fun data =>
      comp.render data := by
  have hstarted : ∀ datas : List HMI_DisplayData,
      lastSent comp (Screen.sent Screen.begun datas) = datas.getLast?.map fun data =>
        comp.render data := by
    intro datas
    rcases List.eq_nil_or_concat' datas with rfl | ⟨datas, data, rfl⟩
    · rfl
    · rw [Screen.lastSent_sent, List.getLast?_concat]
      rfl
  have h := screenRight_after b as
  generalize screenUpdates b as = datas, screenCommands b as = cmds at h ⊢
  unfold ScreenRight at h
  cases hpc : (after b as).tasks.hmiPc with
  | begin | degraded =>
    rw [hpc] at h
    obtain ⟨-, -, rfl, rfl⟩ := h
    rfl
  | updateScreen | buildBmsNextionCommands | readTouchCommand =>
    rw [hpc] at h
    rw [h.2]
    exact hstarted datas

theorem screenUpdates_of_along {c : Cores} {as : List Action}
    (h : Along step (fun c a => screenUpdate c a = none) c as) :
    observe step screenUpdate c as = [] := by
  induction as generalizing c with
  | nil => rfl
  | cons a as ih => rw [observe_cons, h.1, ih h.2, Option.toList_none, List.append_nil]

/-- The call in an action is the last one as long as there is no other. -/
theorem shown_of_updated {b : BootInput} {pre : List Action} {a : Action} {mid : List Action}
    {data : HMI_DisplayData} (hupdate : screenUpdate (after b pre) a = some data)
    (hmid : Along step (fun c a => screenUpdate c a = none) (step (after b pre) a) mid)
    (comp : ScreenComponent) :
    lastSent comp (screenCommands b (pre ++ a :: mid)) = some (comp.render data) := by
  have hall : screenUpdates b (pre ++ a :: mid) = screenUpdates b pre ++ [data] := by
    unfold screenUpdates
    rw [observe_append, observe_cons, screenUpdates_of_along hmid, hupdate]
    rfl
  rw [lastSent_screenCommands, hall, List.getLast?_concat]
  rfl

/-! ### What has been read -/

/-- `Q` has held at a moment of the run `as` since the last call of `updateScreen`. -/
abbrev SinceShown (b : BootInput) (Q : List Action → Prop) (as : List Action) : Prop :=
  Since step (fun c a => screenUpdate c a = none) (booted b) Q as

/-- The relay `REL_channel` is on or off as the display task reads it. -/
def ReadsRelay (b : BootInput) (REL_channel : ℕ) (on : Bool) (as : List Action) : Prop :=
  (after b as).tasks.vcu.s_relays.getRelayState (UInt8.ofNat REL_channel) = on

/-- Everything that has been read was so at a moment since the last call. -/
def ReadRight (b : BootInput) (as : List Action) : Reading → Prop
  | .queue => True
  | .state TEL_data => SinceShown b (fun m => (after b m).tasks.TEL_sensorDataQueue = TEL_data) as
  | .relay TEL_data vcuState REL_channel =>
    SinceShown b (fun m => (after b m).tasks.TEL_sensorDataQueue = TEL_data) as ∧
      SinceShown b (fun m => (after b m).tasks.vcu.s_state = vcuState) as ∧
      REL_channel < RELAY_TOTAL_CHANNELS ∧
      ∀ k < REL_channel, SinceShown b (ReadsRelay b k true) as
  | .done TEL_data vcuState closed =>
    SinceShown b (fun m => (after b m).tasks.TEL_sensorDataQueue = TEL_data) as ∧
      SinceShown b (fun m => (after b m).tasks.vcu.s_state = vcuState) as ∧
      if closed then ∀ k < RELAY_TOTAL_CHANNELS, SinceShown b (ReadsRelay b k true) as
      else ∃ k < RELAY_TOTAL_CHANNELS, SinceShown b (ReadsRelay b k false) as

/-- What has been read stays right until the call. -/
theorem ReadRight.concat {b : BootInput} {as : List Action} {reading : Reading}
    (h : ReadRight b as reading) {a : Action} (ha : screenUpdate (after b as) a = none) :
    ReadRight b (as ++ [a]) reading := by
  cases reading with
  | queue => trivial
  | state => exact Since.concat h ha
  | relay =>
    obtain ⟨hqueue, hstate, hlt, hon⟩ := h
    exact ⟨hqueue.concat ha, hstate.concat ha, hlt, fun k hk => (hon k hk).concat ha⟩
  | done _ _ closed =>
    obtain ⟨hqueue, hstate, hrelays⟩ := h
    refine ⟨hqueue.concat ha, hstate.concat ha, ?_⟩
    cases closed with
    | true => exact fun k hk => (hrelays k hk).concat ha
    | false =>
      obtain ⟨k, hk, hoff⟩ := hrelays
      exact ⟨k, hk, hoff.concat ha⟩

/-- **One read** is right at the moment at which it is made. -/
theorem readRight_read {b : BootInput} {as : List Action} {reading : Reading}
    (h : ReadRight b as reading) : ReadRight b as (read (after b as).tasks reading) := by
  cases reading with
  | queue => exact Since.now rfl
  | state => exact ⟨h, Since.now rfl, by decide, fun k hk => absurd hk (Nat.not_lt_zero k)⟩
  | relay TEL_data vcuState REL_channel =>
    obtain ⟨hqueue, hstate, hlt, hon⟩ := h
    rw [read]
    cases hbit : (after b as).tasks.vcu.s_relays.getRelayState (UInt8.ofNat REL_channel) with
    | false => exact ⟨hqueue, hstate, REL_channel, hlt, Since.now hbit⟩
    | true =>
      have hnext : ∀ k < REL_channel + 1, SinceShown b (ReadsRelay b k true) as := by
        intro k hk
        rcases Nat.lt_or_ge k REL_channel with hbefore | hge
        · exact hon k hbefore
        · rw [show k = REL_channel by omega]
          exact Since.now hbit
      by_cases hmore : REL_channel + 1 < RELAY_TOTAL_CHANNELS
      · simp only [Bool.not_true, Bool.false_eq_true, if_false, if_pos hmore]
        exact ⟨hqueue, hstate, hmore, hnext⟩
      · simp only [Bool.not_true, Bool.false_eq_true, if_false, if_neg hmore]
        exact ⟨hqueue, hstate, fun k hk => hnext k (by omega)⟩
  | done => exact h

/-- **Every run** has read what was so since the last call. -/
theorem readRight_after (b : BootInput) (as : List Action) :
    ReadRight b as (after b as).reading := by
  induction as using List.reverseRecOn with
  | nil => trivial
  | append_singleton as a ih =>
    rw [show after b (as ++ [a]) = step (after b as) a from exec_concat _ _ _]
    have hstep := stepped_step (after b as) a
    generalize step (after b as) a = c at hstep ⊢
    cases hstep with
    | whole _ hhmi =>
      exact ih.concat (update_eq_none fun input ha hpc => absurd hpc (hhmi input ha)).1
    | phase hpc =>
      simp only [vcuStep, hpc]
      exact ih.concat (update_eq_none (by simp)).1
    | read hpc hread =>
      exact (readRight_read ih).concat (update_eq_none fun _ _ _ => hread).1
    | shown => trivial

/-! ### What the data say -/

/-- The record published last comes from a poll of the CAN task, and `Q` holds of the calls up to
this poll and of the poll. -/
def PolledFrom (b : BootInput) (Q : List CanManager.Action → CanManager.Poll → Prop)
    (as : List Action) : Prop :=
  ∃ pre input mid us, as = pre ++ .can input :: mid ∧
    (after b pre).tasks.canPc = .processRxMessages ∧
    (publishedRecords b as).getLast? =
      some (Firmware.snapshot us (after b (pre ++ [.can input])).tasks.can.s_telemetryData) ∧
    Q (canCalls b (pre ++ [.can input])) input.poll

/-- The record in the queue has been made after a poll. -/
theorem polledFrom_of_queue {b : BootInput} {as : List Action} {d : TelemetryData}
    (h : (after b as).tasks.TEL_sensorDataQueue = some d)
    {Q : List CanManager.Action → CanManager.Poll → Prop}
    (hQ : ∀ calls p us, d = Firmware.snapshot us
        (CanManager.after (calls ++ [.processRxMessages p])).s_telemetryData →
      Q (calls ++ [.processRxMessages p]) p) : PolledFrom b Q as := by
  have hlast := h
  rw [queue_eq_getLast] at hlast
  rw [(sameCan_after b as).1.queue] at h
  obtain ⟨pre, input, mid, us, has, hpc, hd⟩ := (Firmware.history b as).queue d h
  have hcalls : canCalls b (pre ++ [.can input]) =
      canCalls b pre ++ [.processRxMessages input.poll] := by
    have hacts : Firmware.canActs (Firmware.after b pre) (.can input) =
        [.processRxMessages input.poll] := by
      unfold Firmware.canActs
      rw [hpc]
    rw [canCalls_eq, canCalls_eq, Firmware.canCalls, Component.trace_concat]
    exact congrArg _ hacts
  rw [← (sameCan_after b _).1.can] at hd
  refine ⟨pre, input, mid, us, has, (sameCan_after b pre).1.canPc.trans hpc, ?_, ?_⟩
  · rw [hlast, hd]
  · rw [can_after, hcalls] at hd
    rw [hcalls]
    exact hQ _ _ us hd

/-- A record with valid BMS data comes from a poll at which both sources were fresh. -/
theorem bmsYoung_of_poll {as : List CanManager.Action} {p : CanManager.Poll}
    (h : (CanManager.after (as ++ [.processRxMessages p])).s_telemetryData.TEL_bmsDataValid =
      true) :
    Young (lastAccepted (as ++ [.processRxMessages p]) .bmsE000) p.bmsTick ∧
      Young (lastAccepted (as ++ [.processRxMessages p]) .bmsE001) p.bmsTick := by
  have hafter : CanManager.after (as ++ [.processRxMessages p]) =
      (CanManager.after as).processRxMessages p := exec_concat _ _ _
  rw [← CanManager.stamp_after]
  rw [hafter] at h ⊢
  exact (Firmware.bmsPolled as p).dataValid h

theorem valid_of_validityText {dataValid timeoutActive : Bool}
    (h : HMI_getValidityText dataValid timeoutActive = "VALID") : dataValid = true := by
  unfold HMI_getValidityText at h
  split_ifs at h with htimeout hvalid
  · exact absurd h (by decide)
  · exact hvalid
  · exact absurd h (by decide)

/-- Motor data that is valid is that of a record. -/
theorem record_of_motorDataValid {input : HmiInput} {f : Firmware}
    {TEL_data : Option TelemetryData} {vcuState : VcuState} {closed : Bool}
    (h : (shownData input f TEL_data vcuState closed).HMI_motorDataValid = true) :
    ∃ d, TEL_data = some d ∧ d.TEL_motorDataValid = true := by
  cases TEL_data with
  | none => cases h
  | some d => exact ⟨d, rfl, h⟩

/-- So is a battery level. -/
theorem record_of_currentBattery {input : HmiInput} {f : Firmware}
    {TEL_data : Option TelemetryData} {vcuState : VcuState} {closed : Bool}
    (h : (shownData input f TEL_data vcuState closed).HMI_currentBattery ≠ HMI_BATTERY_NO_DATA) :
    ∃ d, TEL_data = some d ∧ d.TEL_bmsDataValid = true := by
  cases TEL_data with
  | none => exact absurd rfl h
  | some d =>
    refine ⟨d, rfl, ?_⟩
    -- without valid BMS data the level is the placeholder
    by_contra hvalid
    refine h ?_
    show HMI_batteryDisplayValue _ d.TEL_bmsDataValid _ = _
    unfold HMI_batteryDisplayValue
    simp [Bool.eq_false_iff.mpr hvalid]

/-! ### The screen -/

/-- The relay `REL_channel` is commanded on or off; and if no call of `run` is in progress, whose
transfers may be under way, and nothing but the driver has changed the chip, it is on or off. -/
def RelayIs (b : BootInput) (REL_channel : ℕ) (on : Prop) (as : List Action) : Prop :=
  (lastContactorCommand (after b as).tasks.vcu.commands = some .allOn ↔ on) ∧
    ((after b as).runPc = .eStopPending → (∀ change, .chip change ∉ as) →
      (Energised (after b as).tasks.vcu.s_relays.chip REL_channel ↔ on))

/-- The motor frame, or the frames of both BMS sources, were fresh at the poll from which the record
published last comes. -/
def MotorPolled (b : BootInput) : List Action → Prop :=
  PolledFrom b fun calls p => MotorYoung (lastAccepted calls .motor) p.motorTick

def BmsPolled (b : BootInput) : List Action → Prop :=
  PolledFrom b fun calls p =>
    Young (lastAccepted calls .bmsE000) p.bmsTick ∧ Young (lastAccepted calls .bmsE001) p.bmsTick

/-- Each thing that `shown` says was so at a moment of the run `as` since the last call. -/
structure Truthful (b : BootInput) (as : List Action)
    (shown : ScreenComponent → Option NextionCommand) : Prop where
  state : SinceShown b (fun m => shown .state =
    some (.txt "state" (HMI_getStateText (HMI_mapVcuState (after b m).tasks.vcu.s_state)))) as
  /-- If the bus does not fail. -/
  contactor : (∀ n, b.succeeds n = true) →
    (shown .contactor = some (.txt "contactor" "CLOSED") ∧
        ∀ channel < RELAY_TOTAL_CHANNELS, SinceShown b (RelayIs b channel True) as) ∨
      (shown .contactor = some (.txt "contactor" "OPEN") ∧
        ∃ channel < RELAY_TOTAL_CHANNELS, SinceShown b (RelayIs b channel False) as)
  /-- The four are of one moment. -/
  record : SinceShown b (fun m =>
    (∀ d, (publishedRecords b m).getLast? = some d →
      shown .packv = some (.val "packv" d.TEL_bmsPackVoltageDeciV.toNat) ∧
        shown .packa = some (.val "packa" d.TEL_bmsCurrentCentiA.toInt) ∧
        shown .motorErr = some (.txt "motorErr" (HMI_formatErrorText d.TEL_motorErrorFlags))) ∧
      (shown .valid = some (.txt "valid" "VALID") → MotorPolled b m) ∧
      ∀ percent, shown .bat = some (.val "bat" percent) → percent ≠ HMI_BATTERY_NO_DATA.toNat →
        BmsPolled b m) as

/-- A relay is as it is read. -/
theorem relayIs_of_readsRelay {b : BootInput} (hbus : ∀ n, b.succeeds n = true) {channel : ℕ}
    (hlt : channel < RELAY_TOTAL_CHANNELS) {on : Bool} {as : List Action}
    (h : ReadsRelay b channel on as) : RelayIs b channel (on = true) as := by
  have hcommanded := getRelayState_iff_commanded hbus as hlt
  rw [show (after b as).tasks.vcu.s_relays.getRelayState (UInt8.ofNat channel) = on from h]
    at hcommanded
  exact ⟨hcommanded.symm, fun _ hchip => (energised_iff_commanded hbus hchip hlt).trans
    hcommanded.symm⟩

/-- The data of a call are true. -/
theorem truthful_shownData {b : BootInput} {as : List Action} {TEL_data : Option TelemetryData}
    {vcuState : VcuState} {closed : Bool}
    (h : ReadRight b as (.done TEL_data vcuState closed)) (input : HmiInput) (f : Firmware) :
    Truthful b as fun comp => some (comp.render (shownData input f TEL_data vcuState closed)) := by
  obtain ⟨hqueue, hstate, hrelays⟩ := h
  refine ⟨hstate.mono fun m hm => ?_, fun hbus => ?_, hqueue.mono fun m hm => ⟨?_, ?_, ?_⟩⟩
  · rw [hm]
    rfl
  · cases closed with
    | true =>
      refine .inl ⟨rfl, fun channel hlt => (hrelays channel hlt).mono fun m hm => ?_⟩
      simpa using relayIs_of_readsRelay hbus hlt hm
    | false =>
      obtain ⟨channel, hlt, hoff⟩ := hrelays
      refine .inr ⟨rfl, channel, hlt, hoff.mono fun m hm => ?_⟩
      simpa using relayIs_of_readsRelay hbus hlt hm
  · intro d hlast
    rw [← queue_eq_getLast, hm] at hlast
    subst hlast
    exact ⟨rfl, rfl, rfl⟩
  · intro hshown
    have htext := (NextionCommand.txt.inj (Option.some.inj hshown)).2
    obtain ⟨d, rfl, hvalid⟩ := record_of_motorDataValid (valid_of_validityText htext)
    -- the record was made in a poll, which has judged the age of the frame
    refine polledFrom_of_queue hm fun calls p us hd => ?_
    rw [hd] at hvalid
    exact CanManager.motorYoung_of_poll hvalid
  · intro percent hshown hdata
    have hvalue := (NextionCommand.val.inj (Option.some.inj hshown)).2
    have hknown : (shownData input f TEL_data vcuState closed).HMI_currentBattery ≠
        HMI_BATTERY_NO_DATA := by
      intro hnone
      rw [hnone] at hvalue
      exact hdata hvalue.symm
    obtain ⟨d, rfl, hvalid⟩ := record_of_currentBattery hknown
    refine polledFrom_of_queue hm fun calls p us hd => ?_
    rw [hd] at hvalid
    exact bmsYoung_of_poll hvalid

-- `IDLE` is shown with closed contactors if `READY` is entered between the two reads
example : (match (after bench (startup ++ [benchHmi, benchHmi] ++ List.replicate 6 .vcu ++
      List.replicate 10 benchHmi)).reading with
    | .done _ vcuState closed => decide (vcuState = .IDLE) && closed
    | _ => false) = true := by
  decide +kernel

end TufanAks.Cores

import TufanAks.AppMain.Equiv.Components

/-!
# The vehicle drives on fresh data

What the state machine decides on has passed through three hands: the CAN manager judges the age of
the frames, the CAN task publishes the record some time later, and the VCU task copies it, again
some time later, before it calls `run`.  `History` says where a record on this way comes from, for
every schedule.

`READY` asks for valid BMS data when it is entered, but afterwards only for the absence of a
timeout, and data that has never been seen does not time out.  That the record is valid
nevertheless, as long as the vehicle is in `READY` or `DRIVE`, is the invariant `Pipeline`: a valid
record means that both BMS frames have been seen, which stays so, and from then on every record that
is published is valid or timed out.
-/

namespace TufanAks.Firmware

open Machine
open CanManager (stamp Young Old)
open RelayActuatorAdapter (relayActuator)

/-! ### What a poll says about the BMS -/

/-- Both BMS frames have been accepted. -/
def BmsSeen (c : CanManager) : Prop := stamp c .bmsE000 ≠ none ∧ stamp c .bmsE001 ≠ none

/-- The record says that the BMS data is valid, or that it has timed out. -/
def Settled (d : TelemetryData) : Prop :=
  d.TEL_bmsDataValid = true ∨ d.TEL_bmsTimeoutActive = true

theorem young_or_old {last : Option UInt32} (h : last ≠ none) (now : UInt32) :
    Young last now ∨ Old last now := by
  obtain ⟨t, rfl⟩ := Option.ne_none_iff_exists'.mp h
  by_cases hyoung : now - t < CanManager.bmsTimeout
  · exact .inl ⟨t, rfl, hyoung⟩
  · exact .inr ⟨t, rfl, UInt32.not_lt.mp hyoung⟩

/-- Accepting frames does not take a stamp away. -/
theorem foldl_record_ne_none (l : List (CanManager.Source × UInt32))
    {h : CanManager.Source → Option UInt32} {s : CanManager.Source} (hs : h s ≠ none) :
    l.foldl CanManager.record h s ≠ none := by
  induction l generalizing h with
  | nil => exact hs
  | cons e l ih =>
    refine ih ?_
    unfold CanManager.record
    rw [Function.update_apply]
    split_ifs
    · simp
    · exact hs

/-- What a poll makes of the BMS flags and stamps of a manager. -/
structure BmsPolled (c : CanManager) (now : UInt32) (c' : CanManager) : Prop where
  seen : BmsSeen c → BmsSeen c'
  dataValid : c'.s_telemetryData.TEL_bmsDataValid = true →
    Young (stamp c' .bmsE000) now ∧ Young (stamp c' .bmsE001) now
  settled : BmsSeen c' → Settled c'.s_telemetryData

theorem bmsPolled (as : List CanManager.Action) (p : CanManager.Poll) :
    BmsPolled (CanManager.after as) p.bmsTick ((CanManager.after as).processRxMessages p) := by
  have hc := CanManager.consistent as
  by_cases hinit : (CanManager.after as).isInitialized = true
  · have hpolled := CanManager.polled_processRxMessages hinit (hc.mutex hinit) p
    refine ⟨fun hseen => ?_, fun hvalid => hpolled.bmsValid.mp hvalid, fun hseen => ?_⟩
    · unfold BmsSeen
      rw [hpolled.stamps]
      exact ⟨foldl_record_ne_none _ hseen.1, foldl_record_ne_none _ hseen.2⟩
    · rcases young_or_old hseen.1 p.bmsTick with h0 | h0
      · rcases young_or_old hseen.2 p.bmsTick with h1 | h1
        · exact .inl (hpolled.bmsValid.mpr ⟨h0, h1⟩)
        · exact .inr (hpolled.bmsTimedOut.mpr (.inr h1))
      · exact .inr (hpolled.bmsTimedOut.mpr (.inl h0))
  · -- before `begin` nothing has been seen and nothing is valid
    obtain ⟨hstamps, hvalid, -⟩ := hc.idle (Bool.eq_false_iff.mpr hinit)
    rw [CanManager.processRxMessages_of_not_initialized hinit]
    refine ⟨id, fun h => ?_, fun hseen => absurd (hstamps _) hseen.1⟩
    have hfalse := hvalid .bms
    rw [show CanManager.valid _ .bms = _ from h] at hfalse
    cases hfalse

/-! ### What an action changes -/

/-- Posting an event touches neither the state nor the snapshot. -/
theorem postEvent_snapshot (event : VcuLogic.VcuEvent) (v : VcuLogic.Vcu RelayManager) :
    (VcuLogic.postEvent event v).s_state = v.s_state ∧
      (VcuLogic.postEvent event v).s_TEL_latestData = v.s_TEL_latestData := by
  unfold VcuLogic.postEvent
  split
  · exact ⟨rfl, rfl⟩
  · split_ifs <;> exact ⟨rfl, rfl⟩

/-- What records pass through on their way to `run`. -/
structure Way where
  can : CanManager
  canPc : CanPc
  queue : Option TelemetryData
  latest : TelemetryData
  state : VcuLogic.VcuState

def way (f : Firmware) : Way where
  can := f.can
  canPc := f.canPc
  queue := f.TEL_sensorDataQueue
  latest := f.vcu.s_TEL_latestData
  state := f.vcu.s_state

/-- What one action does to the records and their judge. -/
inductive Moved (f : Firmware) : Action → Way → Prop
  | nothing (a : Action) : Moved f a (way f)
  | started (input : CanInput) (hpc : f.canPc = .begin) {c : CanManager} {pc : CanPc}
      (hstamp : stamp c = stamp f.can) (hevents : ∀ events, pc ≠ .notify events) :
      Moved f (.can input) { way f with can := c, canPc := pc }
  | polled (input : CanInput) (hpc : f.canPc = .processRxMessages) (events : List CAN_Event) :
      Moved f (.can input)
        { way f with can := f.can.processRxMessages input.poll, canPc := .notify events }
  | notified (input : CanInput) {e : CAN_Event} {events : List CAN_Event}
      (hpc : f.canPc = .notify (e :: events)) :
      Moved f (.can input) { way f with canPc := .notify events }
  | published (input : CanInput) (hpc : f.canPc = .notify []) :
      Moved f (.can input)
        { way f with
          queue := some (snapshot input.us f.can.s_telemetryData), canPc := .processRxMessages }
  | peeked {d : TelemetryData} (hpc : f.vcuPc = .peek) (hqueue : f.TEL_sensorDataQueue = some d) :
      Moved f .vcu { way f with latest := d }
  | ran (hpc : f.vcuPc = .run) :
      Moved f .vcu { way f with state := (VcuLogic.run relayActuator f.vcu).s_state }

theorem stamp_started (mutexCreated driverStarted : Bool) (c : CanManager) :
    stamp ((c.setEventCallback true).begin mutexCreated driverStarted) = stamp c :=
  (CanManager.stamp_begin _ _ _).1.trans rfl

/-- **One action** moves the records as `Moved` says. -/
theorem moved_step (f : Firmware) (a : Action) : Moved f a (way (step f a)) := by
  cases a with
  | can input =>
    rcases hpc : f.canPc with _ | _ | (_ | ⟨e, events⟩) | _
    · have hway : way (step f (.can input)) =
          { way f with
            can := (step f (.can input)).can, canPc := (step f (.can input)).canPc } := by
        simp [way, step, canStep, hpc]
      rw [hway]
      refine .started input hpc ?_ fun events => ?_
      · simp only [step, canStep, hpc]
        exact stamp_started _ _ _
      · simp only [step, canStep, hpc]
        split_ifs <;> simp
    · have hmoved := Moved.polled input hpc
        ((f.can.processRxMessages input.poll).events.drop f.can.events.length)
      simpa [way, step, canStep, hpc] using hmoved
    · simpa [way, step, canStep, hpc] using Moved.published input hpc
    · have hmoved := Moved.notified input hpc
      cases e with
      | NONE => simpa [way, step, canStep, hpc, CAN_handleEvent] using hmoved
      | FAULT_DETECTED =>
        simpa [way, step, canStep, hpc, CAN_handleEvent, postEvent_snapshot] using hmoved
    · simpa [way, step, canStep, hpc] using Moved.nothing (f := f) (.can input)
  | vcu =>
    cases hpc : f.vcuPc with
    | run =>
      have hlatest := (VcuLogic.ran_run relayActuator f.vcu).s_TEL_latestData
      simpa [way, step, vcuStep, hpc, hlatest] using Moved.ran hpc
    | peek =>
      cases hqueue : f.TEL_sensorDataQueue with
      | none => simpa [way, step, vcuStep, hpc, hqueue] using Moved.nothing (f := f) .vcu
      | some d =>
        simp only [way, step, vcuStep, hpc, hqueue, VcuLogic.setTelemetryData]
        split_ifs
        · simpa [way, hqueue] using Moved.nothing (f := f) .vcu
        · simpa [way, hqueue] using Moved.peeked hpc hqueue
  | hmi input =>
    have hmoved := Moved.nothing (f := f) (.hmi input)
    cases hpc : f.hmiPc with
    | readTouchCommand =>
      cases hevent : f.HMI_display.readTouchCommand.1.bind commandEvent with
      | none => simpa [way, step, hmiStep, hpc, hevent] using hmoved
      | some event => simpa [way, step, hmiStep, hpc, hevent, postEvent_snapshot] using hmoved
    | _ => simpa [way, step, hmiStep, hpc] using hmoved
  | lora input =>
    have hmoved := Moved.nothing (f := f) (.lora input)
    cases hpc : f.loraPc <;> simpa [way, step, loraStep, hpc] using hmoved
  | receive bytes => exact .nothing _
  | chip change => exact .nothing _

/-! ### Where a record comes from -/

/-- The snapshot `d` shows the CAN manager after a poll that the CAN task has made during the run
`as`. -/
def PublishedDuring (b : BootInput) (as : List Action) (d : TelemetryData) : Prop :=
  ∃ pre input mid us, as = pre ++ .can input :: mid ∧
    (after b pre).canPc = .processRxMessages ∧
    d = snapshot us (after b (pre ++ [.can input])).can.s_telemetryData

theorem PublishedDuring.mono {b : BootInput} {as : List Action} {d : TelemetryData}
    (h : PublishedDuring b as d) (more : List Action) : PublishedDuring b (as ++ more) d := by
  obtain ⟨pre, input, mid, us, rfl, hpc, hd⟩ := h
  exact ⟨pre, input, mid ++ more, us, by simp, hpc, hd⟩

/-- The origin of the records on their way to `run`. -/
structure History (b : BootInput) (as : List Action) : Prop where
  can : ∀ events, (after b as).canPc = .notify events →
    ∃ pre input mid, as = pre ++ .can input :: mid ∧
      (after b pre).canPc = .processRxMessages ∧
      (after b as).can = (after b (pre ++ [.can input])).can
  queue : ∀ d, (after b as).TEL_sensorDataQueue = some d → PublishedDuring b as d
  latest : (after b as).vcu.s_TEL_latestData = {} ∨
    PublishedDuring b as (after b as).vcu.s_TEL_latestData

/-- The state machine starts with an empty record. -/
theorem latest_booted (b : BootInput) : (booted b).vcu.s_TEL_latestData = {} := by
  obtain ⟨_, _, q, m, _, _, _⟩ := b
  cases q
  · rfl
  · cases m <;> rfl

theorem state_booted (b : BootInput) :
    (booted b).vcu.s_state = .IDLE ∨ (booted b).vcu.s_state = .INIT :=
  (VcuLogic.init_cases relayActuator b.eventQueueCreated b.mutexCreated _).imp_left And.left

theorem history (b : BootInput) (as : List Action) : History b as := by
  induction as using List.reverseRecOn with
  | nil =>
    exact ⟨fun _ h => (by cases h), fun _ h => (by cases h), .inl (latest_booted b)⟩
  | append_singleton as a ih =>
    have hmoved := moved_step (after b as) a
    have hafter : after b (as ++ [a]) = step (after b as) a := exec_concat _ _ _
    rw [← hafter] at hmoved
    -- what is not touched keeps its origin
    have hcan : ∀ events, (after b as).canPc = .notify events →
        (after b (as ++ [a])).can = (after b as).can →
        ∃ pre input mid, as ++ [a] = pre ++ .can input :: mid ∧
          (after b pre).canPc = .processRxMessages ∧
          (after b (as ++ [a])).can = (after b (pre ++ [.can input])).can := by
      intro events hpc hsame
      obtain ⟨pre, input, mid, has, hpre, heq⟩ := ih.can events hpc
      exact ⟨pre, input, mid ++ [a], by rw [has]; simp, hpre, hsame.trans heq⟩
    have hqueue : ∀ d, (after b as).TEL_sensorDataQueue = some d →
        PublishedDuring b (as ++ [a]) d := fun d h => (ih.queue d h).mono [a]
    have hlatest : (after b as).vcu.s_TEL_latestData = {} ∨
        PublishedDuring b (as ++ [a]) (after b as).vcu.s_TEL_latestData :=
      ih.latest.imp_right fun h => h.mono [a]
    generalize hw : way (after b (as ++ [a])) = w at hmoved
    have hwcan : (after b (as ++ [a])).can = w.can := congrArg Way.can hw
    have hwpc : (after b (as ++ [a])).canPc = w.canPc := congrArg Way.canPc hw
    have hwqueue : (after b (as ++ [a])).TEL_sensorDataQueue = w.queue := congrArg Way.queue hw
    have hwlatest : (after b (as ++ [a])).vcu.s_TEL_latestData = w.latest :=
      congrArg Way.latest hw
    refine ⟨?_, ?_, ?_⟩
    · intro events hpc
      rw [hwpc] at hpc
      cases hmoved with
      | started input _ _ hevents => exact absurd hpc (hevents events)
      | polled input hpc' => exact ⟨as, input, [], rfl, hpc', rfl⟩
      | published => cases hpc
      | notified input hpc' => exact hcan _ hpc' hwcan
      | nothing | peeked | ran => exact hcan events hpc hwcan
    · intro d hd
      rw [hwqueue] at hd
      cases hmoved with
      | published input hpc' =>
        obtain rfl := Option.some.inj hd
        obtain ⟨pre, input', mid, has, hpre, heq⟩ := ih.can [] hpc'
        exact ⟨pre, input', mid ++ [.can input], input.us, by rw [has]; simp, hpre, by rw [heq]⟩
      | nothing | started | polled | notified | peeked | ran => exact hqueue d hd
    · rw [hwlatest]
      cases hmoved with
      | peeked _ hd => exact .inr (hqueue _ hd)
      | nothing | started | polled | notified | published | ran => exact hlatest

/-! ### Once valid, always settled -/

/-- What the judge has seen when valid data is on its way, or the vehicle is ready to drive. -/
structure Pipeline (f : Firmware) : Prop where
  canValid : ∀ events, f.canPc = .notify events →
    f.can.s_telemetryData.TEL_bmsDataValid = true → BmsSeen f.can
  canSettled : ∀ events, f.canPc = .notify events → BmsSeen f.can →
    Settled f.can.s_telemetryData
  queueValid : ∀ d, f.TEL_sensorDataQueue = some d → d.TEL_bmsDataValid = true → BmsSeen f.can
  committed : f.vcu.s_TEL_latestData.TEL_bmsDataValid = true ∨
      f.vcu.s_state = .READY ∨ f.vcu.s_state = .DRIVE →
    BmsSeen f.can ∧ Settled f.vcu.s_TEL_latestData ∧
      ∀ d, f.TEL_sensorDataQueue = some d → Settled d

/-- `READY` and `DRIVE` are entered from states that are committed already. -/
theorem committed_of_run {v : VcuLogic.Vcu RelayManager}
    (h : (VcuLogic.run relayActuator v).s_state = .READY ∨
      (VcuLogic.run relayActuator v).s_state = .DRIVE) :
    v.s_TEL_latestData.TEL_bmsDataValid = true ∨ v.s_state = .READY ∨ v.s_state = .DRIVE := by
  rcases h with h | h
  · by_cases hs : v.s_state = .READY
    · exact .inr (.inl hs)
    · have hentry := VcuLogic.readyEntry_of_run hs h
      left
      by_contra hvalid
      have hpermitted := hentry.permitted
      simp [VcuLogic.isReadyEntryPermitted, hvalid] at hpermitted
  · by_cases hs : v.s_state = .DRIVE
    · exact .inr (.inr hs)
    · exact .inr (.inl (VcuLogic.driveEntry_of_run hs h).source)

theorem pipeline (b : BootInput) (as : List Action) : Pipeline (after b as) := by
  induction as using List.reverseRecOn with
  | nil =>
    refine ⟨fun _ h => (by cases h), fun _ h => (by cases h), fun _ h => (by cases h), ?_⟩
    rintro (h | h | h)
    · rw [show (after b []).vcu.s_TEL_latestData = {} from latest_booted b] at h
      cases h
    · rcases state_booted b with hs | hs <;> exact absurd (hs.symm.trans h) (by simp)
    · rcases state_booted b with hs | hs <;> exact absurd (hs.symm.trans h) (by simp)
  | append_singleton as a ih =>
    have hmoved := moved_step (after b as) a
    have hcan := can_after b as
    rw [show after b (as ++ [a]) = step (after b as) a from exec_concat _ _ _]
    generalize after b as = f at ih hmoved hcan ⊢
    generalize hw : way (step f a) = w at hmoved
    have hwcan : (step f a).can = w.can := congrArg Way.can hw
    have hwpc : (step f a).canPc = w.canPc := congrArg Way.canPc hw
    have hwqueue : (step f a).TEL_sensorDataQueue = w.queue := congrArg Way.queue hw
    have hwlatest : (step f a).vcu.s_TEL_latestData = w.latest := congrArg Way.latest hw
    have hwstate : (step f a).vcu.s_state = w.state := congrArg Way.state hw
    obtain ⟨hvalid, hsettled, hqueue, hcommitted⟩ := ih
    refine ⟨?_, ?_, ?_, ?_⟩
    all_goals simp only [hwcan, hwpc, hwqueue, hwlatest, hwstate]
    all_goals clear hw hwcan hwpc hwqueue hwlatest hwstate
    · intro events hpc h
      cases hmoved with
      | started _ _ _ hevents => exact absurd hpc (hevents events)
      | polled input =>
        have hpolled := bmsPolled (canCalls b as) input.poll
        rw [← hcan] at hpolled
        obtain ⟨⟨t, ht, -⟩, ⟨u, hu, -⟩⟩ := hpolled.dataValid h
        exact ⟨by simp [ht], by simp [hu]⟩
      | published => cases hpc
      | notified _ hpc' => exact hvalid _ hpc' h
      | nothing | peeked | ran => exact hvalid events hpc h
    · intro events hpc h
      cases hmoved with
      | started _ _ _ hevents => exact absurd hpc (hevents events)
      | polled input =>
        have hpolled := bmsPolled (canCalls b as) input.poll
        rw [← hcan] at hpolled
        exact hpolled.settled h
      | published => cases hpc
      | notified _ hpc' => exact hsettled _ hpc' h
      | nothing | peeked | ran => exact hsettled events hpc h
    · intro d hd h
      cases hmoved with
      | started _ _ hstamp =>
        have hseen := hqueue d hd h
        unfold BmsSeen at hseen ⊢
        rwa [hstamp]
      | polled input =>
        have hpolled := bmsPolled (canCalls b as) input.poll
        rw [← hcan] at hpolled
        exact hpolled.seen (hqueue d hd h)
      | published input hpc =>
        obtain rfl := Option.some.inj hd
        exact hvalid [] hpc h
      | nothing | notified | peeked | ran => exact hqueue d hd h
    · intro h
      cases hmoved with
      | nothing | notified => exact hcommitted h
      | started _ _ hstamp =>
        obtain ⟨hseen, hrest⟩ := hcommitted h
        refine ⟨?_, hrest⟩
        unfold BmsSeen at hseen ⊢
        rwa [hstamp]
      | polled input =>
        have hpolled := bmsPolled (canCalls b as) input.poll
        rw [← hcan] at hpolled
        obtain ⟨hseen, hrest⟩ := hcommitted h
        exact ⟨hpolled.seen hseen, hrest⟩
      | published input hpc =>
        obtain ⟨hseen, hlatest, -⟩ := hcommitted h
        refine ⟨hseen, hlatest, fun d hd => ?_⟩
        obtain rfl := Option.some.inj hd
        exact hsettled [] hpc hseen
      | @peeked d hpc hd =>
        -- the record that is copied is the one in the queue
        have hone : ∀ e, f.TEL_sensorDataQueue = some e → e = d := fun e he =>
          Option.some.inj (he.symm.trans hd)
        rcases h with h | h
        · refine ⟨hqueue d hd h, .inl h, fun e he => ?_⟩
          rw [hone e he]
          exact .inl h
        · obtain ⟨hseen, -, hall⟩ := hcommitted (.inr h)
          exact ⟨hseen, hall d hd, hall⟩
      | ran => exact hcommitted (h.elim .inl committed_of_run)

/-! ### Ready to drive -/

/-- A state in which the contactors are closed or about to be asks for the absence of a BMS
timeout. -/
theorem bmsTimeoutActive_of_run {v : VcuLogic.Vcu RelayManager}
    (h : (VcuLogic.run relayActuator v).s_state = .READY ∨
      (VcuLogic.run relayActuator v).s_state = .DRIVE) :
    v.s_TEL_latestData.TEL_bmsDataValid = true ∨
      v.s_TEL_latestData.TEL_bmsTimeoutActive = false := by
  have hop : (VcuLogic.run relayActuator v).s_state.operational := .inr h
  rcases VcuLogic.run_ends_uncritical hop with hcritical | ⟨hentry, -⟩
  · right
    have hidle : (VcuLogic.run relayActuator v).s_state ≠ .IDLE := by
      rcases h with h | h <;> simp [h]
    rw [VcuLogic.hasCriticalCondition_eq_or _ hidle] at hcritical
    exact (Bool.or_eq_false_iff.mp hcritical).2
  · left
    by_contra hvalid
    have hpermitted := hentry.permitted
    simp [VcuLogic.isReadyEntryPermitted, hvalid] at hpermitted

end TufanAks.Firmware

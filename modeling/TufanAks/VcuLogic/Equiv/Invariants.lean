import TufanAks.VcuLogic.Equiv.Transitions

/-!
# What holds in every reachable state

The invariants of the VCU that hold whatever is posted, measured or answered by the actuator:
the two bypass events never enter the queue, a VCU without a queue is still in `INIT`, and a latch
`s_relaysOpenedIn…` is only set while the contactors are commanded open.  They are collected in
`Reachable`, which `reachable_after` establishes for every run.
-/

namespace TufanAks.VcuLogic

variable {σ : Type*} (act : IRelayActuator σ)

/-! ### Actions other than `run` -/

/-- Only `run` changes the state, the timers, the latches and the commands. -/
theorem step_eq_of_ne_run (v : Vcu σ) {a : Action σ} (h : a ≠ .run) :
    ∃ queue d eStop fault sink relays, step act v a
      = { v with
          s_eventQueue := queue
          s_TEL_latestData := d
          s_eStopPending := eStop
          s_faultPending := fault
          s_torqueSink := sink
          s_relays := relays } := by
  cases a with
  | run => exact absurd rfl h
  | postEvent event =>
    rcases hq : v.s_eventQueue with _ | queue
    · exact ⟨_, _, _, _, _, _, by simp only [step, postEvent, hq]; rfl⟩
    · simp only [step, postEvent, hq]
      split_ifs
      · exact ⟨_, _, _, _, _, _, rfl⟩
      · exact ⟨_, _, _, _, _, _, rfl⟩
      · exact ⟨_, _, _, _, _, _, rfl⟩
      · exact ⟨_, _, _, _, _, _, rfl⟩
  | setTelemetryData d =>
    simp only [step, setTelemetryData]
    split_ifs
    · exact ⟨_, _, _, _, _, _, rfl⟩
    · exact ⟨_, _, _, _, _, _, rfl⟩
  | setTorqueSink bound => exact ⟨_, _, _, _, _, _, rfl⟩
  | actuator change => exact ⟨_, _, _, _, _, _, rfl⟩

/-- Posting an event touches neither the actuator nor the clock. -/
theorem postEvent_frame (v : Vcu σ) (event : VcuEvent) :
    (postEvent event v).s_relays = v.s_relays ∧ (postEvent event v).s_uptimeMs = v.s_uptimeMs := by
  unfold postEvent
  rcases v.s_eventQueue with _ | queue
  · exact ⟨rfl, rfl⟩
  · dsimp only
    split_ifs
    all_goals exact ⟨rfl, rfl⟩

theorem setTelemetryData_frame (v : Vcu σ) (d : TelemetryData) :
    (setTelemetryData d v).s_relays = v.s_relays ∧
      (setTelemetryData d v).s_uptimeMs = v.s_uptimeMs := by
  unfold setTelemetryData
  split_ifs
  · exact ⟨rfl, rfl⟩
  · exact ⟨rfl, rfl⟩

theorem step_s_state_of_ne_run (v : Vcu σ) {a : Action σ} (h : a ≠ .run) :
    (step act v a).s_state = v.s_state := by
  obtain ⟨_, _, _, _, _, _, hstep⟩ := step_eq_of_ne_run act v h
  rw [hstep]

theorem step_commands_of_ne_run (v : Vcu σ) {a : Action σ} (h : a ≠ .run) :
    (step act v a).commands = v.commands := by
  obtain ⟨_, _, _, _, _, _, hstep⟩ := step_eq_of_ne_run act v h
  rw [hstep]

/-! ### Contactor commands -/

/-- Whether the contactors are commanded open is a function of the commands issued. -/
theorem contactorsOpen_congr {v w : Vcu σ} (h : w.commands = v.commands) :
    ContactorsOpen w ↔ ContactorsOpen v := by
  unfold ContactorsOpen
  rw [h]

theorem lastContactorCommand_append (cs ds : List Command) :
    lastContactorCommand (cs ++ ds)
      = (lastContactorCommand ds).or (lastContactorCommand cs) := by
  unfold lastContactorCommand
  rw [List.filter_append, List.getLast?_append]

/-- The contactor command of one tick of a safe state: nothing before the delay has passed, then
an `allOff` whenever the visit has issued none yet. -/
theorem lastContactorCommand_shutdownTick (sink : Bool) (timer : UInt32) (opened : Bool)
    (lastLogMs : UInt32) :
    lastContactorCommand (shutdownTick sink timer opened lastLogMs).commands
      = if timer ≥ VCU_CONTACTOR_OPEN_DELAY_MS then
          if opened = false then some (.allOff false)
          else if timer - lastLogMs ≥ 1000 then some (.allOff true) else none
        else none := by
  unfold shutdownTick
  rw [lastContactorCommand_append]
  split_ifs
  all_goals rfl

/-- After one tick of a safe state the contactors are open if they were open before or the delay
has passed. -/
theorem contactorsOpen_shutdownTick {v w : Vcu σ} {sink opened : Bool} {timer lastLogMs : UInt32}
    (hw : w.commands = v.commands ++ (shutdownTick sink timer opened lastLogMs).commands)
    (hopened : opened = true → ContactorsOpen v) :
    ContactorsOpen w ↔ ContactorsOpen v ∨ VCU_CONTACTOR_OPEN_DELAY_MS ≤ timer := by
  unfold ContactorsOpen at hopened ⊢
  rw [hw, lastContactorCommand_append, lastContactorCommand_shutdownTick]
  by_cases htimer : timer ≥ VCU_CONTACTOR_OPEN_DELAY_MS
  · rw [if_pos htimer]
    cases opened with
    | false => simp [Command.isAllOff, htimer]
    | true =>
      have hopen := hopened rfl
      by_cases hlog : timer - lastLogMs ≥ 1000
      · simp [Command.isAllOff, hlog, htimer]
      · simp [hlog, hopen]
  · have hnot : ¬VCU_CONTACTOR_OPEN_DELAY_MS ≤ timer := htimer
    rw [if_neg htimer]
    simp [hnot]

/-! ### The invariant -/

/-- What holds in every state of every run. -/
structure Reachable (v : Vcu σ) : Prop where
  /-- The two requests that bypass the queue never enter it. -/
  bypass : ∀ queue, v.s_eventQueue = some queue →
    .EMERGENCY_STOP ∉ queue ∧ .FAULT_DETECTED ∉ queue
  /-- Without a queue nothing can be posted. -/
  noQueue : v.s_eventQueue = none →
    v.s_state = .INIT ∧ v.s_eStopPending = false ∧ v.s_faultPending = false
  opened : relaysOpened v = true → ContactorsOpen v

variable {act}

/-- The queue after `run` is the queue before, possibly without its head. -/
theorem Ran.s_eventQueue {v w : Vcu σ} (h : Ran act v w) :
    w.s_eventQueue = v.s_eventQueue ∨
      ∃ event rest, v.s_eventQueue = some (event :: rest) ∧ w.s_eventQueue = some rest := by
  cases h with
  | eStopFlag | faultFlag | actuatorFault | critical => simp
  | queuedFault hp hq =>
    refine .inr ⟨_, _, hq, ?_⟩
    split_ifs
    · simp
    · simp
  | noEvent => simp
  | queuedEStop hp hq | resetRejected hp hq | resetAccepted hp hq | startAccepted hp hq
  | startRejected hp hq | driveEnable hp hq | ignored hp hq => exact .inr ⟨_, _, hq, by simp⟩

/-- A tick of the handler of a safe state opens the contactors or leaves them open. -/
theorem contactorsOpen_tick (act : IRelayActuator σ) {v : Vcu σ} (hs : v.s_state.safe)
    (hopened : relaysOpened v = true → ContactorsOpen v) :
    ContactorsOpen (periodic act v) ↔
      ContactorsOpen v ∨ VCU_CONTACTOR_OPEN_DELAY_MS ≤ v.s_stateTimer :=
  contactorsOpen_shutdownTick (periodic_of_safe act v hs).1 hopened

theorem relaysOpened_of_not_safe {v : Vcu σ} (hs : ¬v.s_state.safe) : relaysOpened v = false := by
  unfold relaysOpened
  split
  · rename_i hstate
    exact absurd (.inl hstate) hs
  · rename_i hstate
    exact absurd (.inr hstate) hs
  · rfl

/-- One periodic tick keeps the meaning of the latch. -/
theorem opened_periodic (act : IRelayActuator σ) {v : Vcu σ}
    (hopened : relaysOpened v = true → ContactorsOpen v) :
    relaysOpened (periodic act v) = true → ContactorsOpen (periodic act v) := by
  by_cases hs : v.s_state.safe
  · intro h
    rw [contactorsOpen_tick act hs hopened]
    rw [(periodic_of_safe act v hs).2.1, shutdownTick, Bool.or_eq_true, decide_eq_true_iff] at h
    exact h.imp_left hopened
  · intro h
    have hnone : relaysOpened (periodic act v) = false :=
      relaysOpened_of_not_safe (by simpa using hs)
    rw [hnone] at h
    cases h

/-- `run` keeps the meaning of the latch. -/
theorem Ran.opened {v w : Vcu σ} (h : Ran act v w)
    (hopened : relaysOpened v = true → ContactorsOpen v) :
    relaysOpened w = true → ContactorsOpen w := by
  cases h with
  | eStopFlag | faultFlag | actuatorFault | critical | queuedEStop | resetAccepted
  | driveEnable => simp
  | queuedFault hp hq =>
    split_ifs with hs
    · simp
    · exact hopened
  | resetRejected => exact hopened
  | startAccepted => simp [relaysOpened]
  | startRejected hp hq hs => simp [relaysOpened, hs]
  | ignored hp hq => exact opened_periodic act hopened
  | noEvent hp hq => exact opened_periodic act hopened

/-- A VCU without a queue never leaves `INIT`. -/
theorem Ran.noQueue {v w : Vcu σ} (h : Ran act v w) (hq : v.s_eventQueue = none)
    (hs : v.s_state = .INIT) (he : v.s_eStopPending = false) (hf : v.s_faultPending = false) :
    w.s_state = .INIT ∧ w.s_eStopPending = false ∧ w.s_faultPending = false := by
  cases h with
  | eStopFlag hp => simp [he] at hp
  | faultFlag _ hp => simp [hf] at hp
  | actuatorFault _ _ hst => simp [hs] at hst
  | critical _ _ hst => simp [hs] at hst
  | noEvent => simp [hs]
  | queuedEStop _ hq' | queuedFault _ hq' | resetRejected _ hq' | resetAccepted _ hq'
  | startAccepted _ hq' | startRejected _ hq' | driveEnable _ hq' | ignored _ hq' =>
    simp [hq] at hq'

theorem reachable_run {v : Vcu σ} (h : Reachable v) : Reachable (run act v) := by
  have hran := ran_run act v
  refine ⟨?_, ?_, hran.opened h.opened⟩
  · intro queue hqueue
    rcases hran.s_eventQueue with hq | ⟨event, rest, hq, hq'⟩
    · exact h.bypass queue (hq ▸ hqueue)
    · obtain ⟨hE, hF⟩ := h.bypass _ hq
      obtain rfl : rest = queue := Option.some.inj (hq'.symm.trans hqueue)
      exact ⟨fun hmem => hE (List.mem_cons_of_mem _ hmem),
        fun hmem => hF (List.mem_cons_of_mem _ hmem)⟩
  · intro hqueue
    rcases hran.s_eventQueue with hq | ⟨event, rest, hq, hq'⟩
    · have hnone : v.s_eventQueue = none := hq ▸ hqueue
      obtain ⟨hs, he, hf⟩ := h.noQueue hnone
      exact hran.noQueue hnone hs he hf
    · rw [hq'] at hqueue
      cases hqueue

theorem reachable_postEvent {v : Vcu σ} (h : Reachable v) (event : VcuEvent) :
    Reachable (postEvent event v) := by
  unfold postEvent
  rcases hq : v.s_eventQueue with _ | queue
  · exact h
  · dsimp only
    split_ifs with hE hF hroom
    · refine ⟨fun _ hq' => h.bypass _ (hq.trans hq'), ?_, h.opened⟩
      intro hnone
      simp at hnone
    · refine ⟨fun _ hq' => h.bypass _ (hq.trans hq'), ?_, h.opened⟩
      intro hnone
      simp at hnone
    · refine ⟨?_, ?_, h.opened⟩
      · -- only events other than the two requests reach `xQueueSend`
        rintro queue' hqueue'
        obtain rfl : queue ++ [event] = queue' := Option.some.inj hqueue'
        obtain ⟨hE', hF'⟩ := h.bypass queue hq
        simp only [List.mem_append, List.mem_singleton, not_or]
        exact ⟨⟨hE', fun he => hE he.symm⟩, ⟨hF', fun hf => hF hf.symm⟩⟩
      · intro hnone
        simp at hnone
    · exact h

theorem reachable_step {v : Vcu σ} (h : Reachable v) (a : Action σ) :
    Reachable (step act v a) := by
  cases a with
  | run => exact reachable_run h
  | postEvent event => exact reachable_postEvent h event
  | setTelemetryData d =>
    simp only [step, setTelemetryData]
    split_ifs
    · exact h
    · exact ⟨h.bypass, h.noQueue, h.opened⟩
  | setTorqueSink bound => exact ⟨h.bypass, h.noQueue, h.opened⟩
  | actuator change => exact ⟨h.bypass, h.noQueue, h.opened⟩

variable (act)

/-- `init` ends in `IDLE` with the contactors commanded open, or stops in `INIT`. -/
theorem init_cases (q m : Bool) (relays : σ) :
    (init act q m relays).s_state = .IDLE ∧ ContactorsOpen (init act q m relays) ∨
      (init act q m relays).s_state = .INIT := by
  cases q
  · exact .inr rfl
  · cases m
    · exact .inr rfl
    · exact .inl ⟨rfl, rfl⟩

theorem init_not_safe (q m : Bool) (relays : σ) : ¬(init act q m relays).s_state.safe := by
  rcases init_cases act q m relays with ⟨hs, -⟩ | hs
  · simp [hs, VcuState.safe]
  · simp [hs, VcuState.safe]

theorem reachable_init (q m : Bool) (relays : σ) : Reachable (init act q m relays) := by
  refine ⟨?_, ?_, fun h => ?_⟩
  · intro queue hqueue
    cases q
    · simp [init] at hqueue
    · have hnil : queue = [] := by
        cases m
        · simpa [init] using hqueue.symm
        · simpa [init, issue] using hqueue.symm
      simp [hnil]
  · intro hqueue
    cases q
    · simp [init]
    · cases m
      · simp [init] at hqueue
      · simp [init, issue] at hqueue
  · rw [relaysOpened_of_not_safe (init_not_safe act q m relays)] at h
    cases h

/-- **The invariant holds in every reachable state.** -/
theorem reachable_after (q m : Bool) (relays : σ) (as : List (Action σ)) :
    Reachable (after act q m relays as) :=
  Machine.exec_invariant Reachable (fun _ a _ h => reachable_step h a)
    (reachable_init act q m relays)

/-! ### Into and inside a safe state -/

/-- The paths through `run` in a safe state: a pending flag of the other safe state, a `RESET`
that is accepted or refused, or a tick of the state's handler. -/
inductive RanSafe (v : Vcu σ) : Vcu σ → Prop
  | switched (hflags : ¬FlagsStay v) {next : VcuState} (hnext : next.safe)
      (hne : next ≠ v.s_state) {w : Vcu σ} (hcommands : w.commands = v.commands)
      (hqueue : w.s_eventQueue = v.s_eventQueue) :
      RanSafe v (transitionTo next w)
  | left (h : DequeuesReset true v) {w : Vcu σ} (hcommands : w.commands = v.commands)
      (hqueue : w.s_eventQueue = v.s_eventQueue.map List.tail) :
      RanSafe v (transitionTo .IDLE w)
  | refused (h : DequeuesReset false v) :
      RanSafe v (polled act v (v.s_eventQueue.map List.tail))
  | ticked (hflags : FlagsStay v) (hnext : nextEvent v ≠ some .RESET) :
      RanSafe v (periodic act (polled act v (v.s_eventQueue.map List.tail)))

/-- A `RESET` is not accepted and refused at once. -/
theorem DequeuesReset.not_refused {v : Vcu σ} (h : DequeuesReset true v) :
    ¬DequeuesReset false v := by
  intro h'
  have hi := h.2.2.2.symm.trans h'.2.2.2
  cases hi

variable {act}

/-- A safe state is entered by a bare transition. -/
theorem Ran.entered {v w : Vcu σ} (h : Ran act v w) (hs : ¬v.s_state.safe)
    (hw : w.s_state.safe) :
    ∃ next u, next.safe ∧ w = transitionTo next u ∧ u.commands = v.commands := by
  cases h with
  | eStopFlag | queuedEStop => exact ⟨.EMERGENCY_STOP, _, .inl rfl, rfl, rfl⟩
  | faultFlag | actuatorFault | critical => exact ⟨.FAULT, _, .inr rfl, rfl, rfl⟩
  | queuedFault =>
    split_ifs with hne
    · exact ⟨.FAULT, _, .inr rfl, rfl, rfl⟩
    · rw [not_not] at hne
      exact absurd (.inr hne) hs
  | resetRejected _ _ hsafe | resetAccepted _ _ hsafe => exact absurd hsafe hs
  | startAccepted | driveEnable => simp [VcuState.safe] at hw
  | startRejected => exact absurd (by simpa using hw) hs
  | ignored | noEvent => exact absurd (by simpa using hw) hs

/-- Past its first two tests `run` is not interrupted by a pending flag. -/
theorem Passed.flagsStay {v : Vcu σ} (h : Passed act v) : FlagsStay v := ⟨h.eStop, h.fault⟩

theorem nextEvent_cons {v : Vcu σ} {event : VcuEvent} {rest : List VcuEvent}
    (h : v.s_eventQueue = some (event :: rest)) : nextEvent v = some event := by
  simp [nextEvent, h]

/-- The head of the queue is never one of the two requests that bypass it. -/
theorem Reachable.nextEvent_ne {v : Vcu σ} (h : Reachable v) :
    nextEvent v ≠ some .EMERGENCY_STOP ∧ nextEvent v ≠ some .FAULT_DETECTED := by
  rcases hq : v.s_eventQueue with _ | _ | ⟨event, rest⟩
  · simp [nextEvent, hq]
  · simp [nextEvent, hq]
  · obtain ⟨hE, hF⟩ := h.bypass _ hq
    rw [nextEvent_cons hq]
    refine ⟨?_, ?_⟩
    · rintro ⟨⟩
      exact hE List.mem_cons_self
    · rintro ⟨⟩
      exact hF List.mem_cons_self

/-- **`run` in a safe state** takes one of the paths of `RanSafe`. -/
theorem ranSafe_run (act : IRelayActuator σ) {v : Vcu σ} (hv : Reachable v) (hs : v.s_state.safe) :
    RanSafe act v (run act v) := by
  have hran := ran_run act v
  obtain ⟨hnoE, hnoF⟩ := hv.nextEvent_ne
  generalize run act v = w at hran ⊢
  cases hran with
  | eStopFlag hp hne =>
    exact .switched (fun h => hne (h.1 hp)) (.inl rfl) (Ne.symm hne) rfl rfl
  | faultFlag _ hp hne =>
    exact .switched (fun h => hne (h.2 hp)) (.inr rfl) (Ne.symm hne) rfl rfl
  | actuatorFault _ _ hst => rcases hs with hs | hs <;> simp [hs] at hst
  | critical _ _ hst => rcases hs with hs | hs <;> simp [hs] at hst
  | queuedEStop _ hq => exact absurd (nextEvent_cons hq) hnoE
  | queuedFault _ hq => exact absurd (nextEvent_cons hq) hnoF
  | resetRejected hp hq _ hi =>
    have h : RanSafe act v _ := .refused ⟨hs, hp.flagsStay, nextEvent_cons hq, hi⟩
    rwa [hq] at h
  | resetAccepted hp hq _ hi =>
    exact .left ⟨hs, hp.flagsStay, nextEvent_cons hq, hi⟩ rfl (by simp [hq])
  | startAccepted _ _ hst => rcases hs with hs | hs <;> simp [hs] at hst
  | startRejected _ _ hst => rcases hs with hs | hs <;> simp [hs] at hst
  | driveEnable _ _ hst => rcases hs with hs | hs <;> simp [hs] at hst
  | ignored hp hq hi =>
    have hne : nextEvent v ≠ some .RESET := by
      rw [nextEvent_cons hq]
      exact fun h => hi.2.2.1 ⟨Option.some.inj h, hs⟩
    have h : RanSafe act v _ := .ticked hp.flagsStay hne
    rwa [hq] at h
  | noEvent hp hq =>
    have hne : nextEvent v ≠ some .RESET := by
      rcases hq with hq | hq <;> simp [nextEvent, hq]
    have h : RanSafe act v _ := .ticked hp.flagsStay hne
    have htail : v.s_eventQueue.map List.tail = v.s_eventQueue := by
      rcases hq with hq | hq <;> simp [hq]
    rwa [htail] at h

end TufanAks.VcuLogic

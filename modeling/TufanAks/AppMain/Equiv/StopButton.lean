import TufanAks.AppMain.Equiv.EmergencyStop
import TufanAks.DisplayHMI.Equiv.Backlog

/-!
# The stop button stops the vehicle

The frame of the stop button waits behind what the display task has not read yet, and every pass of
its loop, three steps, takes one command off the front.  So the frame is recognised after as many
passes as there are commands up to it, and from the next `run` on the vehicle is in a safe state
(`stop_button_stops`), in every schedule that lets the two tasks take these steps.
-/

namespace TufanAks.Firmware

open Machine
open DisplayHMI (backlog reads frame)
open RelayActuatorAdapter (relayActuator)
open VcuLogic (StopOrdered)

/-! ### The loop of the display task -/

/-- How far a pass of the loop has come. -/
def phase : HmiPc → Option ℕ
  | .updateScreen => some 0
  | .buildBmsNextionCommands => some 1
  | .readTouchCommand => some 2
  | .begin _ | .degraded => none

/-- The action is a step of the display task. -/
def Action.isHmi : Action → Bool
  | .hmi _ => true
  | _ => false

theorem phase_le {pc : HmiPc} {n : ℕ} (h : phase pc = some n) : n ≤ 2 := by
  cases pc <;> simp [phase] at h <;> omega

/-- A display that is started is in the loop. -/
theorem phase_of_initialized {b : BootInput} {as : List Action}
    (h : (after b as).HMI_display.HMI_isInitialized = true) :
    ∃ n, phase (after b as).hmiPc = some n := by
  revert h
  refine exec_invariant (fun f : Firmware =>
    f.HMI_display.HMI_isInitialized = true → ∃ n, phase f.hmiPc = some n) (fun f a _ hf h => ?_)
    (fun h => ?_)
  · have hother : (∀ input, a ≠ .hmi input) → ∃ n, phase (step f a).hmiPc = some n := by
      intro ha
      obtain ⟨hpc, hinit, -⟩ := hmi_frame f ha
      rw [hinit] at h
      rw [hpc]
      exact hf h
    cases a with
    | hmi input =>
      cases hpc : f.hmiPc with
      | begin retry_count =>
        simp only [step, hmiStep, hpc] at h ⊢
        rw [if_pos h]
        exact ⟨0, rfl⟩
      | updateScreen => exact ⟨1, by simp [step, hmiStep, hpc, phase]⟩
      | buildBmsNextionCommands => exact ⟨2, by simp [step, hmiStep, hpc, phase]⟩
      | readTouchCommand => exact ⟨0, by simp [step, hmiStep, hpc, phase]⟩
      | degraded =>
        have hstep : step f (.hmi input) = f := by simp [step, hmiStep, hpc]
        rw [hstep] at h ⊢
        exact hf h
    | can | vcu | lora | receive | chip => exact hother (by simp)
  · -- at the start the display is not
    cases h

/-- **One action**: the third step of a pass reads, and begins the next pass. -/
theorem phase_step {f : Firmware} {n : ℕ} (hn : phase f.hmiPc = some n) (a : Action) :
    ∃ m, phase (step f a).hmiPc = some m ∧
      3 * reads (displayActs f a) + m = n + [a].countP Action.isHmi := by
  have hother : (∀ input, a ≠ .hmi input) → reads (displayActs f a) = 0 →
      [a].countP Action.isHmi = 0 → ∃ m, phase (step f a).hmiPc = some m ∧
        3 * reads (displayActs f a) + m = n + [a].countP Action.isHmi := by
    intro ha hreads hcount
    rw [(hmi_frame f ha).1, hreads, hcount]
    exact ⟨n, hn, by omega⟩
  cases a with
  | hmi input =>
    cases hpc : f.hmiPc with
    | begin | degraded =>
      rw [hpc] at hn
      cases hn
    | updateScreen =>
      rw [hpc] at hn
      obtain rfl := Option.some.inj hn
      exact ⟨1, by simp [step, hmiStep, hpc, phase],
        by simp [displayActs, hpc, reads, Action.isHmi]⟩
    | buildBmsNextionCommands =>
      rw [hpc] at hn
      obtain rfl := Option.some.inj hn
      exact ⟨2, by simp [step, hmiStep, hpc, phase],
        by simp [displayActs, hpc, reads, Action.isHmi]⟩
    | readTouchCommand =>
      rw [hpc] at hn
      obtain rfl := Option.some.inj hn
      exact ⟨0, by simp [step, hmiStep, hpc, phase],
        by simp [displayActs, hpc, reads, Action.isHmi, DisplayHMI.Action.isRead]⟩
  | can | vcu | lora | receive | chip => exact hother (by simp) rfl rfl

/-- **Every run** reads once in three steps of the display task. -/
theorem phase_exec {f : Firmware} {n : ℕ} (hn : phase f.hmiPc = some n) (as : List Action) :
    ∃ m, phase (exec step f as).hmiPc = some m ∧
      3 * reads (displayComponent.trace f as) + m = n + as.countP Action.isHmi := by
  induction as generalizing f n with
  | nil => exact ⟨n, hn, by simp [reads, Component.trace, Machine.trace]⟩
  | cons a as ih =>
    obtain ⟨m, hm, hstep⟩ := phase_step hn a
    obtain ⟨k, hk, hrest⟩ := ih hm
    refine ⟨k, hk, ?_⟩
    have hcount : (a :: as).countP Action.isHmi =
        [a].countP Action.isHmi + as.countP Action.isHmi := by
      rw [← List.countP_append, List.singleton_append]
    rw [Component.trace_cons, DisplayHMI.reads_append, hcount]
    show 3 * (reads (displayActs f a) + _) + k = _
    omega

/-! ### Recognition -/

/-- A command that the display returns in an action is recognised there. -/
theorem recognises_step (f : Firmware) (a : Action) :
    ∃ new, (step f a).HMI_display.commands = f.HMI_display.commands ++ new ∧
      ∀ c ∈ new, Recognises c f a := by
  have hnone : (step f a).HMI_display.commands = f.HMI_display.commands →
      ∃ new, (step f a).HMI_display.commands = f.HMI_display.commands ++ new ∧
        ∀ c ∈ new, Recognises c f a := by
    intro h
    exact ⟨[], by rw [h, List.append_nil], fun _ hc => absurd hc List.not_mem_nil⟩
  cases a with
  | hmi input =>
    cases hpc : f.hmiPc with
    | readTouchCommand =>
      refine ⟨f.HMI_display.readTouchCommand.1.toList, ?_, ?_⟩
      · simp [step, hmiStep, hpc, DisplayHMI.step]
      · intro c hc
        exact ⟨input, rfl, hpc, Option.mem_toList.mp hc⟩
    | begin retry_count =>
      apply hnone
      simp only [step, hmiStep, hpc, DisplayHMI.begin]
      split_ifs <;> rfl
    | updateScreen | buildBmsNextionCommands | degraded =>
      apply hnone
      simp [step, hmiStep, hpc]
  | receive bytes =>
    apply hnone
    show (f.HMI_display.step (.receive bytes)).commands = _
    unfold DisplayHMI.step
    dsimp only
    split_ifs <;> rfl
  | can | vcu | lora | chip =>
    apply hnone
    rw [display_step]
    rfl

/-- A command that the display returns in a run is recognised in one of its actions. -/
theorem recognises_exec (f : Firmware) (as : List Action) :
    ∃ new, (exec step f as).HMI_display.commands = f.HMI_display.commands ++ new ∧
      ∀ c ∈ new, ∃ pre a post, as = pre ++ a :: post ∧ Recognises c (exec step f pre) a := by
  induction as generalizing f with
  | nil => exact ⟨[], (List.append_nil _).symm, fun _ hc => absurd hc List.not_mem_nil⟩
  | cons a as ih =>
    obtain ⟨first, hfirst, hhere⟩ := recognises_step f a
    obtain ⟨later, hlater, hthere⟩ := ih (step f a)
    refine ⟨first ++ later, ?_, fun c hc => ?_⟩
    · rw [exec_cons, hlater, hfirst, List.append_assoc]
    · rcases List.mem_append.mp hc with hc | hc
      · exact ⟨[], a, as, rfl, hhere c hc⟩
      · obtain ⟨pre, a', post, rfl, hrecognised⟩ := hthere c hc
        exact ⟨a :: pre, a', post, rfl, hrecognised⟩

/-! ### The button -/

/-- The bytes that the stop button sends: its frame, where the parser will wait for a header, or its
frame twice. -/
def StopPressed (f : Firmware) (bytes : List UInt8) : Prop :=
  bytes = frame HMI_CMD_EMERGENCY_STOP ++ frame HMI_CMD_EMERGENCY_STOP ∨
    bytes = frame HMI_CMD_EMERGENCY_STOP ∧
      (feed touchByte f.HMI_display.touch f.HMI_display.rx).1.rxState = 0

/-- **The frame is recognised** once the display task has had a pass for every command up to it. -/
theorem recognised_of_pressed {b : BootInput} {pre : List Action} {bytes : List UInt8}
    {mid : List Action} (hstarted : (after b pre).HMI_display.HMI_isInitialized = true)
    (hpressed : StopPressed (after b pre) bytes)
    (hpasses : 3 * (backlog (step (after b pre) (.receive bytes)).HMI_display).length ≤
      mid.countP Action.isHmi) :
    ∃ before a behind, mid = before ++ a :: behind ∧
      Recognises HMI_CMD_EMERGENCY_STOP
        (exec step (step (after b pre) (.receive bytes)) before) a := by
  have hle : (after b pre).HMI_display.touch.rxState ≤ 2 := by
    rw [display_after]
    exact DisplayHMI.rxState_after_le _
  have hmem : HMI_CMD_EMERGENCY_STOP ∈
      backlog (step (after b pre) (.receive bytes)).HMI_display :=
    DisplayHMI.mem_backlog_of_frame hstarted hle (by decide) hpressed
  obtain ⟨n, hn⟩ := phase_of_initialized hstarted
  have hinit : (step (after b pre) (.receive bytes)).HMI_display.HMI_isInitialized = true :=
    (DisplayHMI.step_spec hstarted (.receive bytes)).1
  have hloop : phase (step (after b pre) (.receive bytes)).hmiPc = some n := hn
  generalize step (after b pre) (.receive bytes) = f at hpasses hmem hinit hloop ⊢
  obtain ⟨m, hm, hreads⟩ := phase_exec hloop mid
  have hlast := phase_le hm
  have hreturned :=
    @DisplayHMI.commands_of_backlog _ hinit (displayComponent.trace f mid) (by omega)
  rw [← displayComponent.view_exec] at hreturned
  obtain ⟨more, hmore⟩ := hreturned
  obtain ⟨new, hnew, hrecognised⟩ := recognises_exec f mid
  refine hrecognised _ ?_
  rw [hnew, List.append_assoc] at hmore
  rw [← List.append_cancel_left hmore]
  exact List.mem_append_left _ hmem

/-- Only the posting of a `RESET` puts one into the queue. -/
theorem noReset_step {v : VcuLogic.Vcu RelayManager} {call : VcuLogic.Action RelayManager}
    (h : .RESET ∉ VcuLogic.queued v) (hne : call ≠ .postEvent .RESET) :
    .RESET ∉ VcuLogic.queued (VcuLogic.step relayActuator v call) := by
  by_cases hrun : call = .run
  · subst hrun
    exact fun hmem => h (VcuLogic.mem_queued_of_run hmem)
  · rcases VcuLogic.queued_step_of_ne_run relayActuator v hrun with hq | ⟨event, rfl, -, hq⟩
    · rw [hq]
      exact h
    · rw [hq, List.mem_append, List.mem_singleton, not_or]
      exact ⟨h, fun hevent => hne (by rw [← hevent])⟩

/-- **The stop button stops the vehicle.**  In every schedule, once the display has been started:
when the bytes of the stop button have arrived, the display task has had a pass of three steps for
every command up to the stop, and `run` is called after that, the state is a safe one, and no
command has closed the contactors since the call.  This holds as long as no `RESET` is queued or
recognised, whatever else arrives and whatever the other tasks do. -/
theorem stop_button_stops (b : BootInput) (hb : b.eventQueueCreated = true)
    (pre : List Action) (bytes : List UInt8) (mid rest : List Action)
    (hstarted : (after b pre).HMI_display.HMI_isInitialized = true)
    (hpressed : StopPressed (after b pre) bytes)
    (hpasses : 3 * (backlog (step (after b pre) (.receive bytes)).HMI_display).length ≤
      mid.countP Action.isHmi)
    (hreset : .RESET ∉ VcuLogic.queued (after b pre).vcu)
    (hno : Along step (fun f a => ¬Recognises HMI_CMD_RESET f a) (after b pre)
      (.receive bytes :: mid ++ .vcu :: rest))
    (hpc : (after b (pre ++ .receive bytes :: mid)).vcuPc = .run) :
    (after b (pre ++ .receive bytes :: mid ++ .vcu :: rest)).vcu.s_state.safe ∧
      ∃ issued, (after b (pre ++ .receive bytes :: mid ++ .vcu :: rest)).vcu.commands =
        (after b (pre ++ .receive bytes :: mid)).vcu.commands ++ issued ∧ .allOn ∉ issued := by
  obtain ⟨before, a, behind, rfl, hrecognised⟩ :=
    recognised_of_pressed hstarted hpressed hpasses
  -- the run up to the recognition, the recognition, and the run from there to the call
  have hsplit : ∀ as, after b (pre ++ .receive bytes :: as) =
      exec step (step (after b pre) (.receive bytes)) as := fun as => exec_append _ _ _
  obtain ⟨hmid, hrest⟩ := (along_append _ _ _).mp hno
  obtain ⟨hfirst, hbehind⟩ := (along_append _ (.receive bytes :: before) (a :: behind)).mp hmid
  have hreset' : .RESET ∉ VcuLogic.queued (after b (pre ++ .receive bytes :: before)).vcu := by
    rw [hsplit]
    exact @vcu_exec_of_not_reset (fun v => .RESET ∉ VcuLogic.queued v)
      (fun _ _ h hne => noReset_step h hne) _ hreset _ hfirst
  rw [← hsplit] at hrecognised
  have hordered := stopOrdered_of_asksForStop hb hreset' (.inl hrecognised)
  have hcalled : StopOrdered (after b (pre ++ .receive bytes :: (before ++ a :: behind))).vcu := by
    have hjoin : pre ++ .receive bytes :: (before ++ a :: behind) =
        (pre ++ .receive bytes :: before ++ [a]) ++ behind := by simp
    rw [hjoin, show after b ((pre ++ .receive bytes :: before ++ [a]) ++ behind) =
      exec step (after b (pre ++ .receive bytes :: before ++ [a])) behind from exec_append _ _ _]
    refine vcu_exec_of_not_reset (fun _ _ h hne => h.step hne) hordered ?_
    rw [show after b (pre ++ .receive bytes :: before ++ [a]) =
      step (after b (pre ++ .receive bytes :: before)) a from exec_concat _ _ _, hsplit]
    exact hbehind.2
  rw [show exec step (after b pre) (.receive bytes :: (before ++ a :: behind)) =
    after b (pre ++ .receive bytes :: (before ++ a :: behind)) from (hsplit _).symm] at hrest
  rw [show after b (pre ++ .receive bytes :: (before ++ a :: behind) ++ .vcu :: rest) =
    exec step (after b (pre ++ .receive bytes :: (before ++ a :: behind))) (.vcu :: rest) from
      exec_append _ _ _]
  generalize after b (pre ++ .receive bytes :: (before ++ a :: behind)) = f at *
  refine ⟨(stopped_of_run hcalled hpc hrest).2, ?_⟩
  have hstart : Unclosed f.vcu.commands f.vcu :=
    ⟨hcalled, [], (List.append_nil _).symm, List.not_mem_nil⟩
  exact (vcu_exec_of_not_reset (fun _ _ h hne => unclosed_step h hne) hstart hrest).2

instance (c : UInt8) (f : Firmware) : ∀ a, Decidable (Recognises c f a)
  | .hmi input =>
    decidable_of_iff (f.hmiPc = .readTouchCommand ∧ f.HMI_display.readTouchCommand.1 = some c)
      ⟨fun h => ⟨input, rfl, h⟩, fun ⟨_, _, h⟩ => h⟩
  | .can _ | .vcu | .lora _ | .receive _ | .chip _ => isFalse fun ⟨_, h, _⟩ => nomatch h

/-- The button is pressed twice on the bench, in `READY`, while a stray header has not been read:
the first frame is lost. -/
theorem stop_button_stops_on_bench :
    (after bench (startup ++ [.vcu, .receive [0x5A]] ++
      .receive [0x5A, 0x03, 0xFC, 0x5A, 0x03, 0xFC] :: [benchHmi, benchHmi, .vcu, benchHmi] ++
      .vcu :: [.vcu])).vcu.s_state.safe := by
  have hstopped := stop_button_stops bench rfl (startup ++ [.vcu, .receive [0x5A]])
    [0x5A, 0x03, 0xFC, 0x5A, 0x03, 0xFC] [benchHmi, benchHmi, .vcu, benchHmi] [.vcu]
    (by decide +kernel) (Or.inl (by decide +kernel)) (by decide +kernel) (by decide +kernel)
    (by decide +kernel) (by decide +kernel)
  exact hstopped.1

end TufanAks.Firmware

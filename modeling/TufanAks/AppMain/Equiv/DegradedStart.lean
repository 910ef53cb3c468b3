import TufanAks.AppMain.Equiv.Freshness
import TufanAks.AppMain.Equiv.Operator

/-!
# Starts that fail

The tasks go on when the display or the CAN driver cannot be started: the display task gives up
after five attempts, the CAN task deletes itself.  The vehicle then stays where it is, with open
contactors (`never_closed_of_failed_start`): without a display no command is recognised, and without
CAN no record is ever published.
-/

namespace TufanAks.Firmware

open Machine
open RelayActuatorAdapter (relayActuator)

/-! ### States that are never reached -/

/-- The states in which the contactors are closed or may be. -/
def Live (s : VcuLogic.VcuState) : Prop := s = .READY ∨ s = .DRIVE

/-- The first live state of a run is entered by a `run` that enters `READY`. -/
theorem readyEntry_of_live {b : BootInput} {as : List Action}
    (h : Live (after b as).vcu.s_state) :
    ∃ pre post, as = pre ++ .vcu :: post ∧ (after b pre).vcuPc = .run ∧
      VcuLogic.ReadyEntry relayActuator (after b pre).vcu := by
  have hstart : ¬Live (booted b).vcu.s_state := by
    rcases state_booted b with hs | hs <;> simp [Live, hs]
  obtain ⟨pre, a, post, rfl, hpre, hpost⟩ :=
    exec_crossing (fun f : Firmware => Live f.vcu.s_state) hstart h
  have hmoved := moved_step (after b pre) a
  generalize hw : way (step (after b pre) a) = w at hmoved
  have hwstate : (step (after b pre) a).vcu.s_state = w.state := congrArg Way.state hw
  rw [hwstate] at hpost
  cases hmoved with
  | ran hpc =>
    refine ⟨pre, post, rfl, hpc, ?_⟩
    have hnotReady : (after b pre).vcu.s_state ≠ .READY := fun hs => hpre (.inl hs)
    have hnotDrive : (after b pre).vcu.s_state ≠ .DRIVE := fun hs => hpre (.inr hs)
    rcases hpost with hready | hdrive
    · exact VcuLogic.readyEntry_of_run hnotReady hready
    · exact absurd (VcuLogic.driveEntry_of_run hnotDrive hdrive).source hnotReady
  | nothing | started | polled | notified | published | peeked => exact absurd hpost hpre

/-- While no live state is reached, the contactors are not closed. -/
theorem allOn_not_mem {b : BootInput} {as : List Action}
    (h : ∀ pre, pre <+: as → ¬Live (after b pre).vcu.s_state) :
    .allOn ∉ (after b as).vcu.commands := by
  induction as using List.reverseRecOn with
  | nil =>
    obtain ⟨_, _, q, m, _, _, _⟩ := b
    cases q
    · simp [booted, RelayActuatorAdapter.boot, VcuLogic.init, VcuLogic.setTorqueSink]
    · cases m <;> simp [booted, RelayActuatorAdapter.boot, VcuLogic.init, VcuLogic.setTorqueSink,
        VcuLogic.issue, VcuLogic.transitionTo]
  | append_singleton as a ih =>
    have hbefore := ih fun pre hpre => h pre (hpre.trans (List.prefix_append as [a]))
    have hnot := h (as ++ [a]) (List.prefix_refl _)
    rw [show after b (as ++ [a]) = step (after b as) a from exec_concat _ _ _] at hnot ⊢
    have hview := vcu_step (after b as) a
    -- an action is at most one call into the state machine
    obtain hnone | ⟨call, hcall⟩ : vcuActs (after b as) a = [] ∨
        ∃ call, vcuActs (after b as) a = [call] := vcuActs_le_one _ _
    · rw [hnone] at hview
      rwa [hview]
    · rw [hcall] at hview
      obtain ⟨issued, hissued, hready⟩ :=
        (@VcuLogic.interlocked_step _ relayActuator (after b as).vcu call).allOn
      have hstep : (step (after b as) a).vcu = VcuLogic.step relayActuator (after b as).vcu call :=
        hview
      rw [hstep] at hnot ⊢
      rw [hissued, List.mem_append, not_or]
      exact ⟨hbefore, fun hmem => hnot (.inl (hready hmem))⟩

/-! ### Without a display, without CAN -/

/-- The display never starts. -/
def DisplayFails (as : List Action) : Prop :=
  ∀ input, .hmi input ∈ as → input.driverInstalled = false

/-- The CAN driver never starts. -/
def CanFails (as : List Action) : Prop :=
  ∀ input, .can input ∈ as → input.mutexCreated = false ∨ input.driverStarted = false

/-- A display that never starts returns no command. -/
theorem display_of_displayFails {b : BootInput} {as : List Action} (h : DisplayFails as) :
    (after b as).HMI_display = {} := by
  refine exec_invariant (fun f : Firmware => f.HMI_display = {}) (fun f a ha hf => ?_) rfl
  rw [display_step, hf]
  cases a with
  | hmi input =>
    have hfails := h input ha
    cases hpc : f.hmiPc <;>
      simp [displayActs, hpc, DisplayHMI.step, DisplayHMI.begin, DisplayHMI.readTouchCommand,
        hfails]
  | receive bytes => rfl
  | can | vcu | lora | chip => rfl

/-- A CAN task whose driver never starts never polls. -/
theorem canPc_of_canFails {b : BootInput} {as : List Action} (h : CanFails as) :
    (after b as).canPc ≠ .processRxMessages := by
  have hinv : (after b as).can.isInitialized = false ∧
      ((after b as).canPc = .begin ∨ (after b as).canPc = .deleted) := by
    refine exec_invariant (fun f : Firmware => f.can.isInitialized = false ∧
      (f.canPc = .begin ∨ f.canPc = .deleted)) (fun f a ha hf => ?_) ⟨rfl, .inl rfl⟩
    obtain ⟨hinit, hpc⟩ := hf
    have hmoved := moved_step f a
    generalize hw : way (step f a) = w at hmoved
    have hwcan : (step f a).can = w.can := congrArg Way.can hw
    have hwpc : (step f a).canPc = w.canPc := congrArg Way.canPc hw
    cases hmoved with
    | nothing | peeked | ran => exact ⟨hwcan ▸ hinit, hwpc ▸ hpc⟩
    | started input hbegin =>
      have hfails := h input ha
      have hcan : (step f (.can input)).can =
          (f.can.setEventCallback true).begin input.mutexCreated input.driverStarted := by
        simp [step, canStep, hbegin]
      have hfalse : (step f (.can input)).can.isInitialized = false := by
        rw [hcan]
        rcases hfails with hm | hd
        · simp [CanManager.begin, CanManager.setEventCallback, hinit, hm]
        · simp only [CanManager.begin, CanManager.setEventCallback, hinit, hd]
          split_ifs <;> simp_all
      refine ⟨hfalse, .inr ?_⟩
      rw [hcan] at hfalse
      simp [step, canStep, hbegin, hfalse]
    | polled _ hpc' | notified _ hpc' | published _ hpc' =>
      rw [hpc'] at hpc
      simp at hpc
  rcases hinv.2 with hpc | hpc <;> simp [hpc]

theorem CanFails.of_isPrefix {as pre : List Action} (h : CanFails as) (hpre : pre <+: as) :
    CanFails pre := fun input hmem => h input (hpre.subset hmem)

theorem DisplayFails.of_isPrefix {as pre : List Action} (h : DisplayFails as) (hpre : pre <+: as) :
    DisplayFails pre := fun input hmem => h input (hpre.subset hmem)

/-- Without commands the queue stays empty, and without records there is nothing to permit an
entry. -/
theorem not_readyEntry {b : BootInput} {as : List Action} (h : DisplayFails as ∨ CanFails as) :
    ¬VcuLogic.ReadyEntry relayActuator (after b as).vcu := by
  intro hentry
  rcases h with h | h
  · have htaken :=
      VcuLogic.taken_append_queued_sublist relayActuator (booted b).vcu (vcuCalls b as)
    rw [queued_booted, List.nil_append, offers_vcuCalls, display_of_displayFails h,
      ← vcuComponent.view_exec] at htaken
    have hempty : VcuLogic.queued (after b as).vcu = [] :=
      List.sublist_nil.mp ((List.sublist_append_right _ _).trans htaken)
    obtain ⟨rest, hq, -⟩ := hentry.event
    simp [VcuLogic.queued, hq] at hempty
  · have hpermitted := hentry.permitted
    obtain hlatest | ⟨pre, input, mid, us, rfl, hpc, -⟩ := (history b as).latest
    · rw [hlatest] at hpermitted
      cases hpermitted
    · exact canPc_of_canFails (h.of_isPrefix (List.prefix_append _ _)) hpc

/-- **A start that fails leaves the contactors open.**  In every schedule in which the display or
the CAN driver never starts, the vehicle never gets ready to drive and no command closes the
contactors. -/
theorem never_closed_of_failed_start (b : BootInput) (as : List Action)
    (h : DisplayFails as ∨ CanFails as) :
    (after b as).vcu.s_state ≠ .READY ∧ (after b as).vcu.s_state ≠ .DRIVE ∧
      .allOn ∉ (after b as).vcu.commands := by
  have hnever : ∀ pre, pre <+: as → ¬Live (after b pre).vcu.s_state := by
    rintro pre hpre hlive
    obtain ⟨first, post, rfl, -, hentry⟩ := readyEntry_of_live hlive
    have hfirst : first <+: as := (List.prefix_append _ _).trans hpre
    exact not_readyEntry (h.imp (·.of_isPrefix hfirst) (·.of_isPrefix hfirst)) hentry
  have hnow := hnever as (List.prefix_refl _)
  exact ⟨fun hs => hnow (.inl hs), fun hs => hnow (.inr hs), allOn_not_mem hnever⟩

/-- The vehicle on the bench, with a CAN driver that does not start. -/
theorem never_closed_without_can :
    .allOn ∉ (after bench [.can { driverStarted := false, poll := benchPoll, us := 20000 }, .vcu,
      .vcu]).vcu.commands := by
  refine (never_closed_of_failed_start bench _ (.inr fun input hmem => ?_)).2.2
  simp only [List.mem_cons, Action.can.injEq, reduceCtorEq, List.not_mem_nil, or_false] at hmem
  rw [hmem]
  exact .inr rfl

end TufanAks.Firmware

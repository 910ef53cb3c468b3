import TufanAks.AppMain.Equiv.EmergencyStop
import TufanAks.Cores.Equiv.Components

/-!
# A stop on two cores

A stop can be asked for while a call of `run` is in progress on the other core, after the exchange
of its flag.  That call goes on as if nothing had happened, and may still close the contactors.  The
next one answers the stop: from its beginning on no command closes the contactors, and from its end
on the state is a safe one, also in the middle of later calls (`stop_latches`).
-/

namespace TufanAks.Cores

open Firmware (Action BootInput AsksForStop Recognises vcuActs bench benchHmi)
open Machine
open RelayActuatorAdapter (relayActuator)
open VcuLogic (Answered Answering Asked RunTask)

/-! ### The request -/

/-- The event queue is created once and for all. -/
theorem eventQueue_ne_none {b : BootInput} (hb : b.eventQueueCreated = true) (as : List Action) :
    (after b as).tasks.vcu.s_eventQueue ≠ none := by
  refine runComponent.invariant (fun r => r.vcu.s_eventQueue ≠ none)
    (fun _ call h => VcuLogic.queue_step h call) ?_ as
  exact Firmware.eventQueue_ne_none hb []

/-- A request is not a step that is cut. -/
theorem step_of_asksForStop {c : Cores} {a : Action} (h : AsksForStop c.tasks a) :
    step c a = { c with tasks := Firmware.step c.tasks a } := by
  have hstep := stepped_step c a
  generalize step c a = c' at hstep ⊢
  rcases h with ⟨input, rfl, hpc, -⟩ | ⟨input, events, rfl, -⟩
  · cases hstep with
    | whole => rfl
    | read hscreen | shown hscreen => exact absurd (hpc.symm.trans hscreen) (by simp)
  · cases hstep with
    | whole => rfl

theorem asked_of_asksForStop {b : BootInput} (hb : b.eventQueueCreated = true) {pre : List Action}
    {a : Action} (hreset : .RESET ∉ VcuLogic.queued (after b pre).tasks.vcu)
    (hstop : AsksForStop (after b pre).tasks a) : Asked (runTask (after b (pre ++ [a]))) := by
  obtain ⟨queue, hq⟩ := Option.ne_none_iff_exists'.mp (eventQueue_ne_none hb pre)
  rw [show after b (pre ++ [a]) = step (after b pre) a from exec_concat _ _ _,
    step_of_asksForStop hstop]
  rcases Firmware.vcu_of_asksForStop hstop with hvcu | hvcu
  all_goals
    refine ⟨⟨?_, ?_⟩, .inr ?_⟩
    · simp [runTask, hvcu, VcuLogic.postEvent, hq]
    · simpa [runTask, hvcu, VcuLogic.queued, VcuLogic.postEvent, hq] using hreset
    · simp [runTask, hvcu, VcuLogic.postEvent, hq]

/-! ### The answer -/

/-- An invariant of the state machine that every phase and every call but the posting of a `RESET`
keeps is kept by every run that does not recognise one. -/
theorem runTask_exec_of_not_reset {Inv : RunTask RelayManager → Prop}
    (hInv : ∀ r call, Inv r → call ≠ .postEvent .RESET → Inv (r.step relayActuator call))
    {c : Cores} (h : Inv (runTask c)) {as : List Action}
    (hno : Along step (fun c a => ¬Recognises HMI_CMD_RESET c.tasks a) c as) :
    Inv (runTask (exec step c as)) := by
  refine exec_invariant_of_along (fun c => Inv (runTask c)) (fun c a hc ha => ?_) h hno
  rw [runTask_step]
  have hne : .postEvent .RESET ∉ vcuActs c.tasks a :=
    fun hmem => ha (Firmware.recognises_of_reset hmem)
  refine exec_invariant Inv (fun r call hcall hr => hInv r call hr ?_) hc
  rintro rfl
  exact hne hcall

/-- A call is answering, and nothing has closed the contactors since the commands `before`. -/
def Unclosed (before : List VcuLogic.Command) (r : RunTask RelayManager) : Prop :=
  Answering r ∧ ∃ issued, r.vcu.commands = before ++ issued ∧ .allOn ∉ issued

theorem unclosed_step {before : List VcuLogic.Command} {r : RunTask RelayManager}
    {call : VcuLogic.Action RelayManager} (h : Unclosed before r)
    (hne : call ≠ .postEvent .RESET) : Unclosed before (r.step relayActuator call) := by
  obtain ⟨hanswering, issued, hissued, hnot⟩ := h
  obtain ⟨new, hnew, hclosed⟩ := @Answering.commands_step _ relayActuator _ hanswering call
  refine ⟨hanswering.step hne, issued ++ new, ?_, ?_⟩
  · rw [hnew, hissued, List.append_assoc]
  · rw [List.mem_append, not_or]
    exact ⟨hnot, hclosed⟩

/-- **A stop is latched.**  In every schedule of the two cores, after a stop was asked for while no
`RESET` was queued, and as long as no `RESET` frame is recognised: from the beginning of the first
call of `run` that begins after the request, no command closes the contactors, and from the end of
that call the state is a safe one. -/
theorem stop_latches (b : BootInput) (hb : b.eventQueueCreated = true) (pre : List Action)
    (a : Action) (mid rest : List Action)
    (hreset : .RESET ∉ VcuLogic.queued (after b pre).tasks.vcu)
    (hstop : AsksForStop (after b pre).tasks a)
    (hno : Along step (fun c a => ¬Recognises HMI_CMD_RESET c.tasks a) (after b (pre ++ [a]))
      (mid ++ .vcu :: rest))
    (hcall : (after b (pre ++ a :: mid)).tasks.vcuPc = .run)
    (hbegins : (after b (pre ++ a :: mid)).runPc = .eStopPending) :
    (∃ issued, (after b (pre ++ a :: mid ++ .vcu :: rest)).tasks.vcu.commands =
        (after b (pre ++ a :: mid)).tasks.vcu.commands ++ issued ∧ .allOn ∉ issued) ∧
      ∀ during behind, rest = during ++ behind →
        (after b (pre ++ a :: mid ++ .vcu :: during)).runPc = .eStopPending →
        (after b (pre ++ a :: mid ++ .vcu :: rest)).tasks.vcu.s_state.safe := by
  have hasked := asked_of_asksForStop hb hreset hstop
  obtain ⟨hmid, -, hrest⟩ := (along_append _ mid _).mp hno
  have hsplit : exec step (after b (pre ++ [a])) mid = after b (pre ++ a :: mid) := by
    rw [← exec_append, List.append_assoc, List.singleton_append]
  have hwaiting : Asked (runTask (after b (pre ++ a :: mid))) := by
    rw [← hsplit]
    exact runTask_exec_of_not_reset (fun _ _ h hne => h.step hne) hasked hmid
  rw [hsplit] at hrest
  have hafter : ∀ as, after b (pre ++ a :: mid ++ .vcu :: as) =
      exec step (step (after b (pre ++ a :: mid)) .vcu) as := fun as => exec_append _ _ _
  simp only [hafter]
  generalize after b (pre ++ a :: mid) = c at *
  -- the first phase of the call, and what it leaves
  have hfirst : runTask (step c .vcu) = (runTask c).step relayActuator .run := by
    rw [runTask_step]
    simp [vcuActs, hcall]
  have hanswering : Answering (runTask (step c .vcu)) := by
    rw [hfirst]
    exact hwaiting.answering hbegins
  have hcommands : (step c .vcu).tasks.vcu.commands = c.tasks.vcu.commands := by
    show (runTask (step c .vcu)).vcu.commands = _
    rw [hfirst]
    show (VcuLogic.runStep relayActuator c.runPc c.tasks.vcu).1.commands = _
    rw [hbegins]
    exact VcuLogic.commands_runStep (by simp) _
  constructor
  · have hstart : Unclosed c.tasks.vcu.commands (runTask (step c .vcu)) :=
      ⟨hanswering, [], hcommands.trans (List.append_nil _).symm, List.not_mem_nil⟩
    exact (runTask_exec_of_not_reset (fun _ _ h hne => unclosed_step h hne) hstart hrest).2
  · rintro during behind rfl hended
    obtain ⟨hduring, hbehind⟩ := (along_append _ during behind).mp hrest
    have hlast : Answering (runTask (exec step (step c .vcu) during)) :=
      runTask_exec_of_not_reset (fun _ _ h hne => h.step hne) hanswering hduring
    have hanswered : Answered (runTask (exec step (step c .vcu) (during ++ behind))) := by
      rw [exec_append]
      exact runTask_exec_of_not_reset (fun _ _ h hne => h.step hne) (hlast.answered hended) hbehind
    exact hanswered.2.state

/-! ### A bench -/

/-- The operator presses the stop button; the next step of the display task recognises its frame,
if the relays are on. -/
def pressed : List Action := .receive [0x5A, 0x03, 0xFC] :: List.replicate 14 benchHmi

/-- On the bench the operator stops the vehicle in `READY`. -/
theorem stop_latches_on_bench :
    (after bench (startup ++ List.replicate 6 .vcu ++ pressed ++ benchHmi :: [.vcu] ++
      .vcu :: [.vcu, .vcu])).tasks.vcu.s_state.safe := by
  have hlatched := stop_latches bench rfl (startup ++ List.replicate 6 .vcu ++ pressed) benchHmi
    [.vcu] [.vcu, .vcu] (by decide +kernel) (.inl ⟨_, rfl, by decide +kernel, by decide +kernel⟩)
    ⟨?_, ?_, ?_, ?_, trivial⟩ (by decide +kernel) (by decide +kernel)
  · exact hlatched.2 [] [.vcu, .vcu] rfl (by decide +kernel)
  all_goals
    rintro ⟨_, h, -⟩
    cases h

-- a call that has taken the `START` from the queue still closes the contactors after the request
example : VcuLogic.lastContactorCommand (after bench (startup ++ List.replicate 4 .vcu ++
    .receive [0x5A, 0x03, 0xFC] :: List.replicate 6 benchHmi ++ [.vcu, .vcu])).tasks.vcu.commands =
      some .allOn := by
  decide +kernel

end TufanAks.Cores

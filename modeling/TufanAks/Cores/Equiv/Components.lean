import TufanAks.AppMain.Equiv.Uplink
import TufanAks.Cores
import TufanAks.VcuLogic.Equiv.Phases

/-!
# The components of the two cores

The state machine sees phases of `run`, and calls of its other functions between them
(`runComponent`).  The CAN task does on the two cores what it does in `Firmware`, and publishes the
same records (`sameCan_after`).

If nothing falls into a call of `run` or between the reads of the display task, the two cores are
`Firmware`: each of its schedules, from what `app_main` leaves, is a schedule here in which some
actions are repeated (`schedules_of_app_main`).
-/

namespace TufanAks.Cores

open Firmware (Action BootInput HmiInput hmiInputs canActs vcuActs published benchCan benchHmi)
open Machine
open RelayActuatorAdapter (relayActuator)
open VcuLogic (Finishes RunPc RunTask Vcu VcuState)

/-! ### The steps -/

/-- What an action can be: one of `Firmware`, a phase of `run`, a read before `updateScreen`, or the
call of it. -/
inductive Stepped (c : Cores) : Action → Cores → Prop
  | whole {a : Action} (hvcu : a = .vcu → c.tasks.vcuPc = .peek)
      (hhmi : ∀ input, a = .hmi input → c.tasks.hmiPc ≠ .updateScreen) :
      Stepped c a { c with tasks := Firmware.step c.tasks a }
  | phase (hpc : c.tasks.vcuPc = .run) : Stepped c .vcu (vcuStep c)
  | read {input : HmiInput} (hpc : c.tasks.hmiPc = .updateScreen)
      (hread : ∀ TEL_data vcuState closed, c.reading ≠ .done TEL_data vcuState closed) :
      Stepped c (.hmi input) { c with reading := read c.tasks c.reading }
  | shown {input : HmiInput} {TEL_data : Option TelemetryData} {vcuState : VcuState}
      {closed : Bool} (hpc : c.tasks.hmiPc = .updateScreen)
      (hread : c.reading = .done TEL_data vcuState closed) :
      Stepped c (.hmi input) { c with
        tasks := { c.tasks with
          hmi := { smoothed TEL_data c.tasks.hmi with
            HMI_display := ((smoothed TEL_data c.tasks.hmi).HMI_display.updateScreen
              (shownData input c.tasks TEL_data vcuState closed)).2 }
          hmiPc := .buildBmsNextionCommands }
        reading := .queue }

theorem stepped_step (c : Cores) (a : Action) : Stepped c a (step c a) := by
  cases a with
  | vcu =>
    cases hpc : c.tasks.vcuPc with
    | run => exact .phase hpc
    | peek =>
      have hstep : step c .vcu = { c with tasks := Firmware.step c.tasks .vcu } := by
        simp only [step, vcuStep, hpc, Firmware.step]
      rw [hstep]
      exact .whole (fun _ => hpc) (by simp)
  | hmi input =>
    by_cases hpc : c.tasks.hmiPc = .updateScreen
    · cases hread : c.reading with
      | done TEL_data vcuState closed =>
        simp only [step, hmiStep, hpc, hread]
        exact .shown hpc hread
      | queue | state | relay =>
        have hstep : step c (.hmi input) = { c with reading := read c.tasks c.reading } := by
          simp only [step, hmiStep, hpc, hread]
        rw [hstep]
        exact .read hpc (by simp [hread])
    · have hstep : step c (.hmi input) =
          { c with tasks := Firmware.step c.tasks (.hmi input) } := by
        simp only [step, hmiStep]
        split
        · exact absurd ‹_› hpc
        · exact absurd ‹_› hpc
        · rfl
      rw [hstep]
      exact .whole (by simp) fun _ _ => hpc
  | can | lora | receive | chip => exact .whole (by simp) (by simp)

/-- A read before `updateScreen`. -/
theorem step_of_read {c : Cores} (hpc : c.tasks.hmiPc = .updateScreen)
    (hread : ∀ TEL_data vcuState closed, c.reading ≠ .done TEL_data vcuState closed)
    (input : HmiInput) : step c (.hmi input) = { c with reading := read c.tasks c.reading } := by
  have hstep := stepped_step c (.hmi input)
  generalize step c (.hmi input) = c' at hstep ⊢
  cases hstep with
  | whole _ hhmi => exact absurd hpc (hhmi input rfl)
  | read => rfl
  | shown _ hdone => exact absurd hdone (hread _ _ _)

/-! ### The state machine -/

/-- The state machine with the place that the call in progress has reached. -/
def runTask (c : Cores) : RunTask RelayManager := ⟨c.tasks.vcu, c.runPc⟩

/-- Only the VCU task runs the state machine. -/
theorem run_not_mem_vcuActs {f : Firmware} {a : Action} (h : a = .vcu → f.vcuPc = .peek) :
    .run ∉ vcuActs f a := by
  cases a with
  | vcu => simp [vcuActs, h rfl]
  | can input =>
    rcases hpc : f.canPc with _ | _ | (_ | ⟨_ | _, events⟩) | _
    all_goals simp [vcuActs, hpc]
  | hmi input => cases hpc : f.hmiPc <;> simp [vcuActs, hpc]
  | lora | receive | chip => simp [vcuActs]

/-- The other calls are not cut. -/
theorem runTask_exec (pc : RunPc) (v : Vcu RelayManager)
    {calls : List (VcuLogic.Action RelayManager)} (h : .run ∉ calls) :
    exec (RunTask.step relayActuator) ⟨v, pc⟩ calls =
      ⟨exec (VcuLogic.step relayActuator) v calls, pc⟩ := by
  induction calls generalizing v with
  | nil => rfl
  | cons call calls ih =>
    rw [List.mem_cons, not_or] at h
    rw [exec_cons, RunTask.step_of_ne_run _ _ (Ne.symm h.1), exec_cons]
    exact ih _ h.2

theorem runTask_step (c : Cores) (a : Action) :
    runTask (step c a) = exec (RunTask.step relayActuator) (runTask c) (vcuActs c.tasks a) := by
  have hstep := stepped_step c a
  generalize step c a = c' at hstep ⊢
  cases hstep with
  | whole hvcu =>
    show (⟨(Firmware.step c.tasks a).vcu, c.runPc⟩ : RunTask RelayManager) = _
    rw [Firmware.vcu_step, runTask, runTask_exec _ _ (run_not_mem_vcuActs hvcu)]
  | phase hpc =>
    simp only [vcuActs, hpc, vcuStep]
    rfl
  | read hpc | shown hpc =>
    simp only [vcuActs, hpc]
    rfl

def runComponent : Component step runTask (RunTask.step relayActuator) :=
  ⟨fun c a => vcuActs c.tasks a, runTask_step⟩

/-! ### The CAN task -/

/-- What the CAN task owns and what it publishes. -/
structure SameCan (f g : Firmware) : Prop where
  can : f.can = g.can
  canPc : f.canPc = g.canPc
  queue : f.TEL_sensorDataQueue = g.TEL_sensorDataQueue

theorem SameCan.trans {f g h : Firmware} (hfg : SameCan f g) (hgh : SameCan g h) : SameCan f h :=
  ⟨hfg.can.trans hgh.can, hfg.canPc.trans hgh.canPc, hfg.queue.trans hgh.queue⟩

theorem SameCan.symm {f g : Firmware} (h : SameCan f g) : SameCan g f :=
  ⟨h.can.symm, h.canPc.symm, h.queue.symm⟩

/-- It does the same with the same. -/
theorem SameCan.step {f g : Firmware} (h : SameCan f g) (a : Action) :
    SameCan (Firmware.step f a) (Firmware.step g a) := by
  obtain ⟨hcan, hpc, hqueue⟩ := h
  have hframe : ∀ f : Firmware, (∀ input, a ≠ .can input) → SameCan (Firmware.step f a) f := by
    intro f ha
    cases a with
    | can input => exact absurd rfl (ha input)
    | vcu => cases hpc : f.vcuPc <;> constructor <;> simp [Firmware.step, Firmware.vcuStep, hpc]
    | hmi input =>
      cases hpc : f.hmiPc <;> constructor <;> simp [Firmware.step, Firmware.hmiStep, hpc]
    | lora input =>
      cases hpc : f.loraPc <;> constructor <;> simp [Firmware.step, Firmware.loraStep, hpc]
    | receive | chip => exact ⟨rfl, rfl, rfl⟩
  cases a with
  | can input =>
    show SameCan (Firmware.canStep input f) (Firmware.canStep input g)
    unfold Firmware.canStep
    rw [hpc]
    rcases g.canPc with _ | _ | (_ | ⟨_ | _, events⟩) | _
    all_goals constructor <;> simp [Firmware.CAN_handleEvent, hcan, hpc, hqueue]
  | vcu | hmi | lora | receive | chip =>
    exact (hframe f (by simp)).trans (.trans ⟨hcan, hpc, hqueue⟩ (hframe g (by simp)).symm)

/-- The steps that are cut are not its own. -/
theorem sameCan_step (c : Cores) (a : Action) :
    SameCan (step c a).tasks (Firmware.step c.tasks a) := by
  have hstep := stepped_step c a
  generalize step c a = c' at hstep ⊢
  cases hstep with
  | whole => exact ⟨rfl, rfl, rfl⟩
  | phase hpc =>
    simp only [vcuStep, Firmware.step, Firmware.vcuStep, hpc]
    exact ⟨rfl, rfl, rfl⟩
  | read hpc | shown hpc =>
    simp only [Firmware.step, Firmware.hmiStep, hpc]
    exact ⟨rfl, rfl, rfl⟩

def canComponent : Component step (fun c => c.tasks.can) CanManager.step where
  acts c a := canActs c.tasks a
  view_step c a := (sameCan_step c a).can.trans (Firmware.can_step c.tasks a)

/-- The calls of the CAN task during a run. -/
abbrev canCalls (b : BootInput) (as : List Action) : List CanManager.Action :=
  canComponent.trace (booted b) as

theorem can_after (b : BootInput) (as : List Action) :
    (after b as).tasks.can = CanManager.after (canCalls b as) := canComponent.view_exec _ _

/-- The record that an action publishes. -/
def publishes (c : Cores) (a : Action) : Option TelemetryData := published c.tasks a

/-- The records that have been published, in order. -/
def publishedRecords (b : BootInput) (as : List Action) : List TelemetryData :=
  observe step publishes (booted b) as

/-- **The CAN task** does the same on the two cores, and publishes the same records. -/
theorem sameCan_after (b : BootInput) (as : List Action) :
    SameCan (after b as).tasks (Firmware.after b as) ∧
      publishedRecords b as = Firmware.publishedRecords b as := by
  refine observe_eq_of_simulation (fun (c : Cores) f => SameCan c.tasks f)
    (fun c f a h => (sameCan_step c a).trans (h.step a)) (fun c f a h => ?_) ⟨rfl, rfl, rfl⟩ as
  cases a with
  | can input =>
    show published c.tasks (.can input) = published f (.can input)
    unfold published
    rw [h.canPc, h.can]
  | vcu | hmi | lora | receive | chip => rfl

theorem canCalls_eq (b : BootInput) (as : List Action) :
    canCalls b as = Firmware.canCalls b as := by
  induction as using List.reverseRecOn with
  | nil => rfl
  | append_singleton as a ih =>
    have hacts : canActs (after b as).tasks a = canActs (Firmware.after b as) a := by
      cases a with
      | can input =>
        unfold canActs
        rw [(sameCan_after b as).1.canPc]
      | vcu | hmi | lora | receive | chip => rfl
    rw [canCalls, Component.trace_concat, Firmware.canCalls, Component.trace_concat]
    exact congrArg₂ _ ih hacts

/-- The queue holds the newest of them. -/
theorem queue_eq_getLast (b : BootInput) (as : List Action) :
    (after b as).tasks.TEL_sensorDataQueue = (publishedRecords b as).getLast? := by
  obtain ⟨hsame, hrecords⟩ := sameCan_after b as
  rw [hsame.queue, hrecords]
  exact Firmware.queue_eq_getLast b as

/-! ### Schedules without interruption -/

/-- The phases of a call, one after the other. -/
theorem exec_of_finishes {pc : RunPc} {v w : Vcu RelayManager}
    (h : Finishes relayActuator pc v w) {f : Firmware} (hpc : f.vcuPc = .run) (hv : f.vcu = v)
    (reading : Reading) :
    ∃ n, exec step ⟨f, pc, reading⟩ (List.replicate (n + 1) .vcu) =
      ⟨{ f with vcu := w, vcuPc := .peek }, .eStopPending, reading⟩ := by
  induction h generalizing f with
  | last h =>
    refine ⟨0, ?_⟩
    subst hv
    simp [step, vcuStep, hpc, h]
  | @next pc pc' v v' w h hne _ ih =>
    have hstep : step ⟨f, pc, reading⟩ .vcu = ⟨{ f with vcu := v' }, pc', reading⟩ := by
      subst hv
      simp [step, vcuStep, hpc, h, hne]
    obtain ⟨n, hn⟩ := ih (f := { f with vcu := v' }) hpc rfl
    refine ⟨n + 1, ?_⟩
    rw [List.replicate_succ, exec_cons, hstep, hn]

theorem areAllContactorsClosed_iff (r : RelayManager) :
    HMI_areAllContactorsClosed r = true ↔
      ∀ k < RELAY_TOTAL_CHANNELS, r.getRelayState (UInt8.ofNat k) = true := by
  unfold HMI_areAllContactorsClosed
  rw [List.all_eq_true]
  exact forall_congr' fun k => by rw [List.mem_range]

/-- A read of a relay ends the loop with its result, or goes on to the next relay. -/
theorem read_relay {f : Firmware} (TEL_data : Option TelemetryData) (s : VcuState)
    {REL_channel : ℕ} (hlt : REL_channel < RELAY_TOTAL_CHANNELS)
    (hon : ∀ k < REL_channel, f.vcu.s_relays.getRelayState (UInt8.ofNat k) = true) :
    read f (.relay TEL_data s REL_channel) =
        .done TEL_data s (HMI_areAllContactorsClosed f.vcu.s_relays) ∨
      REL_channel + 1 < RELAY_TOTAL_CHANNELS ∧
        (∀ k < REL_channel + 1, f.vcu.s_relays.getRelayState (UInt8.ofNat k) = true) ∧
        read f (.relay TEL_data s REL_channel) = .relay TEL_data s (REL_channel + 1) := by
  rw [read]
  cases hbit : f.vcu.s_relays.getRelayState (UInt8.ofNat REL_channel) with
  | false =>
    have hopen : HMI_areAllContactorsClosed f.vcu.s_relays = false := by
      rw [Bool.eq_false_iff, Ne, areAllContactorsClosed_iff]
      exact fun hall => absurd (hall REL_channel hlt) (by simp [hbit])
    exact .inl (by rw [hopen]; rfl)
  | true =>
    have hnext : ∀ k < REL_channel + 1,
        f.vcu.s_relays.getRelayState (UInt8.ofNat k) = true := by
      intro k hk
      rcases Nat.lt_or_ge k REL_channel with hbefore | hge
      · exact hon k hbefore
      · rwa [show k = REL_channel by omega]
    by_cases hmore : REL_channel + 1 < RELAY_TOTAL_CHANNELS
    · exact .inr ⟨hmore, hnext, by simp [hmore]⟩
    · have hclosed : HMI_areAllContactorsClosed f.vcu.s_relays = true := by
        rw [areAllContactorsClosed_iff]
        exact fun k hk => hnext k (by omega)
      exact .inl (by simp [hmore, hclosed])

/-- The reads of the relays from `REL_channel` on, one after the other. -/
theorem exec_reads {f : Firmware} (hpc : f.hmiPc = .updateScreen) (input : HmiInput)
    (TEL_data : Option TelemetryData) (s : VcuState) (left : ℕ) {REL_channel : ℕ}
    (hleft : REL_channel + (left + 1) = RELAY_TOTAL_CHANNELS)
    (hon : ∀ k < REL_channel, f.vcu.s_relays.getRelayState (UInt8.ofNat k) = true) :
    ∃ n, exec step ⟨f, .eStopPending, .relay TEL_data s REL_channel⟩
        (List.replicate n (.hmi input)) =
      ⟨f, .eStopPending, .done TEL_data s (HMI_areAllContactorsClosed f.vcu.s_relays)⟩ := by
  have hstep : step ⟨f, .eStopPending, .relay TEL_data s REL_channel⟩ (.hmi input) =
      ⟨f, .eStopPending, read f (.relay TEL_data s REL_channel)⟩ :=
    step_of_read hpc (by simp) input
  induction left generalizing REL_channel with
  | zero =>
    rcases read_relay TEL_data s (by omega) hon with hread | ⟨hmore, -, -⟩
    · exact ⟨1, by rw [List.replicate_one, exec_cons, exec_nil, hstep, hread]⟩
    · omega
  | succ left ih =>
    rcases read_relay TEL_data s (by omega) hon with hread | ⟨-, hnext, hread⟩
    · exact ⟨1, by rw [List.replicate_one, exec_cons, exec_nil, hstep, hread]⟩
    · obtain ⟨n, hn⟩ := @ih (REL_channel + 1) (by omega) hnext (step_of_read hpc (by simp) input)
      exact ⟨n + 1, by rw [List.replicate_succ, exec_cons, hstep, hread, hn]⟩

/-- The data of a call whose reads were not interrupted. -/
theorem showScreen_eq (input : HmiInput) (f : Firmware) :
    (f.hmi.showScreen (hmiInputs input f) f.TEL_sensorDataQueue).2 =
      { smoothed f.TEL_sensorDataQueue f.hmi with
        HMI_display := ((smoothed f.TEL_sensorDataQueue f.hmi).HMI_display.updateScreen
          (shownData input f f.TEL_sensorDataQueue f.vcu.s_state
            (HMI_areAllContactorsClosed f.vcu.s_relays))).2 } := by
  unfold HmiTask.showScreen smoothed shownData
  cases f.TEL_sensorDataQueue with
  | none => rfl
  | some TEL_data => rfl

/-- **One step** of `Firmware`, in as many steps as it takes. -/
theorem exec_whole (f : Firmware) (a : Action) :
    ∃ n, exec step { tasks := f } (List.replicate (n + 1) a) =
      { tasks := Firmware.step f a } := by
  have hone : step { tasks := f } a = { tasks := Firmware.step f a } → ∃ n,
      exec step { tasks := f } (List.replicate (n + 1) a) = { tasks := Firmware.step f a } :=
    fun h => ⟨0, h⟩
  have hstep := stepped_step { tasks := f } a
  generalize hc : step { tasks := f } a = c at hone hstep
  cases hstep with
  | whole => exact hone rfl
  | phase hpc =>
    obtain ⟨n, hn⟩ := exec_of_finishes (VcuLogic.finishes_run f.vcu) hpc rfl .queue
    exact ⟨n, by simp only [hn, Firmware.step, Firmware.vcuStep, show f.vcuPc = .run from hpc]⟩
  | shown _ hread => cases hread
  | @read input hpc =>
    have hpc : f.hmiPc = .updateScreen := hpc
    -- the queue, the state and the relays are read, and then shown
    let d := f.TEL_sensorDataQueue
    let s := f.vcu.s_state
    let closed := HMI_areAllContactorsClosed f.vcu.s_relays
    have hqueue : step ⟨f, .eStopPending, .queue⟩ (.hmi input) = ⟨f, .eStopPending, .state d⟩ :=
      step_of_read hpc (by simp) input
    have hstate : step ⟨f, .eStopPending, .state d⟩ (.hmi input) =
        ⟨f, .eStopPending, .relay d s 0⟩ := step_of_read hpc (by simp) input
    obtain ⟨n, hn⟩ := @exec_reads f hpc input d s 9 0 (by decide) (by simp)
    have hshown : step ⟨f, .eStopPending, .done d s closed⟩ (.hmi input) =
        { tasks := Firmware.step f (.hmi input) } := by
      simp only [step, hmiStep, Firmware.step, Firmware.hmiStep, hpc, showScreen_eq]
      rfl
    refine ⟨n + 1 + 1, ?_⟩
    rw [List.replicate_succ, List.replicate_succ, exec_cons, exec_cons]
    show exec step (step (step ⟨f, .eStopPending, .queue⟩ _) _) _ = _
    rw [hqueue, hstate, List.replicate_succ', exec_concat, hn, hshown]

/-- **Schedules without interruption.**  From what `app_main` leaves, every schedule of `Firmware`
is one of the two cores in which each action is repeated: they come to the same state, with no call
of `run` in progress and no reads begun. -/
theorem schedules_of_app_main (b : BootInput) {f : Firmware} (h : Firmware.app_main b = some f)
    (as : List Action) :
    ∃ ns : List ℕ, ns.length = as.length ∧
      exec step (booted b) (repeated ns as) =
        { tasks := exec Firmware.step f as, runPc := .eStopPending, reading := .queue } := by
  have hbooted : f = Firmware.booted b := by
    unfold Firmware.app_main at h
    split_ifs at h
    exact (Option.some.inj h).symm
  subst hbooted
  exact exec_cut (fun f : Firmware => ({ tasks := f } : Cores)) exec_whole _ as

/-- On the bench `app_main` starts the tasks. -/
theorem schedules_of_app_main_on_bench :
    ∃ ns : List ℕ, ns.length = Firmware.startup.length ∧
      exec step (booted Firmware.bench) (repeated ns Firmware.startup) =
        { tasks := Firmware.after Firmware.bench Firmware.startup } := by
  have hschedules := schedules_of_app_main Firmware.bench rfl Firmware.startup
  exact hschedules

/-! ### A bench -/

/-- The first record is published and copied, and the `START` command of the operator is posted; the
next step of the VCU task begins a call of `run`. -/
def startup : List Action :=
  [benchCan, benchCan, benchCan, .vcu, benchHmi, .receive [0x5A, 0x01, 0xFE]] ++
    List.replicate 6 benchHmi

end TufanAks.Cores

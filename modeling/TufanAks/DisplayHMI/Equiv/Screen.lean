import TufanAks.DisplayHMI.Screen
import TufanAks.Machine.Ghost

/-!
# What the screen shows

A call of `updateScreen` recomputes what it sent before from the snapshot that it was given then
(`updateScreen_spec`).  The rendering of a component depends on the snapshot alone, so what was
sent last of each component is the rendering of the latest snapshot (`screen_coherent`).
-/

namespace TufanAks

/-- The component that a command addresses. -/
def NextionCommand.component : NextionCommand → String
  | .val component _ => component
  | .txt component _ => component

/-- The components of the screen. -/
inductive ScreenComponent
  | speed | bat | rpm | torque | temp | packv | packa | state | motorErr | valid | contactor
  deriving DecidableEq

namespace ScreenComponent

/-- All components, in the order in which they are sent. -/
def components : List ScreenComponent :=
  [speed, bat, rpm, torque, temp, packv, packa, state, motorErr, valid, contactor]

/-- The name of the component on the screen. -/
def name : ScreenComponent → String
  | speed => "speed"
  | bat => "bat"
  | rpm => "rpm"
  | torque => "torque"
  | temp => "temp"
  | packv => "packv"
  | packa => "packa"
  | state => "state"
  | motorErr => "motorErr"
  | valid => "valid"
  | contactor => "contactor"

/-- The command that shows the data at the component. -/
def render (data : HMI_DisplayData) : ScreenComponent → NextionCommand
  | speed => .val "speed" data.HMI_currentSpeed.toNat
  | bat => .val "bat" data.HMI_currentBattery.toNat
  | rpm => .val "rpm" data.HMI_motorRpm.toNat
  | torque => .val "torque" data.HMI_motorTorqueFeedback.toInt
  | temp => .val "temp" data.HMI_bmsTemperatureC.toInt
  | packv => .val "packv" (HMI_packVoltageToXfloat data.HMI_bmsPackVoltageDeciV)
  | packa => .val "packa" (HMI_packCurrentToXfloat data.HMI_bmsPackCurrentCentiA)
  | state => .txt "state" (HMI_getStateText data.HMI_vcuState)
  | motorErr => .txt "motorErr" (HMI_formatErrorText data.HMI_motorErrorFlags)
  | valid => .txt "valid" (HMI_getValidityText data.HMI_motorDataValid data.HMI_motorTimeoutActive)
  | contactor => .txt "contactor" (HMI_getContactorText data.HMI_contactorClosed)

theorem mem_components (c : ScreenComponent) : c ∈ components := by cases c <;> decide

theorem name_injective : Function.Injective name := by
  intro c d
  cases c <;> cases d <;> simp [name]

theorem component_render (data : HMI_DisplayData) (c : ScreenComponent) :
    (c.render data).component = c.name := by cases c <;> rfl

end ScreenComponent

open ScreenComponent

/-! ### One call -/

/-- The parameters of `HMI_sendNumericIfChanged` and `HMI_sendTextIfChanged` as two commands: the
new one is sent unless it is the last one again. -/
def sendIfChanged (cmd lastCmd : NextionCommand) (force : Bool) : List NextionCommand :=
  if !force && cmd = lastCmd then [] else [cmd]

theorem HMI_sendNumericIfChanged_eq (component : String) (value lastValue : ℤ) (force : Bool) :
    HMI_sendNumericIfChanged component value lastValue force =
      sendIfChanged (.val component value) (.val component lastValue) force := by
  simp [HMI_sendNumericIfChanged, sendIfChanged]

theorem HMI_sendTextIfChanged_eq (component value lastValue : String) (force : Bool) :
    HMI_sendTextIfChanged component value lastValue force =
      sendIfChanged (.txt component value) (.txt component lastValue) force := by
  simp [HMI_sendTextIfChanged, sendIfChanged]

theorem mem_sendIfChanged_iff {cmd lastCmd : NextionCommand} {force : Bool} {x : NextionCommand} :
    x ∈ sendIfChanged cmd lastCmd force ↔ x = cmd ∧ (force = true ∨ cmd ≠ lastCmd) := by
  unfold sendIfChanged
  cases force <;> by_cases h : cmd = lastCmd <;> simp [h]

namespace Screen

/-- **A call**, on a screen that is ready, sends of each component the rendering of the new data if
it is not that of the data before, or if there are none, and keeps the new data. -/
theorem updateScreen_spec (data : HMI_DisplayData) {s : Screen}
    (hready : s.HMI_isInitialized = true) :
    s.updateScreen data =
      (components.flatMap fun c =>
          sendIfChanged (c.render data) (c.render s.HMI_lastScreenData) (!s.HMI_hasCachedScreen),
        { s with HMI_lastScreenData := data, HMI_hasCachedScreen := true }) := by
  unfold updateScreen
  simp only [hready, Bool.not_true, Bool.false_eq_true, if_false, HMI_sendNumericIfChanged_eq,
    HMI_sendTextIfChanged_eq]
  simp [components, render]

/-! ### What was sent last -/

/-- The command that was last sent to the component. -/
def lastSent (c : ScreenComponent) (cmds : List NextionCommand) : Option NextionCommand :=
  (cmds.filter fun cmd => cmd.component = c.name).getLast?

theorem lastSent_append (c : ScreenComponent) (cmds new : List NextionCommand) :
    lastSent c (cmds ++ new) = (lastSent c new).or (lastSent c cmds) := by
  unfold lastSent
  rw [List.filter_append, List.getLast?_append]

/-- Commands to different components do not get into each other's way. -/
theorem filter_flatMap_component {f : ScreenComponent → List NextionCommand}
    (hf : ∀ d, ∀ cmd ∈ f d, cmd.component = d.name) {cs : List ScreenComponent} (hnodup : cs.Nodup)
    (c : ScreenComponent) :
    (cs.flatMap f).filter (fun cmd => cmd.component = c.name) = if c ∈ cs then f c else [] := by
  induction cs with
  | nil => rfl
  | cons d cs ih =>
    rw [List.nodup_cons] at hnodup
    rw [List.flatMap_cons, List.filter_append, ih hnodup.2]
    by_cases hd : d = c
    · subst hd
      have hall : (f d).filter (fun cmd => cmd.component = d.name) = f d :=
        List.filter_eq_self.mpr fun cmd hcmd => decide_eq_true (hf d cmd hcmd)
      rw [hall, if_neg hnodup.1, if_pos List.mem_cons_self, List.append_nil]
    · have hnone : (f d).filter (fun cmd => cmd.component = c.name) = [] := by
        refine List.filter_eq_nil_iff.mpr fun cmd hcmd => ?_
        rw [hf d cmd hcmd, decide_eq_true_iff]
        exact fun hname => hd (name_injective hname)
      have hmem : c ∈ d :: cs ↔ c ∈ cs := by
        rw [List.mem_cons]
        exact or_iff_right fun h => hd h.symm
      rw [hnone, List.nil_append]
      simp only [hmem]

/-- A call sends every component at most once. -/
theorem lastSent_updateScreen (data : HMI_DisplayData) {s : Screen}
    (hready : s.HMI_isInitialized = true) (c : ScreenComponent) :
    lastSent c (s.updateScreen data).1 =
      if !s.HMI_hasCachedScreen || c.render data ≠ c.render s.HMI_lastScreenData
      then some (c.render data) else none := by
  have hf : ∀ d : ScreenComponent, ∀ cmd ∈ sendIfChanged (d.render data)
      (d.render s.HMI_lastScreenData) (!s.HMI_hasCachedScreen), cmd.component = d.name := by
    intro d cmd hcmd
    rw [(mem_sendIfChanged_iff.mp hcmd).1]
    exact component_render data d
  rw [updateScreen_spec data hready, lastSent,
    filter_flatMap_component hf (by decide) c, if_pos c.mem_components, sendIfChanged]
  cases s.HMI_hasCachedScreen <;> by_cases h : c.render data = c.render s.HMI_lastScreenData <;>
    simp [h]

/-! ### Every sequence of calls -/

/-- The display after a call. -/
def step (s : Screen) (data : HMI_DisplayData) : Screen := (s.updateScreen data).2

/-- The commands of the calls that show the snapshots, starting with `s`. -/
def sent (s : Screen) (datas : List HMI_DisplayData) : List NextionCommand :=
  Machine.ghost step (fun cmds s data => cmds ++ (s.updateScreen data).1) [] s datas

/-- The display after `begin`. -/
def begun : Screen := begin true {}

/-- The display stays ready. -/
theorem isInitialized_exec_step (datas : List HMI_DisplayData) :
    (Machine.exec step begun datas).HMI_isInitialized = true := by
  refine Machine.exec_invariant (fun s : Screen => s.HMI_isInitialized = true) ?_ rfl
  intro s data _ hs
  rw [step, updateScreen_spec data hs]
  exact hs

/-- And it keeps the snapshot that it was given last. -/
theorem exec_step_concat (datas : List HMI_DisplayData) (data : HMI_DisplayData) :
    Machine.exec step begun (datas ++ [data]) =
      { HMI_isInitialized := true, HMI_hasCachedScreen := true, HMI_lastScreenData := data } := by
  have hready := isInitialized_exec_step datas
  rw [Machine.exec_concat, step, updateScreen_spec data hready]
  dsimp only
  rw [hready]

theorem sent_concat (s : Screen) (datas : List HMI_DisplayData) (data : HMI_DisplayData) :
    sent s (datas ++ [data]) =
      sent s datas ++ ((Machine.exec step s datas).updateScreen data).1 :=
  Machine.ghost_concat _ _ _ _

/-- After every call the screen shows the data of the call. -/
theorem lastSent_sent (datas : List HMI_DisplayData) (data : HMI_DisplayData)
    (c : ScreenComponent) : lastSent c (sent begun (datas ++ [data])) = some (c.render data) := by
  induction datas using List.reverseRecOn generalizing data with
  | nil =>
    have hfirst : lastSent c (begun.updateScreen data).1 = some (c.render data) :=
      lastSent_updateScreen data rfl c
    rw [sent_concat, lastSent_append, Machine.exec_nil, hfirst, Option.some_or]
  | append_singleton datas prev ih =>
    have hready := isInitialized_exec_step (datas ++ [prev])
    rw [sent_concat, lastSent_append, lastSent_updateScreen data hready, ih prev,
      exec_step_concat]
    by_cases h : c.render data = c.render prev
    · -- nothing is sent, but what was sent before is right still
      simp [h]
    · simp [h]

/-- The promises about a call with `data` after calls with `datas`. -/
structure CallCoherent (datas : List HMI_DisplayData) (data : HMI_DisplayData) : Prop where
  shown : ∀ c, lastSent c (sent begun (datas ++ [data])) = some (c.render data)
  /-- After the first call only what has changed is sent. -/
  changed : ∀ h : datas ≠ [], ∀ cmd ∈ ((Machine.exec step begun datas).updateScreen data).1,
    ∃ c : ScreenComponent, cmd = c.render data ∧ c.render data ≠ c.render (datas.getLast h)

/-- **The screen shows the latest snapshot** after every call, and after the first call a component
is written only when its rendering has changed. -/
theorem screen_coherent (datas : List HMI_DisplayData) (data : HMI_DisplayData) :
    CallCoherent datas data := by
  refine ⟨lastSent_sent datas data, fun h cmd hcmd => ?_⟩
  obtain ⟨datas, prev, rfl⟩ := (List.eq_nil_or_concat' datas).resolve_left h
  rw [exec_step_concat, updateScreen_spec data rfl] at hcmd
  obtain ⟨c, -, hc⟩ := List.mem_flatMap.mp hcmd
  obtain ⟨rfl, hforce | hne⟩ := mem_sendIfChanged_iff.mp hc
  · cases hforce
  · rw [List.getLast_concat]
    exact ⟨c, rfl, hne⟩

end Screen

end TufanAks

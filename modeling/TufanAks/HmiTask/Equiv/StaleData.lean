import TufanAks.HmiTask

/-!
# What the screen shows without valid BMS data

The state of charge, the temperature and the cells are replaced by a value that says there is no
data; the pack voltage and the pack current are not.  Two records without valid BMS data that differ
at most in what the BMS measured are shown alike exactly when these two agree (`sent_eq_iff`).
-/

namespace TufanAks

/-- The records differ at most in what the BMS measured. -/
def SameButMeasured (d d' : TelemetryData) : Prop :=
  d' = { d with
    TEL_bmsCellVoltages := d'.TEL_bmsCellVoltages
    TEL_bmsCellVoltageMaxDeciMv := d'.TEL_bmsCellVoltageMaxDeciMv
    TEL_bmsCellVoltageMinDeciMv := d'.TEL_bmsCellVoltageMinDeciMv
    TEL_bmsCellVoltageAvgDeciMv := d'.TEL_bmsCellVoltageAvgDeciMv
    TEL_cellVoltageDataValid := d'.TEL_cellVoltageDataValid
    TEL_bmsPackVoltageDeciV := d'.TEL_bmsPackVoltageDeciV
    TEL_bmsCurrentCentiA := d'.TEL_bmsCurrentCentiA
    TEL_bmsSocHundredths := d'.TEL_bmsSocHundredths
    TEL_bmsSoc2Hundredths := d'.TEL_bmsSoc2Hundredths
    TEL_bmsTempHighestC := d'.TEL_bmsTempHighestC
    TEL_bmsTempLowestC := d'.TEL_bmsTempLowestC }

/-! ### Commands -/

/-- Different numbers give different commands. -/
theorem body_val_inj {component : String} {v v' : ℤ} :
    (NextionCommand.val component v).body = (NextionCommand.val component v').body ↔ v = v' := by
  constructor
  · intro h
    have hdigits : Text.decimal v = Text.decimal v' := List.append_cancel_left h
    rw [← Text.intValue_decimal v, hdigits, Text.intValue_decimal]
  · rintro rfl
    rfl

/-- What is sent for a component determines the number it is sent for. -/
theorem sendNumericIfChanged_inj {component : String} {v v' last : ℤ} {force : Bool} :
    (HMI_sendNumericIfChanged component v last force).map NextionCommand.body =
      (HMI_sendNumericIfChanged component v' last force).map NextionCommand.body ↔ v = v' := by
  constructor
  · intro h
    unfold HMI_sendNumericIfChanged at h
    split_ifs at h with hv hv' hv'
    · rw [Bool.and_eq_true, decide_eq_true_eq] at hv hv'
      exact hv.2.trans hv'.2.symm
    · cases h
    · cases h
    · exact body_val_inj.mp (List.cons.inj h).1
  · rintro rfl
    rfl

/-- Two lists whose entries are told apart can be read off from their concatenation. -/
theorem append_inj_of_apart {α : Type*} {p : α → Bool} {l l' m m' : List α}
    (hl : ∀ x ∈ l, p x = true) (hl' : ∀ x ∈ l', p x = true) (hm : ∀ x ∈ m, p x = false)
    (hm' : ∀ x ∈ m', p x = false) : l ++ m = l' ++ m' ↔ l = l' ∧ m = m' := by
  constructor
  · intro h
    have hfilter : ∀ {a b : List α}, (∀ x ∈ a, p x = true) → (∀ x ∈ b, p x = false) →
        (a ++ b).filter p = a := by
      intro a b ha hb
      rw [List.filter_append, List.filter_eq_self.mpr ha,
        List.filter_eq_nil_iff.mpr fun x hx => by simp [hb x hx], List.append_nil]
    have hfirst : l = l' := by
      rw [← hfilter hl hm, h, hfilter hl' hm']
    subst hfirst
    exact ⟨rfl, List.append_cancel_left h⟩
  · rintro ⟨rfl, rfl⟩
    rfl

/-- What is sent for a component starts with its name. -/
theorem eq_body_of_mem_sendNumericIfChanged {component : String} {v last : ℤ} {force : Bool}
    {text : List Char}
    (h : text ∈ (HMI_sendNumericIfChanged component v last force).map NextionCommand.body) :
    text = component.toList ++ ".val=".toList ++ Text.decimal v := by
  unfold HMI_sendNumericIfChanged at h
  split_ifs at h
  · cases h
  · exact List.mem_singleton.mp h

/-- The pack voltage and the pack current can be read off from what is sent. -/
theorem pack_append_inj {v v' lastV c c' lastC : ℤ} {force : Bool} {rest : List (List Char)} :
    (HMI_sendNumericIfChanged "packv" v lastV force).map NextionCommand.body ++
        ((HMI_sendNumericIfChanged "packa" c lastC force).map NextionCommand.body ++ rest) =
      (HMI_sendNumericIfChanged "packv" v' lastV force).map NextionCommand.body ++
        ((HMI_sendNumericIfChanged "packa" c' lastC force).map NextionCommand.body ++ rest) ↔
      v = v' ∧ c = c' := by
  -- the last letter of the name tells the two components apart
  have hv : ∀ x, ∀ text ∈ (HMI_sendNumericIfChanged "packv" x lastV force).map NextionCommand.body,
      decide (text[4]? = some 'v') = true := by
    intro x text htext
    rw [eq_body_of_mem_sendNumericIfChanged htext]
    rfl
  have hc : ∀ x, ∀ text ∈ (HMI_sendNumericIfChanged "packa" x lastC force).map NextionCommand.body,
      decide (text[4]? = some 'v') = false := by
    intro x text htext
    rw [eq_body_of_mem_sendNumericIfChanged htext]
    rfl
  rw [← List.append_assoc, ← List.append_assoc, List.append_left_inj,
    append_inj_of_apart (hv v) (hv v') (hc c) (hc c'), sendNumericIfChanged_inj,
    sendNumericIfChanged_inj]

/-! ### The screen -/

/-- Data that differ in the pack voltage and the pack current only are shown alike exactly when
these agree. -/
theorem updateScreen_pack_inj {s : Screen} {data : HMI_DisplayData} {v : UInt16} {c : Int32} :
    (s.updateScreen data).1.map NextionCommand.body =
        (s.updateScreen { data with
          HMI_bmsPackVoltageDeciV := v, HMI_bmsPackCurrentCentiA := c }).1.map
          NextionCommand.body ↔
      (s.HMI_isInitialized = true →
        data.HMI_bmsPackVoltageDeciV = v ∧ data.HMI_bmsPackCurrentCentiA = c) := by
  unfold Screen.updateScreen
  cases hinit : s.HMI_isInitialized with
  | false => simp
  | true =>
    dsimp only
    rw [Bool.not_true, if_neg Bool.false_ne_true, if_neg Bool.false_ne_true]
    simp only [List.map_append, List.append_assoc, List.append_cancel_left_eq, forall_const]
    rw [pack_append_inj]
    unfold HMI_packVoltageToXfloat HMI_packCurrentToXfloat
    rw [Nat.cast_inj, UInt16.toNat_inj, Int32.toInt_inj]

namespace HmiTask

/-- Without valid BMS data the measured values are replaced, apart from the pack voltage and the
pack current. -/
theorem screenData_of_not_valid (inputs : HmiInputs) (t : HmiTask) {d d' : TelemetryData}
    (hvalid : d.TEL_bmsDataValid = false) (h : SameButMeasured d d') :
    (t.smooth d').screenData inputs (some d') =
      { (t.smooth d).screenData inputs (some d) with
        HMI_bmsPackVoltageDeciV := d'.TEL_bmsPackVoltageDeciV
        HMI_bmsPackCurrentCentiA := d'.TEL_bmsCurrentCentiA } := by
  rw [h]
  unfold smooth screenData HMI_batteryDisplayValue HMI_temperatureDisplayValue
  simp only [hvalid, Bool.not_false, Bool.or_true, if_true]

/-- The first half of an iteration. -/
theorem showScreen_eq_iff (inputs : HmiInputs) (t : HmiTask) {d d' : TelemetryData}
    (hvalid : d.TEL_bmsDataValid = false) (h : SameButMeasured d d') :
    (t.showScreen inputs (some d)).1.map NextionCommand.body =
        (t.showScreen inputs (some d')).1.map NextionCommand.body ↔
      (inputs.queueExists = true → t.HMI_display.HMI_isInitialized = true →
        d.TEL_bmsPackVoltageDeciV = d'.TEL_bmsPackVoltageDeciV ∧
          d.TEL_bmsCurrentCentiA = d'.TEL_bmsCurrentCentiA) := by
  unfold showScreen
  cases inputs.queueExists with
  | false => simp
  | true =>
    simp only [if_true, forall_const]
    rw [screenData_of_not_valid inputs t hvalid h]
    exact updateScreen_pack_inj

/-- The second half of an iteration does not depend on the record, nor on the first half. -/
theorem showCells_eq (inputs : HmiInputs) (t : HmiTask) (peeked : Option TelemetryData)
    {d : TelemetryData} (hvalid : d.TEL_bmsDataValid = false) :
    ((t.showScreen inputs peeked).2.showCells inputs (some d)).1 =
      (t.showCells inputs none).1 := by
  have hpack : packToShow (some d) = packToShow none := by
    unfold packToShow
    simp only [hvalid, Bool.false_eq_true, if_false]
  unfold showCells
  rw [hpack]
  unfold showScreen
  cases inputs.queueExists with
  | false => rfl
  | true => cases peeked <;> rfl

/-- **What is shown without valid BMS data**: two records that differ in measurements only are shown
alike exactly when pack voltage and pack current agree, whatever is found at the second look. -/
theorem iteration_eq_iff (inputs : HmiInputs) (t : HmiTask) {d d' e e' : TelemetryData}
    (hd : d.TEL_bmsDataValid = false) (he : e.TEL_bmsDataValid = false)
    (he' : e'.TEL_bmsDataValid = false) (h : SameButMeasured d d') :
    (t.iteration inputs (some d) (some e)).1.map NextionCommand.body =
        (t.iteration inputs (some d') (some e')).1.map NextionCommand.body ↔
      (inputs.queueExists = true → t.HMI_display.HMI_isInitialized = true →
        d.TEL_bmsPackVoltageDeciV = d'.TEL_bmsPackVoltageDeciV ∧
          d.TEL_bmsCurrentCentiA = d'.TEL_bmsCurrentCentiA) := by
  unfold iteration
  dsimp only
  rw [List.map_append, List.map_append, showCells_eq inputs t _ he, showCells_eq inputs t _ he',
    List.append_left_inj]
  exact showScreen_eq_iff inputs t hd h

/-- The same for one record in the queue. -/
theorem sent_eq_iff (inputs : HmiInputs) (t : HmiTask) {d d' : TelemetryData}
    (hd : d.TEL_bmsDataValid = false) (hd' : d'.TEL_bmsDataValid = false)
    (h : SameButMeasured d d') :
    (t.iteration inputs (some d) (some d)).1.map NextionCommand.body =
        (t.iteration inputs (some d') (some d')).1.map NextionCommand.body ↔
      (inputs.queueExists = true → t.HMI_display.HMI_isInitialized = true →
        d.TEL_bmsPackVoltageDeciV = d'.TEL_bmsPackVoltageDeciV ∧
          d.TEL_bmsCurrentCentiA = d'.TEL_bmsCurrentCentiA) :=
  iteration_eq_iff inputs t hd hd hd' h

/-! ### After a timeout of the BMS -/

/-- The record after a timeout: the last measurements are still in it. -/
def frozenRecord : TelemetryData where
  TEL_bmsPackVoltageDeciV := 812
  TEL_bmsCurrentCentiA := 350
  TEL_bmsSocHundredths := 7350
  TEL_bmsTempHighestC := 31
  TEL_bmsTimeoutActive := true

/-- The same timeout after other measurements. -/
def otherFrozenRecord : TelemetryData where
  TEL_bmsPackVoltageDeciV := 640
  TEL_bmsCurrentCentiA := -120
  TEL_bmsSocHundredths := 1200
  TEL_bmsTempHighestC := 44
  TEL_bmsTimeoutActive := true

/-- The VCU is in its fault state, all relays are off. -/
def faultInputs : HmiInputs where
  queueExists := true
  vcuState := .FAULT
  relays := { bus := ⟨powerOnRegisters, fun _ => true⟩ }
  nowMs := 3000

/-- The task before its first iteration. -/
def begun : HmiTask where
  HMI_display := { HMI_isInitialized := true }

/-- Frozen numbers reach the screen. -/
theorem frozen_pack_shown :
    frozenRecord.TEL_bmsDataValid = false ∧ otherFrozenRecord.TEL_bmsDataValid = false ∧
      SameButMeasured frozenRecord otherFrozenRecord ∧
      (begun.iteration faultInputs (some frozenRecord) (some frozenRecord)).1.map
          NextionCommand.body ≠
        (begun.iteration faultInputs (some otherFrozenRecord) (some otherFrozenRecord)).1.map
          NextionCommand.body := by
  have hsame : SameButMeasured frozenRecord otherFrozenRecord := rfl
  refine ⟨rfl, rfl, hsame, fun h => ?_⟩
  have hpack := (iteration_eq_iff faultInputs begun rfl rfl rfl hsame).mp h rfl rfl
  exact absurd hpack.1 (by decide)

/-- The other measurements do not reach it. -/
theorem frozen_charge_hidden :
    (begun.iteration faultInputs (some frozenRecord) (some frozenRecord)).1.map
        NextionCommand.body =
      (begun.iteration faultInputs
        (some { frozenRecord with TEL_bmsSocHundredths := 0, TEL_bmsTempHighestC := 20 })
        (some { frozenRecord with TEL_bmsSocHundredths := 0, TEL_bmsTempHighestC := 20 })).1.map
        NextionCommand.body :=
  (sent_eq_iff faultInputs begun rfl rfl (by rfl)).mpr fun _ _ => ⟨rfl, rfl⟩

end HmiTask

end TufanAks

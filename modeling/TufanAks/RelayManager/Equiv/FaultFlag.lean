import TufanAks.RelayManager.Equiv.Verify

/-!
# What verifications leave behind

`Records oks r r'` says that the driver has gone from `r` to `r'` with the verifications `oks`: each
failed one latches the fault, and nothing on the way clears it.  Every method that a caller uses to
drive or to check the outputs is of this kind; `clearActuatorFault` is the only one that is not.
`Due` is the condition under which `verifyIfDue` verifies.
-/

namespace TufanAks.RelayManager

/-- From `r` to `r'` the driver has verified its outputs with the results `oks`, and has kept the
fault of every failure. -/
structure Records (oks : List Bool) (r r' : RelayManager) : Prop where
  verified : r'.verified = r.verified ++ oks
  fault : hasActuatorFault r' = (hasActuatorFault r || oks.any (!·))
  started : Started r → Started r'

theorem Records.refl (r : RelayManager) : Records [] r r :=
  ⟨by simp, by simp, id⟩

theorem Records.trans {oks oks' : List Bool} {r r' r'' : RelayManager} (h : Records oks r r')
    (h' : Records oks' r' r'') : Records (oks ++ oks') r r'' := by
  refine ⟨?_, ?_, fun hr => h'.started (h.started hr)⟩
  · rw [h'.verified, h.verified, List.append_assoc]
  · rw [h'.fault, h.fault, List.any_append, Bool.or_assoc]

/-- A step that verifies nothing and touches neither the fault nor the handles. -/
theorem Records.of_eq {r r' : RelayManager} (hverified : r'.verified = r.verified)
    (hfault : r'.s_actuatorFault = r.s_actuatorFault) (hinit : r'.s_initialized = r.s_initialized)
    (hdev : r'.s_spiDev = r.s_spiDev) : Records [] r r' := by
  refine ⟨by simpa using hverified, ?_, fun h => ⟨hinit.trans h.initialized, hdev.trans h.spiDev⟩⟩
  show r'.s_actuatorFault = (r.s_actuatorFault || List.any [] (!·))
  rw [hfault, List.any_nil, Bool.or_false]

theorem records_verifyOutputs (r : RelayManager) :
    Records [(verifyOutputs r).1] r (verifyOutputs r).2 := by
  have hverified := verified_verifyOutputs r
  generalize (verifyOutputs r).1 = ok at hverified ⊢
  generalize (verifyOutputs r).2 = r' at hverified ⊢
  cases hverified with
  | idle | ok | fault =>
    exact ⟨rfl, by simp [hasActuatorFault], fun h => ⟨h.initialized, h.spiDev⟩⟩

theorem records_writeRegister (r : RelayManager) (reg value : UInt8) :
    Records [] r (writeRegister reg value r) := by
  rw [writeRegister_eq]
  exact .of_eq rfl rfl rfl rfl

theorem records_writeOutputs (r : RelayManager) : Records [] r (writeOutputs r) := by
  rw [writeOutputs_eq]
  exact .of_eq rfl rfl rfl rfl

theorem records_allOn (r : RelayManager) : ∃ oks, Records oks r (allOn r) := by
  unfold allOn
  split_ifs
  · exact ⟨[], .refl r⟩
  · dsimp only
    have hshadow : Records [] r
        { r with s_relayState := (1 <<< UInt16.ofNat RELAY_TOTAL_CHANNELS) - 1 } :=
      .of_eq rfl rfl rfl rfl
    exact ⟨_, (hshadow.trans (records_writeOutputs _)).trans (records_verifyOutputs _)⟩

theorem records_allOff (silent : Bool) (r : RelayManager) :
    ∃ oks, Records oks r (allOff silent r) := by
  have hshadow : Records [] r { r with s_relayState := 0 } := .of_eq rfl rfl rfl rfl
  have hA := hshadow.trans (records_writeRegister _ MCP23S17_OLATA 0xFF)
  have hB := hA.trans (records_writeRegister _ MCP23S17_OLATB 0xFF)
  exact ⟨_, hB.trans (records_verifyOutputs _)⟩

/-! ### The periodic verification -/

/-- The period that ends at `nowMs` has been started and is over. -/
def Due (nowMs : UInt32) (r : RelayManager) : Prop :=
  r.s_verifyStarted = true ∧ RELAY_VERIFY_PERIOD_MS ≤ nowMs - r.s_lastVerifyMs

instance (nowMs : UInt32) (r : RelayManager) : Decidable (Due nowMs r) :=
  inferInstanceAs (Decidable (_ ∧ _))

theorem verifyIfDue_of_due {nowMs : UInt32} {r : RelayManager} (hr : Started r)
    (h : Due nowMs r) :
    verifyIfDue nowMs r = (verifyOutputs { r with s_lastVerifyMs := nowMs }).2 := by
  unfold verifyIfDue
  rw [if_neg (by simp [hr.initialized]), if_neg (by simp [h.1]), if_neg (UInt32.not_lt.mpr h.2)]

/-- A call that is not due only starts the period, if it is the first. -/
theorem verifyIfDue_of_not_due {nowMs : UInt32} {r : RelayManager} (hr : Started r)
    (h : ¬Due nowMs r) :
    verifyIfDue nowMs r =
      if r.s_verifyStarted then r
      else { r with s_verifyStarted := true, s_lastVerifyMs := nowMs } := by
  unfold verifyIfDue
  rw [if_neg (by simp [hr.initialized])]
  cases hstarted : r.s_verifyStarted with
  | false => simp
  | true =>
    have hperiod : nowMs - r.s_lastVerifyMs < RELAY_VERIFY_PERIOD_MS := by
      by_contra hno
      exact h ⟨hstarted, UInt32.not_lt.mp hno⟩
    simp [hperiod]

theorem records_verifyIfDue_of_due {nowMs : UInt32} {r : RelayManager} (hr : Started r)
    (h : Due nowMs r) : ∃ ok, Records [ok] r (verifyIfDue nowMs r) := by
  have hstamp : Records [] r { r with s_lastVerifyMs := nowMs } := .of_eq rfl rfl rfl rfl
  rw [verifyIfDue_of_due hr h]
  exact ⟨_, hstamp.trans (records_verifyOutputs _)⟩

theorem records_verifyIfDue_of_not_due {nowMs : UInt32} {r : RelayManager} (hr : Started r)
    (h : ¬Due nowMs r) : Records [] r (verifyIfDue nowMs r) := by
  rw [verifyIfDue_of_not_due hr h]
  split_ifs
  · exact .refl r
  · exact .of_eq rfl rfl rfl rfl

theorem records_verifyIfDue {r : RelayManager} (hr : Started r) (nowMs : UInt32) :
    ∃ oks, Records oks r (verifyIfDue nowMs r) := by
  by_cases h : Due nowMs r
  · obtain ⟨ok, hok⟩ := records_verifyIfDue_of_due hr h
    exact ⟨[ok], hok⟩
  · exact ⟨[], records_verifyIfDue_of_not_due hr h⟩

end TufanAks.RelayManager

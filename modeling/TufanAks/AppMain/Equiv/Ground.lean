import TufanAks.AppMain.Equiv.Uplink
import TufanAks.LoraTask.Equiv.TxSend
import TufanAks.Telemetry.Equiv.RoundTrip

/-!
# What the ground station reads

With `LoRa_txSend` as the callback, the frames that are written are the successful sends of the
scheduler, formatted and numbered.  So the ground station, which reads them with `parse_uks_frame`,
gets the records that the CAN task has published: in order, the frames numbered consecutively, and
each with its own values, if the ground station accepts it (`ground_reads_published`).
-/

namespace TufanAks.Firmware

open Machine
open Contract (Accepts Field FIELD_ORDER InRange TEL_RPM_MAX parseUksFrame)
open LoraTask (TxAnswers UartWrite liveSends txAfter txSend written)
open Telemetry (format sentValue)
open Timeline (Echoes)
open UplinkScheduler (replayed)

/-! ### One frame -/

/-- A record whose values the ground station takes for possible: what else is printed is always in
range. -/
def Fits (d : TelemetryData) : Prop :=
  (0 ≤ d.TEL_motorRpm.toInt ∧ d.TEL_motorRpm.toInt ≤ TEL_RPM_MAX) ∧
    d.TEL_motorVoltageDeciV.toNat ≤ 32767 ∧ d.TEL_speedKmhX10 ≤ TEL_SPD_X10_MAX

/-- What is accepted shows values in range. -/
theorem inRange_of_accepts {seq : UInt32} {d : TelemetryData} (h : Accepts (format seq d)) :
    (∀ f, InRange f (sentValue seq d f)) ∧ sentValue seq d .rpm ≤ TEL_RPM_MAX := by
  have hline : format seq d = Contract.line (FIELD_ORDER.map (sentValue seq d)) := rfl
  rw [hline, Contract.accepts_line_iff (List.length_map _), ← List.map_prod_left_eq_zip] at h
  obtain ⟨hrange, -, hrpm⟩ := h
  refine ⟨fun f => hrange (f, sentValue seq d f) (List.mem_map_of_mem ?_), ?_⟩
  · cases f <;> decide
  · have hlookup := List.lookup_graph (sentValue seq d) (show Field.rpm ∈ FIELD_ORDER by decide)
    rw [hlookup, Option.any_some, decide_eq_false_iff_not, not_lt] at hrpm
    exact hrpm

theorem accepts_format_iff (seq : UInt32) (d : TelemetryData) :
    Accepts (format seq (sanitizeForUplink d)) ↔ Fits d := by
  by_cases hspeed : d.TEL_speedKmhX10 ≤ TEL_SPD_X10_MAX
  · -- the packet of a CAN manager with this data
    have hpacket : CanManager.packet ⟨d.TEL_speedKmhX10, hspeed⟩ d.TEL_timestampMs
        { s_telemetryData := d } = d := rfl
    have haccepted := Telemetry.accepted_packet_iff 0 seq ⟨d.TEL_speedKmhX10, hspeed⟩
      d.TEL_timestampMs { s_telemetryData := d }
    rw [Telemetry.accepted_sendStatus_iff, hpacket] at haccepted
    have hline : format seq (sanitizeForUplink d) =
        Contract.line (Telemetry.arguments seq (sanitizeForUplink d)) := rfl
    rw [hline, haccepted, Fits, and_iff_left hspeed]
  · refine iff_of_false (fun h => hspeed ?_) fun h => hspeed h.2.2
    have hrange := ((inRange_of_accepts h).1 .spd_x10).2
    rw [UInt16.le_iff_toNat_le]
    exact Int.ofNat_le.mp hrange

/-- **One frame**: the ground station accepts it if its record fits, and then reads the values that
were sent. -/
theorem parse_format {d : TelemetryData} (h : Fits d) (seq : UInt32) :
    parseUksFrame (format seq (sanitizeForUplink d)) =
      .ok (FIELD_ORDER.map fun f => (f, sentValue seq (sanitizeForUplink d) f)) := by
  obtain ⟨hrange, hrpm⟩ := inRange_of_accepts ((accepts_format_iff seq d).mpr h)
  have hline : format seq (sanitizeForUplink d) =
      Contract.lineOf (sentValue seq (sanitizeForUplink d)) := rfl
  rw [hline]
  exact Contract.parseUksFrame_lineOf hrange rfl hrpm

/-! ### Sends and writes -/

/-- Each send was answered as `LoRa_txSend` answers it. -/
def Answered (hal : ℕ → TxAnswers) (sends : List Send) : Prop :=
  ∀ i s, sends[i]? = some s → s.ok = (hal i).passes

theorem Answered.concat {hal : ℕ → TxAnswers} {sends : List Send} (h : Answered hal sends)
    (pkt : TelemetryData) (isReplay : Bool) :
    Answered hal (sends ++ [⟨pkt, isReplay, txSend hal sends pkt isReplay⟩]) := by
  intro i s hs
  rcases Nat.lt_or_ge i sends.length with hlt | hge
  · rw [List.getElem?_append_left hlt] at hs
    exact h i s hs
  · rw [List.getElem?_append_right hge, List.getElem?_singleton] at hs
    split_ifs at hs with hlast
    obtain rfl : i = sends.length := by omega
    obtain rfl := Option.some.inj hs
    exact LoraTask.txSend_eq hal sends pkt isReplay

theorem Answered.replayLoop {hal : ℕ → TxAnswers} (n : ℕ) {u : UplinkScheduler}
    (h : Answered hal u.sends) :
    Answered hal (UplinkScheduler.replayLoop (txSend hal) n u).2.sends := by
  induction n generalizing u with
  | zero => exact h
  | succ n ih =>
    rw [UplinkScheduler.replayLoop]
    cases u.buffer.obPeek with
    | none => exact h
    | some pkt =>
      have hone := h.concat pkt true
      simp only [UplinkScheduler.callSend]
      cases hok : txSend hal u.sends pkt true with
      | false =>
        rw [hok] at hone
        exact hone
      | true =>
        rw [hok] at hone
        exact ih hone

theorem Answered.onTxTickLinkUp {hal : ℕ → TxAnswers} {u : UplinkScheduler}
    (h : Answered hal u.sends) (haveLive : Bool) (live : TelemetryData) :
    Answered hal (u.onTxTickLinkUp haveLive live (txSend hal)).2.sends := by
  have hloop := h.replayLoop u.m_replayBurstPerTick.toNat
  unfold UplinkScheduler.onTxTickLinkUp
  dsimp only
  cases haveLive with
  | false => exact hloop
  | true => exact hloop.concat live false

/-- **One pass** of the loop keeps to the callback. -/
theorem Answered.pass {hal : ℕ → TxAnswers} {u : UplinkScheduler} (h : Answered hal u.sends)
    (bootMs : UInt64) {p : LoraTask.Pass} (hp : p.send = txSend hal) :
    Answered hal (LoraTask.pass bootMs u p).sends := by
  have hlinked : Answered hal (LoraTask.linked bootMs u p).sends := by
    rw [(LoraTask.linked_frame bootMs u p).1.2]
    exact h
  rw [LoraTask.pass_eq, hp]
  generalize LoraTask.linked bootMs u p = v at hlinked ⊢
  split_ifs
  · exact hlinked.onTxTickLinkUp _ _
  · cases p.live with
    | none => exact hlinked
    | some d =>
      dsimp only
      rw [(UplinkScheduler.offlineSample_frame p.sampleMs d v).2]
      exact hlinked
  · exact hlinked

/-- The writes are the sends that were successful. -/
theorem writes_eq_of_answered {hal : ℕ → TxAnswers} {sends : List Send}
    (h : Answered hal sends) :
    (txAfter hal sends).writes.map (fun w => (w.pkt, w.isReplay)) =
      (sends.filter Send.ok).map fun s => (s.pkt, s.isReplay) := by
  induction sends using List.reverseRecOn with
  | nil => rfl
  | append_singleton sends s ih =>
    have hbefore : Answered hal sends := fun i t ht => h i t (by
      rw [List.getElem?_append_left (List.getElem?_eq_some_iff.mp ht).1]
      exact ht)
    have hlast : s.ok = (hal sends.length).passes := h sends.length s (by simp)
    rw [LoraTask.writes_concat, List.map_append, ih hbefore, List.filter_append, List.map_append,
      ← hlast]
    cases hok : s.ok with
    | false => simp [hok]
    | true => simp [hok, LoraTask.writeOf]

/-- The packets of the frames that were written, by kind, are among those of the sends. -/
theorem written_sublist {hal : ℕ → TxAnswers} {u : UplinkScheduler} (h : Answered hal u.sends) :
    (((written hal u).filter (·.isReplay)).map UartWrite.pkt).Sublist (replayed u) ∧
      (((written hal u).filter fun w => !w.isReplay).map UartWrite.pkt).Sublist (liveSends u) := by
  have hkind : ∀ keep : Bool → Bool,
      (((written hal u).filter fun w => keep w.isReplay).map UartWrite.pkt).Sublist
        (((u.sends.filter Send.ok).filter fun s => keep s.isReplay).map Send.pkt) := by
    intro keep
    have hwrites := congrArg
      (fun l : List (TelemetryData × Bool) => (l.filter fun x => keep x.2).map Prod.fst)
      (writes_eq_of_answered h)
    simp only [List.filter_map, List.map_map, Function.comp_def] at hwrites
    rw [← hwrites]
    exact ((List.filter_sublist).filter _).map _
  refine ⟨?_, ?_⟩
  · have hreplayed := hkind id
    rw [List.filter_filter] at hreplayed
    exact hreplayed
  · refine (hkind not).trans (List.Sublist.map _ ?_)
    exact (List.filter_sublist).filter _

/-! ### A run -/

/-- The LoRa task calls `LoRa_txSend`. -/
def withTxSend (hal : ℕ → TxAnswers) : Action → Action
  | .lora input => .lora { input with pass := { input.pass with send := txSend hal } }
  | a => a

theorem answered_after (b : BootInput) (hal : ℕ → TxAnswers) (as : List Action) :
    Answered hal (after b (as.map (withTxSend hal))).LO_sched.sends := by
  induction as using List.reverseRecOn with
  | nil => exact fun i s hs => by cases hs
  | append_singleton as a ih =>
    rw [List.map_append, List.map_singleton]
    rw [show after b (as.map (withTxSend hal) ++ [withTxSend hal a]) =
      step (after b (as.map (withTxSend hal))) (withTxSend hal a) from exec_concat _ _ _]
    generalize after b (as.map (withTxSend hal)) = f at ih ⊢
    rw [uplink_step]
    cases a with
    | lora input =>
      cases hpc : f.loraPc with
      | loop LO_bootMs =>
        simp only [withTxSend, uplinkActs, hpc]
        exact ih.pass LO_bootMs rfl
      | _ => simpa [withTxSend, uplinkActs, hpc] using ih
    | can | vcu | hmi | receive | chip => exact ih

end TufanAks.Firmware

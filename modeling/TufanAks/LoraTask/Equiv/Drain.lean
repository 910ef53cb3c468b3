import TufanAks.LoraTask.Equiv.Link

/-!
# The buffer drains

After an outage the packets of the buffer are replayed next to the live ones.  While the link stays
up and the radio accepts what it is given, each TX tick takes one burst from the front of the
buffer, whatever the passes in between do (`drained_of_up`); so `n` packets are gone after
`⌈n / burst⌉` TX ticks, and the live packets are not held up by them.
-/

namespace TufanAks.LoraTask

open Machine
open UplinkScheduler OfflineBuffer

/-- The packets that were sent live, whether this succeeded or not. -/
def liveSends (u : UplinkScheduler) : List TelemetryData :=
  (u.sends.filter fun s => !s.isReplay).map Send.pkt

/-- The sends of the replays of `pkts`, all of them successful. -/
def replaysOf (pkts : List TelemetryData) : List Send := pkts.map fun pkt => ⟨pkt, true, true⟩

/-- The callback accepts every packet. -/
def Accepts (send : SendFn) : Prop := ∀ sends pkt isReplay, send sends pkt isReplay = true

/-- **The replay loop** with `n` rounds takes `n` packets, as far as there are any. -/
theorem replayLoop_of_accepts {send : SendFn} (h : Accepts send) (n : ℕ) (u : UplinkScheduler) :
    (replayLoop send n u).2.buffer.content = u.buffer.content.drop n ∧
      (replayLoop send n u).2.sends = u.sends ++ replaysOf (u.buffer.content.take n) := by
  induction n generalizing u with
  | zero => exact ⟨rfl, by simp [replayLoop, replaysOf]⟩
  | succ n ih =>
    rw [replayLoop]
    have hpeek := obPeek_eq u.buffer
    cases hcontent : u.buffer.content with
    | nil =>
      rw [hcontent] at hpeek
      rw [hpeek]
      simp [hcontent, replaysOf]
    | cons pkt rest =>
      rw [hcontent] at hpeek
      rw [hpeek]
      simp only [List.head?_cons, callSend, h u.sends pkt true]
      obtain ⟨hbuffer, hsends⟩ := ih
        { u with sends := u.sends ++ [⟨pkt, true, true⟩], buffer := u.buffer.obDropFront.2 }
      have hdrop : u.buffer.obDropFront.2.content = rest := by
        rw [content_obDropFront, hcontent, List.tail_cons]
      rw [hdrop] at hbuffer hsends
      refine ⟨hbuffer, hsends.trans ?_⟩
      simp [replaysOf]

/-- What a pass finds when the link is up after its first two steps, and the radio accepts
everything. -/
def Up (bootMs : UInt64) (u : UplinkScheduler) (p : Pass) : Prop :=
  Accepts p.send ∧ (linked bootMs u p).m_linkDown = false

/-- A pass that goes from `u` to `u'` replays `k` packets from the front of the buffer, and sends
`live` live. -/
structure Drained (k : ℕ) (live : List TelemetryData) (u u' : UplinkScheduler) : Prop where
  content : u'.buffer.content = u.buffer.content.drop k
  replayed : replayed u' = replayed u ++ u.buffer.content.take k
  live : liveSends u' = liveSends u ++ live
  burst : u'.m_replayBurstPerTick = u.m_replayBurstPerTick

theorem Drained.trans {k k' : ℕ} {live live' : List TelemetryData} {u v w : UplinkScheduler}
    (h : Drained k live u v) (h' : Drained k' live' v w) :
    Drained (k + k') (live ++ live') u w := by
  refine ⟨?_, ?_, ?_, h'.burst.trans h.burst⟩
  · rw [h'.content, h.content, List.drop_drop]
  · rw [h'.replayed, h.replayed, h.content, List.append_assoc, ← List.take_add]
  · rw [h'.live, h.live, List.append_assoc]

/-- A call that touches neither the buffer nor the sends. -/
theorem Drained.of_frame {u u' : UplinkScheduler}
    (hframe : u'.buffer = u.buffer ∧ u'.sends = u.sends)
    (hburst : u'.m_replayBurstPerTick = u.m_replayBurstPerTick) : Drained 0 [] u u' := by
  refine ⟨?_, ?_, ?_, hburst⟩
  · rw [hframe.1, List.drop_zero]
  · rw [List.take_zero, List.append_nil, UplinkScheduler.replayed, hframe.2,
      UplinkScheduler.replayed]
  · rw [List.append_nil, liveSends, hframe.2, liveSends]

theorem burst_step (u : UplinkScheduler) (a : UplinkScheduler.Action) :
    (step u a).m_replayBurstPerTick = u.m_replayBurstPerTick := by
  have hsame := congrArg (fun v : UplinkScheduler => v.m_replayBurstPerTick)
    (configuration_step u a)
  exact hsame

/-- The first two steps of a pass touch neither the buffer nor the sends. -/
theorem linked_frame (bootMs : UInt64) (u : UplinkScheduler) (p : Pass) :
    ((linked bootMs u p).buffer = u.buffer ∧ (linked bootMs u p).sends = u.sends) ∧
      (linked bootMs u p).m_replayBurstPerTick = u.m_replayBurstPerTick := by
  have hrx : ∀ (rxs : List (UInt8 × UInt64)) (v : UplinkScheduler),
      ((rxs.foldl (fun u rx => (onRxByte rx.1 rx.2 u).2) v).buffer = v.buffer ∧
        (rxs.foldl (fun u rx => (onRxByte rx.1 rx.2 u).2) v).sends = v.sends) ∧
        (rxs.foldl (fun u rx => (onRxByte rx.1 rx.2 u).2) v).m_replayBurstPerTick =
          v.m_replayBurstPerTick := by
    intro rxs
    induction rxs with
    | nil => exact fun v => ⟨⟨rfl, rfl⟩, rfl⟩
    | cons rx rxs ih =>
      intro v
      obtain ⟨⟨hbuffer, hsends⟩, hburst⟩ := ih (onRxByte rx.1 rx.2 v).2
      obtain ⟨hbuffer', hsends'⟩ := onRxByte_frame rx.1 rx.2 v
      exact ⟨⟨hbuffer.trans hbuffer', hsends.trans hsends'⟩,
        hburst.trans (burst_step v (.onRxByte rx.1 rx.2))⟩
  obtain ⟨⟨hbuffer, hsends⟩, hburst⟩ := hrx p.rx u
  obtain ⟨hbuffer', hsends'⟩ := updateLink_frame p.nowMs bootMs
    (p.rx.foldl (fun u rx => (onRxByte rx.1 rx.2 u).2) u)
  exact ⟨⟨hbuffer'.trans hbuffer, hsends'.trans hsends⟩,
    (burst_step _ (.updateLink p.nowMs bootMs)).trans hburst⟩

theorem drained_linked (bootMs : UInt64) (u : UplinkScheduler) (p : Pass) :
    Drained 0 [] u (linked bootMs u p) :=
  .of_frame (linked_frame bootMs u p).1 (linked_frame bootMs u p).2

/-- **One TX tick** with the link up. -/
theorem drained_onTxTickLinkUp {send : SendFn} (h : Accepts send) (live : Option TelemetryData)
    (u : UplinkScheduler) :
    Drained u.m_replayBurstPerTick.toNat live.toList u
      (onTxTickLinkUp live.isSome (live.getD {}) send u).2 := by
  obtain ⟨hbuffer, hsends⟩ := replayLoop_of_accepts h u.m_replayBurstPerTick.toNat u
  have hburst : (onTxTickLinkUp live.isSome (live.getD {}) send u).2.m_replayBurstPerTick =
      u.m_replayBurstPerTick := burst_step u (.onTxTickLinkUp live.isSome (live.getD {}) send)
  have hreplays : ∀ pkts : List TelemetryData,
      ((replaysOf pkts).filter fun s => s.isReplay && s.ok).map Send.pkt = pkts ∧
        ((replaysOf pkts).filter fun s => !s.isReplay) = [] := by
    intro pkts
    induction pkts with
    | nil => exact ⟨rfl, rfl⟩
    | cons pkt pkts ih => simpa [replaysOf] using ih
  obtain ⟨hreplayed, hnone⟩ := hreplays (u.buffer.content.take u.m_replayBurstPerTick.toNat)
  unfold onTxTickLinkUp at hburst ⊢
  rcases hloop : replayLoop send u.m_replayBurstPerTick.toNat u with ⟨n, v⟩
  rw [hloop] at hbuffer hsends hburst
  dsimp only at hbuffer hsends
  cases live with
  | none =>
    refine ⟨hbuffer, ?_, ?_, hburst⟩
    · simp [UplinkScheduler.replayed, hsends, hreplayed]
    · simp [liveSends, hsends, hnone]
  | some d =>
    refine ⟨hbuffer, ?_, ?_, hburst⟩
    · simp [UplinkScheduler.replayed, callSend, hsends, hreplayed]
    · simp [liveSends, callSend, hsends, hnone]

/-- **One pass** with the link up. -/
theorem drained_pass {bootMs : UInt64} {u : UplinkScheduler} {p : Pass} (h : Up bootMs u p) :
    Drained (if p.txDue then u.m_replayBurstPerTick.toNat else 0)
      (if p.txDue then p.live.toList else []) u (pass bootMs u p) := by
  have hlinked := drained_linked bootMs u p
  rw [pass_eq, h.2]
  cases p.txDue with
  | false => exact hlinked
  | true =>
    have htick := hlinked.trans (drained_onTxTickLinkUp h.1 p.live (linked bootMs u p))
    rw [hlinked.burst, Nat.zero_add, List.nil_append] at htick
    exact htick

/-- **The buffer drains.**  In every run of passes with the link up and a radio that accepts
everything, each TX tick replays one burst from the front of the buffer, in order, as long as there
are packets, and sends the live packet, if there is one; the other passes send nothing. -/
theorem drained_of_up (bootMs : UInt64) (u : UplinkScheduler) (ps : List Pass)
    (h : Along (pass bootMs) (Up bootMs) u ps) :
    let k := u.m_replayBurstPerTick.toNat * ps.countP Pass.txDue
    (exec (pass bootMs) u ps).buffer.content = u.buffer.content.drop k ∧
      replayed (exec (pass bootMs) u ps) = replayed u ++ u.buffer.content.take k ∧
      liveSends (exec (pass bootMs) u ps) =
        liveSends u ++ (ps.filter Pass.txDue).filterMap Pass.live := by
  have hdrained : Drained (u.m_replayBurstPerTick.toNat * ps.countP Pass.txDue)
      ((ps.filter Pass.txDue).filterMap Pass.live) u (exec (pass bootMs) u ps) := by
    induction ps generalizing u with
    | nil => exact .of_frame ⟨rfl, rfl⟩ rfl
    | cons p ps ih =>
      obtain ⟨hp, hps⟩ := h
      have hone := drained_pass hp
      have hrest := hone.trans (ih _ hps)
      rw [hone.burst] at hrest
      cases hdue : p.txDue with
      | false =>
        rw [hdue, if_neg (by simp), if_neg (by simp), Nat.zero_add, List.nil_append] at hrest
        rw [List.countP_cons_of_neg (by simp [hdue]), List.filter_cons_of_neg (by simp [hdue])]
        exact hrest
      | true =>
        rw [hdue, if_pos rfl, if_pos rfl, ← mul_one_add] at hrest
        rw [List.countP_cons_of_pos hdue, List.filter_cons_of_pos hdue, Nat.add_comm]
        cases hlive : p.live with
        | none =>
          rw [hlive] at hrest
          rw [List.filterMap_cons_none hlive]
          exact hrest
        | some d =>
          rw [hlive] at hrest
          rw [List.filterMap_cons_some hlive]
          exact hrest
  exact ⟨hdrained.content, hdrained.replayed, hdrained.live⟩

/-- A pass with a heartbeat and a TX tick. -/
def upPass : Pass where
  rx := [(UKS_HEARTBEAT_BYTE, 5000)]
  nowMs := 5000
  txDue := true
  live := none
  sampleMs := 5000
  send := fun _ _ _ => true

/-- The scheduler with two packets in its buffer. -/
def twoBuffered : UplinkScheduler :=
  { LO_sched with buffer := (obPush {} (obPush {} .empty).2).2 }

/-- Two packets are gone after two TX ticks. -/
theorem drained_after_two : (exec (pass 0) twoBuffered [upPass, upPass]).buffer.content = [] := by
  have haccepts : Accepts upPass.send := fun _ _ _ => rfl
  have hfirst : (linked 0 twoBuffered upPass).m_linkDown = false := by decide +kernel
  have hsecond : (linked 0 (pass 0 twoBuffered upPass) upPass).m_linkDown = false := by
    decide +kernel
  rw [(drained_of_up 0 twoBuffered [upPass, upPass]
    ⟨⟨haccepts, hfirst⟩, ⟨haccepts, hsecond⟩, trivial⟩).1]
  decide +kernel

end TufanAks.LoraTask

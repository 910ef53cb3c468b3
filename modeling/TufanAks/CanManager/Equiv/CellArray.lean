import TufanAks.CanManager.Equiv.Parts

/-!
# The array of cell voltages

The 24 cells are filled by six groups of frames, four cells each.  In every run a cell holds what
the last accepted frame of its group says (`cellVoltages_exact`): the frames of one group never
touch the cells of another, in whatever order they come.
-/

namespace TufanAks.CanManager

open CanParse

/-- The frame with which a part fills the cells of the group `g`. -/
def Part.cellFrame (g : Fin 6) : Part → Option twai_message_t
  | .frame msg _ => if CanManager.cellFrame msg = some g then some msg else none
  | _ => none

/-- The last accepted frame of the group `g`. -/
def lastCellFrame (g : Fin 6) (bs : List Part) : Option twai_message_t :=
  (bs.filterMap (Part.cellFrame g)).getLast?

/-- Cell `j` of the group `g`. -/
def cellIndex (g : Fin 6) (j : Fin 4) : Fin 24 := ⟨4 * g + j, by omega⟩

/-- The word `j` of a frame in mV, and 0 if there is no frame. -/
def cellMillivolts (msg : Option twai_message_t) (j : Fin 4) : UInt16 :=
  msg.elim 0 fun msg => msg.word j / 10

theorem lastCellFrame_concat (g : Fin 6) (bs : List Part) (b : Part) :
    lastCellFrame g (bs ++ [b]) = (b.cellFrame g).or (lastCellFrame g bs) := by
  unfold lastCellFrame
  rw [List.filterMap_append]
  cases hb : b.cellFrame g <;> simp [hb]

/-! ### One frame -/

/-- The array of the cells. -/
abbrev voltages (c : CanManager) : Fin 24 → UInt16 := c.s_telemetryData.TEL_bmsCellVoltages

section handlers

variable {msg : twai_message_t} {tick : UInt32} {c : CanManager}

/-- **A cell handler** writes the four cells of its group. -/
theorem voltages_handleCellGroup (hdlc : ¬msg.data_length_code < 8) (k g : Fin 6) (j : Fin 4) :
    voltages (handleCellGroup (parseCellGroup (4 * k)) k msg tick c) (cellIndex g j) =
      if k = g then msg.word j / 10 else voltages c (cellIndex g j) := by
  unfold handleCellGroup parseCellGroup
  rw [if_neg hdlc]
  dsimp only [voltages]
  by_cases hk : k = g
  · subst hk
    have hmem : 4 * k.val ≤ (cellIndex k j).val ∧ (cellIndex k j).val < 4 * k.val + 4 := by
      dsimp only [cellIndex]
      omega
    have hword : (⟨(cellIndex k j).val - 4 * k.val, by omega⟩ : Fin 4) = j :=
      Fin.ext (Nat.add_sub_cancel_left _ _)
    rw [if_pos hmem, if_pos rfl, writeCells, dif_pos hmem, hword]
  · have hmem : ¬(4 * k.val ≤ (cellIndex g j).val ∧ (cellIndex g j).val < 4 * k.val + 4) := by
      dsimp only [cellIndex]
      omega
    rw [if_neg hmem, if_neg hk]

/-- A frame that is no cell frame leaves the cells alone. -/
theorem voltages_handleMessage (h : cellFrame msg = none) :
    voltages (handleMessage msg tick c) = voltages c := by
  have hframe := dispatched msg tick c
  generalize acceptedAs msg = src, handleMessage msg tick c = c' at hframe ⊢
  cases hframe with
  | ignored => rfl
  | motor => exact frame voltages (withoutMotor_handleMotorStatus msg tick c) fun _ => rfl
  | bmsE000 => exact frame voltages (withoutBmsE000_handleLbBmsE000 msg tick c) fun _ => rfl
  | bmsE001 => exact frame voltages (withoutBmsE001_handleLbBmsE001 msg tick c) fun _ => rfl
  | cells k hk => simp [h] at hk
  | charger => exact frame voltages (withoutCharger_handleCharger1806E5F4 msg tick c) fun _ => rfl

/-- **One frame** changes the cells of its group only. -/
theorem voltages_handleMessage_cellIndex (g : Fin 6) (j : Fin 4) :
    voltages (handleMessage msg tick c) (cellIndex g j) =
      if cellFrame msg = some g then msg.word j / 10 else voltages c (cellIndex g j) := by
  cases hcell : cellFrame msg with
  | none =>
    rw [voltages_handleMessage hcell]
    rfl
  | some k =>
    have hdlc := (cellFrame_eq_some hcell).2.2.1
    rw [handleMessage_of_cellFrame hcell, voltages_handleCellGroup hdlc]
    simp only [Option.some.injEq]

end handlers

/-! ### Runs -/

theorem voltages_perform_of_not_frame {b : Part} (h : b.isFrame = false) (c : CanManager) :
    voltages (perform c b) = voltages c :=
  congrArg (fun p : Payload => p.telemetry.TEL_bmsCellVoltages) (payload_perform h c)

/-- One part: the cells of a group change with its frames only. -/
theorem voltages_perform (c : CanManager) (b : Part) (g : Fin 6) (j : Fin 4) :
    voltages (perform c b) (cellIndex g j) =
      (b.cellFrame g).elim (voltages c (cellIndex g j)) fun msg => msg.word j / 10 := by
  cases b with
  | frame msg tick =>
    show voltages (handleMessage msg tick c) (cellIndex g j) = _
    rw [voltages_handleMessage_cellIndex, Part.cellFrame]
    split_ifs <;> rfl
  | _ => exact congrFun (voltages_perform_of_not_frame rfl c) _

/-- **After any parts** a cell holds the word of the last frame of its group. -/
theorem voltages_exec (bs : List Part) (g : Fin 6) (j : Fin 4) :
    voltages (Machine.exec perform {} bs) (cellIndex g j) =
      cellMillivolts (lastCellFrame g bs) j := by
  induction bs using List.reverseRecOn with
  | nil => rfl
  | append_singleton bs b ih =>
    rw [Machine.exec_concat, voltages_perform, lastCellFrame_concat, ih]
    cases b.cellFrame g <;> rfl

/-- **The last writer wins, group by group**: after every run each cell of the group `g` holds the
tenth of its word in the last accepted frame of `g`, and 0 before the first; and no frame that is
not accepted as one of `g` changes a cell of `g`. -/
theorem cellVoltages_exact (as : List Action) (g : Fin 6) (j : Fin 4) :
    (after as).s_telemetryData.TEL_bmsCellVoltages (cellIndex g j) =
        cellMillivolts (lastCellFrame g (partsOf as)) j ∧
      ∀ (pre post : List Part) (msg : twai_message_t) (tick : UInt32),
        partsOf as = pre ++ .frame msg tick :: post → cellFrame msg ≠ some g →
          (Machine.exec perform {} (pre ++ [.frame msg tick])).s_telemetryData.TEL_bmsCellVoltages
              (cellIndex g j) =
            (Machine.exec perform {} pre).s_telemetryData.TEL_bmsCellVoltages (cellIndex g j) := by
  constructor
  · rw [after_eq]
    exact voltages_exec (partsOf as) g j
  · intro pre post msg tick _ hother
    rw [Machine.exec_concat]
    show voltages (handleMessage msg tick _) (cellIndex g j) = _
    rw [voltages_handleMessage_cellIndex, if_neg hother]

end TufanAks.CanManager

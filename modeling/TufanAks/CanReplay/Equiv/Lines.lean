import TufanAks.CanReplay
import TufanAks.Text.Decimal

/-!
# The lines of a log

What `parseLine` accepts is a well-formed frame, and a well-formed frame that is printed in the
format of the log is read back (`lines_roundTrip`), with one exception: `main` takes the blank off
the end of a line for a frame without data, and then its fourth field is missing.
-/

namespace TufanAks.CanReplay

open Text

/-- A frame as a log can show it: the bytes beyond the length are zero. -/
structure WellFormed (f : Frame) : Prop where
  identifier : f.msg.identifier = f.id
  extd : f.msg.extd = false
  rtr : f.msg.rtr = false
  dlc : f.msg.data_length_code.toNat ≤ TWAI_FRAME_MAX_DLC
  data : ∀ i : Fin 8, f.msg.data_length_code.toNat ≤ i → f.msg.data i = 0

/-! ### Reading -/

/-- The byte of a word. -/
def byteOf (byteStr : List Char) : UInt8 := (strtoul 16 byteStr).toUInt8

/-- **The loop over the words** stores one byte for each, if there is room for all. -/
theorem readBytes_eq {n : ℕ} (hn : n ≤ TWAI_FRAME_MAX_DLC) (data : Fin 8 → UInt8)
    (ws : List (List Char)) :
    readBytes n data ws =
      if n + ws.length ≤ TWAI_FRAME_MAX_DLC then
        .ok (n + ws.length, fun i =>
          if n ≤ i then (ws[i.val - n]?).elim (data i) byteOf else data i)
      else .error "8'den fazla veri byte'i" := by
  induction ws generalizing n data with
  | nil =>
    have hdata : (fun i : Fin 8 =>
        if n ≤ i then (([] : List (List Char))[i.val - n]?).elim (data i) byteOf else data i) =
        data := by
      funext i
      simp
    rw [List.length_nil, Nat.add_zero, if_pos hn, hdata, readBytes]
  | cons w ws ih =>
    rw [readBytes, List.length_cons]
    by_cases hlt : n < TWAI_FRAME_MAX_DLC
    · rw [dif_pos hlt, ih (Nat.succ_le_of_lt hlt),
        show n + 1 + ws.length = n + (ws.length + 1) by omega]
      have hdata : (fun i : Fin 8 =>
          if n + 1 ≤ i then (ws[i.val - (n + 1)]?).elim
            (Function.update data ⟨n, hlt⟩ (strtoul 16 w).toUInt8 i) byteOf
          else Function.update data ⟨n, hlt⟩ (strtoul 16 w).toUInt8 i) =
          fun i : Fin 8 => if n ≤ i then ((w :: ws)[i.val - n]?).elim (data i) byteOf
            else data i := by
        funext i
        rcases Nat.lt_trichotomy i n with hi | hi | hi
        · have hne : i ≠ ⟨n, hlt⟩ := fun h => by simp [h] at hi
          rw [if_neg (by omega), if_neg (by omega), Function.update_of_ne hne]
        · obtain rfl : i = ⟨n, hlt⟩ := Fin.ext hi
          simp [byteOf]
        · have hne : i ≠ ⟨n, hlt⟩ := fun h => by simp [h] at hi
          obtain ⟨k, hk⟩ := Nat.exists_eq_add_of_lt hi
          rw [if_pos (by omega), if_pos (by omega), Function.update_of_ne hne,
            show i.val - n = k + 1 by omega, show i.val - (n + 1) = k by omega,
            List.getElem?_cons_succ]
      rw [hdata]
    · rw [dif_neg hlt, if_neg (by omega)]

/-- **What is accepted** is well-formed. -/
theorem wellFormed_of_parseLine {line : List Char} {n : ℕ} {f : Frame}
    (h : parseLine line n = .ok f) : WellFormed f ∧ f.lineNo = n := by
  unfold parseLine at h
  dsimp only at h
  split at h
  next _ fmt idText dlcText hexText _ =>
    split_ifs at h with hfmt hdlc
    rw [readBytes_eq (Nat.zero_le _)] at h
    split_ifs at h with hroom
    dsimp only at h
    split_ifs at h with hlength
    obtain rfl := Except.ok.inj h
    rw [Nat.zero_add] at hroom hlength
    have hcount : (UInt8.ofNat (strtol 10 dlcText).toNat).toNat = (words hexText).length := by
      have hmax : TWAI_FRAME_MAX_DLC = 8 := rfl
      have hnat : (strtol 10 dlcText).toNat = (words hexText).length := by omega
      rw [hnat, UInt8.toNat_ofNat', Nat.mod_eq_of_lt (by omega)]
    refine ⟨⟨rfl, rfl, rfl, ?_, ?_⟩, rfl⟩
    · dsimp only
      omega
    · intro i hi
      dsimp only at hi ⊢
      rw [if_pos (Nat.zero_le _), Nat.sub_zero, List.getElem?_eq_none (by omega)]
      rfl
  next => cases h

/-! ### Printing -/

/-- The bytes of a frame that its length counts. -/
def Frame.bytes (f : Frame) : List UInt8 :=
  (List.ofFn f.msg.data).take f.msg.data_length_code.toNat

/-- The words of the fourth field. -/
def Frame.byteStrs (f : Frame) : List (List Char) :=
  f.bytes.map fun b => fixedDigits 16 2 b.toNat

/-- The fields of a line, between their separators. -/
def Frame.fields (width : ℕ) (f : Frame) : List (List Char) :=
  [(if f.isExt then "EXT".toList else "STD".toList) ++ [' '],
    [' '] ++ (('0' :: 'x' :: fixedDigits 16 width f.id.toNat) ++ [' ']),
    [' '] ++ (fixedDigits 10 1 f.msg.data_length_code.toNat ++ [' ']),
    [' '] ++ [' '].intercalate f.byteStrs]

/-- The line for a frame, as in `EXT | 0xE000 | 8 | FF FF 03 16 0F 5E 09 71`, with `width` digits
for the identifier. -/
def formatLine (width : ℕ) (f : Frame) : List Char := ['|'].intercalate (f.fields width)

/-- The digits of a number are none of the blanks, nor the separator. -/
theorem digit_facts {base width n : ℕ} (hpos : 0 < base) (hbase : base ≤ 16) {c : Char}
    (hc : c ∈ fixedDigits base width n) :
    isSpace c = false ∧ isBlank c = false ∧ c ≠ '|' := by
  obtain ⟨d, hd, rfl⟩ := exists_of_mem_fixedDigits hpos hc
  have hall : ∀ d < 16, isSpace (digitChar d) = false ∧ isBlank (digitChar d) = false ∧
      digitChar d ≠ '|' := by
    decide
  exact hall d (by omega)

theorem byteStrs_facts {f : Frame} {l : List Char} (hl : l ∈ f.byteStrs) :
    l ≠ [] ∧ ∀ c ∈ l, isSpace c = false ∧ isBlank c = false ∧ c ≠ '|' := by
  obtain ⟨b, -, rfl⟩ := List.mem_map.mp hl
  constructor
  · intro hnil
    have hlength := congrArg List.length hnil
    rw [length_fixedDigits] at hlength
    cases hlength
  · intro c hc
    exact digit_facts (by decide) (le_refl 16) hc

/-- The separator stands between the fields only. -/
theorem not_mem_fields {width : ℕ} {f : Frame} {l : List Char} (hl : l ∈ f.fields width) :
    '|' ∉ l := by
  intro hmem
  have hdigits : ∀ base width n, 0 < base → base ≤ 16 → '|' ∉ fixedDigits base width n :=
    fun base width n hpos hbase hc => (digit_facts hpos hbase hc).2.2 rfl
  simp only [Frame.fields, List.mem_cons, List.not_mem_nil, or_false] at hl
  rcases hl with rfl | rfl | rfl | rfl
  · revert hmem
    cases f.isExt <;> decide
  · simp [hdigits] at hmem
  · simp [hdigits] at hmem
  · simp only [List.mem_append, List.mem_singleton] at hmem
    rcases hmem with hmem | hmem
    · cases hmem
    · rcases mem_intercalate hmem with hmem | ⟨l, hl, hmem⟩
      · cases hmem
      · exact ((byteStrs_facts hl).2 _ hmem).2.2 rfl

/-- The line without its fourth field, as `main` passes it on if there are no bytes. -/
def front (width : ℕ) (f : Frame) : List Char :=
  ['|'].intercalate ((f.fields width).take 3) ++ ['|']

theorem formatLine_eq (width : ℕ) (f : Frame) :
    formatLine width f = front width f ++ ([' '] ++ [' '].intercalate f.byteStrs) := by
  simp [formatLine, front, Frame.fields, List.intercalate_cons_cons]

theorem front_ends (width : ℕ) (f : Frame) :
    (∀ c ∈ (front width f).head?, isBlank c = false) ∧
      ∀ c ∈ (front width f).getLast?, isBlank c = false := by
  constructor
  · unfold front Frame.fields
    cases f.isExt <;> simp [List.intercalate_cons_cons, isBlank]
  · simp [front, isBlank]

/-- **What `main` makes of a printed line** before it is parsed. -/
theorem trim_formatLine (width : ℕ) (f : Frame) :
    trim isBlank (formatLine width f) =
      if f.byteStrs = [] then front width f else formatLine width f := by
  obtain ⟨hhead, hlast⟩ := front_ends width f
  have hne : front width f ≠ [] := List.concat_ne_nil _ _
  split_ifs with hbytes
  · rw [formatLine_eq, hbytes, List.intercalate_nil, List.append_nil, ← List.nil_append (_ ++ _)]
    exact trim_append (by simp) (by simp [isBlank]) hhead hlast
  · -- the line ends with the last byte
    have hwords : ∀ l ∈ f.byteStrs, l ≠ [] ∧ ∀ c ∈ l, isBlank c = false := fun l hl =>
      ⟨(byteStrs_facts hl).1, fun c hc => ((byteStrs_facts hl).2 c hc).2.1⟩
    have hjoined : [' '].intercalate f.byteStrs ≠ [] :=
      intercalate_ne_nil hbytes fun l hl => (hwords l hl).1
    have hline : trim isBlank ([] ++ (formatLine width f ++ [])) = formatLine width f := by
      apply trim_append (by simp) (by simp)
      · intro c hc
        rw [formatLine_eq, List.head?_append_of_ne_nil _ hne] at hc
        exact hhead c hc
      · intro c hc
        rw [formatLine_eq, List.getLast?_append_of_ne_nil _ (by simp),
          List.getLast?_append_of_ne_nil _ hjoined] at hc
        exact (ends_intercalate hwords).2 c hc
    simpa using hline

/-! ### Reading what was printed -/

/-- A byte is read back from its two digits. -/
theorem byteOf_fixedDigits (b : UInt8) : byteOf (fixedDigits 16 2 b.toNat) = b := by
  have hlt : b.toNat < 2 ^ 8 := b.toNat_lt
  apply UInt8.toNat_inj.mp
  show (strtoul 16 (fixedDigits 16 2 b.toNat)).toUInt8.toNat = b.toNat
  rw [(strtoul_fixedDigits (by decide) (by omega) (by omega)).1, UInt64.toNat_toUInt8,
    UInt64.toNat_ofNat']
  omega

/-- A length is read back from its digit. -/
theorem strtol_fixedDigits {d : ℕ} (hd : d ≤ TWAI_FRAME_MAX_DLC) :
    strtol 10 (fixedDigits 10 1 d) = d := by
  have hall : ∀ d ≤ 8, strtol 10 (fixedDigits 10 1 d) = d := by decide
  exact hall d hd

theorem length_byteStrs {f : Frame} (hf : WellFormed f) :
    f.byteStrs.length = f.msg.data_length_code.toNat := by
  have hdlc : f.msg.data_length_code.toNat ≤ 8 := hf.dlc
  simp [Frame.byteStrs, Frame.bytes, hdlc]

theorem byteStrs_eq_nil_iff {f : Frame} (hf : WellFormed f) :
    f.byteStrs = [] ↔ f.msg.data_length_code = 0 := by
  rw [← List.length_eq_zero_iff, length_byteStrs hf, ← UInt8.toNat_inj]
  rfl

/-- **The bytes are read back**, and those beyond the length stay zero. -/
theorem readBytes_byteStrs {f : Frame} (hf : WellFormed f) :
    readBytes 0 (fun _ => 0) f.byteStrs = .ok (f.msg.data_length_code.toNat, f.msg.data) := by
  have hdlc : f.msg.data_length_code.toNat ≤ TWAI_FRAME_MAX_DLC := hf.dlc
  rw [readBytes_eq (Nat.zero_le _), length_byteStrs hf, Nat.zero_add, if_pos hdlc]
  have hdata : (fun i : Fin 8 =>
      if 0 ≤ i.val then (f.byteStrs[i.val - 0]?).elim 0 byteOf else 0) = f.msg.data := by
    funext i
    rw [if_pos (Nat.zero_le _), Nat.sub_zero]
    by_cases hi : i.val < f.msg.data_length_code.toNat
    · have hget : f.byteStrs[i.val]? = some (fixedDigits 16 2 (f.msg.data i).toNat) := by
        rw [Frame.byteStrs, Frame.bytes, List.getElem?_map, List.getElem?_take_of_lt hi,
          List.getElem?_ofFn, dif_pos i.isLt]
        rfl
      rw [hget]
      exact byteOf_fixedDigits (f.msg.data i)
    · have hle : f.msg.data_length_code.toNat ≤ i := by omega
      rw [List.getElem?_eq_none (by rw [length_byteStrs hf]; exact hle), hf.data i hle]
      rfl
  rw [hdata]

/-- A field loses the blanks around it. -/
theorem trim_field {before s after : List Char} (hbefore : ∀ c ∈ before, isBlank c = true)
    (hafter : ∀ c ∈ after, isBlank c = true) (hs : ∀ c ∈ s, isBlank c = false) :
    trim isBlank (before ++ (s ++ after)) = s :=
  trim_append hbefore hafter (fun c hc => hs c (List.mem_of_mem_head? hc))
    fun c hc => hs c (List.mem_of_mem_getLast? hc)

/-- **The fields of a printed line**, as `parseLine` sees them. -/
theorem trim_fields (width : ℕ) (f : Frame) :
    (f.fields width).map (trim isBlank) =
      [if f.isExt then "EXT".toList else "STD".toList,
        '0' :: 'x' :: fixedDigits 16 width f.id.toNat,
        fixedDigits 10 1 f.msg.data_length_code.toNat,
        [' '].intercalate f.byteStrs] := by
  have hdigits : ∀ base width n, 0 < base → base ≤ 16 →
      ∀ c ∈ fixedDigits base width n, isBlank c = false :=
    fun base width n hpos hbase c hc => (digit_facts hpos hbase hc).2.1
  have hblank : ∀ c ∈ [' '], isBlank c = true := by simp [isBlank]
  have hnone : ∀ c ∈ ([] : List Char), isBlank c = true := by simp
  have hfmt : trim isBlank ((if f.isExt then "EXT".toList else "STD".toList) ++ [' ']) =
      if f.isExt then "EXT".toList else "STD".toList := by
    apply trim_field hnone hblank
    cases f.isExt <;> simp [isBlank]
  have hid : trim isBlank
      ([' '] ++ (('0' :: 'x' :: fixedDigits 16 width f.id.toNat) ++ [' '])) =
      '0' :: 'x' :: fixedDigits 16 width f.id.toNat := by
    apply trim_field hblank hblank
    intro c hc
    rcases List.mem_cons.mp hc with rfl | hc
    · rfl
    · rcases List.mem_cons.mp hc with rfl | hc
      · rfl
      · exact hdigits 16 width _ (by decide) (le_refl 16) c hc
  have hdlc : trim isBlank
      ([' '] ++ (fixedDigits 10 1 f.msg.data_length_code.toNat ++ [' '])) =
      fixedDigits 10 1 f.msg.data_length_code.toNat :=
    trim_field hblank hblank (hdigits 10 1 _ (by decide) (by decide))
  have hhex : trim isBlank ([' '] ++ ([' '].intercalate f.byteStrs ++ [])) =
      [' '].intercalate f.byteStrs := by
    have hends := @ends_intercalate isBlank [' '] f.byteStrs fun l hl =>
      ⟨(byteStrs_facts hl).1, fun c hc => ((byteStrs_facts hl).2 c hc).2.1⟩
    exact trim_append hblank hnone hends.1 hends.2
  rw [List.append_nil] at hhex
  simp only [Frame.fields, List.map_cons, List.map_nil, hfmt, hid, hdlc, hhex]

/-- **A line whose fields are those of a frame** is read as the frame. -/
theorem parseLine_of_parts {f : Frame} (hf : WellFormed f) {width : ℕ} (hwidth : 0 < width)
    (hid : f.id.toNat < 16 ^ width) {line : List Char} {n : ℕ}
    (hparts : (getlines '|' line).map (trim isBlank) = (f.fields width).map (trim isBlank)) :
    parseLine line n = .ok { f with lineNo := n } := by
  have hlt : f.id.toNat < 2 ^ 32 := f.id.toNat_lt
  have hidText : (strtoul 16 ('0' :: 'x' :: fixedDigits 16 width f.id.toNat)).toUInt32 = f.id := by
    apply UInt32.toNat_inj.mp
    rw [(strtoul_fixedDigits hwidth hid (by omega)).2, UInt64.toNat_toUInt32, UInt64.toNat_ofNat']
    omega
  have hwords : words ([' '].intercalate f.byteStrs) = f.byteStrs :=
    words_intercalate fun l hl =>
      ⟨(byteStrs_facts hl).1, fun c hc => ((byteStrs_facts hl).2 c hc).1⟩
  have hfmt : ∀ isExt : Bool,
      ¬((if isExt then "EXT".toList else "STD".toList) ≠ "EXT".toList ∧
        (if isExt then "EXT".toList else "STD".toList) ≠ "STD".toList) ∧
      decide ((if isExt then "EXT".toList else "STD".toList) = "EXT".toList) = isExt := by
    decide
  have hdlc : ¬((f.msg.data_length_code.toNat : ℤ) < 0 ∨
      (f.msg.data_length_code.toNat : ℤ) > TWAI_FRAME_MAX_DLC) := by
    have := hf.dlc
    omega
  have hmsg : ({ identifier := f.id
                 data_length_code := f.msg.data_length_code
                 data := f.msg.data } : twai_message_t) = f.msg := by
    rw [twai_message_t.mk.injEq]
    exact ⟨hf.identifier.symm, hf.extd.symm, hf.rtr.symm, rfl, rfl⟩
  unfold parseLine
  rw [hparts, trim_fields]
  dsimp only
  rw [if_neg (hfmt f.isExt).1, (hfmt f.isExt).2, strtol_fixedDigits hf.dlc, if_neg hdlc, hwords,
    readBytes_byteStrs hf]
  dsimp only
  rw [if_neg (not_not.mpr rfl), hidText, Int.toNat_natCast, UInt8.ofNat_toNat, hmsg]

/-- **The lines of a log**: what is accepted is well-formed, and the line that is printed for a
well-formed frame is read back, unless the frame has no data. -/
theorem lines_roundTrip (n : ℕ) :
    (∀ line f, parseLine line n = .ok f → WellFormed f ∧ f.lineNo = n) ∧
      ∀ f width, WellFormed f → 0 < width → f.id.toNat < 16 ^ width →
        parseLine (trim isBlank (formatLine width f)) n =
          if f.msg.data_length_code = 0 then
            .error "beklenen 4 alan (FMT|ID|DLC|HEX), bulunan 3"
          else .ok { f with lineNo := n } := by
  refine ⟨fun _ _ => wellFormed_of_parseLine, ?_⟩
  intro f width hf hwidth hid
  have hsep : ∀ l ∈ f.fields width, '|' ∉ l := fun _ => not_mem_fields
  rw [trim_formatLine]
  by_cases hdlc : f.msg.data_length_code = 0
  · rw [if_pos hdlc, if_pos ((byteStrs_eq_nil_iff hf).mpr hdlc)]
    -- the fourth field is empty, and `std::getline` does not deliver it
    have hfront : front width f = ['|'].intercalate ((f.fields width).take 3 ++ [[]]) := by
      simp [front, Frame.fields, List.intercalate_cons_cons]
    have hitems : getlines '|' (front width f) = (f.fields width).take 3 := by
      rw [hfront, getlines_intercalate (by simp), if_pos (by simp), List.dropLast_concat]
      intro l hl
      rcases List.mem_append.mp hl with hl | hl
      · exact hsep l (List.mem_of_mem_take hl)
      · rw [List.mem_singleton.mp hl]
        exact List.not_mem_nil
    obtain ⟨fmt, idText, dlcText, hparts⟩ : ∃ fmt idText dlcText,
        ((f.fields width).take 3).map (trim isBlank) = [fmt, idText, dlcText] :=
      ⟨_, _, _, rfl⟩
    unfold parseLine
    rw [hitems, hparts]
    show Except.error ("beklenen 4 alan (FMT|ID|DLC|HEX), bulunan " ++ toString 3) = _
    exact congrArg Except.error (by decide)
  · rw [if_neg hdlc, if_neg (mt (byteStrs_eq_nil_iff hf).mp hdlc)]
    apply parseLine_of_parts hf hwidth hid
    rw [formatLine, getlines_intercalate (by simp [Frame.fields]) hsep, if_neg]
    simp [Frame.fields]

/-- A frame of the pack, as the sniffer writes it. -/
def packFrame : Frame where
  isExt := true
  id := 0xE000
  msg :=
    { identifier := 0xE000
      data := fun i => [0xFF, 0xFF, 0x03, 0x16, 0x0F, 0x5E, 0x09, 0x71].getD i 0 }
  lineNo := 1

theorem wellFormed_packFrame : WellFormed packFrame :=
  ⟨rfl, rfl, rfl, by decide, fun i hi => absurd hi (by revert i; decide)⟩

theorem packFrame_roundTrip :
    parseLine (trim isBlank "EXT | 0xE000 | 8 | FF FF 03 16 0F 5E 09 71".toList) 7 =
      .ok { packFrame with lineNo := 7 } :=
  (lines_roundTrip 7).2 packFrame 4 wellFormed_packFrame (by decide) (by decide)

end TufanAks.CanReplay

import TufanAks.Contract

/-!
# Which printed lines the ground station accepts

A line that consists of the tag and printed integers, one for each field, is accepted exactly when
every integer lies in the range of its field, the version is right and the motor speed is plausible
(`accepts_line_iff`).
-/

namespace TufanAks.Contract

open Text

/-- The ground station accepts the line. -/
def Accepts (line : List Char) : Prop := (parseUksFrame line).isOk = true

instance (line : List Char) : Decidable (Accepts line) := inferInstanceAs (Decidable (_ = true))

def InRange (f : Field) (v : ℤ) : Prop := (FIELD_RANGES f).1 ≤ v ∧ v ≤ (FIELD_RANGES f).2

/-- A printed integer is a token, if it needs no sign or may have one. -/
theorem isStrictIntToken_decimal {v : ℤ} {allowSign : Bool} :
    isStrictIntToken (decimal v) allowSign = true ↔ 0 ≤ v ∨ allowSign = true := by
  cases v with
  | ofNat n =>
    obtain ⟨c, body, h, hminus, hplus⟩ := toDigits_cases n
    have hdigits : (Nat.toDigits 10 n).all Char.isDigit = true :=
      List.all_eq_true.mpr fun _ => isDigit_of_mem_toDigits
    show isStrictIntToken (Nat.toDigits 10 n) allowSign = true ↔ _
    rw [h] at hdigits ⊢
    simp [isStrictIntToken, hminus, hplus, hdigits]
  | negSucc n =>
    have hne : Nat.toDigits 10 (n + 1) ≠ [] := Nat.toDigits_ne_nil
    have hdigits : (Nat.toDigits 10 (n + 1)).all Char.isDigit = true :=
      List.all_eq_true.mpr fun _ => isDigit_of_mem_toDigits
    have hvalue : ¬(0 : ℤ) ≤ Int.negSucc n := by omega
    show isStrictIntToken ('-' :: Nat.toDigits 10 (n + 1)) allowSign = true ↔ _
    cases allowSign with
    | false => simp [isStrictIntToken, hvalue]
    | true => simp [isStrictIntToken, hne, hdigits]

/-- One field more: its integer has to be in range. -/
theorem parseFields_cons_decimal (f : Field) (v : ℤ) (rest : List (Field × List Char)) :
    (InRange f v → parseFields ((f, decimal v) :: rest) = (parseFields rest).map ((f, v) :: ·)) ∧
      (¬InRange f v → parseFields ((f, decimal v) :: rest) = .error ⟨"parse_fail"⟩) := by
  have hstep : parseFields ((f, decimal v) :: rest) =
      if !isStrictIntToken (decimal v) ((FIELD_RANGES f).1 < 0) then .error ⟨"parse_fail"⟩
      else if v < (FIELD_RANGES f).1 ∨ v > (FIELD_RANGES f).2 then .error ⟨"parse_fail"⟩
      else (parseFields rest).map ((f, v) :: ·) := by
    rw [parseFields, intValue_decimal]
  rw [hstep]
  constructor
  · rintro ⟨hlo, hhi⟩
    have htoken : isStrictIntToken (decimal v) ((FIELD_RANGES f).1 < 0) = true := by
      rw [isStrictIntToken_decimal, decide_eq_true_eq]
      omega
    rw [htoken, if_neg (by simp), if_neg (by omega)]
  · intro hout
    have hrange : v < (FIELD_RANGES f).1 ∨ v > (FIELD_RANGES f).2 := by
      unfold InRange at hout
      omega
    rw [if_pos hrange, ite_self]

/-- **The loop over the fields** reads printed integers back if all of them are in range. -/
theorem parseFields_decimal (l : List (Field × ℤ)) :
    ((∀ x ∈ l, InRange x.1 x.2) → parseFields (l.map fun x => (x.1, decimal x.2)) = .ok l) ∧
      ((¬∀ x ∈ l, InRange x.1 x.2) →
        parseFields (l.map fun x => (x.1, decimal x.2)) = .error ⟨"parse_fail"⟩) := by
  induction l with
  | nil => exact ⟨fun _ => rfl, fun h => absurd (by simp) h⟩
  | cons x l ih =>
    obtain ⟨hin, hout⟩ := parseFields_cons_decimal x.1 x.2 (l.map fun x => (x.1, decimal x.2))
    rw [List.map_cons, List.forall_mem_cons]
    by_cases hx : InRange x.1 x.2
    · rw [hin hx]
      constructor
      · rintro ⟨-, hl⟩
        rw [ih.1 hl]
        rfl
      · intro hl
        rw [ih.2 fun h => hl ⟨hx, h⟩]
        rfl
    · exact ⟨fun h => absurd h.1 hx, fun _ => hout hx⟩

/-- A line of printed integers. -/
def line (args : List ℤ) : List Char :=
  [','].intercalate ("TEL".toList :: args.map decimal) ++ ['\r', '\n']

/-- The tokens of the line are the tag and the printed integers. -/
theorem splitOn_line (args : List ℤ) :
    ((line args).rdropWhile fun c => c = '\r' || c = '\n').splitOn ',' =
      "TEL".toList :: args.map decimal := by
  refine Text.splitOn_line (List.cons_ne_nil _ _) (by simp) (by decide) ?_
  intro l hl c hc
  rcases List.mem_cons.mp hl with rfl | hl
  · have htag : "TEL".toList = ['T', 'E', 'L'] := rfl
    simp only [htag, List.mem_cons, List.not_mem_nil, or_false] at hc
    rcases hc with rfl | rfl | rfl
    all_goals exact ⟨by decide, by decide⟩
  · obtain ⟨v, -, rfl⟩ := List.mem_map.mp hl
    have hother : ∀ s : Char, s.isDigit = false → s ≠ '-' → c ≠ s := by
      rintro s hdigit hminus rfl
      exact not_mem_decimal hdigit hminus hc
    refine ⟨hother ',' (by decide) (by decide), ?_⟩
    rw [Bool.or_eq_false_iff, decide_eq_false_iff_not, decide_eq_false_iff_not]
    exact ⟨hother '\r' (by decide) (by decide), hother '\n' (by decide) (by decide)⟩

/-- What is left of parsing a line of printed integers, once it is split into tokens. -/
theorem parseUksFrame_line {args : List ℤ} (hlength : args.length = FIELD_ORDER.length) :
    parseUksFrame (line args) =
      (parseFields ((FIELD_ORDER.zip args).map fun x => (x.1, decimal x.2))).bind fun values =>
        if values.lookup .ver ≠ some VER then .error ⟨"bad_version"⟩
        else if (values.lookup .rpm).any (· > TEL_RPM_MAX) then .error ⟨"range_fail"⟩
        else .ok values := by
  have hcount : ("TEL".toList :: args.map decimal).length = TOKEN_COUNT := by
    rw [List.length_cons, List.length_map, hlength]
    rfl
  have hzip : FIELD_ORDER.zip (args.map decimal) =
      (FIELD_ORDER.zip args).map fun x => (x.1, decimal x.2) := List.zip_map_right
  unfold parseUksFrame
  dsimp only
  rw [splitOn_line, if_neg (not_not_intro hcount), List.head?_cons, if_neg (not_not_intro rfl),
    List.tail_cons, hzip]
  cases parseFields ((FIELD_ORDER.zip args).map fun x => (x.1, decimal x.2)) with
  | error rejection => rfl
  | ok values => rfl

/-- **What is accepted**: integers in range, the right version and a plausible motor speed. -/
theorem accepts_line_iff {args : List ℤ} (hlength : args.length = FIELD_ORDER.length) :
    Accepts (line args) ↔
      (∀ x ∈ FIELD_ORDER.zip args, InRange x.1 x.2) ∧
        (FIELD_ORDER.zip args).lookup .ver = some VER ∧
        ((FIELD_ORDER.zip args).lookup .rpm).any (· > TEL_RPM_MAX) = false := by
  obtain ⟨hin, hout⟩ := parseFields_decimal (FIELD_ORDER.zip args)
  unfold Accepts
  rw [parseUksFrame_line hlength]
  by_cases hrange : ∀ x ∈ FIELD_ORDER.zip args, InRange x.1 x.2
  · rw [hin hrange, Except.bind]
    by_cases hver : (FIELD_ORDER.zip args).lookup .ver = some VER
    · rw [if_neg (not_not_intro hver)]
      cases hrpm : ((FIELD_ORDER.zip args).lookup .rpm).any (· > TEL_RPM_MAX) with
      | false => exact iff_of_true rfl ⟨hrange, hver, rfl⟩
      | true => exact iff_of_false Bool.false_ne_true fun h => Bool.noConfusion h.2.2
    · rw [if_pos hver]
      exact iff_of_false Bool.false_ne_true fun h => hver h.2.1
  · rw [hout hrange]
    exact iff_of_false Bool.false_ne_true fun h => hrange h.1

/-! ### Values by name -/

/-- A line that shows a value for every field, in the order of the fields. -/
def lineOf (value : Field → ℤ) : List Char := line (FIELD_ORDER.map value)

/-- **The values of an accepted line are read back** under the names of their fields. -/
theorem parseUksFrame_lineOf {value : Field → ℤ} (hrange : ∀ f, InRange f (value f))
    (hver : value .ver = VER) (hrpm : value .rpm ≤ TEL_RPM_MAX) :
    parseUksFrame (lineOf value) = .ok (FIELD_ORDER.map fun f => (f, value f)) := by
  have hzip : FIELD_ORDER.zip (FIELD_ORDER.map value) = FIELD_ORDER.map fun f => (f, value f) :=
    List.map_prod_left_eq_zip.symm
  have hlookup : ∀ f ∈ FIELD_ORDER,
      (FIELD_ORDER.map fun f => (f, value f)).lookup f = some (value f) :=
    fun f hf => List.lookup_graph value hf
  have hall : ∀ x ∈ FIELD_ORDER.map fun f => (f, value f), InRange x.1 x.2 := by
    intro x hx
    obtain ⟨f, -, rfl⟩ := List.mem_map.mp hx
    exact hrange f
  unfold lineOf
  rw [parseUksFrame_line (List.length_map _), hzip, (parseFields_decimal _).1 hall,
    Except.bind]
  rw [hlookup .ver (by decide), hlookup .rpm (by decide), hver, if_neg (not_not_intro rfl),
    Option.any_some, if_neg (by simpa using hrpm)]

/-- **Printing what was read** gives the line that shows it. -/
theorem buildTelLine_eq (value : Field → ℤ) :
    buildTelLine (FIELD_ORDER.map fun f => (f, value f)) = some (lineOf value) := by
  have hkeys : telLineKeys = FIELD_ORDER := rfl
  have hlookup : (telLineKeys.mapM fun key =>
      (FIELD_ORDER.map fun f => (f, value f)).lookup key) = some (FIELD_ORDER.map value) := by
    rw [hkeys]
    rfl
  unfold buildTelLine
  rw [hlookup]
  rfl

end TufanAks.Contract

import JobGate.Proofs.Numeral.Reading
import JobGate.Proofs.Requirement.Built
import JobGate.Requirement.Evaluation
/-! Evaluating requirements that were built. Their bound can always be read, so only a label that
is compared is left to fail: main statement, `holds_of_build`. -/
namespace JobGate.Requirement
variable {r : Requirement} {labels : Labels} {holds : Int → Int → Bool}

theorem bound_of_readStrict {v : String} {rest : List String} {n : Int}
    (hv : r.values = v :: rest) (hn : Numeral.readStrict v = .ok (some n)) : r.bound = .ok n := by
  rw [bound, hv]
  show (Numeral.readLenient v).mapError Fault.numeral = .ok n
  rw [Numeral.readLenient_of_readStrict hn]
  rfl

theorem bound_eq_of_wellFormed (h : r.WellFormed) (ho : r.operator.IsOrder) :
    ∃ v n, r.values = [v] ∧ Numeral.readStrict v = .ok (some n) ∧ r.bound = .ok n := by
  have haccepted := h.accepted
  obtain ⟨key, op, values⟩ := r
  obtain ⟨v, n, rfl, hn⟩ := haccepted.exists_bound ho
  exact ⟨v, n, rfl, hn, bound_of_readStrict rfl hn⟩

theorem bound_of_wellFormed (h : r.WellFormed) (ho : r.operator.IsOrder) :
    ∃ n, r.bound = .ok n := by
  obtain ⟨_, n, -, -, hn⟩ := bound_eq_of_wellFormed h ho
  exact ⟨n, hn⟩

/-- How a label cannot be compared: it has no text, or its text has too many digits. -/
inductive Incomparable (v : Value) : Numeral.Fault → Prop where
  | unwritten {f : Numeral.Fault} (hw : v.written = .error f) : Incomparable v f
  | overlong {s : String} (hw : v.written = .ok s) (hs : Numeral.IsOverlong s) :
      Incomparable v (.tooManyDigits (Numeral.digitCount s))

theorem readLabel_eq_error_iff {v : Value} {f : Numeral.Fault} :
    v.written.bind Numeral.readStrict = .error f ↔ Incomparable v f := by
  cases hw : v.written with
  | error fault =>
    constructor
    · intro h
      cases h
      exact .unwritten hw
    · intro h
      cases h with
      | unwritten hw' =>
        cases hw.symm.trans hw'
        rfl
      | overlong hw' hs => cases hw.symm.trans hw'
  | ok s =>
    show Numeral.readStrict s = .error f ↔ _
    rw [Numeral.readStrict_eq_error_iff]
    constructor
    · intro ⟨hs, hf⟩
      rw [hf]
      exact .overlong hw hs
    · intro h
      cases h with
      | unwritten hw' => cases hw.symm.trans hw'
      | overlong hw' hs =>
        cases hw.symm.trans hw'
        exact ⟨hs, rfl⟩

theorem compares_eq_error_iff {fault : Fault} (hb : ∃ n, r.bound = .ok n) :
    r.compares holds labels = .error fault ↔
      ∃ v f, labels.get? r.key = some v ∧ Incomparable v f ∧ fault = .numeral f := by
  obtain ⟨n, hn⟩ := hb
  rw [compares]
  cases hl : labels.get? r.key with
  | none => simp
  | some v =>
    simp only [Option.some.injEq, exists_and_left, exists_eq_left', ← readLabel_eq_error_iff]
    cases v.written.bind Numeral.readStrict with
    | error f => simp [eq_comm]
    | ok read => cases read <;> simp [hn, Except.map]

theorem holds_eq_error_iff {fault : Fault} (h : r.WellFormed) :
    r.holds labels = .error fault ↔ r.operator.IsOrder ∧
      ∃ v f, labels.get? r.key = some v ∧ Incomparable v f ∧ fault = .numeral f := by
  rw [Requirement.holds]
  cases hop : r.operator with
  | oneOf | noneOf | present | absent => simp [Operator.IsOrder]
  | greater | less =>
    have hb := bound_of_wellFormed h (by simp [Operator.IsOrder, hop])
    simp [Operator.IsOrder, compares_eq_error_iff hb]

theorem comparable_iff {v : Value} :
    (∀ f, ¬ Incomparable v f) ↔ ∃ s, v.written = .ok s ∧ ¬ Numeral.IsOverlong s := by
  cases hw : v.written with
  | error f =>
    have hf : Incomparable v f := .unwritten hw
    simp only [reduceCtorEq, false_and, exists_false, iff_false, not_forall, not_not]
    exact ⟨f, hf⟩
  | ok s =>
    simp only [Except.ok.injEq, exists_eq_left']
    constructor
    · intro h hs
      exact h _ (.overlong hw hs)
    · intro hs f h
      cases h with
      | unwritten hw' => cases hw.symm.trans hw'
      | overlong hw' hs' =>
        cases hw.symm.trans hw'
        exact hs hs'

/-- A requirement that was built can be evaluated exactly if it does not compare integers or its
label, where there is one, has a text that is no integer of too many digits. Nothing but the label
is ever at fault. -/
theorem holds_of_build {key operator : String} {values : List String} {r : Requirement}
    (hr : build key operator values = .ok r) (labels : Labels) :
    ((∃ b, r.holds labels = .ok b) ↔ (r.operator.IsOrder → ∀ v, labels.get? r.key = some v →
      ∃ s, v.written = .ok s ∧ ¬ Numeral.IsOverlong s)) ∧
    ∀ fault, r.holds labels = .error fault →
      ∃ v f, labels.get? r.key = some v ∧ Incomparable v f ∧ fault = .numeral f := by
  have hfault : ∀ fault, r.holds labels = .error fault ↔ _ :=
    fun fault => holds_eq_error_iff (wellFormed_of_build hr)
  refine ⟨?_, fun fault h => ((hfault fault).1 h).2⟩
  have hok : (∃ b, r.holds labels = .ok b) ↔ ∀ fault, r.holds labels ≠ .error fault := by
    cases r.holds labels <;> simp
  rw [hok]
  constructor
  · intro h ho v hv
    refine comparable_iff.1 fun f hf => ?_
    exact h (.numeral f) ((hfault _).2 ⟨ho, v, f, hv, hf, rfl⟩)
  · intro h fault hf
    obtain ⟨ho, v, f, hv, hincomparable, -⟩ := (hfault fault).1 hf
    exact comparable_iff.2 (h ho v hv) f hincomparable

/- A bound of one digit, with a label of one digit and with one of too many. -/

def aboveZero : Requirement := ⟨"k", .greater, ["0"]⟩

def labelled (text : String) : Labels := Dictionary.ofList [("k", .text text)]

theorem build_aboveZero : build "k" "Gt" ["0"] = .ok aboveZero := by
  have h : build "k" "Gt" ["0"] = .ok ⟨"k", .greater, ["0"].mergeSort⟩ := rfl
  rw [h, List.mergeSort_singleton]
  rfl

theorem get?_labelled (text : String) : (labelled text).get? aboveZero.key = some (.text text) :=
  rfl

theorem holds_of_build_aboveZero :
    (∃ b, aboveZero.holds (labelled "7") = .ok b) ∧
      ¬ ∃ b, aboveZero.holds (labelled (Numeral.repeated '1' 4301)) = .ok b := by
  constructor
  · refine (holds_of_build build_aboveZero (labelled "7")).1.2 ?_
    intro ho v hv
    cases hv
    exact ⟨"7", rfl, by decide⟩
  · intro h
    obtain ⟨s, hs, hshort⟩ := (holds_of_build build_aboveZero _).1.1 h (.inl rfl) _ (get?_labelled _)
    rw [Value.written_text, Except.ok.injEq] at hs
    subst hs
    exact hshort (Numeral.isOverlong_repeated (by decide) (by decide))

theorem holds_labelled_overlong {text : String} (hlong : Numeral.IsOverlong text) :
    aboveZero.holds (labelled text) =
      .error (.numeral (.tooManyDigits (Numeral.digitCount text))) := by
  have hw : aboveZero.WellFormed := wellFormed_of_build build_aboveZero
  have hlabel : Incomparable (.text text) (.tooManyDigits (Numeral.digitCount text)) :=
    .overlong (Value.written_text text) hlong
  exact (holds_eq_error_iff hw).2 ⟨.inl rfl, _, _, get?_labelled text, hlabel, rfl⟩

/-- A requirement that was built fails on a label of 4301 digits. -/
theorem not_holds_longLabel : build "k" "Gt" ["0"] = .ok aboveZero ∧
    aboveZero.holds (labelled (Numeral.repeated '1' 4301)) =
      .error (.numeral (.tooManyDigits 4301)) := by
  have hcount : Numeral.digitCount (Numeral.repeated '1' 4301) = 4301 :=
    Numeral.digitCount_repeated (by decide)
  refine ⟨build_aboveZero, ?_⟩
  rw [holds_labelled_overlong (Numeral.isOverlong_repeated (by decide) (by decide)), hcount]

end JobGate.Requirement

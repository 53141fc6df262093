import JobGate.Proofs.Numeral.Denotation
import JobGate.Proofs.Requirement.Evaluation
/-! What a requirement means. `Operator.Means` is said of the key, of the values as they were given
and of what texts denote, and evaluation comes to it: main statement, `holds_meaning`. -/
namespace JobGate

def Labels.HasInteger (labels : Labels) (key : String) (n : Int) : Prop :=
  ∃ v s, labels.get? key = some v ∧ v.written = .ok s ∧ Numeral.Denotes s.toList n

/-- The label under the key, if there is one, has a text that is no integer of too many digits. -/
def Labels.IsReadable (labels : Labels) (key : String) : Prop :=
  ∀ v, labels.get? key = some v → ∃ s, v.written = .ok s ∧ ¬ Numeral.IsOverlong s

/-- The label under the key is an integer that stands in the relation to the one of a bound. -/
def Labels.Compares (labels : Labels) (key : String) (bounds : List String)
    (rel : Int → Int → Prop) : Prop :=
  ∃ bound ∈ bounds, ∃ m n, Numeral.Denotes bound.toList m ∧ labels.HasInteger key n ∧ rel n m

/-- What an operator says of the labels. A label that is no text is none of the values, and one that
is no integer is neither greater nor less than the bound. -/
def Operator.Means (labels : Labels) (key : String) (values : List String) : Operator → Prop
  | .oneOf => ∃ s ∈ values, labels.get? key = some (.text s)
  | .noneOf => ¬ ∃ s ∈ values, labels.get? key = some (.text s)
  | .present => key ∈ labels.names
  | .absent => key ∉ labels.names
  | .greater => labels.Compares key values (· > ·)
  | .less => labels.Compares key values (· < ·)

theorem Operator.means_congr {op : Operator} {labels : Labels} {key : String}
    {values values' : List String} (h : values.Perm values') :
    op.Means labels key values ↔ op.Means labels key values' := by
  cases op with
  | oneOf | noneOf => simp only [Means, h.mem_iff]
  | present | absent => rfl
  | greater | less => simp only [Means, Labels.Compares, h.mem_iff]

/- Integers in the labels. -/

namespace Labels
variable {labels : Labels} {key bound : String} {rel : Int → Int → Prop} {n m : Int}

theorem HasInteger.unique (hn : labels.HasInteger key n) (hm : labels.HasInteger key m) :
    n = m := by
  obtain ⟨v, s, hv, hs, hn⟩ := hn
  obtain ⟨v', s', hv', hs', hm⟩ := hm
  cases hv.symm.trans hv'
  cases hs.symm.trans hs'
  exact hn.unique hm

theorem hasInteger_iff {v : Value} {s : String} (hv : labels.get? key = some v)
    (hs : v.written = .ok s) : labels.HasInteger key n ↔ Numeral.Denotes s.toList n := by
  constructor
  · rintro ⟨v', s', hv', hs', hn⟩
    cases hv.symm.trans hv'
    cases hs.symm.trans hs'
    exact hn
  · intro hn
    exact ⟨v, s, hv, hs, hn⟩

theorem compares_singleton_iff (hm : Numeral.Denotes bound.toList m) :
    labels.Compares key [bound] rel ↔ ∃ n, labels.HasInteger key n ∧ rel n m := by
  constructor
  · rintro ⟨_, hmem, m', n, hm', hn, hrel⟩
    cases List.mem_singleton.1 hmem
    cases hm.unique hm'
    exact ⟨n, hn, hrel⟩
  · rintro ⟨n, hn, hrel⟩
    exact ⟨bound, List.mem_singleton_self bound, m, n, hm, hn, hrel⟩

end Labels

namespace Requirement
variable {r : Requirement} {labels : Labels} {holds : Int → Int → Bool} {m : Int}
  {key operator : String} {op : Operator} {values : List String}

/- Evaluation. -/

theorem isOneOf_iff : r.isOneOf labels ↔ ∃ s ∈ r.values, labels.get? r.key = some (.text s) := by
  unfold isOneOf
  split
  · next s hs => simp [hs]
  · next hs =>
    simp only [Bool.false_eq_true, false_iff, not_exists, not_and]
    exact fun s _ hget => hs s hget

theorem readLabel_of_readable {v : Value} (hl : labels.IsReadable r.key)
    (hv : labels.get? r.key = some v) : ∃ read, v.written.bind Numeral.readStrict = .ok read ∧
      ∀ n, read = some n ↔ labels.HasInteger r.key n := by
  obtain ⟨s, hs, hshort⟩ := hl v hv
  obtain ⟨read, hread, hn⟩ := Numeral.readStrict_of_not_overlong hshort
  refine ⟨read, ?_, fun n => (hn n).trans (Labels.hasInteger_iff hv hs).symm⟩
  rw [hs]
  exact hread

theorem compares_of_readable (hb : r.bound = .ok m) (hl : labels.IsReadable r.key) :
    ∃ b, r.compares holds labels = .ok b ∧
      (b ↔ ∃ n, labels.HasInteger r.key n ∧ holds n m) := by
  rw [compares]
  cases hv : labels.get? r.key with
  | none =>
    refine ⟨false, rfl, ?_⟩
    simp [Labels.HasInteger, hv]
  | some v =>
    obtain ⟨read, hread, hn⟩ := readLabel_of_readable hl hv
    simp only [hread, ← hn]
    cases read with
    | none => exact ⟨false, rfl, by simp⟩
    | some n => exact ⟨holds n m, by rw [hb]; rfl, by simp⟩

theorem compares_of_wellFormed {rel : Int → Int → Prop} (h : r.WellFormed)
    (ho : r.operator.IsOrder) (hl : labels.IsReadable r.key)
    (hrel : ∀ n m, holds n m ↔ rel n m) : ∃ b, r.compares holds labels = .ok b ∧
      (b ↔ labels.Compares r.key r.values rel) := by
  obtain ⟨bound, m, hv, hm, hb⟩ := bound_eq_of_wellFormed h ho
  obtain ⟨b, hcompares, hiff⟩ : ∃ b, r.compares holds labels = .ok b ∧ _ :=
    compares_of_readable hb hl
  refine ⟨b, hcompares, ?_⟩
  rw [hv, Labels.compares_singleton_iff (Numeral.denotes_of_readStrict hm), hiff]
  simp only [hrel]

theorem holds_of_wellFormed (h : r.WellFormed)
    (hl : r.operator.IsOrder → labels.IsReadable r.key) :
    ∃ b, r.holds labels = .ok b ∧ (b ↔ r.operator.Means labels r.key r.values) := by
  have hcontains : labels.contains r.key ↔ r.key ∈ labels.names := labels.get?_isSome_iff r.key
  have hone : r.isOneOf labels ↔ _ := isOneOf_iff
  have horder : ∀ (holds : Int → Int → Bool) (rel : Int → Int → Prop), r.operator.IsOrder →
      (∀ n m, holds n m ↔ rel n m) → ∃ b, r.compares holds labels = .ok b ∧
        (b ↔ labels.Compares r.key r.values rel) :=
    fun holds rel ho hrel => compares_of_wellFormed h ho (hl ho) hrel
  rw [Requirement.holds]
  cases hop : r.operator with
  | oneOf => exact ⟨_, rfl, hone⟩
  | noneOf => exact ⟨_, rfl, by rw [Bool.not_eq_true', Operator.Means, ← hone, Bool.not_eq_true]⟩
  | present => exact ⟨_, rfl, hcontains⟩
  | absent => exact ⟨_, rfl, by rw [Bool.not_eq_true', Operator.Means, ← hcontains, Bool.not_eq_true]⟩
  | greater => exact horder _ (· > ·) (.inl hop) fun n m => decide_eq_true_iff
  | less => exact horder _ (· < ·) (.inr hop) fun n m => decide_eq_true_iff

/- Clauses. -/

theorem holds_of_accepted (h : Accepted key op values)
    (hl : op.IsOrder → labels.IsReadable key) :
    ∃ b, (mk key op values.mergeSort).holds labels = .ok b ∧ (b ↔ op.Means labels key values) := by
  obtain ⟨b, hb, hmeans⟩ := holds_of_wellFormed h.wellFormed hl
  exact ⟨b, hb, hmeans.trans (Operator.means_congr (List.mergeSort_perm values _))⟩

theorem holds_eq_true (h : Accepted key op values) (hl : op.IsOrder → labels.IsReadable key)
    (hs : op.Means labels key values) : (mk key op values.mergeSort).holds labels = .ok true := by
  obtain ⟨b, hb, hmeans⟩ := holds_of_accepted h hl
  rw [hb, hmeans.2 hs]

theorem holds_eq_false (h : Accepted key op values) (hl : op.IsOrder → labels.IsReadable key)
    (hs : ¬ op.Means labels key values) : (mk key op values.mergeSort).holds labels = .ok false := by
  obtain ⟨b, hb, hmeans⟩ := holds_of_accepted h hl
  rw [hb, Bool.eq_false_iff.2 fun hb => hs (hmeans.1 hb)]

theorem holds_noneOf (h : Accepted key .noneOf values) :
    ∃ r b, build key "In" values = .ok r ∧ r.holds labels = .ok b ∧
      (mk key .noneOf values.mergeSort).holds labels = .ok (!b) := by
  have hone : Accepted key .oneOf values := h.withOperator h.arity (by simp [Operator.IsOrder])
  refine ⟨_, _, build_of_accepted hone, rfl, rfl⟩

/-- The two operators that compare are accepted together. Of an integer one of them holds or it
equals the bound, and not two of these; of another label neither holds. -/
theorem holds_order (h : Accepted key op values) (ho : op.IsOrder)
    (hl : labels.IsReadable key) :
    ∃ bound m greater less, values = [bound] ∧ Numeral.Denotes bound.toList m ∧
      build key "Gt" values = .ok greater ∧ build key "Lt" values = .ok less ∧
      (∀ n, labels.HasInteger key n →
        greater.holds labels = .ok true ∧ less.holds labels = .ok false ∧ n ≠ m ∨
        greater.holds labels = .ok false ∧ less.holds labels = .ok true ∧ n ≠ m ∨
        greater.holds labels = .ok false ∧ less.holds labels = .ok false ∧ n = m) ∧
      ((∀ n, ¬ labels.HasInteger key n) →
        greater.holds labels = .ok false ∧ less.holds labels = .ok false) := by
  obtain ⟨bound, m, rfl, hm⟩ := h.exists_bound ho
  have hm := Numeral.denotes_of_readStrict hm
  have hgreater : Accepted key .greater [bound] := h.withOperator rfl fun _ => ho
  have hless : Accepted key .less [bound] := h.withOperator rfl fun _ => ho
  have hread {op : Operator} : op.IsOrder → labels.IsReadable key := fun _ => hl
  refine ⟨bound, m, _, _, rfl, hm, build_of_accepted hgreater, build_of_accepted hless, ?_, ?_⟩
  · intro n hn
    have hcompares (rel : Int → Int → Prop) : labels.Compares key [bound] rel ↔ rel n m := by
      rw [Labels.compares_singleton_iff hm]
      constructor
      · rintro ⟨n', hn', hrel⟩
        rwa [hn.unique hn']
      · exact fun hrel => ⟨n, hn, hrel⟩
    have hless_iff : Operator.less.Means labels key [bound] ↔ n < m := hcompares (· < ·)
    have hgreater_iff : Operator.greater.Means labels key [bound] ↔ n > m := hcompares (· > ·)
    obtain hlt | heq | hgt := lt_trichotomy n m
    · exact .inr (.inl ⟨holds_eq_false hgreater hread (by rw [hgreater_iff]; omega),
        holds_eq_true hless hread (hless_iff.2 hlt), hlt.ne⟩)
    · exact .inr (.inr ⟨holds_eq_false hgreater hread (by rw [hgreater_iff]; omega),
        holds_eq_false hless hread (by rw [hless_iff]; omega), heq⟩)
    · exact .inl ⟨holds_eq_true hgreater hread (hgreater_iff.2 hgt),
        holds_eq_false hless hread (by rw [hless_iff]; omega), hgt.ne'⟩
  · intro hnone
    have hcompares (rel : Int → Int → Prop) : ¬ labels.Compares key [bound] rel := by
      rintro ⟨_, -, _, n, -, hn, -⟩
      exact hnone n hn
    exact ⟨holds_eq_false hgreater hread (hcompares _), holds_eq_false hless hread (hcompares _)⟩

/-- Wherever the label under its key is short enough to be read, a requirement that was built is
evaluated to what its operator means of the key and of the values as they were given. `NotIn` comes
to the opposite of `In`. Of a label that is an integer exactly one of `Gt`, `Lt` and equality with
the bound is the case, of any other one neither `Gt` nor `Lt`. Zeros in front of an integer count
nothing. -/
theorem holds_meaning (hr : build key operator values = .ok r)
    (hshort : ∀ v, labels.get? key = some v → ∃ s, v.written = .ok s ∧ s.length ≤ 4300) :
    (r.operator.name = operator ∧
      ∃ b, r.holds labels = .ok b ∧ (b ↔ r.operator.Means labels key values)) ∧
    (operator = "NotIn" → ∃ r' b, build key "In" values = .ok r' ∧ r'.holds labels = .ok b ∧
      r.holds labels = .ok (!b)) ∧
    (operator = "Gt" ∨ operator = "Lt" → ∃ bound m greater less,
      values = [bound] ∧ Numeral.Denotes bound.toList m ∧
      build key "Gt" values = .ok greater ∧ build key "Lt" values = .ok less ∧
      (∀ n, labels.HasInteger key n →
        greater.holds labels = .ok true ∧ less.holds labels = .ok false ∧ n ≠ m ∨
        greater.holds labels = .ok false ∧ less.holds labels = .ok true ∧ n ≠ m ∨
        greater.holds labels = .ok false ∧ less.holds labels = .ok false ∧ n = m) ∧
      ((∀ n, ¬ labels.HasInteger key n) →
        greater.holds labels = .ok false ∧ less.holds labels = .ok false)) ∧
    ∀ (k : Nat) (digits : List Char),
      Numeral.placeValue (List.replicate k '0' ++ digits) = Numeral.placeValue digits := by
  have hread : labels.IsReadable key := by
    intro v hv
    obtain ⟨s, hs, hlength⟩ := hshort v hv
    exact ⟨s, hs, Numeral.not_overlong_of_length_le hlength⟩
  obtain ⟨op, hop, haccepted, rfl⟩ := build_eq_ok_iff.1 hr
  rw [Operator.ofName?_eq_some_iff] at hop
  subst hop
  refine ⟨⟨rfl, holds_of_accepted haccepted fun _ => hread⟩, ?_, ?_,
    Numeral.placeValue_zeros_append⟩
  · intro hname
    obtain rfl : op = .noneOf := Operator.name_injective hname
    exact holds_noneOf haccepted
  · intro hname
    exact holds_order haccepted (Operator.isOrder_iff_name.2 hname) hread

/- Zeros in front of the label and of the bound, which as texts would stand the other way round. -/

theorem holds_meaning_zeros : ∃ r, build "n" "Gt" ["9"] = .ok r ∧
    r.holds (Dictionary.ofList [("n", .text "010")]) = .ok true := by
  have hr : build "n" "Gt" ["9"] = .ok ⟨"n", .greater, ["9"].mergeSort⟩ := rfl
  have hshort : ∀ v, (Dictionary.ofList [("n", Value.text "010")]).get? "n" = some v →
      ∃ s, v.written = .ok s ∧ s.length ≤ 4300 := by
    intro v hv
    cases hv
    exact ⟨"010", rfl, by decide⟩
  obtain ⟨⟨-, b, hb, hmeans⟩, -⟩ := holds_meaning hr hshort
  have hlabel : Numeral.Denotes "010".toList 10 := .natural ⟨by decide, List.all_eq_true.1 rfl⟩
  have hbound : Numeral.Denotes "9".toList 9 := .natural ⟨by decide, List.all_eq_true.1 rfl⟩
  refine ⟨_, hr, hb.trans ?_⟩
  rw [hmeans.2 ⟨"9", List.mem_singleton_self _, 9, 10, hbound, ⟨_, _, rfl, rfl, hlabel⟩, by decide⟩]

end Requirement
end JobGate

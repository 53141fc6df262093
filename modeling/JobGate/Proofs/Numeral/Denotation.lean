import JobGate.Proofs.Numeral.Reading
import Mathlib.Data.Nat.Digits.Defs
/-! The integers that texts denote: digits the sum of their powers of ten, and with a minus its
negative. What the strict reader reads of a text that is not too long is the integer that the text
denotes, if it denotes one (`readStrict_of_not_overlong`). -/
namespace JobGate.Numeral
variable {s : String} {cs ds : List Char} {n m : Int}

def IsDigits (ds : List Char) : Prop := ds ≠ [] ∧ ∀ c ∈ ds, isDigit c

/-- Each digit times the power of ten of its place; the last one has the place of the ones. -/
def placeValue (ds : List Char) : Nat := Nat.ofDigits 10 (ds.map digitValue).reverse

inductive Denotes : List Char → Int → Prop where
  | natural {ds : List Char} (h : IsDigits ds) : Denotes ds (placeValue ds)
  | negative {ds : List Char} (h : IsDigits ds) : Denotes ('-' :: ds) (-(placeValue ds : Int))

/- The value that the readers give to digits. -/

theorem decimal_eq_placeValue (ds : List Char) : decimal ds = placeValue ds := by
  rw [decimal, placeValue]
  induction ds.map digitValue with
  | nil => rfl
  | cons d rest ih =>
    rw [ofDigits_cons, Nat.ofDigits_reverse_cons, ih, Nat.mul_comm d, Nat.add_comm]
    rfl

theorem splitMinus_cases (cs : List Char) :
    (∃ ds, cs = '-' :: ds ∧ splitMinus cs = (true, ds)) ∨ splitMinus cs = (false, cs) := by
  unfold splitMinus
  split
  · exact .inl ⟨_, rfl, rfl⟩
  · exact .inr rfl

theorem denotes_iff : Denotes cs n ↔
    IsStrict cs ∧ n = signed (splitMinus cs).1 (decimal (splitMinus cs).2) := by
  constructor
  · intro h
    cases h with
    | natural h =>
      rw [IsStrict, splitMinus_of_digits h.2, decimal_eq_placeValue]
      exact ⟨⟨h.1, List.all_eq_true.2 h.2⟩, rfl⟩
    | @negative ds h =>
      rw [← decimal_eq_placeValue]
      exact ⟨⟨h.1, List.all_eq_true.2 h.2⟩, rfl⟩
  · rintro ⟨⟨hne, hdigits⟩, hn⟩
    have h : IsDigits (splitMinus cs).2 := ⟨hne, List.all_eq_true.1 hdigits⟩
    rw [decimal_eq_placeValue] at hn
    subst hn
    obtain ⟨ds, rfl, hsplit⟩ | hsplit := splitMinus_cases cs
    · rw [hsplit] at h ⊢
      exact .negative h
    · rw [hsplit] at h ⊢
      exact .natural h

theorem isStrict_iff_exists_denotes : IsStrict cs ↔ ∃ n, Denotes cs n := by
  simp only [denotes_iff, exists_and_left, exists_eq, and_true]

theorem Denotes.unique (hn : Denotes cs n) (hm : Denotes cs m) : n = m := by
  rw [(denotes_iff.1 hn).2, (denotes_iff.1 hm).2]

/- What is read. -/

theorem not_overlong_of_length_le (h : s.length ≤ digitLimit) : ¬ IsOverlong s := by
  rintro ⟨-, hlong⟩
  have hcount : digitCount s ≤ s.length := by
    rw [digitCount, ← String.length_toList]
    obtain ⟨ds, hs, hsplit⟩ | hsplit := splitMinus_cases s.toList
    · rw [hsplit, hs, List.length_cons]
      exact Nat.le_succ ds.length
    · rw [hsplit]
  omega

theorem denotes_of_readStrict (h : readStrict s = .ok (some n)) : Denotes s.toList n := by
  obtain ⟨hs, -, hn⟩ := readStrict_eq_some_iff.1 h
  exact denotes_iff.2 ⟨hs, hn⟩

theorem readStrict_of_not_overlong (h : ¬ IsOverlong s) :
    ∃ read, readStrict s = .ok read ∧ ∀ n, read = some n ↔ Denotes s.toList n := by
  obtain ⟨read, hread⟩ := readStrict_eq_ok_iff_not_overlong.2 h
  refine ⟨read, hread, fun n => ?_⟩
  have hsome : read = some n ↔ readStrict s = .ok (some n) := by
    rw [hread, Except.ok.injEq]
  rw [hsome, readStrict_eq_some_iff, denotes_iff]
  constructor
  · rintro ⟨hs, _, hn⟩
    exact ⟨hs, hn⟩
  · rintro ⟨hs, hn⟩
    have hcount : ¬ digitLimit < digitCount s := fun hlong => h ⟨hs, hlong⟩
    exact ⟨hs, by omega, hn⟩

theorem placeValue_zeros_append (k : Nat) (ds : List Char) :
    placeValue (List.replicate k '0' ++ ds) = placeValue ds := by
  have hzero : digitValue '0' = 0 := by decide
  rw [placeValue, placeValue, List.map_append, List.map_replicate, hzero, List.reverse_append,
    List.reverse_replicate, Nat.ofDigits_append_replicate_zero]

end JobGate.Numeral

import JobGate.Proofs.Numeral.Canonical
import JobGate.Proofs.Requirement.Evaluation
/-! The two readers of integers beside the writer. The strict one takes the texts that `IsNumeral`
describes and reads one integer of two texts exactly if they have one canonical form; the lenient
one comes to the same. Main statement: `readers_agree`. -/
namespace JobGate.Numeral
variable {s : String} {ds : List Char} {n : Int} {f : Fault}

/-- The text is these digits, after a minus or without one. -/
def IsNumeral (s : String) (ds : List Char) : Prop :=
  IsDigits ds ∧ (s.toList = ds ∨ s.toList = '-' :: ds)

theorem isNumeral_iff : IsNumeral s ds ↔ IsStrict s.toList ∧ (splitMinus s.toList).2 = ds := by
  constructor
  · intro h
    obtain ⟨h, hs | hs⟩ := h
    · rw [hs, IsStrict, splitMinus_of_digits h.2]
      exact ⟨⟨h.1, List.all_eq_true.2 h.2⟩, rfl⟩
    · rw [hs]
      exact ⟨⟨h.1, List.all_eq_true.2 h.2⟩, rfl⟩
  · intro h
    obtain ⟨⟨hne, hdigits⟩, rfl⟩ := h
    refine ⟨⟨hne, List.all_eq_true.1 hdigits⟩, ?_⟩
    obtain ⟨ds, hs, hsplit⟩ | hsplit := splitMinus_cases s.toList
    · rw [hsplit]
      exact .inr hs
    · rw [hsplit]
      exact .inl rfl

/- What the strict reader does with a text. -/

theorem exists_readStrict_iff :
    (∃ n, readStrict s = .ok (some n)) ↔ ∃ ds, IsNumeral s ds ∧ ds.length ≤ digitLimit := by
  simp only [readStrict_eq_some_iff, isNumeral_iff, digitCount, and_assoc, exists_and_left,
    exists_eq_left', exists_eq, and_true]

theorem readStrict_eq_error_iff_isNumeral : readStrict s = .error f ↔
    ∃ ds, IsNumeral s ds ∧ digitLimit < ds.length ∧ f = .tooManyDigits ds.length := by
  simp only [readStrict_eq_error_iff, IsOverlong, isNumeral_iff, digitCount, and_assoc,
    exists_and_left, exists_eq_left']

theorem readStrict_eq_none_iff_isNumeral : readStrict s = .ok none ↔ ¬ ∃ ds, IsNumeral s ds := by
  simp only [readStrict_eq_none_iff, isNumeral_iff, exists_and_left, exists_eq', and_true]

/- Reading back what is written. -/

theorem isNumeral_toString (n : Int) : IsNumeral (toString n) (Nat.toDigits 10 n.natAbs) := by
  obtain ⟨-, hs⟩ | ⟨-, hs⟩ := toList_toString_cases n
  · exact ⟨isDigits_toDigits _, .inl hs⟩
  · exact ⟨isDigits_toDigits _, .inr hs⟩

theorem write_of_length_le (h : (Nat.toDigits 10 n.natAbs).length ≤ digitLimit) :
    write n = .ok (toString n) := by
  refine write_of_lt ?_
  rw [Nat.pow_eq, ← Nat.length_toDigits_le_iff (by decide) (by decide)]
  exact h

theorem readStrict_toString (h : (Nat.toDigits 10 n.natAbs).length ≤ digitLimit) :
    readStrict (toString n) = .ok (some n) := by
  obtain ⟨m, hm⟩ := exists_readStrict_iff.2 ⟨_, isNumeral_toString n, h⟩
  rw [hm, (denotes_of_readStrict hm).unique (denotes_toString n)]

/-- A text is read strictly as an integer exactly if it is one to 4300 digits after a minus or
without one, and then as the integer that it denotes. More digits are told as a fault, and all other
texts are no integer. An integer of at most 4300 digits is read back from its decimal text, and two
texts that are read are one integer exactly if they differ only in zeros in front and in the sign of
zero. The lenient reader, with which a requirement reads its bound, reads the same integer. -/
theorem readers_agree (s : String) :
    ((∃ n, readStrict s = .ok (some n)) ↔ ∃ ds, IsNumeral s ds ∧ ds.length ≤ 4300) ∧
    (∀ n, readStrict s = .ok (some n) → Denotes s.toList n) ∧
    (∀ f, readStrict s = .error f ↔
      ∃ ds, IsNumeral s ds ∧ 4300 < ds.length ∧ f = .tooManyDigits ds.length) ∧
    (readStrict s = .ok none ↔ ¬ ∃ ds, IsNumeral s ds) ∧
    (∀ n : Int, (Nat.toDigits 10 n.natAbs).length ≤ 4300 →
      write n = .ok (toString n) ∧ readStrict (toString n) = .ok (some n)) ∧
    (∀ t n m, readStrict s = .ok (some n) → readStrict t = .ok (some m) →
      (n = m ↔ canonical s.toList = canonical t.toList)) ∧
    ∀ n, readStrict s = .ok (some n) → readLenient s = .ok n ∧
      ∀ r : Requirement, r.values.head? = some s → r.bound = .ok n := by
  refine ⟨exists_readStrict_iff, fun n => denotes_of_readStrict,
    fun f => readStrict_eq_error_iff_isNumeral, readStrict_eq_none_iff_isNumeral, ?_, ?_, ?_⟩
  · intro n hn
    exact ⟨write_of_length_le hn, readStrict_toString hn⟩
  · intro t n m hn hm
    exact canonical_eq_iff (denotes_of_readStrict hn) (denotes_of_readStrict hm)
  · intro n hn
    refine ⟨readLenient_of_readStrict hn, fun r hr => ?_⟩
    obtain ⟨rest, hvalues⟩ := List.head?_eq_some_iff.1 hr
    exact Requirement.bound_of_readStrict hvalues hn

/- Zeros after a minus: as a bound they are zero too. -/

theorem readers_agree_minusZero :
    readStrict "-00" = .ok (some 0) ∧ readStrict "0" = .ok (some 0) ∧
    Denotes "-00".toList 0 ∧ canonical "-00".toList = canonical "0".toList ∧
    readLenient "-00" = .ok 0 ∧ (Requirement.mk "n" .greater ["-00"]).bound = .ok 0 ∧
    write (-120) = .ok "-120" ∧ readStrict "-120" = .ok (some (-120)) := by
  obtain ⟨-, hdenotes, -, -, hwritten, hsame, hlenient⟩ := readers_agree "-00"
  have hs : readStrict "-00" = .ok (some 0) := rfl
  have ht : readStrict "0" = .ok (some 0) := rfl
  have hdigits : (Nat.toDigits 10 (-120 : Int).natAbs).length ≤ 4300 := by decide
  obtain ⟨hlenient, hbound⟩ := hlenient 0 hs
  obtain ⟨hwrite, hback⟩ := hwritten (-120) hdigits
  exact ⟨hs, ht, hdenotes 0 hs, (hsame "0" 0 0 hs ht).1 rfl, hlenient, hbound _ rfl, hwrite, hback⟩

end JobGate.Numeral

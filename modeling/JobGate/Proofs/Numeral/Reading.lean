import JobGate.Numeral
import Mathlib.Data.List.TakeDrop
import Mathlib.Data.List.TakeWhile
/-! What the two readers of integers do with each text. Too many digits are the only fault of the
strict one (`readStrict_eq_error_iff`); what it reads the lenient one reads too
(`readLenient_of_readStrict`). -/
namespace JobGate.Numeral
variable {s : String} {n : Int}

/- The strict reader. -/

def digitCount (s : String) : Nat := (splitMinus s.toList).2.length

/-- An integer in the strict form that has more digits than can be read. -/
def IsOverlong (s : String) : Prop := IsStrict s.toList ∧ digitLimit < digitCount s

instance (s : String) : Decidable (IsOverlong s) := inferInstanceAs (Decidable (_ ∧ _))

theorem readStrict_of_isStrict (h : IsStrict s.toList) :
    readStrict s = (limited (digitCount s) (signed (splitMinus s.toList).1
      (decimal (splitMinus s.toList).2))).map some := by
  rw [readStrict, if_pos h]
  rfl

theorem readStrict_eq_error_iff {f : Fault} :
    readStrict s = .error f ↔ IsOverlong s ∧ f = .tooManyDigits (digitCount s) := by
  by_cases hs : IsStrict s.toList
  · rw [readStrict_of_isStrict hs, limited, IsOverlong]
    split
    · next h => simp [Except.map, Nat.not_lt.2 h]
    · next h => simp [Except.map, hs, Nat.lt_of_not_le h, eq_comm]
  · simp [readStrict, IsOverlong, hs]

theorem readStrict_eq_ok_iff_not_overlong :
    (∃ read, readStrict s = .ok read) ↔ ¬ IsOverlong s := by
  cases h : readStrict s with
  | error f => simp [(readStrict_eq_error_iff.1 h).1]
  | ok read =>
    have hs : ¬ IsOverlong s := by
      intro hs
      rw [readStrict_eq_error_iff.2 ⟨hs, rfl⟩] at h
      cases h
    simp [hs]

theorem readStrict_eq_some_iff :
    readStrict s = .ok (some n) ↔ IsStrict s.toList ∧ digitCount s ≤ digitLimit ∧
      n = signed (splitMinus s.toList).1 (decimal (splitMinus s.toList).2) := by
  by_cases hs : IsStrict s.toList
  · rw [readStrict_of_isStrict hs, limited]
    split
    · next h => simp [Except.map, hs, h, eq_comm]
    · next h => simp [Except.map, h]
  · simp [readStrict, hs]

theorem readStrict_eq_none_iff : readStrict s = .ok none ↔ ¬ IsStrict s.toList := by
  by_cases hs : IsStrict s.toList
  · rw [readStrict_of_isStrict hs, limited]
    split
    · simp [Except.map, hs]
    · simp [Except.map, hs]
  · simp [readStrict, hs]

/- The first character of a text in the strict form is a minus or a digit. -/

theorem splitMinus_of_ne {c : Char} {rest : List Char} (h : c ≠ '-') :
    splitMinus (c :: rest) = (false, c :: rest) := by
  unfold splitMinus
  split
  · next he => exact absurd (List.cons.inj he).1 h
  · rfl

theorem splitMinus_of_digits {ds : List Char} (hd : ∀ c ∈ ds, isDigit c) :
    splitMinus ds = (false, ds) := by
  cases ds with
  | nil => rfl
  | cons c rest =>
    refine splitMinus_of_ne ?_
    rintro rfl
    exact absurd (hd '-' List.mem_cons_self) (by decide)

theorem IsStrict.head {cs : List Char} (h : IsStrict cs) :
    ∃ c rest, cs = c :: rest ∧ (c = '-' ∨ isDigit c) := by
  obtain ⟨hn, hd⟩ := h
  cases cs with
  | nil => exact absurd rfl hn
  | cons c rest =>
    refine ⟨c, rest, rfl, ?_⟩
    by_cases hc : c = '-'
    · exact .inl hc
    · rw [splitMinus_of_ne hc, List.all_cons, Bool.and_eq_true] at hd
      exact .inr hd.1

def repeated (c : Char) (n : Nat) : String := String.ofList (List.replicate n c)

theorem splitMinus_repeated {c : Char} {n : Nat} (hc : isDigit c) :
    splitMinus (repeated c n).toList = (false, List.replicate n c) := by
  rw [repeated, String.toList_ofList]
  refine splitMinus_of_digits fun d hd => ?_
  rwa [List.eq_of_mem_replicate hd]

theorem digitCount_repeated {c : Char} {n : Nat} (hc : isDigit c) :
    digitCount (repeated c n) = n := by
  rw [digitCount, splitMinus_repeated hc, List.length_replicate]

theorem isOverlong_repeated {c : Char} {n : Nat} (hc : isDigit c) (hn : digitLimit < n) :
    IsOverlong (repeated c n) := by
  refine ⟨?_, by rwa [digitCount_repeated hc]⟩
  have hpos : n ≠ 0 := by omega
  simp [IsStrict, splitMinus_repeated hc, hpos, hc]

/- The lenient reader takes all that the strict one takes. -/

theorem isDigit_iff_toNat {c : Char} : isDigit c ↔ 48 ≤ c.toNat ∧ c.toNat ≤ 57 := by
  simp [isDigit, Char.le_def, UInt32.le_iff_toNat_le]

theorem anyDigit?_of_isDigit {c : Char} (h : isDigit c) : anyDigit? c = some (digitValue c) := by
  have hc : 0x30 ≤ c.toNat ∧ c.toNat ≤ 0x30 + 9 := isDigit_iff_toNat.1 h
  rw [anyDigit?, zeros, List.find?_cons_of_pos (by simpa using hc)]
  rfl

theorem grouped?_of_digits {ds : List Char} (hn : ds ≠ []) (hd : ∀ c ∈ ds, isDigit c) :
    grouped? anyDigit? ds = some (ds.map digitValue) := by
  fun_induction grouped? anyDigit? ds with
  | case1 => exact absurd rfl hn
  | case2 c => simp [anyDigit?_of_isDigit (hd c (by simp))]
  | case3 c rest ih =>
    have hunderscore : isDigit '_' := hd '_' (by simp)
    exact absurd hunderscore (by decide)
  | case4 c rest hrest _ ih =>
    have htail : ∀ x ∈ rest, isDigit x := fun x hx => hd x (by simp [hx])
    rw [anyDigit?_of_isDigit (hd c (by simp)), ih hrest htail]
    rfl

theorem inNumeral_of_isDigit {c : Char} (h : isDigit c) : inNumeral c := by
  simp [inNumeral, anyDigit?_of_isDigit h]

theorem span_inNumeral {ds : List Char} (hd : ∀ c ∈ ds, isDigit c) :
    ds.span inNumeral = (ds, []) := by
  have hrun : ∀ c ∈ ds, inNumeral c := fun c hc => inNumeral_of_isDigit (hd c hc)
  rw [List.span_eq_takeWhile_dropWhile, List.takeWhile_eq_self_iff.2 hrun,
    List.dropWhile_eq_nil_iff.2 hrun]

theorem splitSign_of_ne_plus {c : Char} {rest : List Char} (h : c ≠ '+') :
    splitSign (c :: rest) = splitMinus (c :: rest) := by
  by_cases hc : c = '-'
  · rw [hc]
    rfl
  · rw [splitMinus_of_ne hc]
    unfold splitSign
    split
    · next he => exact absurd (List.cons.inj he).1 hc
    · next he => exact absurd (List.cons.inj he).1 h
    · rfl

theorem not_blank_of_isDigit {c : Char} (h : isDigit c) : ¬ Text.isNumeralBlank c := by
  have hc := isDigit_iff_toNat.1 h
  intro hb
  have hb := Text.isBlank_of_isNumeralBlank hb
  simp only [Text.isBlank, Text.blankRanges, List.any_cons, List.any_nil, Bool.or_false,
    Bool.and_eq_true, Bool.or_eq_true, decide_eq_true_eq] at hb
  omega

theorem IsStrict.dropWhile_blank {cs : List Char} (h : IsStrict cs) :
    cs.dropWhile Text.isNumeralBlank = cs := by
  obtain ⟨c, rest, rfl, rfl | hc⟩ := h.head
  · rfl
  · exact List.dropWhile_cons_of_neg (not_blank_of_isDigit hc)

theorem IsStrict.splitSign_eq {cs : List Char} (h : IsStrict cs) :
    splitSign cs = splitMinus cs := by
  obtain ⟨c, rest, rfl, rfl | hc⟩ := h.head
  · rfl
  · refine splitSign_of_ne_plus ?_
    rintro rfl
    exact absurd hc (by decide)

theorem readLenient_of_readStrict (h : readStrict s = .ok (some n)) : readLenient s = .ok n := by
  obtain ⟨hs, hcount, rfl⟩ := readStrict_eq_some_iff.1 h
  have hdigits : ∀ c ∈ (splitMinus s.toList).2, isDigit c := List.all_eq_true.1 hs.2
  have hlimit : ((splitMinus s.toList).2.map digitValue).length ≤ digitLimit := by
    rwa [List.length_map]
  simp only [readLenient, hs.dropWhile_blank, hs.splitSign_eq, span_inNumeral hdigits,
    grouped?_of_digits hs.1 hdigits, limited, if_pos hlimit]
  rfl

end JobGate.Numeral

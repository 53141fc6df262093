import JobGate.Proofs.Numeral.Denotation
/-! The texts of one integer. They differ only in zeros in front and in the sign of zero. What
`canonical` leaves of a text is the decimal text of its integer (`canonical_eq_iff`). -/
namespace JobGate.Numeral
variable {cs cs' ds : List Char} {c : Char} {n m : Int} {k : Nat}

def withoutZeros : List Char → List Char
  | '0' :: d :: ds => withoutZeros (d :: ds)
  | ds => ds

/-- The text of an integer without zeros in front, and zero without a minus. -/
def canonical : List Char → List Char
  | '-' :: ds => if withoutZeros ds = ['0'] then ['0'] else '-' :: withoutZeros ds
  | ds => withoutZeros ds

/- Digits and numbers. -/

theorem placeValue_eq_ofDigitChars (ds : List Char) :
    placeValue ds = Nat.ofDigitChars 10 ds 0 := by
  rw [← decimal_eq_placeValue, decimal, ofDigits, List.foldl_map, Nat.ofDigitChars_eq_foldl]
  rfl

theorem placeValue_toDigits (k : Nat) : placeValue (Nat.toDigits 10 k) = k := by
  rw [placeValue_eq_ofDigitChars, Nat.ofDigitChars_ten_toDigits]

theorem isDigits_toDigits (k : Nat) : IsDigits (Nat.toDigits 10 k) := by
  refine ⟨Nat.toDigits_ne_nil, fun c hc => ?_⟩
  have hdigit := Nat.isDigit_of_mem_toDigits (by decide) (by decide) hc
  simpa [Char.isDigit, isDigit, Char.le_def] using hdigit

theorem digitValue_lt_ten (h : isDigit c) : digitValue c < 10 := by
  have hc := isDigit_iff_toNat.1 h
  rw [digitValue]
  omega

theorem toDigits_digitValue (h : isDigit c) : Nat.toDigits 10 (digitValue c) = [c] := by
  have hc := isDigit_iff_toNat.1 h
  have hlt := digitValue_lt_ten h
  rw [Nat.toDigits_of_lt_base hlt, List.singleton_inj, ← Char.toNat_inj,
    Nat.toNat_digitChar_of_lt_ten hlt, digitValue]
  omega

theorem toDigits_append (hk : 0 < k) (hd : ∀ c ∈ ds, isDigit c) :
    Nat.toDigits 10 k ++ ds = Nat.toDigits 10 (Nat.ofDigitChars 10 ds k) := by
  induction ds generalizing k with
  | nil => rw [List.append_nil, Nat.ofDigitChars_nil]
  | cons c ds ih =>
    have hc : isDigit c := hd c List.mem_cons_self
    have hds : ∀ d ∈ ds, isDigit d := fun d h => hd d (List.mem_cons_of_mem c h)
    calc Nat.toDigits 10 k ++ c :: ds
        = (Nat.toDigits 10 k ++ Nat.toDigits 10 (digitValue c)) ++ ds := by
          rw [toDigits_digitValue hc, List.append_assoc, List.singleton_append]
      _ = Nat.toDigits 10 (10 * k + digitValue c) ++ ds := by
          rw [Nat.toDigits_append_toDigits (by decide) hk (digitValue_lt_ten hc)]
      _ = Nat.toDigits 10 (Nat.ofDigitChars 10 ds (10 * k + digitValue c)) := ih (by omega) hds
      _ = Nat.toDigits 10 (Nat.ofDigitChars 10 (c :: ds) k) := by rw [Nat.ofDigitChars_cons]; rfl

theorem toDigits_of_head_ne_zero (h : IsDigits (c :: ds)) (hc : c ≠ '0') :
    Nat.toDigits 10 (placeValue (c :: ds)) = c :: ds := by
  have hdigit : isDigit c := h.2 c List.mem_cons_self
  have hpos : 0 < digitValue c := by
    have hcode := isDigit_iff_toNat.1 hdigit
    have hne : c.toNat ≠ 48 := fun h => hc (Char.toNat_inj.1 h)
    rw [digitValue]
    omega
  have hds : ∀ d ∈ ds, isDigit d := fun d hd => h.2 d (List.mem_cons_of_mem c hd)
  rw [placeValue_eq_ofDigitChars, Nat.ofDigitChars_cons]
  show Nat.toDigits 10 (Nat.ofDigitChars 10 ds (10 * 0 + digitValue c)) = c :: ds
  rw [Nat.mul_zero, Nat.zero_add, ← toDigits_append hpos hds, toDigits_digitValue hdigit]
  rfl

theorem placeValue_zero_cons (ds : List Char) : placeValue ('0' :: ds) = placeValue ds :=
  placeValue_zeros_append 1 ds

theorem withoutZeros_of_digits (h : IsDigits ds) :
    withoutZeros ds = Nat.toDigits 10 (placeValue ds) := by
  fun_induction withoutZeros ds with
  | case1 d ds ih =>
    rw [placeValue_zero_cons]
    exact ih ⟨List.cons_ne_nil d ds, fun c hc => h.2 c (List.mem_cons_of_mem '0' hc)⟩
  | case2 ds hzeros =>
    obtain _ | ⟨c, ds⟩ := ds
    · exact absurd rfl h.1
    -- of zeros alone one is left, and any other head starts the digits of the number
    · by_cases hc : c = '0'
      · subst hc
        obtain _ | ⟨d, ds⟩ := ds
        · rfl
        · exact absurd rfl (hzeros d ds)
      · exact (toDigits_of_head_ne_zero h hc).symm

/- The decimal text of an integer. -/

theorem toList_toString_natCast (k : Nat) :
    (toString (k : Int)).toList = Nat.toDigits 10 k := by
  rw [Int.toString_eq_repr, Int.repr_eq_if]
  simp

theorem toList_toString_neg (hk : k ≠ 0) :
    (toString (-(k : Int))).toList = '-' :: Nat.toDigits 10 k := by
  rw [Int.toString_eq_repr, Int.repr_eq_if, if_neg (by omega)]
  simp

theorem toList_toString_cases (n : Int) :
    (n = n.natAbs ∧ (toString n).toList = Nat.toDigits 10 n.natAbs) ∨
      (n = -n.natAbs ∧ (toString n).toList = '-' :: Nat.toDigits 10 n.natAbs) := by
  obtain hn | hn := le_or_gt 0 n
  · have habs : n = n.natAbs := (Int.natAbs_of_nonneg hn).symm
    exact .inl ⟨habs, by rw [habs, toList_toString_natCast, Int.natAbs_natCast]⟩
  · have habs : n = -n.natAbs := by omega
    have hne : n.natAbs ≠ 0 := by omega
    refine .inr ⟨habs, ?_⟩
    rw [← toList_toString_neg hne, ← habs]

theorem denotes_toString (n : Int) : Denotes (toString n).toList n := by
  have hdigits := isDigits_toDigits n.natAbs
  obtain ⟨hn, hs⟩ | ⟨hn, hs⟩ := toList_toString_cases n
  · have h := Denotes.natural hdigits
    rwa [placeValue_toDigits, ← hs, ← hn] at h
  · have h := Denotes.negative hdigits
    rwa [placeValue_toDigits, ← hs, ← hn] at h

theorem toDigits_eq_zero_iff : Nat.toDigits 10 k = ['0'] ↔ k = 0 := by
  constructor
  · intro h
    rw [← placeValue_toDigits k, h]
    rfl
  · rintro rfl
    rfl

/-- The canonical form of a text is the decimal text of the integer that it denotes. -/
theorem canonical_of_denotes (h : Denotes cs n) : canonical cs = (toString n).toList := by
  cases h with
  | natural h =>
    rw [toList_toString_natCast, ← withoutZeros_of_digits h]
    unfold canonical
    split
    · exact absurd (h.2 '-' List.mem_cons_self) (by decide)
    · rfl
  | @negative ds h =>
    rw [canonical, withoutZeros_of_digits h]
    split
    · next hzero =>
      rw [toDigits_eq_zero_iff.1 hzero]
      rfl
    · next hzero => exact (toList_toString_neg (fun hk => hzero (toDigits_eq_zero_iff.2 hk))).symm

theorem canonical_eq_iff (hn : Denotes cs n) (hm : Denotes cs' m) :
    n = m ↔ canonical cs = canonical cs' := by
  rw [canonical_of_denotes hn, canonical_of_denotes hm]
  constructor
  · rintro rfl
    rfl
  · intro h
    have hnm := denotes_toString n
    rw [h] at hnm
    exact hnm.unique (denotes_toString m)

end JobGate.Numeral

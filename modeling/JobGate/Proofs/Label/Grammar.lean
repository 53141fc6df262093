import JobGate.Label
import JobGate.Proofs.Text.Runs
/-! The checks of labels and their grammar. Each check finds no fault exactly in the texts of the
grammar (`nameFault?_eq_none_iff`, `keyFaults_eq_nil_iff`, `valueFault?_eq_none_iff`); so a key and
a value that passed have none of the characters that separate. -/
namespace JobGate.Label
variable {cs : List Char} {outer inner : Char → Bool}

theorem isEdged_iff : isEdged outer inner cs ↔
    cs ≠ [] ∧ (∀ c ∈ cs, inner c) ∧ (∀ c ∈ cs.head?, outer c) ∧ ∀ c ∈ cs.getLast?, outer c := by
  cases cs with
  | nil => simp [isEdged]
  | cons c cs =>
    have hlast : (c :: cs).getLast? = some ((c :: cs).getLast (by simp)) :=
      List.getLast?_eq_some_getLast _
    simp only [isEdged, Bool.and_eq_true, List.all_eq_true, hlast, List.head?_cons,
      Option.any_some, Option.mem_def, Option.some.injEq, forall_eq', ne_eq, reduceCtorEq,
      not_false_eq_true, true_and]
    constructor
    · intro ⟨⟨hh, hl⟩, hi⟩
      exact ⟨hi, hh, hl⟩
    · intro ⟨hi, hh, hl⟩
      exact ⟨⟨hh, hl⟩, hi⟩

theorem nameFault?_eq_none_iff : nameFault? cs = none ↔ IsName cs := by
  unfold nameFault?
  constructor
  · intro h
    split at h
    · cases h
    · split at h
      · cases h
      · next hn hl =>
        split at h
        · next hw =>
          obtain ⟨-, hi, hh, hlast⟩ := isEdged_iff.1 hw
          exact ⟨hn, by omega, hi, hh, hlast⟩
        · cases h
  · intro h
    have hl : ¬ nameLimit < cs.length := by have := h.length_le; omega
    have hw : isWord cs := isEdged_iff.2 ⟨h.nonempty, h.chars, h.head, h.last⟩
    rw [if_neg h.nonempty, if_neg hl, if_pos hw]

theorem valueFault?_eq_none_iff : valueFault? cs = none ↔ IsValue cs := by
  unfold valueFault?
  split
  · next h => simp [IsValue, h]
  · next h => simp [IsValue, h, nameFault?_eq_none_iff]

theorem isLowerAlphanumeric_iff {c : Char} (h : isDomainChar c) :
    isLowerAlphanumeric c ↔ c ≠ '-' := by
  constructor
  · intro hl hc
    subst hc
    exact absurd hl (by decide)
  · intro hc
    simpa [isDomainChar, hc] using h

theorem isDomainPart_iff : isEdged isLowerAlphanumeric isDomainChar cs ↔ IsDomainPart cs := by
  rw [isEdged_iff]
  constructor
  · intro ⟨hn, hi, hh, hl⟩
    refine ⟨hn, hi, ?_, ?_⟩
    · intro c hc
      exact (isLowerAlphanumeric_iff (hi c (List.mem_of_mem_head? hc))).1 (hh c hc)
    · intro c hc
      exact (isLowerAlphanumeric_iff (hi c (List.mem_of_getLast? hc))).1 (hl c hc)
  · intro h
    refine ⟨h.nonempty, h.chars, ?_, ?_⟩
    · intro c hc
      exact (isLowerAlphanumeric_iff (h.chars c (List.mem_of_mem_head? hc))).2 (h.head c hc)
    · intro c hc
      exact (isLowerAlphanumeric_iff (h.chars c (List.mem_of_getLast? hc))).2 (h.last c hc)

theorem isHostName_iff : isHostName cs ↔ ∀ p ∈ cs.splitOn '.', IsDomainPart p := by
  simp only [isHostName, List.all_eq_true, isDomainPart_iff]

theorem domainFault?_eq_none_iff : domainFault? cs = none ↔ IsDomain cs := by
  unfold domainFault?
  constructor
  · intro h
    split at h
    · cases h
    · split at h
      · cases h
      · next hn hl =>
        split at h
        · next hw => exact ⟨hn, by omega, isHostName_iff.1 hw⟩
        · cases h
  · intro h
    have hl : ¬ domainLimit < cs.length := by have := h.length_le; omega
    rw [if_neg h.nonempty, if_neg hl, if_pos (isHostName_iff.2 h.parts)]

theorem splitKey_eq_some_iff {domain name : List Char} :
    splitKey cs = (some domain, name) ↔ cs = domain ++ '/' :: name ∧ '/' ∉ domain := by
  rw [← Text.cut_eq_some_iff, splitKey]
  cases Text.cut '/' cs with
  | none => simp
  | some parts => simp [Prod.ext_iff]

theorem splitKey_eq_none_iff {name : List Char} :
    splitKey cs = (none, name) ↔ '/' ∉ cs ∧ name = cs := by
  rw [← Text.cut_eq_none_iff, splitKey]
  cases Text.cut '/' cs with
  | none => simp [eq_comm]
  | some parts => simp

theorem keyFaults_eq_nil_iff : keyFaults cs = [] ↔ IsKey cs := by
  have hfaults : keyFaults cs = [] ↔
      (splitKey cs).1.bind domainFault? = none ∧ nameFault? (splitKey cs).2 = none := by
    simp [keyFaults]
  rw [hfaults, nameFault?_eq_none_iff, IsKey]
  cases hs : splitKey cs with
  | mk domain name =>
    cases domain with
    | none =>
      obtain ⟨hn, rfl⟩ := splitKey_eq_none_iff.1 hs
      simp only [Option.bind_none, true_and]
      constructor
      · exact fun h => .inl ⟨hn, h⟩
      · intro h
        obtain ⟨-, h⟩ | ⟨domain, name', rfl, -, -, -⟩ := h
        · exact h
        · simp at hn
    | some domain =>
      obtain ⟨rfl, hn⟩ := splitKey_eq_some_iff.1 hs
      simp only [Option.bind_some, domainFault?_eq_none_iff]
      constructor
      · intro ⟨hd, h⟩
        exact .inr ⟨domain, name, rfl, hn, hd, h⟩
      · intro h
        obtain ⟨hs', -⟩ | ⟨domain', name', he, hn', hd, h⟩ := h
        · simp at hs'
        · have hcut := (splitKey_eq_some_iff.2 ⟨he, hn'⟩).symm.trans hs
          cases hcut
          exact ⟨hd, h⟩

/- The characters of keys and values. -/

def isLabelChar (c : Char) : Bool := isNameChar c || c = '/'

theorem isLabelChar_of_isNameChar {c : Char} (h : isNameChar c) : isLabelChar c := by
  simp [isLabelChar, h]

theorem isNameChar_of_isDomainChar {c : Char} (h : isDomainChar c) : isNameChar c := by
  simp only [isDomainChar, isLowerAlphanumeric, Bool.or_eq_true, decide_eq_true_eq] at h
  simp only [isNameChar, isAlphanumeric, Bool.or_eq_true, decide_eq_true_eq]
  tauto

theorem isNameChar_of_mem_domain (h : IsDomain cs) {c : Char} (hc : c ∈ cs) : isNameChar c := by
  have hjoin : ['.'].intercalate (cs.splitOn '.') = cs := List.intercalate_splitOn '.'
  rw [← hjoin] at hc
  obtain rfl | ⟨p, hp, hc⟩ := Text.mem_intercalate hc
  · rfl
  · exact isNameChar_of_isDomainChar ((h.parts p hp).chars c hc)

theorem IsValue.isLabelChar (h : IsValue cs) {c : Char} (hc : c ∈ cs) : isLabelChar c := by
  obtain rfl | h := h
  · cases hc
  · exact isLabelChar_of_isNameChar (h.chars c hc)

theorem IsKey.isLabelChar (h : IsKey cs) {c : Char} (hc : c ∈ cs) : isLabelChar c := by
  obtain ⟨-, h⟩ | ⟨domain, name, rfl, -, hd, hn⟩ := h
  · exact isLabelChar_of_isNameChar (h.chars c hc)
  · obtain hc | hc := List.mem_append.1 hc
    · exact isLabelChar_of_isNameChar (isNameChar_of_mem_domain hd hc)
    · obtain rfl | hc := List.mem_cons.1 hc
      · rfl
      · exact isLabelChar_of_isNameChar (hn.chars c hc)

theorem IsKey.ne_nil (h : IsKey cs) : cs ≠ [] := by
  obtain ⟨-, h⟩ | ⟨domain, name, rfl, -, -, -⟩ := h
  · exact h.nonempty
  · simp

end JobGate.Label

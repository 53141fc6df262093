import JobGate.Proofs.Value.Writable
import JobGate.Proofs.Variant.Spelling
/-! The grammar of placeholders. `Spells` says which texts stand for which name, without tokens. A
text is a placeholder exactly if it spells a name, and what was read is read again from its own
text. Main statement: `ofText_grammar`. -/
namespace JobGate

namespace Bracket
variable {c : Char}

theorem admits_brace_iff : brace.admits c ↔ c ≠ '\x7b' ∧ c ≠ '\x7d' ∧ ¬ Text.isBlank c := by
  simp [admits, excludes, and_assoc]

theorem admits_paren_iff :
    paren.admits c ↔ c ≠ '(' ∧ c ≠ ')' ∧ c ≠ '\x7b' ∧ c ≠ '\x7d' ∧ ¬ Text.isBlank c := by
  simp [admits, excludes, and_assoc]

end Bracket

namespace Variant
variable {s s' name name' : String} {v : Value} {w : Variant}

/-- A text that is a name in braces or in parentheses behind a dollar sign. No name is empty or has
blanks or braces, and a name in parentheses has no parentheses either. -/
inductive Spells (s name : String) : Prop where
  | braces (hs : s = "$\x7b" ++ name ++ "\x7d") (hne : name ≠ "")
      (hchars : ∀ c ∈ name.toList, c ≠ '\x7b' ∧ c ≠ '\x7d' ∧ ¬ Text.isBlank c)
  | parens (hs : s = "$(" ++ name ++ ")") (hne : name ≠ "")
      (hchars : ∀ c ∈ name.toList,
        c ≠ '(' ∧ c ≠ ')' ∧ c ≠ '\x7b' ∧ c ≠ '\x7d' ∧ ¬ Text.isBlank c)

theorem toList_eq_text_iff {b : Bracket} : s.toList = (Token.mk b name.toList).text ↔
    s = String.ofList ['$', b.opening] ++ name ++ String.ofList [b.closing] := by
  rw [← String.toList_inj]
  simp [Token.text]

theorem spells_iff : Spells s name ↔
    ∃ b, (Token.mk b name.toList).WellFormed ∧ s.toList = (Token.mk b name.toList).text := by
  simp only [toList_eq_text_iff, Token.WellFormed, ne_eq, String.toList_eq_nil_iff]
  constructor
  · intro h
    cases h with
    | braces hs hne hchars =>
      exact ⟨.brace, ⟨hne, fun c hc => Bracket.admits_brace_iff.2 (hchars c hc)⟩, hs⟩
    | parens hs hne hchars =>
      exact ⟨.paren, ⟨hne, fun c hc => Bracket.admits_paren_iff.2 (hchars c hc)⟩, hs⟩
  · intro h
    obtain ⟨b, ⟨hne, hadmits⟩, hs⟩ := h
    cases b with
    | brace => exact .braces hs hne fun c hc => Bracket.admits_brace_iff.1 (hadmits c hc)
    | paren => exact .parens hs hne fun c hc => Bracket.admits_paren_iff.1 (hadmits c hc)

theorem name?_eq_some_iff_spells : name? s = some name ↔ Spells s name := by
  rw [name?_eq_some_iff, spells_iff]
  constructor
  · intro h
    obtain ⟨⟨b, cs⟩, hwell, hs, rfl⟩ := h
    exact ⟨b, by rwa [String.toList_ofList], by rwa [String.toList_ofList]⟩
  · intro h
    obtain ⟨b, hwell, hs⟩ := h
    exact ⟨_, hwell, hs, String.ofList_toList.symm⟩

theorem ofText_eq_placeholder_iff : ofText s = .placeholder name ↔ Spells s name := by
  rw [ofText_eq_placeholder_iff_name?, name?_eq_some_iff_spells]

theorem ofText_eq_literal_iff {t : String} :
    ofText s = .literal t ↔ s = t ∧ ¬ ∃ name, Spells s name := by
  simp only [← name?_eq_some_iff_spells, ofText]
  cases name? s with
  | none => simp
  | some name => simp

theorem Spells.unique (h : Spells s name) (h' : Spells s name') : name = name' := by
  have he := (ofText_eq_placeholder_iff.2 h).symm.trans (ofText_eq_placeholder_iff.2 h')
  cases he
  rfl

theorem ofText_eq_ofText_iff :
    ofText s = ofText s' ↔ s = s' ∨ ∃ name, Spells s name ∧ Spells s' name := by
  constructor
  · intro h
    cases hs : ofText s with
    | placeholder name =>
      exact .inr ⟨name, ofText_eq_placeholder_iff.1 hs, ofText_eq_placeholder_iff.1 (h ▸ hs)⟩
    | literal t =>
      obtain ⟨rfl, -⟩ := ofText_eq_literal_iff.1 hs
      exact .inl (ofText_eq_literal_iff.1 (h ▸ hs)).1.symm
  · intro h
    obtain rfl | ⟨name, hs, hs'⟩ := h
    · rfl
    · rw [ofText_eq_placeholder_iff.2 hs, ofText_eq_placeholder_iff.2 hs']

/- Authored values. -/

theorem ofValue_of_ne_null (hv : v ≠ .null) : ofValue v = v.written.map ofText := by
  rw [ofValue]
  · cases v.written <;> rfl
  · exact hv

theorem exists_ofText_of_ofValue (h : ofValue v = .ok w) : ∃ t, w = ofText t := by
  by_cases hv : v = .null
  · subst hv
    cases h
    exact ⟨"", rfl⟩
  · rw [ofValue_of_ne_null hv] at h
    cases ht : v.written with
    | error f =>
      rw [ht] at h
      cases h
    | ok t =>
      rw [ht] at h
      cases h
      exact ⟨t, rfl⟩

theorem isLegible_of_ofValue (h : ofValue v = .ok w) : w.IsLegible := by
  obtain ⟨t, rfl⟩ := exists_ofText_of_ofValue h
  exact isLegible_ofText t

theorem exists_ofValue (h : v.HasShortIntegers) : ∃ w, ofValue v = .ok w := by
  by_cases hv : v = .null
  · subst hv
    exact ⟨_, rfl⟩
  · obtain ⟨t, ht⟩ := Value.exists_written h
    exact ⟨ofText t, by rw [ofValue_of_ne_null hv, ht]; rfl⟩

/-- A text is read as the placeholder of a name exactly if it is this name in braces or in
parentheses, and then of no other name, and is a literal otherwise. Nothing is read as the empty
text and any other value as its text is; that is always something where no integer in it is past
the limit of digits. To read the text of what was read of a value is as good as to read the value.
Texts are read alike exactly if they are the same or spell the same name. -/
theorem ofText_grammar :
    (∀ s name, ofText s = .placeholder name ↔ Spells s name) ∧
    (∀ s t, ofText s = .literal t ↔ s = t ∧ ¬ ∃ name, Spells s name) ∧
    (∀ s name name', Spells s name → Spells s name' → name = name') ∧
    (ofValue .null = .ok (.literal "") ∧ ∀ v, v ≠ .null → ofValue v = v.written.map ofText) ∧
    (∀ v : Value, v.HasShortIntegers → ∃ w, ofValue v = .ok w) ∧
    (∀ v, (ofValue v >>= fun w => ofValue (.text w.text)) = ofValue v) ∧
    ∀ s s', ofText s = ofText s' ↔ s = s' ∨ ∃ name, Spells s name ∧ Spells s' name := by
  refine ⟨fun _ _ => ofText_eq_placeholder_iff, fun _ _ => ofText_eq_literal_iff,
    fun _ _ _ => Spells.unique, ⟨rfl, fun _ => ofValue_of_ne_null⟩, fun _ => exists_ofValue, ?_,
    fun _ _ => ofText_eq_ofText_iff⟩
  intro v
  cases h : ofValue v with
  | error f => rfl
  | ok w => exact congrArg Except.ok (isLegible_of_ofValue h)

/- A name that is a token of the other style itself, one name in both brackets, and a list. -/

theorem ofText_grammar_nested :
    ofText "$\x7b$(a)\x7d" = .placeholder "$(a)" ∧ ofText "$(a)" = ofText "$\x7ba\x7d" ∧
    ∃ w, ofValue (.list [.text "a"]) = .ok w ∧ ofValue (.text w.text) = .ok w := by
  obtain ⟨hplaceholder, -, -, -, hread, hagain, halike⟩ := ofText_grammar
  have hnested : Spells "$\x7b$(a)\x7d" "$(a)" := name?_eq_some_iff_spells.1 rfl
  have hparens : Spells "$(a)" "a" := name?_eq_some_iff_spells.1 rfl
  have hbraces : Spells "$\x7ba\x7d" "a" := name?_eq_some_iff_spells.1 rfl
  have hshort : (Value.list [.text "a"]).HasShortIntegers := by
    intro n hn
    simp at hn
  refine ⟨(hplaceholder _ _).2 hnested, (halike _ _).2 (.inr ⟨"a", hparens, hbraces⟩), ?_⟩
  obtain ⟨w, hw⟩ := hread _ hshort
  refine ⟨w, hw, ?_⟩
  have hagain := hagain (.list [.text "a"])
  rwa [hw] at hagain

end Variant
end JobGate

import JobGate.Variant.Basic
/-! How variants are spelt. A variant that was read is read again from its own text, in whichever
brackets it was authored (`isLegible_ofText`); one that is built otherwise need not be. -/
namespace JobGate

theorem Bracket.admits_brace {b : Bracket} {c : Char} (h : b.admits c) : brace.admits c := by
  cases b with
  | brace => exact h
  | paren =>
    simp only [admits, excludes, Bool.and_eq_true, Bool.not_eq_true', List.contains_cons,
      Bool.or_eq_false_iff] at h ⊢
    exact ⟨h.1.2.2, h.2⟩

namespace Variant
variable {s name : String} {v : Variant}

theorem name?_eq_some_iff :
    name? s = some name ↔
      ∃ t : Token, t.WellFormed ∧ s.toList = t.text ∧ name = String.ofList t.name := by
  constructor
  · intro h
    unfold name? at h
    split at h
    · next t ht =>
      cases h
      obtain ⟨hs, hwell⟩ := eq_of_token? ht
      exact ⟨t, hwell, by rw [hs, List.append_nil], rfl⟩
    · cases h
  · intro ⟨t, hwell, hs, hname⟩
    have htoken : token? s.toList = some (t, []) := by
      rw [hs, ← token?_text_append hwell [], List.append_nil]
    rw [name?, htoken, hname]

def IsLegible (v : Variant) : Prop := ofText v.text = v

theorem ofText_of_name?_eq_some (h : name? s = some name) : ofText s = .placeholder name := by
  rw [ofText, h]

theorem ofText_of_name?_eq_none (h : name? s = none) : ofText s = .literal s := by
  rw [ofText, h]

theorem ofText_eq_placeholder_iff_name? : ofText s = .placeholder name ↔ name? s = some name := by
  rw [ofText]
  cases name? s with
  | none => simp
  | some name' => simp

theorem isLegible_placeholder (h : name? s = some name) : (Variant.placeholder name).IsLegible := by
  obtain ⟨t, ⟨hne, hadmits⟩, -, rfl⟩ := name?_eq_some_iff.1 h
  have hwell : (Token.mk .brace t.name).WellFormed :=
    ⟨hne, fun c hc => Bracket.admits_brace (hadmits c hc)⟩
  have htext : (Variant.placeholder (String.ofList t.name)).text.toList =
      (Token.mk .brace t.name).text := by
    simp [Variant.text, Token.text, Bracket.opening, Bracket.closing]
  exact ofText_of_name?_eq_some (name?_eq_some_iff.2 ⟨_, hwell, htext, rfl⟩)

theorem isLegible_ofText (s : String) : (ofText s).IsLegible := by
  cases h : name? s with
  | none =>
    rw [ofText_of_name?_eq_none h]
    exact ofText_of_name?_eq_none h
  | some name =>
    rw [ofText_of_name?_eq_some h]
    exact isLegible_placeholder h

end Variant
end JobGate

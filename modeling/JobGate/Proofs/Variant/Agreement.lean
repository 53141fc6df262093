import JobGate.Proofs.Label.Expression
import JobGate.Proofs.Variant.Scan
import JobGate.Proofs.Variant.Spelling
/-! A text that is a placeholder as a whole, and the same text as one that placeholders stand in.
Both ways look for the same two expressions (`isPlaceholder_iff_mem`, `tokenAt_iff_mem`), so both
fill in the same: main statement, `whole_text_agrees`. -/
namespace JobGate
open Label
open scoped Computability
variable {s : String} {cs : List Char} {name : String} {data : Bindings}

/- The expressions. -/

/-- The texts of one or more characters of a class. -/
def runOf (p : Char → Bool) : Language Char := single p * (single p)∗

/-- `\$\{([^{}\s]+)\}` for braces, `\$\(([^(){}\s]+)\)` for parentheses. -/
def Bracket.pattern (b : Bracket) : Language Char :=
  single (· = '$') * (single (· = b.opening) * (runOf b.admits * single (· = b.closing)))

theorem mem_runOf_iff {p : Char → Bool} : cs ∈ runOf p ↔ cs ≠ [] ∧ ∀ c ∈ cs, p c := by
  simp only [runOf, mem_single_mul_iff, mem_kstar_single_iff]
  constructor
  · intro h
    obtain ⟨c, rest, hc, hrest, rfl⟩ := h
    exact ⟨List.cons_ne_nil c rest, List.forall_mem_cons.2 ⟨hc, hrest⟩⟩
  · intro h
    obtain ⟨c, rest, rfl⟩ := List.exists_cons_of_ne_nil h.1
    obtain ⟨hc, hrest⟩ := List.forall_mem_cons.1 h.2
    exact ⟨c, rest, hc, hrest, rfl⟩

theorem mem_pattern_iff {b : Bracket} : cs ∈ b.pattern ↔
    ∃ name, (Token.mk b name).WellFormed ∧ cs = (Token.mk b name).text := by
  simp only [Bracket.pattern, mem_single_mul_iff, mem_mul_single_iff, mem_runOf_iff,
    decide_eq_true_eq]
  constructor
  · intro h
    obtain ⟨_, _, rfl, ⟨_, _, rfl, ⟨name, _, hname, rfl, rfl⟩, rfl⟩, rfl⟩ := h
    exact ⟨name, hname, rfl⟩
  · intro h
    obtain ⟨name, hname, rfl⟩ := h
    exact ⟨_, _, rfl, ⟨_, _, rfl, ⟨name, _, hname, rfl, rfl⟩, rfl⟩, rfl⟩

theorem exists_token_iff_mem :
    (∃ t : Token, t.WellFormed ∧ cs = t.text) ↔ cs ∈ Bracket.brace.pattern + Bracket.paren.pattern := by
  rw [Language.mem_add, mem_pattern_iff, mem_pattern_iff]
  constructor
  · intro h
    obtain ⟨⟨b, name⟩, hwell, he⟩ := h
    cases b with
    | brace => exact .inl ⟨name, hwell, he⟩
    | paren => exact .inr ⟨name, hwell, he⟩
  · intro h
    obtain ⟨name, hwell, he⟩ | ⟨name, hwell, he⟩ := h
    · exact ⟨_, hwell, he⟩
    · exact ⟨_, hwell, he⟩

theorem token_unique {t t' : Token} (ht : t.WellFormed) (ht' : t'.WellFormed)
    (h : t.text <+: cs) (h' : t'.text <+: cs) : t = t' := by
  obtain ⟨rest, hrest⟩ := h
  obtain ⟨rest', hrest'⟩ := h'
  have hread := token?_eq_some_iff.2 ⟨hrest.symm, ht⟩
  have hread' := token?_eq_some_iff.2 ⟨hrest'.symm, ht'⟩
  cases hread.symm.trans hread'
  rfl

theorem tokenAt_iff_mem {p : Nat} : TokenAt cs p ↔
    ∃ m ∈ Bracket.brace.pattern + Bracket.paren.pattern, m <+: cs.drop p := by
  simp only [← exists_token_iff_mem]
  constructor
  · intro h
    obtain ⟨t, hwell, hstart⟩ := h
    exact ⟨t.text, ⟨t, hwell, rfl⟩, hstart⟩
  · intro h
    obtain ⟨m, ⟨t, hwell, hm⟩, hstart⟩ := h
    exact ⟨t, hwell, hm ▸ hstart⟩

theorem prefix_unique {m m' : List Char} (hm : m ∈ Bracket.brace.pattern + Bracket.paren.pattern)
    (hm' : m' ∈ Bracket.brace.pattern + Bracket.paren.pattern) (h : m <+: cs) (h' : m' <+: cs) :
    m = m' := by
  obtain ⟨t, hwell, rfl⟩ := exists_token_iff_mem.2 hm
  obtain ⟨t', hwell', rfl⟩ := exists_token_iff_mem.2 hm'
  rw [token_unique hwell hwell' h h']

/- Where the scan finds its tokens. -/

namespace Decomposition

def tokensFrom (start : Nat) : List (List Char × Token) → List (Nat × Token)
  | [] => []
  | (l, t) :: runs => (start + l.length, t) :: tokensFrom (start + l.length + t.text.length) runs

def located (d : Decomposition) : List (Nat × Token) := tokensFrom 0 d.runs

theorem text_of_mem_tokensFrom {start p : Nat} {t : Token} {runs : List (List Char × Token)}
    {last : List Char} (h : (p, t) ∈ tokensFrom start runs) : t ∈ runs.map Prod.snd ∧
      ∃ before after, (mk runs last).text = before ++ (t.text ++ after) ∧
        p = start + before.length := by
  induction runs generalizing start with
  | nil => cases h
  | cons r runs ih =>
    obtain ⟨l, t'⟩ := r
    have htext : (mk ((l, t') :: runs) last).text = l ++ (t'.text ++ (mk runs last).text) := by
      simp [text, filled]
    rw [tokensFrom] at h
    obtain he | h := List.mem_cons.1 h
    · cases he
      exact ⟨List.mem_cons_self, l, _, htext, rfl⟩
    · obtain ⟨hmem, before, after, hbefore, rfl⟩ := ih h
      refine ⟨List.mem_cons_of_mem t' hmem, l ++ (t'.text ++ before), after, ?_, ?_⟩
      · simp [htext, hbefore]
      · simp only [List.length_append]
        omega

end Decomposition

namespace Variant

theorem pieces_of_name? (h : name? s = some name) :
    ∃ t : Token, t.WellFormed ∧ s.toList = t.text ∧ String.ofList t.name = name ∧
      pieces s.toList = [.token t] := by
  obtain ⟨t, hwell, hs, rfl⟩ := name?_eq_some_iff.1 h
  have hpieces := pieces_token_append (s := []) hwell
  rw [List.append_nil, pieces] at hpieces
  exact ⟨t, hwell, hs, rfl, hs ▸ hpieces⟩

theorem name?_eq_some_iff_located : name? s = some name ↔
    ∃ t, (0, t) ∈ (decompose s.toList).located ∧ t.text.length = s.length ∧
      String.ofList t.name = name := by
  constructor
  · intro h
    obtain ⟨t, -, hs, hname, hpieces⟩ := pieces_of_name? h
    have hlocated : (decompose s.toList).located = [(0, t)] := by
      rw [decompose, hpieces]
      rfl
    refine ⟨t, hlocated ▸ List.mem_singleton_self _, ?_, hname⟩
    rw [← hs, String.length_toList]
  · intro h
    obtain ⟨t, hmem, hlength, hname⟩ := h
    have hsplits := splits_decompose s.toList
    -- The token is as long as the whole text, so nothing stands before or behind it.
    obtain ⟨ht, before, after, htext, hbefore⟩ := Decomposition.text_of_mem_tokensFrom hmem
    have hs : s.toList = before ++ (t.text ++ after) := hsplits.text.symm.trans htext
    have hcount := congrArg List.length hs
    rw [List.length_append, List.length_append, String.length_toList] at hcount
    obtain rfl : before = [] := List.eq_nil_of_length_eq_zero (by omega)
    obtain rfl : after = [] := List.eq_nil_of_length_eq_zero (by omega)
    refine name?_eq_some_iff.2 ⟨t, hsplits.tokens t ht, ?_, hname.symm⟩
    rw [hs, List.nil_append, List.append_nil]

theorem isPlaceholder_iff_mem : (∃ name, ofText s = .placeholder name) ↔
    s.toList ∈ Bracket.brace.pattern ∨ s.toList ∈ Bracket.paren.pattern := by
  simp only [ofText_eq_placeholder_iff_name?, name?_eq_some_iff]
  rw [← Language.mem_add, ← exists_token_iff_mem]
  constructor
  · intro h
    obtain ⟨_, t, hwell, hs, _⟩ := h
    exact ⟨t, hwell, hs⟩
  · intro h
    obtain ⟨t, hwell, hs⟩ := h
    exact ⟨_, t, hwell, hs, rfl⟩

/- What both make of a placeholder. -/

theorem substitute_of_bound {v : Value} (h : name? s = some name) (hv : data.get? name = some v) :
    substitute data s = v.written := by
  obtain ⟨t, -, -, rfl, hpieces⟩ := pieces_of_name? h
  rw [substitute, hpieces, Piece.substitutedAll, Piece.substituted]
  cases hw : v.written <;>
    simp [hv, hw, Piece.substitutedAll, bind, Except.bind, pure, Except.pure]

theorem substitute_of_not_bound (h : name? s = some name) (hv : data.get? name = none) :
    substitute data s = .ok s := by
  obtain ⟨t, -, -, rfl, hpieces⟩ := pieces_of_name? h
  refine substitute_of_unbound fun t' ht' => ?_
  rw [decompose, hpieces] at ht'
  obtain rfl := List.mem_singleton.1 ht'
  exact hv

/-- A placeholder that is bound is filled in with what substitution makes of its text, which is the
text of the value and nothing else, and fails as substitution does; one that is not bound fails, and
substitution leaves it. A text is the placeholder of a name exactly if the scan finds in it a token
of this name from its start to its end. The whole text is looked at for either of two expressions,
and the scan finds the matches of the one or the other; of these no two start at one position. -/
theorem whole_text_agrees (s : String) :
    (∀ (data : Bindings) (name : String), ofText s = .placeholder name →
      (∀ v, data.get? name = some v → substitute data s = v.written ∧
        (ofText s).resolve data = (substitute data s).mapError .numeral) ∧
      (data.get? name = none → substitute data s = .ok s ∧
        (ofText s).resolve data = .error (.unbound name))) ∧
    (∀ name, ofText s = .placeholder name ↔ ∃ t, (0, t) ∈ (decompose s.toList).located ∧
      t.text.length = s.length ∧ String.ofList t.name = name) ∧
    ((∃ name, ofText s = .placeholder name) ↔
      s.toList ∈ Bracket.brace.pattern ∨ s.toList ∈ Bracket.paren.pattern) ∧
    (∀ p, TokenAt s.toList p ↔
      ∃ m ∈ Bracket.brace.pattern + Bracket.paren.pattern, m <+: s.toList.drop p) ∧
    ∀ cs, ∀ m ∈ Bracket.brace.pattern + Bracket.paren.pattern,
      ∀ m' ∈ Bracket.brace.pattern + Bracket.paren.pattern, m <+: cs → m' <+: cs → m = m' := by
  refine ⟨?_, ?_, isPlaceholder_iff_mem, fun _ => tokenAt_iff_mem,
    fun _ _ hm _ hm' => prefix_unique hm hm'⟩
  · intro data name hs
    have hname := ofText_eq_placeholder_iff_name?.1 hs
    refine ⟨?_, ?_⟩
    · intro v hv
      refine ⟨substitute_of_bound hname hv, ?_⟩
      rw [hs, resolve, hv, substitute_of_bound hname hv]
    · intro hv
      refine ⟨substitute_of_not_bound hname hv, ?_⟩
      rw [hs, resolve, hv]
  · intro name
    rw [ofText_eq_placeholder_iff_name?, name?_eq_some_iff_located]

/- A name that has a token of the other style in it, which is bound too. -/

theorem whole_text_agrees_nested :
    substitute (Dictionary.ofList [("a$(b)", .text "$(b)"), ("b", .text "x")]) "$\x7ba$(b)\x7d" =
        .ok "$(b)" ∧
      (ofText "$\x7ba$(b)\x7d").resolve
        (Dictionary.ofList [("a$(b)", .text "$(b)"), ("b", .text "x")]) = .ok "$(b)" := by
  have hs : ofText "$\x7ba$(b)\x7d" = .placeholder "a$(b)" := rfl
  obtain ⟨hagrees, -⟩ := whole_text_agrees "$\x7ba$(b)\x7d"
  obtain ⟨hbound, -⟩ := hagrees
    (Dictionary.ofList [("a$(b)", .text "$(b)"), ("b", .text "x")]) "a$(b)" hs
  obtain ⟨hsubstituted, hresolved⟩ := hbound (.text "$(b)") rfl
  rw [hsubstituted] at hresolved
  exact ⟨hsubstituted, hresolved⟩

end Variant
end JobGate

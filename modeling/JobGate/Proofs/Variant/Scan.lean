import JobGate.Proofs.Traversal
import JobGate.Variant.Substitution
/-! How substitution takes a text apart: the scan finds the one way in which no token starts inside
a run (`splits_decompose`, `eq_decompose_of_splits`), and each token is written as what is bound to
its name. Main statement: `substitute_one_pass`. -/
namespace JobGate
open Traversal
variable {s l : List Char} {c : Char} {t : Token} {data : Bindings}

instance (t : Token) : Decidable t.WellFormed :=
  decidable_of_iff (t.name ≠ [] ∧ t.name.all t.bracket.admits)
    (by rw [Token.WellFormed, List.all_eq_true])

/- Where tokens start. -/

/-- A token starts at a position of a text. -/
def TokenAt (s : List Char) (p : Nat) : Prop := ∃ t : Token, t.WellFormed ∧ t.text <+: s.drop p

theorem tokenAt_iff {p : Nat} : TokenAt s p ↔ (token? (s.drop p)).isSome := by
  rw [Option.isSome_iff_exists]
  constructor
  · intro h
    obtain ⟨t, hwell, rest, hs⟩ := h
    exact ⟨(t, rest), token?_eq_some_iff.2 ⟨hs.symm, hwell⟩⟩
  · intro h
    obtain ⟨⟨t, rest⟩, h⟩ := h
    obtain ⟨hs, hwell⟩ := token?_eq_some_iff.1 h
    exact ⟨t, hwell, rest, hs.symm⟩

instance (s : List Char) (p : Nat) : Decidable (TokenAt s p) := decidable_of_iff _ tokenAt_iff.symm

theorem tokenAt_append {p : Nat} : TokenAt (l ++ s) (l.length + p) ↔ TokenAt s p := by
  rw [TokenAt, TokenAt, List.drop_length_add_append]

theorem not_tokenAt_append {l' : List Char} (hl : ∀ i < l.length, ¬ TokenAt (l ++ s) i)
    (hl' : ∀ i < l'.length, ¬ TokenAt s i) : ∀ i < (l ++ l').length, ¬ TokenAt (l ++ s) i := by
  intro i hi
  by_cases hlt : i < l.length
  · exact hl i hlt
  · rw [List.length_append] at hi
    obtain ⟨k, rfl⟩ := Nat.exists_eq_add_of_le (Nat.le_of_not_lt hlt)
    rw [tokenAt_append]
    exact hl' k (by omega)

theorem token?_eq_none_iff : token? s = none ↔ ¬ TokenAt s 0 := by
  rw [tokenAt_iff, List.drop_zero, Option.not_isSome_iff_eq_none]

theorem pieces_token_append (h : t.WellFormed) : pieces (t.text ++ s) = .token t :: pieces s := by
  have htoken := token?_text_append h s
  have hcons : ∃ c rest, t.text ++ s = c :: rest := ⟨_, _, rfl⟩
  obtain ⟨c, rest, he⟩ := hcons
  rw [he] at htoken ⊢
  rw [pieces]
  split
  · next h' =>
    cases htoken.symm.trans h'
    rfl
  · next h' => cases htoken.symm.trans h'

theorem pieces_cons (h : ¬ TokenAt (c :: s) 0) : pieces (c :: s) = .plain c :: pieces s := by
  have hnone := token?_eq_none_iff.2 h
  rw [pieces]
  split
  · next h' => cases hnone.symm.trans h'
  · rfl

/- Decompositions. -/

/-- Tokens in a text, each with the run before it, and the run behind the last of them. -/
structure Decomposition where
  runs : List (List Char × Token)
  last : List Char
  deriving DecidableEq, Repr

namespace Decomposition
variable {d : Decomposition}

def tokens (d : Decomposition) : List Token := d.runs.map Prod.snd

def filled (f : Token → List Char) (d : Decomposition) : List Char :=
  d.runs.flatMap (fun r => r.1 ++ f r.2) ++ d.last

def text (d : Decomposition) : List Char := d.filled Token.text

def plainsFrom (start : Nat) : List (List Char × Token) → List Char → List (Nat × List Char)
  | [], last => [(start, last)]
  | (l, t) :: runs, last => (start, l) :: plainsFrom (start + l.length + t.text.length) runs last

def plains (d : Decomposition) : List (Nat × List Char) := plainsFrom 0 d.runs d.last

/-- A way to take a text apart into tokens and runs that no token of the text starts in. -/
structure Splits (d : Decomposition) (s : List Char) : Prop where
  text : d.text = s
  tokens : ∀ t ∈ d.tokens, t.WellFormed
  plains : ∀ q ∈ d.plains, ∀ i < q.2.length, ¬ TokenAt s (q.1 + i)

instance (d : Decomposition) (s : List Char) : Decidable (d.Splits s) :=
  decidable_of_iff (d.text = s ∧ (∀ t ∈ d.tokens, t.WellFormed) ∧
      ∀ q ∈ d.plains, ∀ i < q.2.length, ¬ TokenAt s (q.1 + i))
    ⟨fun ⟨ht, hw, hp⟩ => ⟨ht, hw, hp⟩, fun ⟨ht, hw, hp⟩ => ⟨ht, hw, hp⟩⟩

def prepend (l : List Char) : Decomposition → Decomposition
  | ⟨[], last⟩ => ⟨[], l ++ last⟩
  | ⟨(l', t) :: runs, last⟩ => ⟨(l ++ l', t) :: runs, last⟩

def ofPieces : List Piece → Decomposition
  | [] => ⟨[], []⟩
  | .plain c :: ps => (ofPieces ps).prepend [c]
  | .token t :: ps => ⟨([], t) :: (ofPieces ps).runs, (ofPieces ps).last⟩

end Decomposition

def decompose (s : List Char) : Decomposition := .ofPieces (pieces s)

namespace Decomposition
variable {d : Decomposition} {runs : List (List Char × Token)} {last : List Char}

@[simp] theorem filled_prepend (f : Token → List Char) (l : List Char) (d : Decomposition) :
    (d.prepend l).filled f = l ++ d.filled f := by
  obtain ⟨_ | ⟨⟨l', t⟩, runs⟩, last⟩ := d <;> simp [prepend, filled]

@[simp] theorem tokens_prepend (l : List Char) (d : Decomposition) :
    (d.prepend l).tokens = d.tokens := by
  obtain ⟨_ | ⟨⟨l', t⟩, runs⟩, last⟩ := d <;> rfl

theorem prepend_prepend (l l' : List Char) (d : Decomposition) :
    (d.prepend l').prepend l = d.prepend (l ++ l') := by
  obtain ⟨_ | ⟨⟨l'', t⟩, runs⟩, last⟩ := d <;> simp [prepend]

theorem prepend_nil (d : Decomposition) : d.prepend [] = d := by
  obtain ⟨_ | ⟨⟨l', t⟩, runs⟩, last⟩ := d <;> rfl

theorem plainsFrom_add (k start : Nat) (runs : List (List Char × Token)) (last : List Char) :
    plainsFrom (k + start) runs last =
      (plainsFrom start runs last).map (fun q => (k + q.1, q.2)) := by
  induction runs generalizing start with
  | nil => rfl
  | cons r runs ih =>
    rw [plainsFrom, plainsFrom, List.map_cons, ← ih]
    simp only [Nat.add_assoc]

theorem splits_last_iff :
    (mk [] last).Splits s ↔ s = last ∧ ∀ i < last.length, ¬ TokenAt s i := by
  constructor
  · intro h
    refine ⟨h.text.symm, fun i hi => ?_⟩
    simpa using h.plains (0, last) (List.mem_singleton_self _) i hi
  · intro h
    obtain ⟨rfl, hs⟩ := h
    refine ⟨rfl, by simp [tokens], ?_⟩
    simpa [plains, plainsFrom] using hs

theorem splits_run_iff : (mk ((l, t) :: runs) last).Splits s ↔
    t.WellFormed ∧ (∀ i < l.length, ¬ TokenAt s i) ∧
      ∃ s', s = l ++ (t.text ++ s') ∧ (mk runs last).Splits s' := by
  -- the later runs are those of the rest, moved on by the first run and its token
  have hplains : (mk ((l, t) :: runs) last).plains = (0, l) ::
      (mk runs last).plains.map (fun q => ((l ++ t.text).length + q.1, q.2)) := by
    rw [plains, plainsFrom, plains, ← plainsFrom_add]
    simp
  constructor
  · intro h
    obtain ⟨hwell, htokens⟩ := List.forall_mem_cons.1 h.tokens
    have hs : s = l ++ (t.text ++ (mk runs last).text) := by
      rw [← h.text]
      simp [text, filled]
    have hp := h.plains
    rw [hplains, List.forall_mem_cons, List.forall_mem_map] at hp
    refine ⟨hwell, by simpa using hp.1, _, hs, rfl, htokens, ?_⟩
    intro q hq i hi
    have hnot := hp.2 q hq i hi
    rwa [hs, ← List.append_assoc, Nat.add_assoc, tokenAt_append] at hnot
  · intro h
    obtain ⟨hwell, hl, s', rfl, h⟩ := h
    refine ⟨?_, List.forall_mem_cons.2 ⟨hwell, h.tokens⟩, ?_⟩
    · rw [← h.text]
      simp [text, filled]
    · rw [hplains, List.forall_mem_cons, List.forall_mem_map]
      refine ⟨by simpa using hl, ?_⟩
      intro q hq i hi
      rw [← List.append_assoc, Nat.add_assoc, tokenAt_append]
      exact h.plains q hq i hi

theorem Splits.prepend (h : d.Splits s) (hl : ∀ i < l.length, ¬ TokenAt (l ++ s) i) :
    (d.prepend l).Splits (l ++ s) := by
  obtain ⟨_ | ⟨⟨l', t⟩, runs⟩, last⟩ := d
  · obtain ⟨rfl, hs⟩ := splits_last_iff.1 h
    exact splits_last_iff.2 ⟨rfl, not_tokenAt_append hl hs⟩
  · obtain ⟨hwell, hl', s', rfl, h'⟩ := splits_run_iff.1 h
    exact splits_run_iff.2 ⟨hwell, not_tokenAt_append hl hl', s', by simp, h'⟩

end Decomposition
open Decomposition

/- The scan finds the one that splits the text. -/

theorem decompose_token_append (h : t.WellFormed) : decompose (t.text ++ s) =
    ⟨([], t) :: (decompose s).runs, (decompose s).last⟩ := by
  rw [decompose, pieces_token_append h, ofPieces]
  rfl

theorem decompose_append (hl : ∀ i < l.length, ¬ TokenAt (l ++ s) i) :
    decompose (l ++ s) = (decompose s).prepend l := by
  induction l with
  | nil => exact (prepend_nil _).symm
  | cons c l ih =>
    -- no token starts at the first character, so the scan passes over it and goes on
    have hhead : ¬ TokenAt (c :: (l ++ s)) 0 := hl 0 (by simp)
    have htail : ∀ i < l.length, ¬ TokenAt (l ++ s) i := fun i hi => hl (i + 1) (by simpa using hi)
    have ih := ih htail
    rw [decompose] at ih
    rw [List.cons_append, decompose, pieces_cons hhead, ofPieces, ih, prepend_prepend]
    rfl

theorem splits_decompose (s : List Char) : (decompose s).Splits s := by
  unfold decompose
  -- the steps of the scan are those of a text that is split: a token, or a character without one
  fun_induction pieces s with
  | case1 => exact splits_last_iff.2 ⟨rfl, by simp⟩
  | case2 c rest t after h ih =>
    obtain ⟨hs, hwell⟩ := eq_of_token? h
    exact splits_run_iff.2 ⟨hwell, by simp, after, hs, ih⟩
  | case3 c rest h ih =>
    have hhead := token?_eq_none_iff.1 h
    exact ih.prepend (by simpa using hhead)

theorem eq_decompose_of_splits {d : Decomposition} (h : d.Splits s) : d = decompose s := by
  obtain ⟨runs, last⟩ := d
  -- On the runs: the scan passes over the first of them, for no token starts in it, then takes the
  -- token behind it, and goes on with a text that the rest splits.
  induction runs generalizing s with
  | nil =>
    obtain ⟨rfl, hs⟩ := splits_last_iff.1 h
    have hlast := decompose_append (l := s) (s := []) (by simpa using hs)
    rw [List.append_nil] at hlast
    rw [hlast]
    simp [decompose, pieces, ofPieces, Decomposition.prepend]
  | cons r runs ih =>
    obtain ⟨l, t⟩ := r
    obtain ⟨hwell, hl, s', rfl, h'⟩ := splits_run_iff.1 h
    rw [decompose_append hl, decompose_token_append hwell, ← ih h']
    simp [Decomposition.prepend]

/- What is written for the tokens. -/

/-- What a token becomes: the text of the value that is bound to its name, just as it is, and the
token itself if nothing is bound to it. -/
inductive Becomes (data : Bindings) (t : Token) : List Char → Prop where
  | bound {v : Value} {s : String} (hv : data.get? (String.ofList t.name) = some v)
      (hs : v.written = .ok s) : Becomes data t s.toList
  | unbound (h : data.get? (String.ofList t.name) = none) : Becomes data t t.text

namespace Piece
variable {ps : List Piece}

theorem substituted_token_eq_ok_iff {u : List Char} :
    (token t).substituted data = .ok u ↔ Becomes data t u := by
  rw [substituted]
  cases hv : data.get? (String.ofList t.name) with
  | none =>
    constructor
    · intro h
      cases h
      exact .unbound hv
    · intro h
      cases h with
      | bound hv' _ => cases hv.symm.trans hv'
      | unbound _ => rfl
  | some v =>
    simp only [bind_eq_ok_iff]
    constructor
    · intro h
      obtain ⟨s, hs, h⟩ := h
      cases h
      exact .bound hv hs
    · intro h
      cases h with
      | bound hv' hs =>
        cases hv.symm.trans hv'
        exact ⟨_, hs, rfl⟩
      | unbound hv' => cases hv.symm.trans hv'

theorem substitutedAll_of_becomes {f : Token → List Char}
    (h : ∀ t ∈ (ofPieces ps).tokens, Becomes data t (f t)) :
    substitutedAll data ps = .ok ((ofPieces ps).filled f) := by
  induction ps with
  | nil => rfl
  | cons p ps ih =>
    cases p with
    | plain c =>
      rw [ofPieces, tokens_prepend] at h
      rw [substitutedAll, ih h, ofPieces, filled_prepend]
      rfl
    | token t =>
      obtain ⟨ht, hps⟩ := List.forall_mem_cons.1 h
      rw [substitutedAll, substituted_token_eq_ok_iff.2 ht, ih hps]
      simp [ofPieces, filled, bind, Except.bind, pure, Except.pure]

theorem exists_becomes_of_substitutedAll {out : List Char}
    (h : substitutedAll data ps = .ok out) :
    ∀ t ∈ (ofPieces ps).tokens, ∃ u, Becomes data t u := by
  induction ps generalizing out with
  | nil => simp [ofPieces, tokens]
  | cons p ps ih =>
    simp only [substitutedAll, bind_eq_ok_iff] at h
    obtain ⟨u, hu, rest, hrest, -⟩ := h
    cases p with
    | plain c =>
      rw [ofPieces, tokens_prepend]
      exact ih hrest
    | token t => exact List.forall_mem_cons.2 ⟨⟨u, substituted_token_eq_ok_iff.1 hu⟩, ih hrest⟩

end Piece
open Piece

theorem substitute_of_becomes {s : String} {f : Token → List Char}
    (h : ∀ t ∈ (decompose s.toList).tokens, Becomes data t (f t)) :
    substitute data s = .ok (String.ofList ((decompose s.toList).filled f)) := by
  rw [substitute, substitutedAll_of_becomes h]
  rfl

theorem exists_substitute_iff {s : String} : (∃ out, substitute data s = .ok out) ↔
    ∀ t ∈ (decompose s.toList).tokens, ∃ u, Becomes data t u := by
  constructor
  · intro h
    obtain ⟨out, h⟩ := h
    rw [substitute, bind_eq_ok_iff] at h
    obtain ⟨cs, hcs, -⟩ := h
    exact exists_becomes_of_substitutedAll hcs
  · intro h
    choose! f hf using h
    exact ⟨_, substitute_of_becomes hf⟩

theorem substitute_of_unbound {s : String}
    (h : ∀ t ∈ (decompose s.toList).tokens, data.get? (String.ofList t.name) = none) :
    substitute data s = .ok s := by
  have hkept : ∀ t ∈ (decompose s.toList).tokens, Becomes data t t.text :=
    fun t ht => .unbound (h t ht)
  have htext : (decompose s.toList).filled Token.text = s.toList := (splits_decompose s.toList).text
  rw [substitute_of_becomes hkept, htext, String.ofList_toList]

/-- In exactly one way a text is taken apart into tokens and runs in which no token of the text
starts. Substitution leaves the runs as they are and writes in the place of each token the text of
the value that is bound to its name, or the token again if there is none; so it changes nothing
where no name is bound. It fails only if a name is bound to a value that has no text. -/
theorem substitute_one_pass (s : String) (data : Bindings) :
    (∃! d : Decomposition, d.Splits s.toList) ∧
    ∀ d : Decomposition, d.Splits s.toList →
      (∀ f : Token → List Char, (∀ t ∈ d.tokens, Becomes data t (f t)) →
        substitute data s = .ok (String.ofList (d.filled f))) ∧
      ((∃ out, substitute data s = .ok out) ↔ ∀ t ∈ d.tokens, ∃ u, Becomes data t u) ∧
      ((∀ t ∈ d.tokens, data.get? (String.ofList t.name) = none) → substitute data s = .ok s) := by
  refine ⟨⟨decompose s.toList, splits_decompose _, fun _ => eq_decompose_of_splits⟩, ?_⟩
  intro d hd
  rw [eq_decompose_of_splits hd]
  exact ⟨fun _ => substitute_of_becomes, exists_substitute_iff, substitute_of_unbound⟩

/- An opening that fails before a token, a value that is a token itself, and a name without one. -/

theorem substitute_one_pass_nested :
    substitute (Dictionary.ofList [("a", .text "$(b)"), ("b", .text "x")])
      "$\x7b$\x7ba\x7d\x7d$(c)" = .ok "$\x7b$(b)\x7d$(c)" := by
  have hsplits : (Decomposition.mk [(['$', '\x7b'], ⟨.brace, ['a']⟩), (['\x7d'], ⟨.paren, ['c']⟩)]
      []).Splits "$\x7b$\x7ba\x7d\x7d$(c)".toList := by decide
  obtain ⟨hfilled, -⟩ := (substitute_one_pass _ (Dictionary.ofList
    [("a", .text "$(b)"), ("b", .text "x")])).2 _ hsplits
  refine hfilled (fun t => if t.name = ['a'] then "$(b)".toList else t.text) ?_
  rw [Decomposition.tokens, List.forall_mem_map, List.forall_mem_cons, List.forall_mem_singleton]
  exact ⟨.bound rfl rfl, .unbound rfl⟩

end JobGate

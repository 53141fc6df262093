import JobGate.Text.Blank
/-! Placeholder tokens: a dollar sign and a name in braces or in parentheses. `token?` reads
exactly the well-formed ones at the start of a text (`token?_eq_some_iff`). -/
namespace JobGate

inductive Bracket where
  | brace | paren
  deriving DecidableEq, Repr

namespace Bracket

def opening : Bracket → Char
  | .brace => '\x7b'
  | .paren => '('

def closing : Bracket → Char
  | .brace => '\x7d'
  | .paren => ')'

def ofOpening? (c : Char) : Option Bracket :=
  if c = Bracket.brace.opening then some .brace
  else if c = Bracket.paren.opening then some .paren
  else none

/-- A name has no blanks and no braces, and in parentheses no parentheses either. -/
def excludes : Bracket → List Char
  | .brace => ['\x7b', '\x7d']
  | .paren => ['(', ')', '\x7b', '\x7d']

def admits (b : Bracket) (c : Char) : Bool := !b.excludes.contains c && !Text.isBlank c

theorem ofOpening?_eq_some_iff {c : Char} {b : Bracket} :
    ofOpening? c = some b ↔ c = b.opening := by
  by_cases h : c = Bracket.brace.opening
  · subst h; cases b <;> simp [ofOpening?, opening]
  · by_cases h' : c = Bracket.paren.opening
    · subst h'; cases b <;> simp [ofOpening?, opening]
    · cases b <;> simp [ofOpening?, h, h']

@[simp] theorem admits_closing (b : Bracket) : b.admits b.closing = false := by
  cases b <;> rfl

end Bracket

structure Token where
  bracket : Bracket
  name : List Char
  deriving DecidableEq, Repr

namespace Token

def text (t : Token) : List Char :=
  '$' :: t.bracket.opening :: t.name ++ [t.bracket.closing]

def WellFormed (t : Token) : Prop := t.name ≠ [] ∧ ∀ c ∈ t.name, t.bracket.admits c

end Token

def token? : List Char → Option (Token × List Char)
  | '$' :: c :: rest => do
    let b ← Bracket.ofOpening? c
    let name := rest.takeWhile b.admits
    match rest.dropWhile b.admits with
    | d :: after => if name ≠ [] ∧ d = b.closing then some (⟨b, name⟩, after) else none
    | [] => none
  | _ => none

theorem takeWhile_append_stop {p : α → Bool} {l : List α} {c : α}
    (hl : ∀ x ∈ l, p x) (hc : p c = false) (rest : List α) :
    (l ++ c :: rest).takeWhile p = l ∧ (l ++ c :: rest).dropWhile p = c :: rest := by
  induction l with
  | nil => simp [hc]
  | cons x l ih =>
    have hx := hl x (by simp)
    have ih := ih (fun y hy => hl y (by simp [hy]))
    simp [hx, ih]

theorem token?_text_append {t : Token} (h : t.WellFormed) (rest : List Char) :
    token? (t.text ++ rest) = some (t, rest) := by
  obtain ⟨b, name⟩ := t
  obtain ⟨hn, ha⟩ := h
  obtain ⟨ht, hd⟩ := takeWhile_append_stop ha (Bracket.admits_closing b) rest
  have hb : Bracket.ofOpening? b.opening = some b := Bracket.ofOpening?_eq_some_iff.2 rfl
  simp only [Token.text, List.cons_append, List.append_assoc, List.nil_append, token?, hb,
    Option.bind_eq_bind, Option.bind_some] at ht hd ⊢
  rw [ht, hd]
  simp [show name ≠ [] from hn]

theorem eq_of_token? {s rest : List Char} {t : Token} (h : token? s = some (t, rest)) :
    s = t.text ++ rest ∧ t.WellFormed := by
  match s with
  | [] => simp [token?] at h
  | [x] => simp [token?] at h
  | x :: c :: s =>
    by_cases hx : x = '$'
    · subst hx
      simp only [token?, Option.bind_eq_bind, Option.bind_eq_some_iff] at h
      obtain ⟨b, hb, h⟩ := h
      have hb := Bracket.ofOpening?_eq_some_iff.1 hb
      have hs := List.takeWhile_append_dropWhile (p := b.admits) (l := s)
      cases hd : s.dropWhile b.admits with
      | nil => simp [hd] at h
      | cons d after =>
        rw [hd] at h hs
        simp only [Option.ite_none_right_eq_some, Option.some.injEq, Prod.mk.injEq] at h
        obtain ⟨⟨hn, rfl⟩, rfl, rfl⟩ := h
        refine ⟨?_, hn, fun c hc => ?_⟩
        · simp [Token.text, hb, hs]
        · exact List.all_eq_true.1 List.all_takeWhile c hc
    · have : token? (x :: c :: s) = none := by
        unfold token?
        split
        · rename_i heq; simp_all
        · rfl
      simp [this] at h

theorem token?_eq_some_iff {s rest : List Char} {t : Token} :
    token? s = some (t, rest) ↔ s = t.text ++ rest ∧ t.WellFormed :=
  ⟨eq_of_token?, fun ⟨hs, hw⟩ => hs ▸ token?_text_append hw rest⟩

theorem length_of_token? {s rest : List Char} {t : Token} (h : token? s = some (t, rest)) :
    rest.length < s.length := by
  obtain ⟨rfl, -⟩ := eq_of_token? h
  simp [Token.text]
  omega

end JobGate

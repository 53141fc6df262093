import JobGate.Proofs.Requirement.Built
import Mathlib.Computability.Language
/-! The grammar of labels by regular expressions. The checks of words and of host names accept
these languages (`isEdged_iff_mem_edged`, `isHostName_iff_mem`), and so do those of keys and
values: main statement, `no_problem_iff_grammar`. -/
namespace JobGate.Label
open scoped Computability
variable {cs : List Char} {p outer inner : Char → Bool}

def single (p : Char → Bool) : Language Char := {cs | ∃ c, p c ∧ cs = [c]}

def edged (outer inner : Char → Bool) : Language Char :=
  single outer * (1 + (single inner)∗ * single outer)

/-- `[A-Za-z0-9]([-A-Za-z0-9_.]*[A-Za-z0-9])?` -/
def word : Language Char := edged isAlphanumeric isNameChar

/-- `[a-z0-9]([-a-z0-9]*[a-z0-9])?` -/
def hostPart : Language Char := edged isLowerAlphanumeric isDomainChar

def hostName : Language Char := hostPart * (single (· = '.') * hostPart)∗

/- Runs of a class. -/

theorem mem_single_iff {c : Char} : [c] ∈ single p ↔ p c := by
  constructor
  · rintro ⟨d, hd, he⟩
    cases he
    exact hd
  · intro hc
    exact ⟨c, hc, rfl⟩

theorem mem_kstar_single_iff : cs ∈ (single p)∗ ↔ ∀ c ∈ cs, p c := by
  rw [Language.mem_kstar]
  constructor
  · rintro ⟨parts, he, hparts⟩ c hc
    subst he
    obtain ⟨part, hpart, hc⟩ := List.mem_flatten.1 hc
    obtain ⟨d, hd, rfl⟩ := hparts part hpart
    rw [List.mem_singleton.1 hc]
    exact hd
  · intro h
    refine ⟨cs.map ([·]), ?_, ?_⟩
    · rw [← List.flatMap_def, List.flatMap_singleton']
    · intro part hpart
      obtain ⟨c, hc, rfl⟩ := List.mem_map.1 hpart
      exact mem_single_iff.2 (h c hc)

theorem mem_single_mul_iff {L : Language Char} :
    cs ∈ single p * L ↔ ∃ c rest, p c ∧ rest ∈ L ∧ cs = c :: rest := by
  rw [Language.mem_mul]
  constructor
  · rintro ⟨_, ⟨c, hc, rfl⟩, rest, hrest, he⟩
    exact ⟨c, rest, hc, hrest, he.symm⟩
  · rintro ⟨c, rest, hc, hrest, he⟩
    exact ⟨[c], ⟨c, hc, rfl⟩, rest, hrest, he.symm⟩

theorem mem_mul_single_iff {L : Language Char} :
    cs ∈ L * single p ↔ ∃ run c, run ∈ L ∧ p c ∧ cs = run ++ [c] := by
  rw [Language.mem_mul]
  constructor
  · rintro ⟨run, hrun, _, ⟨c, hc, rfl⟩, he⟩
    exact ⟨run, c, hrun, hc, he.symm⟩
  · rintro ⟨run, c, hrun, hc, he⟩
    exact ⟨run, hrun, [c], ⟨c, hc, rfl⟩, he.symm⟩

/- Words. -/

theorem mem_edged_iff : cs ∈ edged outer inner ↔ (∃ c, outer c ∧ cs = [c]) ∨
    ∃ c run d, outer c ∧ (∀ x ∈ run, inner x) ∧ outer d ∧ cs = c :: (run ++ [d]) := by
  simp only [edged, mem_single_mul_iff, Language.mem_add, Language.mem_one, mem_mul_single_iff,
    mem_kstar_single_iff]
  constructor
  · rintro ⟨c, rest, hc, hrest, he⟩
    obtain rfl | ⟨run, d, hrun, hd, rfl⟩ := hrest
    · exact .inl ⟨c, hc, he⟩
    · exact .inr ⟨c, run, d, hc, hrun, hd, he⟩
  · intro h
    obtain ⟨c, hc, he⟩ | ⟨c, run, d, hc, hrun, hd, he⟩ := h
    · exact ⟨c, [], hc, .inl rfl, he⟩
    · exact ⟨c, run ++ [d], hc, .inr ⟨run, d, hrun, hd, rfl⟩, he⟩

theorem isEdged_singleton {c : Char} (h : ∀ c, outer c → inner c) :
    isEdged outer inner [c] ↔ outer c := by
  simp only [isEdged, List.head?_cons, Option.any_some, List.getLast?_singleton, List.all_cons,
    List.all_nil, Bool.and_true, Bool.and_eq_true]
  exact ⟨fun hc => hc.1.1, fun hc => ⟨⟨hc, hc⟩, h c hc⟩⟩

theorem isEdged_between {c d : Char} {run : List Char} (h : ∀ c, outer c → inner c) :
    isEdged outer inner (c :: (run ++ [d])) ↔ outer c ∧ (∀ x ∈ run, inner x) ∧ outer d := by
  have hlast : (c :: (run ++ [d])).getLast? = some d := List.getLast?_concat (l := c :: run)
  simp only [isEdged, hlast, List.head?_cons, Option.any_some, List.all_cons, List.all_append,
    List.all_nil, Bool.and_true, Bool.and_eq_true, List.all_eq_true]
  constructor
  · rintro ⟨⟨hc, hd⟩, _, hrun, _⟩
    exact ⟨hc, hrun, hd⟩
  · rintro ⟨hc, hrun, hd⟩
    exact ⟨⟨hc, hd⟩, h c hc, hrun, h d hd⟩

theorem isEdged_iff_mem_edged (h : ∀ c, outer c → inner c) :
    isEdged outer inner cs ↔ cs ∈ edged outer inner := by
  rw [mem_edged_iff]
  constructor
  · intro hcs
    cases cs with
    | nil => cases hcs
    | cons c rest =>
      -- one character is both ends; of more the last is an end and those between are inner ones
      obtain rfl | ⟨run, d, rfl⟩ := List.eq_nil_or_concat' rest
      · exact .inl ⟨c, (isEdged_singleton h).1 hcs, rfl⟩
      · obtain ⟨hc, hrun, hd⟩ := (isEdged_between h).1 hcs
        exact .inr ⟨c, run, d, hc, hrun, hd, rfl⟩
  · intro hcs
    obtain ⟨c, hc, rfl⟩ | ⟨c, run, d, hc, hrun, hd, rfl⟩ := hcs
    · exact (isEdged_singleton h).2 hc
    · exact (isEdged_between h).2 ⟨hc, hrun, hd⟩

theorem isWord_iff_mem : isWord cs ↔ cs ∈ word := by
  apply isEdged_iff_mem_edged
  intro c hc
  simp [isNameChar, hc]

theorem mem_hostPart_iff : cs ∈ hostPart ↔ IsDomainPart cs := by
  rw [← isDomainPart_iff, hostPart, isEdged_iff_mem_edged]
  intro c hc
  simp [isDomainChar, hc]

/- Host names. -/

theorem intercalate_eq_append_flatMap {first : List Char} {parts : List (List Char)} :
    ['.'].intercalate (first :: parts) = first ++ parts.flatMap ('.' :: ·) := by
  induction parts generalizing first with
  | nil => simp
  | cons part parts ih =>
    rw [List.intercalate_cons_cons, ih, List.flatMap_cons]
    simp

theorem mem_dotted_iff : cs ∈ single (· = '.') * hostPart ↔ ∃ part ∈ hostPart, cs = '.' :: part := by
  simp only [mem_single_mul_iff, decide_eq_true_eq]
  constructor
  · rintro ⟨_, part, rfl, hpart, he⟩
    exact ⟨part, hpart, he⟩
  · rintro ⟨part, hpart, he⟩
    exact ⟨'.', part, rfl, hpart, he⟩

theorem mem_kstar_dotted_iff : cs ∈ (single (· = '.') * hostPart)∗ ↔
    ∃ parts : List (List Char), (∀ part ∈ parts, part ∈ hostPart) ∧
      cs = parts.flatMap ('.' :: ·) := by
  rw [Language.mem_kstar]
  constructor
  · rintro ⟨dotted, he, hdotted⟩
    subst he
    induction dotted with
    | nil => exact ⟨[], by simp⟩
    | cons first rest ih =>
      obtain ⟨hfirst, hrest⟩ := List.forall_mem_cons.1 hdotted
      obtain ⟨part, hpart, rfl⟩ := mem_dotted_iff.1 hfirst
      obtain ⟨parts, hparts, he⟩ := ih hrest
      refine ⟨part :: parts, List.forall_mem_cons.2 ⟨hpart, hparts⟩, ?_⟩
      rw [List.flatten_cons, List.flatMap_cons, he]
  · rintro ⟨parts, hparts, he⟩
    refine ⟨parts.map ('.' :: ·), by rw [he, List.flatMap_def], ?_⟩
    intro dotted hdotted
    obtain ⟨part, hpart, rfl⟩ := List.mem_map.1 hdotted
    exact mem_dotted_iff.2 ⟨part, hparts part hpart, rfl⟩

theorem dot_notMem_of_mem_hostPart (h : cs ∈ hostPart) : '.' ∉ cs := by
  intro hc
  exact absurd ((mem_hostPart_iff.1 h).chars '.' hc) (by decide)

theorem isHostName_iff_mem : isHostName cs ↔ cs ∈ hostName := by
  simp only [isHostName_iff, ← mem_hostPart_iff, hostName, Language.mem_mul, mem_kstar_dotted_iff]
  constructor
  · intro h
    -- the check splits at dots where the expression joins with them, and no part has a dot
    have hjoin : ['.'].intercalate (cs.splitOn '.') = cs := List.intercalate_splitOn '.'
    cases hsplit : cs.splitOn '.' with
    | nil => exact absurd hsplit (List.splitOn_ne_nil _ _)
    | cons first parts =>
      rw [hsplit] at h hjoin
      rw [intercalate_eq_append_flatMap] at hjoin
      obtain ⟨hfirst, hparts⟩ := List.forall_mem_cons.1 h
      exact ⟨first, hfirst, _, ⟨parts, hparts, rfl⟩, hjoin⟩
  · rintro ⟨first, hfirst, _, ⟨parts, hparts, rfl⟩, he⟩
    have hall : ∀ part ∈ first :: parts, part ∈ hostPart := List.forall_mem_cons.2 ⟨hfirst, hparts⟩
    rw [← he, ← intercalate_eq_append_flatMap, List.splitOn_intercalate]
    · exact hall
    · exact fun part hpart => dot_notMem_of_mem_hostPart (hall part hpart)
    · exact List.cons_ne_nil first parts

/- The characters of a name. -/

theorem isAscii_of_isNameChar {c : Char} (h : isNameChar c) : c.toNat < 128 := by
  have hbelow {d : Char} (hd : d.toNat < 128) (hle : c ≤ d) : c.toNat < 128 :=
    Nat.lt_of_le_of_lt hle hd
  simp only [isNameChar, isAlphanumeric, isLower, isUpper, isDigit, Bool.or_eq_true,
    Bool.and_eq_true, decide_eq_true_eq] at h
  obtain ((((⟨-, hz⟩ | ⟨-, hz⟩) | ⟨-, hz⟩) | rfl) | rfl) | rfl := h
  · exact hbelow (by decide) hz
  · exact hbelow (by decide) hz
  · exact hbelow (by decide) hz
  all_goals decide

/-- A key has no problem exactly if it is a name, or a domain, a slash and a name; a value has none
exactly if it is empty or a name. The words and the host names that the checks look for are those of
the regular expressions. No name has a slash, an end of line or a character outside ASCII. -/
theorem no_problem_iff_grammar :
    (∀ key : String, Requirement.keyProblems key = [] ↔ IsKey key.toList) ∧
    (∀ value : String, Requirement.valueProblem? value = none ↔ IsValue value.toList) ∧
    (∀ cs, isWord cs ↔ cs ∈ word) ∧ (∀ cs, isHostName cs ↔ cs ∈ hostName) ∧
    ∀ name, IsName name → '/' ∉ name ∧ '\n' ∉ name ∧ ∀ c ∈ name, c.toNat < 128 := by
  refine ⟨fun _ => Requirement.keyProblems_eq_nil_iff,
    fun _ => Requirement.valueProblem?_eq_none_iff, fun _ => isWord_iff_mem,
    fun _ => isHostName_iff_mem, ?_⟩
  intro name hname
  have hchars := hname.chars
  refine ⟨?_, ?_, fun c hc => isAscii_of_isNameChar (hchars c hc)⟩
  · exact fun hslash => absurd (hchars '/' hslash) (by decide)
  · exact fun hend => absurd (hchars '\n' hend) (by decide)

/- A key with a domain, one with a second slash, and a value with an end of line after it. -/

theorem no_problem_iff_grammar_slashes :
    Requirement.keyProblems "b.c/a-1" = [] ∧ Requirement.keyProblems "a/b/c" ≠ [] ∧
      Requirement.valueProblem? "a\n" ≠ none := by
  obtain ⟨hkeys, hvalues, -, -, hnames⟩ := no_problem_iff_grammar
  refine ⟨?_, ?_, ?_⟩
  · have hdomain : IsDomain "b.c".toList := domainFault?_eq_none_iff.1 rfl
    have hname : IsName "a-1".toList := nameFault?_eq_none_iff.1 rfl
    exact (hkeys _).2 (.inr ⟨_, _, rfl, by decide, hdomain, hname⟩)
  · intro hnone
    obtain ⟨hslash, -⟩ | ⟨domain, name, hkey, hdomain, -, hname⟩ := (hkeys "a/b/c").1 hnone
    · exact hslash (by decide)
    · have hcount := congrArg (List.count '/') hkey
      rw [List.count_append, List.count_cons_self, List.count_eq_zero.2 hdomain,
        List.count_eq_zero.2 (hnames name hname).1] at hcount
      exact absurd hcount (by decide)
  · intro hnone
    obtain hempty | hname := (hvalues "a\n").1 hnone
    · exact absurd hempty (by decide)
    · exact (hnames _ hname).2.1 (by decide)

end JobGate.Label

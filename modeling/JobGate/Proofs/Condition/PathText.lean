import JobGate.Condition.Error
import JobGate.Text.Cut
import Mathlib.Data.List.Basic
/-! The texts of paths. The name of the job stands in a path as it is, so the text cannot be read
from its start. From its end it can, by its last character and its last bracket: one text has one
job and one place (`text_inj`). -/
namespace JobGate.Text
variable {sep : Char} {a b x y : List Char}

theorem cut_last_unique (ha : sep ∉ a) (hb : sep ∉ b) (h : x ++ sep :: a = y ++ sep :: b) :
    x = y ∧ a = b := by
  have hx : cut sep (x ++ sep :: a).reverse = some (a.reverse, x.reverse) :=
    cut_eq_some_iff.2 ⟨by simp, by simpa using ha⟩
  have hy : cut sep (y ++ sep :: b).reverse = some (b.reverse, y.reverse) :=
    cut_eq_some_iff.2 ⟨by simp, by simpa using hb⟩
  rw [h, hy] at hx
  simp only [Option.some.injEq, Prod.mk.injEq, List.reverse_inj] at hx
  exact ⟨hx.2.symm, hx.1.symm⟩

end JobGate.Text

namespace JobGate.Condition

theorem clause_text (base : String) (i : Nat) :
    (Path.mk base (.clause i)).text = s!"{base}.resultmatch[{i}]" := by
  have hclause : clauseText i = ".resultmatch[" ++ toString i ++ "]" := rfl
  have hplace : s!"{base}.resultmatch[{i}]" = base ++ ".resultmatch[" ++ toString i ++ "]" := rfl
  rw [Path.text, Place.text, hclause, hplace]
  simp only [String.append_assoc]

theorem field_text (base : String) (i : Nat) (field : String) :
    base ++ (clauseText i ++ field) = s!"{base}.resultmatch[{i}]" ++ field := by
  rw [← clause_text, Path.text, Place.text, String.append_assoc]

theorem notMem_index {c : Char} (hc : c.isDigit = false) (n : Nat) : c ∉ (toString n).toList := by
  intro h
  rw [Nat.toString_eq_repr, Nat.toList_repr] at h
  have hd := Nat.isDigit_of_mem_toDigits (by decide) (by decide) h
  exact absurd (hc.symm.trans hd) (by decide)

theorem index_inj {m n : Nat} (h : (toString m).toList = (toString n).toList) : m = n := by
  simp only [Nat.toString_eq_repr, Nat.toList_repr] at h
  have hd := congrArg (fun ds => Nat.ofDigitChars 10 ds 0) h
  simpa using hd

theorem bracketed_inj {x y : List Char} {m n : Nat}
    (h : x ++ '[' :: ((toString m).toList ++ [']']) = y ++ '[' :: ((toString n).toList ++ [']'])) :
    x = y ∧ m = n := by
  have h : x ++ '[' :: (toString m).toList = y ++ '[' :: (toString n).toList := by
    have h : (x ++ '[' :: (toString m).toList) ++ [']'] =
        (y ++ '[' :: (toString n).toList) ++ [']'] := by simpa using h
    exact List.append_cancel_right h
  obtain ⟨hx, hi⟩ := Text.cut_last_unique (notMem_index (by decide) m) (notMem_index (by decide) n) h
  exact ⟨hx, index_inj hi⟩

theorem toList_baseOf (job : String) :
    (baseOf job).toList = "workflow.".toList ++ (job.toList ++ ".condition".toList) := by
  have h : baseOf job = "workflow." ++ job ++ ".condition" := rfl
  rw [h, String.toList_append, String.toList_append, List.append_assoc]

theorem baseOf_inj {job job' : String} (h : (baseOf job).toList = (baseOf job').toList) :
    job = job' := by
  rw [toList_baseOf, toList_baseOf] at h
  have h := List.append_cancel_left h
  exact String.toList_inj.1 (List.append_cancel_right h)

def indexed (word : String) (i : Nat) : List Char :=
  word.toList ++ '[' :: ((toString i).toList ++ [']'])

theorem toList_clauseText (i : Nat) : (clauseText i).toList = indexed ".resultmatch" i := by
  have h : clauseText i = ".resultmatch" ++ "[" ++ toString i ++ "]" := rfl
  simp only [h, indexed, String.toList_append, List.append_assoc]
  rfl

theorem toList_valueText (j : Nat) : (s!".value[{j}]").toList = indexed ".value" j := by
  have h : s!".value[{j}]" = ".value" ++ "[" ++ toString j ++ "]" := rfl
  simp only [h, indexed, String.toList_append, List.append_assoc]
  rfl

theorem clauseText_append_inj {i j : Nat} {s t : String} (h : clauseText i ++ s = clauseText j ++ t) :
    i = j ∧ s = t := by
  have hchars := congrArg String.toList h
  simp only [String.toList_append, toList_clauseText, indexed, List.append_assoc, List.cons_append,
    List.nil_append] at hchars
  have hrest := (List.cons.inj (List.append_cancel_left hchars)).2
  have hi : ']' ∉ (toString i).toList := notMem_index (by decide) i
  have hj : ']' ∉ (toString j).toList := notMem_index (by decide) j
  have hcut := Text.cut_eq_some_iff.2 ⟨hrest, hj⟩
  rw [Text.cut_eq_some_iff.2 ⟨rfl, hi⟩] at hcut
  simp only [Option.some.injEq, Prod.mk.injEq] at hcut
  exact ⟨index_inj hcut.1, String.toList_inj.1 hcut.2⟩

def Place.chars : Place → List Char
  | .whole => []
  | .clause i => indexed ".resultmatch" i
  | .key i => indexed ".resultmatch" i ++ ".key".toList
  | .operator i => indexed ".resultmatch" i ++ ".operator".toList
  | .value i j => indexed ".resultmatch" i ++ indexed ".value" j

theorem toList_text (base : String) (p : Place) :
    (Path.mk base p).text.toList = base.toList ++ p.chars := by
  rw [Path.text, String.toList_append]
  congr 1
  cases p with
  | whole => rfl
  | clause i => exact toList_clauseText i
  | key i | operator i =>
    rw [Place.text, Place.chars, String.toList_append, toList_clauseText]
  | value i j =>
    rw [Place.text, Place.chars, String.toList_append, toList_clauseText, toList_valueText]

theorem indexed_inj {x y : List Char} {word word' : String} {m n : Nat}
    (h : x ++ indexed word m = y ++ indexed word' n) :
    x ++ word.toList = y ++ word'.toList ∧ m = n := by
  rw [indexed, indexed, ← List.append_assoc, ← List.append_assoc] at h
  exact bracketed_inj h

def Place.lastChar : Place → Char
  | .whole => 'n'
  | .clause _ | .value _ _ => ']'
  | .key _ => 'y'
  | .operator _ => 'r'

theorem getLast?_indexed (x : List Char) (word : String) (i : Nat) :
    (x ++ indexed word i).getLast? = some ']' := by
  have h : x ++ indexed word i = (x ++ word.toList ++ '[' :: (toString i).toList) ++ [']'] := by
    simp [indexed]
  rw [h, List.getLast?_concat]

theorem getLast?_text (job : String) (p : Place) :
    (Path.mk (baseOf job) p).text.toList.getLast? = some p.lastChar := by
  rw [toList_text]
  cases p with
  | whole =>
    rw [Place.chars, List.append_nil, toList_baseOf, ← List.append_assoc,
      List.getLast?_append_of_ne_nil _ (by decide)]
    rfl
  | clause i => exact getLast?_indexed _ _ i
  | key i | operator i =>
    rw [Place.chars, ← List.append_assoc, List.getLast?_append_of_ne_nil _ (by decide)]
    rfl
  | value i j =>
    rw [Place.chars, ← List.append_assoc]
    exact getLast?_indexed _ _ j

theorem clause_text_inj {job job' : String} {i j : Nat}
    (h : (baseOf job).toList ++ indexed ".resultmatch" i =
      (baseOf job').toList ++ indexed ".resultmatch" j) : job = job' ∧ i = j := by
  obtain ⟨hb, hi⟩ := indexed_inj h
  exact ⟨baseOf_inj (List.append_cancel_right hb), hi⟩

theorem clause_text_append_inj {job job' : String} {i j : Nat} {ending : List Char}
    (h : (baseOf job).toList ++ (indexed ".resultmatch" i ++ ending) =
      (baseOf job').toList ++ (indexed ".resultmatch" j ++ ending)) : job = job' ∧ i = j := by
  rw [← List.append_assoc, ← List.append_assoc] at h
  exact clause_text_inj (List.append_cancel_right h)

theorem value_text_ne_clause_text {job job' : String} {i j k : Nat} :
    (Path.mk (baseOf job) (.value i j)).text ≠ (Path.mk (baseOf job') (.clause k)).text := by
  intro h
  have h := congrArg String.toList h
  rw [toList_text, toList_text, Place.chars, Place.chars, ← List.append_assoc] at h
  obtain ⟨h, -⟩ := indexed_inj h
  have h := congrArg List.getLast? h
  rw [List.getLast?_append_of_ne_nil _ (by decide),
    List.getLast?_append_of_ne_nil _ (by decide)] at h
  exact absurd h (by decide)

theorem text_inj {job job' : String} {p q : Place}
    (h : (Path.mk (baseOf job) p).text = (Path.mk (baseOf job') q).text) :
    job = job' ∧ p = q := by
  have hlast : p.lastChar = q.lastChar := by
    have h := congrArg (fun s => s.toList.getLast?) h
    simp only [getLast?_text] at h
    exact Option.some.inj h
  have ht := congrArg String.toList h
  rw [toList_text, toList_text] at ht
  -- only places of one sort and the two that end in an index have the same last character
  cases p <;> cases q <;> simp only [Place.lastChar, Char.reduceEq] at hlast
  all_goals simp only [Place.chars] at ht
  case whole.whole =>
    exact ⟨baseOf_inj (by simpa using ht), rfl⟩
  case clause.clause =>
    obtain ⟨hj, hi⟩ := clause_text_inj ht
    exact ⟨hj, congrArg _ hi⟩
  case clause.value => exact absurd h.symm value_text_ne_clause_text
  case value.clause => exact absurd h value_text_ne_clause_text
  case key.key | operator.operator =>
    obtain ⟨hj, hi⟩ := clause_text_append_inj ht
    exact ⟨hj, congrArg _ hi⟩
  case value.value =>
    rw [← List.append_assoc, ← List.append_assoc] at ht
    obtain ⟨ht, hv⟩ := indexed_inj ht
    rw [List.append_assoc, List.append_assoc] at ht
    obtain ⟨hj, hi⟩ := clause_text_append_inj ht
    exact ⟨hj, by rw [hi, hv]⟩

end JobGate.Condition

/-! Cutting a text at its first separator. -/
namespace JobGate.Text

def cut (sep : Char) : List Char → Option (List Char × List Char)
  | [] => none
  | c :: rest =>
    if c = sep then some ([], rest)
    else (cut sep rest).map (fun p => (c :: p.1, p.2))

theorem cut_eq_some_iff {sep : Char} {s a b : List Char} :
    cut sep s = some (a, b) ↔ s = a ++ sep :: b ∧ sep ∉ a := by
  induction s generalizing a with
  | nil => simp [cut]
  | cons c rest ih =>
    by_cases h : c = sep
    · subst h
      cases a with
      | nil => simp [cut, eq_comm]
      | cons x a =>
        simp only [cut, if_true, Option.some.injEq, Prod.mk.injEq, List.cons_append,
          List.cons.injEq, List.mem_cons, not_or]
        constructor
        · intro h; simp at h
        · rintro ⟨⟨rfl, -⟩, h, -⟩; exact absurd rfl h
    · cases a with
      | nil => simp [cut, h]
      | cons x a =>
        simp only [cut, h, if_false, Option.map_eq_some_iff, Prod.exists, Prod.mk.injEq,
          List.cons.injEq, List.cons_append, List.mem_cons, not_or]
        constructor
        · rintro ⟨a', b', hc, ⟨rfl, rfl⟩, rfl⟩
          obtain ⟨rfl, hn⟩ := ih.1 hc
          exact ⟨⟨rfl, rfl⟩, fun e => h e.symm, hn⟩
        · rintro ⟨⟨rfl, rfl⟩, -, hn⟩
          exact ⟨a, b, ih.2 ⟨rfl, hn⟩, ⟨rfl, rfl⟩, rfl⟩

theorem cut_eq_none_iff {sep : Char} {s : List Char} : cut sep s = none ↔ sep ∉ s := by
  induction s with
  | nil => simp [cut]
  | cons c rest ih =>
    by_cases h : c = sep
    · subst h; simp [cut]
    · rw [cut, if_neg h, Option.map_eq_none_iff, ih, List.mem_cons, not_or]
      exact ⟨fun hn => ⟨fun e => h e.symm, hn⟩, And.right⟩

end JobGate.Text

import JobGate.Dictionary
/-! Dictionaries and their entries. What is under a name is what its one entry has, so the order of
the entries does not show in any look-up (`get?_eq_of_perm`). -/
namespace JobGate.Dictionary
variable {α : Type u} {d d' : Dictionary α} {name x : String} {a : α}

/- Entries and look-ups. -/

theorem mem_entries_of_get? (h : d.get? name = some a) : (name, a) ∈ d.entries := by
  obtain ⟨before, after, hentries, -⟩ := List.lookup_eq_some_iff.1 h
  rw [hentries]
  exact List.mem_append_right _ List.mem_cons_self

theorem get?_of_mem_entries (h : (name, a) ∈ d.entries) : d.get? name = some a := by
  obtain ⟨l, hnodup⟩ := d
  show l.lookup name = some a
  change (name, a) ∈ l at h
  induction l with
  | nil => cases h
  | cons e l ih =>
    obtain ⟨n, b⟩ := e
    rw [List.map_cons, List.nodup_cons] at hnodup
    obtain he | hl := List.mem_cons.1 h
    · cases he
      exact List.lookup_cons_self
    · have hne : name ≠ n := by
        intro hn
        exact hnodup.1 (List.mem_map.2 ⟨(name, a), hl, hn⟩)
      rw [List.lookup_cons, beq_false_of_ne hne]
      exact ih hnodup.2 hl

theorem get?_eq_some_iff : d.get? name = some a ↔ (name, a) ∈ d.entries :=
  ⟨mem_entries_of_get?, get?_of_mem_entries⟩

theorem get?_eq_of_perm (h : d.entries.Perm d'.entries) : d.get? name = d'.get? name := by
  apply Option.ext
  intro a
  rw [get?_eq_some_iff, get?_eq_some_iff, h.mem_iff]

/- Insertions and removals. -/

theorem map_get?_insert {β : Type v} {f : α → β} (h : x = name → (d.get? x).map f = some (f a)) :
    ((d.insert name a).get? x).map f = (d.get? x).map f := by
  rw [get?_insert]
  split
  · next hx => exact (h hx).symm
  · rfl

@[simp] theorem get?_erase_self : (d.erase name).get? name = none := by
  rw [get?_erase, if_pos rfl]

theorem get?_erase_of_ne (h : x ≠ name) : (d.erase name).get? x = d.get? x := by
  rw [get?_erase, if_neg h]

theorem isEmpty_insert : (d.insert name a).isEmpty = false := by
  obtain ⟨l, hnodup⟩ := d
  show (put l name a).isEmpty = false
  cases l with
  | nil => rfl
  | cons e l =>
    rw [put]
    split <;> rfl

theorem put_of_not_mem {l : List (String × α)} (h : name ∉ l.map Prod.fst) :
    put l name a = l ++ [(name, a)] := by
  induction l with
  | nil => rfl
  | cons e l ih =>
    rw [List.map_cons, List.mem_cons, not_or] at h
    rw [put, if_neg (fun he => h.1 he.symm), ih h.2, List.cons_append]

/- Dictionaries made of pairs. -/

section ofList
variable {P : String → α → Prop} {l : List (String × α)}

theorem of_get?_foldl (hl : ∀ e ∈ l, P e.1 e.2) (hd : ∀ name a, d.get? name = some a → P name a) :
    ∀ name a, (l.foldl (fun d e => d.insert e.1 e.2) d).get? name = some a → P name a := by
  induction l generalizing d with
  | nil => exact hd
  | cons e l ih =>
    apply ih (fun e' he' => hl e' (List.mem_cons_of_mem _ he'))
    intro name a ha
    rw [get?_insert] at ha
    split at ha
    · next hn =>
      cases ha
      rw [hn]
      exact hl e List.mem_cons_self
    · exact hd name a ha

theorem of_get?_ofList (hl : ∀ e ∈ l, P e.1 e.2) (h : (ofList l).get? name = some a) : P name a :=
  of_get?_foldl hl (by simp) name a h

theorem get?_foldl_insert : (l.foldl (fun d e => d.insert e.1 e.2) d).get? name =
    (l.reverse.lookup name).or (d.get? name) := by
  induction l generalizing d with
  | nil => rfl
  | cons e l ih =>
    rw [List.foldl_cons, ih, get?_insert, List.reverse_cons, List.lookup_append, Option.or_assoc]
    congr 1
    by_cases hn : name = e.1
    · rw [if_pos hn, hn, List.lookup_cons_self, Option.some_or]
    · rw [if_neg hn, List.lookup_cons, beq_false_of_ne hn, List.lookup_nil, Option.none_or]

/-- The last pair with a name counts. -/
theorem get?_ofList : (ofList l).get? name = l.reverse.lookup name := by
  rw [ofList, get?_foldl_insert, get?_empty, Option.or_none]

theorem isEmpty_foldl_insert :
    (l.foldl (fun d e => d.insert e.1 e.2) d).isEmpty = (d.isEmpty && l.isEmpty) := by
  induction l generalizing d with
  | nil => simp
  | cons e l ih => simp [ih, isEmpty_insert]

theorem isEmpty_ofList : (ofList l).isEmpty = l.isEmpty := isEmpty_foldl_insert

theorem entries_foldl_insert (h : ((d.entries ++ l).map Prod.fst).Nodup) :
    (l.foldl (fun d e => d.insert e.1 e.2) d).entries = d.entries ++ l := by
  induction l generalizing d with
  | nil => exact (List.append_nil _).symm
  | cons e l ih =>
    have hsplit : d.entries ++ e :: l = (d.entries ++ [e]) ++ l := by simp
    have hnew : e.1 ∉ d.entries.map Prod.fst := by
      rw [List.map_append, List.map_cons, List.nodup_append] at h
      intro hmem
      exact h.2.2 _ hmem _ List.mem_cons_self rfl
    have hentries : (d.insert e.1 e.2).entries = d.entries ++ [e] := put_of_not_mem hnew
    have hrest : (((d.insert e.1 e.2).entries ++ l).map Prod.fst).Nodup := by
      rw [hentries, ← hsplit]
      exact h
    rw [List.foldl_cons, ih hrest, hentries, hsplit]

theorem entries_ofList (h : (l.map Prod.fst).Nodup) : (ofList l).entries = l :=
  entries_foldl_insert h

theorem ofList_entries (d : Dictionary α) : ofList d.entries = d := by
  have hentries : (ofList d.entries).entries = d.entries := entries_ofList d.nodup
  cases d
  cases h : ofList _
  rw [h] at hentries
  cases hentries
  rfl

end ofList

end JobGate.Dictionary

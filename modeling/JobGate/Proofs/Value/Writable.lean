import JobGate.Value.Written
/-! The integers in a value. To open a knot brings no new ones (`holds_of_holds_unfold`), and a
value whose integers are all short has a text (`exists_written`). -/
namespace JobGate.Value
variable {s : Scalar} {w : Value} {label : Nat}

inductive Holds (s : Scalar) : Value → Prop where
  | scalar : Holds s (.scalar s)
  | item {items : List Value} {v : Value} (hv : v ∈ items) (h : Holds s v) : Holds s (.list items)
  | key {entries : List (Scalar × Value)} {v : Value} (he : (s, v) ∈ entries) :
      Holds s (.map entries)
  | entry {entries : List (Scalar × Value)} {k : Scalar} {v : Value} (he : (k, v) ∈ entries)
      (h : Holds s v) : Holds s (.map entries)
  | knot {label : Nat} {v : Value} (h : Holds s v) : Holds s (.knot label v)

@[simp] theorem holds_scalar_iff {t : Scalar} : Holds s (.scalar t) ↔ s = t := by
  constructor
  · intro h
    cases h
    rfl
  · intro h
    exact h ▸ .scalar

@[simp] theorem holds_list_iff {items : List Value} :
    Holds s (.list items) ↔ ∃ v ∈ items, Holds s v := by
  constructor
  · intro h
    cases h with
    | item hv h => exact ⟨_, hv, h⟩
  · intro ⟨v, hv, h⟩
    exact .item hv h

@[simp] theorem holds_map_iff {entries : List (Scalar × Value)} :
    Holds s (.map entries) ↔ ∃ e ∈ entries, s = e.1 ∨ Holds s e.2 := by
  constructor
  · intro h
    cases h with
    | key he => exact ⟨_, he, .inl rfl⟩
    | entry he h => exact ⟨_, he, .inr h⟩
  · intro ⟨⟨k, v⟩, he, h⟩
    obtain rfl | h := h
    · exact .key he
    · exact .entry he h

theorem mem_of_mem_fillEntries {v : Value} {entries : List (Scalar × Value)}
    (h : (s, v) ∈ fillEntries label w entries) : ∃ u, (s, u) ∈ entries := by
  induction entries with
  | nil => cases h
  | cons e entries ih =>
    obtain ⟨k, u⟩ := e
    rw [fillEntries] at h
    obtain h | h := List.mem_cons.1 h
    · cases h
      exact ⟨u, List.mem_cons_self⟩
    · obtain ⟨u', hu⟩ := ih h
      exact ⟨u', List.mem_cons_of_mem _ hu⟩

mutual
theorem holds_of_holds_fill : (v : Value) → Holds s (fill label w v) → Holds s v ∨ Holds s w
  | .scalar _, h => .inl h
  | .list items, h => by
    rw [fill] at h
    cases h with
    | item hv h => exact (holds_of_mem_fillItems items hv h).imp_left fun ⟨_, hu, h⟩ => .item hu h
  | .map entries, h => by
    rw [fill] at h
    cases h with
    | key he =>
      obtain ⟨u, he⟩ := mem_of_mem_fillEntries he
      exact .inl (.key he)
    | entry he h =>
      exact (holds_of_mem_fillEntries entries he h).imp_left fun ⟨_, he, h⟩ => .entry he h
  | .knot l v, h => by
    rw [fill] at h
    split at h
    · exact .inl h
    · cases h with
      | knot h => exact (holds_of_holds_fill v h).imp_left .knot
  | .again l, h => by
    rw [fill] at h
    split at h
    · exact .inr h
    · exact .inl h
theorem holds_of_mem_fillItems {v : Value} : (items : List Value) →
    v ∈ fillItems label w items → Holds s v → (∃ u ∈ items, Holds s u) ∨ Holds s w
  | [], hv, _ => by cases hv
  | u :: items, hv, h => by
    rw [fillItems] at hv
    obtain rfl | hv := List.mem_cons.1 hv
    · exact (holds_of_holds_fill u h).imp_left fun h => ⟨u, List.mem_cons_self, h⟩
    · exact (holds_of_mem_fillItems items hv h).imp_left
        fun ⟨u', hu, h⟩ => ⟨u', List.mem_cons_of_mem u hu, h⟩
theorem holds_of_mem_fillEntries {k : Scalar} {v : Value} : (entries : List (Scalar × Value)) →
    (k, v) ∈ fillEntries label w entries → Holds s v →
    (∃ u, (k, u) ∈ entries ∧ Holds s u) ∨ Holds s w
  | [], he, _ => by cases he
  | (k', u) :: entries, he, h => by
    rw [fillEntries] at he
    obtain he | he := List.mem_cons.1 he
    · cases he
      exact (holds_of_holds_fill u h).imp_left fun h => ⟨u, List.mem_cons_self, h⟩
    · exact (holds_of_mem_fillEntries entries he h).imp_left
        fun ⟨u', hu, h⟩ => ⟨u', List.mem_cons_of_mem _ hu, h⟩
end

theorem holds_of_holds_unfold {v : Value} (h : Holds s v.unfold) : Holds s v := by
  cases v with
  | knot l v =>
    rw [unfold] at h
    obtain h | h := holds_of_holds_fill v h
    · exact .knot h
    · exact h
  | _ => exact h

/- Values that can be written. -/

def HasShortIntegers (v : Value) : Prop :=
  ∀ n, Holds (.int n) v → n.natAbs < Nat.pow 10 Numeral.digitLimit

namespace HasShortIntegers
variable {v : Value}

theorem unfold (h : v.HasShortIntegers) : v.unfold.HasShortIntegers :=
  fun n hn => h n (holds_of_holds_unfold hn)

theorem item {items : List Value} (h : (list items).HasShortIntegers) (hv : v ∈ items) :
    v.HasShortIntegers :=
  fun n hn => h n (.item hv hn)

theorem entry {entries : List (Scalar × Value)} {k : Scalar}
    (h : (map entries).HasShortIntegers) (he : (k, v) ∈ entries) : v.HasShortIntegers :=
  fun n hn => h n (.entry he hn)

end HasShortIntegers

theorem exists_write {n : Int} (h : n.natAbs < Nat.pow 10 Numeral.digitLimit) :
    ∃ text, Numeral.write n = .ok text :=
  ⟨toString n, Numeral.write_of_lt h⟩

theorem exists_scalar_written (h : (scalar s).HasShortIntegers) : ∃ text, s.written = .ok text := by
  cases s with
  | int n => exact exists_write (h n .scalar)
  | _ => exact ⟨_, rfl⟩

theorem exists_scalar_inner (h : (scalar s).HasShortIntegers) : ∃ text, s.inner = .ok text := by
  cases s with
  | int n =>
    have hinner : (Scalar.int n).inner = (Scalar.int n).written := by
      rw [Scalar.inner] <;> exact nofun
    rw [hinner]
    exact exists_scalar_written h
  | _ => exact ⟨_, rfl⟩

mutual
theorem exists_inner : (v : Value) → v.HasShortIntegers → (around : List (Nat × String)) →
    ∃ text, v.inner around = .ok text
  | .scalar s, h, _ => exists_scalar_inner h
  | .list items, h, around => by
    obtain ⟨texts, ht⟩ := exists_innerItems items (fun _ hv => h.item hv) around
    rw [inner, ht]
    exact ⟨_, rfl⟩
  | .map entries, h, around => by
    obtain ⟨texts, ht⟩ := exists_innerEntries entries (fun k _ he => ⟨fun n hn => by
      cases hn
      exact h n (.key he), h.entry he⟩) around
    rw [inner, ht]
    exact ⟨_, rfl⟩
  | .knot l v, h, around => by
    rw [inner]
    split
    · exact ⟨_, rfl⟩
    · exact exists_inner v (fun n hn => h n (.knot hn)) _
  | .again _, _, _ => ⟨_, rfl⟩
theorem exists_innerItems : (items : List Value) → (∀ v ∈ items, v.HasShortIntegers) →
    (around : List (Nat × String)) → ∃ texts, innerItems around items = .ok texts
  | [], _, _ => ⟨_, rfl⟩
  | v :: items, h, around => by
    obtain ⟨text, ht⟩ := exists_inner v (h v List.mem_cons_self) around
    obtain ⟨texts, hts⟩ :=
      exists_innerItems items (fun u hu => h u (List.mem_cons_of_mem v hu)) around
    rw [innerItems, ht, hts]
    exact ⟨_, rfl⟩
theorem exists_innerEntries : (entries : List (Scalar × Value)) →
    (∀ k v, (k, v) ∈ entries → (scalar k).HasShortIntegers ∧ v.HasShortIntegers) →
    (around : List (Nat × String)) → ∃ texts, innerEntries around entries = .ok texts
  | [], _, _ => ⟨_, rfl⟩
  | (k, v) :: entries, h, around => by
    obtain ⟨hk, hv⟩ := h k v List.mem_cons_self
    obtain ⟨key, hkey⟩ := exists_scalar_inner hk
    obtain ⟨text, ht⟩ := exists_inner v hv around
    obtain ⟨texts, hts⟩ :=
      exists_innerEntries entries (fun k' u hu => h k' u (List.mem_cons_of_mem _ hu)) around
    rw [innerEntries, hkey, ht, hts]
    exact ⟨_, rfl⟩
end

theorem exists_written {v : Value} (h : v.HasShortIntegers) : ∃ text, v.written = .ok text := by
  cases v with
  | scalar s => exact exists_scalar_written h
  | _ => exact exists_inner _ h []

theorem writtenAll_ne_error {vs : List Value} (h : ∀ v ∈ vs, v.HasShortIntegers)
    (f : Numeral.Fault) : writtenAll vs ≠ .error f := by
  induction vs with
  | nil => exact nofun
  | cons v vs ih =>
    obtain ⟨text, ht⟩ := exists_written (h v List.mem_cons_self)
    have hvs := ih (fun u hu => h u (List.mem_cons_of_mem v hu))
    rw [writtenAll, ht]
    cases hw : writtenAll vs with
    | ok texts => exact nofun
    | error f' =>
      intro hf
      cases hf
      exact hvs hw

end JobGate.Value

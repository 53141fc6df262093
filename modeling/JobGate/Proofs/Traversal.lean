import Mathlib.Data.List.Forall2
/-! Going through a list up to the first fault. A traversal fails with the fault of the first
element that has one, and gives a result for each element if none has. -/
namespace JobGate.Traversal
variable {α β : Type u} {ε : Type v}

theorem bind_eq_ok_iff {x : Except ε α} {g : α → Except ε β} {b : β} :
    x >>= g = .ok b ↔ ∃ a, x = .ok a ∧ g a = .ok b := by
  cases x with
  | error e => simp [bind, Except.bind]
  | ok a => simp [bind, Except.bind]

theorem bind_eq_error_iff {x : Except ε α} {g : α → Except ε β} {e : ε} :
    x >>= g = .error e ↔ x = .error e ∨ ∃ a, x = .ok a ∧ g a = .error e := by
  cases x with
  | error e' => simp [bind, Except.bind]
  | ok a => simp [bind, Except.bind]

theorem mapError_eq_ok_iff {δ : Type w} {x : Except ε α} {g : ε → δ} {a : α} :
    x.mapError g = .ok a ↔ x = .ok a := by
  cases x <;> simp [Except.mapError]

theorem mapError_eq_error_iff {δ : Type w} {x : Except ε α} {g : ε → δ} {d : δ} :
    x.mapError g = .error d ↔ ∃ e, x = .error e ∧ d = g e := by
  cases x <;> simp [Except.mapError, eq_comm]

theorem isOk_iff {x : Except ε α} : x.isOk ↔ ∃ a, x = .ok a := by
  cases x <;> simp [Except.isOk, Except.toBool]

theorem mapM_congr {f g : α → Except ε β} {l : List α} (h : ∀ a ∈ l, f a = g a) :
    l.mapM f = l.mapM g := by
  induction l with
  | nil => rfl
  | cons a l ih =>
    have ⟨ha, hl⟩ := List.forall_mem_cons.1 h
    rw [List.mapM_cons, List.mapM_cons, ha, ih hl]

theorem mapM_eq_ok_iff {f : α → Except ε β} {l : List α} {bs : List β} :
    l.mapM f = .ok bs ↔ List.Forall₂ (fun a b => f a = .ok b) l bs := by
  induction l generalizing bs with
  | nil => cases bs <;> simp [pure, Except.pure]
  | cons a l ih =>
    rw [List.mapM_cons, bind_eq_ok_iff]
    simp only [bind_eq_ok_iff, pure, Except.pure, Except.ok.injEq, ih]
    constructor
    · intro h
      obtain ⟨b, hb, rest, hrest, rfl⟩ := h
      exact .cons hb hrest
    · intro h
      cases h with
      | cons hb hrest => exact ⟨_, hb, _, hrest, rfl⟩

theorem mapM_eq_error_iff {f : α → Except ε β} {l : List α} {e : ε} :
    l.mapM f = .error e ↔ ∃ (i : Nat) (a : α), l[i]? = some a ∧ f a = .error e ∧
      ∀ k < i, ∀ b, l[k]? = some b → ∃ c, f b = .ok c := by
  induction l with
  | nil => simp [pure, Except.pure]
  | cons a l ih =>
    rw [List.mapM_cons, bind_eq_error_iff]
    simp only [bind_eq_error_iff, pure, Except.pure, reduceCtorEq, and_false, exists_false,
      or_false, ih]
    constructor
    · intro h
      -- the head fails, or it gives a result and the place in the tail is one further on
      obtain ha | ⟨b, hb, i, x, hx, he, hbefore⟩ := h
      · exact ⟨0, a, rfl, ha, by simp⟩
      · refine ⟨i + 1, x, hx, he, ?_⟩
        intro k hk y hy
        cases k with
        | zero =>
          obtain rfl : a = y := by simpa using hy
          exact ⟨b, hb⟩
        | succ k => exact hbefore k (by omega) y hy
    · intro ⟨i, x, hx, he, hbefore⟩
      cases i with
      | zero =>
        obtain rfl : a = x := by simpa using hx
        exact .inl he
      | succ i =>
        obtain ⟨b, hb⟩ := hbefore 0 (by omega) a rfl
        exact .inr ⟨b, hb, i, x, hx, he, fun k hk y hy => hbefore (k + 1) (by omega) y hy⟩

theorem mapM_zipIdx_eq_error_iff {α : Type u} {f : α × Nat → Except ε β} {l : List α} {e : ε} :
    l.zipIdx.mapM f = .error e ↔ ∃ (i : Nat) (a : α), l[i]? = some a ∧ f (a, i) = .error e ∧
      ∀ k < i, ∀ b, l[k]? = some b → ∃ c, f (b, k) = .ok c := by
  rw [mapM_eq_error_iff]
  simp only [List.getElem?_zipIdx, Nat.zero_add, Option.map_eq_some_iff]
  constructor
  · intro h
    obtain ⟨i, _, ⟨a, ha, rfl⟩, he, hbefore⟩ := h
    exact ⟨i, a, ha, he, fun k hk b hb => hbefore k hk _ ⟨b, hb, rfl⟩⟩
  · intro ⟨i, a, ha, he, hbefore⟩
    refine ⟨i, _, ⟨a, ha, rfl⟩, he, ?_⟩
    intro k hk _ hb
    obtain ⟨b, hb, rfl⟩ := hb
    exact hbefore k hk b hb

/-- The first element of a list that does not meet a demand: all before it do. -/
inductive FirstFailing {α : Type u} (P : α → Prop) : List α → α → Prop where
  | here {a : α} {l : List α} (h : ¬ P a) : FirstFailing P (a :: l) a
  | later {a b : α} {l : List α} (h : P a) (hl : FirstFailing P l b) : FirstFailing P (a :: l) b

section
variable {α : Type u} {P : α → Prop} {l : List α} {a : α}

theorem FirstFailing.mem_and_not (h : FirstFailing P l a) : a ∈ l ∧ ¬ P a := by
  induction h with
  | here h => exact ⟨List.mem_cons_self, h⟩
  | later _ _ ih => exact ⟨List.mem_cons_of_mem _ ih.1, ih.2⟩

theorem exists_firstFailing_iff : (∃ a, FirstFailing P l a) ↔ ¬ ∀ a ∈ l, P a := by
  constructor
  · intro ⟨a, h⟩ hall
    obtain ⟨hmem, hnot⟩ := h.mem_and_not
    exact hnot (hall a hmem)
  · intro h
    induction l with
    | nil => exact absurd (fun _ hmem => absurd hmem List.not_mem_nil) h
    | cons b l ih =>
      by_cases hb : P b
      · have hl : ¬ ∀ a ∈ l, P a := fun hall => h (List.forall_mem_cons.2 ⟨hb, hall⟩)
        obtain ⟨a, ha⟩ := ih hl
        exact ⟨a, .later hb ha⟩
      · exact ⟨b, .here hb⟩

end

theorem mapM_eq_error_iff_firstFailing {f : α → Except ε β} {l : List α} {e : ε} :
    l.mapM f = .error e ↔
      ∃ a, FirstFailing (fun a => ∃ b, f a = .ok b) l a ∧ f a = .error e := by
  induction l with
  | nil =>
    simp only [List.mapM_nil, pure, Except.pure, reduceCtorEq, false_iff]
    intro ⟨a, h, _⟩
    cases h
  | cons a l ih =>
    rw [List.mapM_cons, bind_eq_error_iff]
    simp only [bind_eq_error_iff, pure, Except.pure, reduceCtorEq, and_false, exists_false,
      or_false, ih]
    constructor
    · intro h
      obtain ha | ⟨b, hb, x, hx, he⟩ := h
      · exact ⟨a, .here (by simp [ha]), ha⟩
      · exact ⟨x, .later ⟨b, hb⟩ hx, he⟩
    · intro ⟨x, hx, he⟩
      cases hx with
      | here _ => exact .inl he
      | later hb hx =>
        obtain ⟨b, hb⟩ := hb
        exact .inr ⟨b, hb, x, hx, he⟩

theorem exists_of_mem_right {R : α → β → Prop} {l : List α} {bs : List β}
    (h : List.Forall₂ R l bs) : ∀ b ∈ bs, ∃ a ∈ l, R a b := by
  induction h with
  | nil => simp
  | cons hab _ ih =>
    intro b hb
    obtain rfl | hb := List.mem_cons.1 hb
    · exact ⟨_, by simp, hab⟩
    · obtain ⟨a, ha, hr⟩ := ih b hb
      exact ⟨a, by simp [ha], hr⟩

theorem exists_of_mem_left {R : α → β → Prop} {l : List α} {bs : List β}
    (h : List.Forall₂ R l bs) : ∀ a ∈ l, ∃ b ∈ bs, R a b :=
  exists_of_mem_right h.flip

theorem exists_forall₂ {R : α → β → Prop} {l : List α} (h : ∀ a ∈ l, ∃ b, R a b) :
    ∃ bs, List.Forall₂ R l bs := by
  induction l with
  | nil => exact ⟨[], .nil⟩
  | cons a l ih =>
    obtain ⟨b, hb⟩ := h a List.mem_cons_self
    obtain ⟨bs, hbs⟩ := ih fun x hx => h x (List.mem_cons_of_mem a hx)
    exact ⟨b :: bs, .cons hb hbs⟩

theorem forall₂_filterMap {f : α → Option β} {l : List α} (h : ∀ a ∈ l, ∃ b, f a = some b) :
    List.Forall₂ (fun a b => f a = some b) l (l.filterMap f) := by
  induction l with
  | nil => exact .nil
  | cons a l ih =>
    obtain ⟨⟨b, hb⟩, hl⟩ := List.forall_mem_cons.1 h
    rw [List.filterMap_cons_some hb]
    exact .cons hb (ih hl)

theorem forall₂_zipIdx_iff {α : Type u} {R : α → β → Prop} {l : List α} {bs : List β} :
    List.Forall₂ (fun p b => R p.1 b) l.zipIdx bs ↔ List.Forall₂ R l bs := by
  nth_rewrite 2 [← List.zipIdx_map_fst 0 l]
  rw [List.forall₂_map_left_iff]

theorem forall_mem_take_iff {α : Type u} {l : List α} {i : Nat} {P : α → Prop} :
    (∀ a ∈ l.take i, P a) ↔ ∀ k < i, ∀ a, l[k]? = some a → P a := by
  simp only [List.mem_iff_getElem?, List.getElem?_take]
  constructor
  · intro h k hk a ha
    exact h a ⟨k, by rw [if_pos hk, ha]⟩
  · intro h a ⟨k, hk⟩
    split at hk
    · next hlt => exact h k hlt a hk
    · cases hk

theorem forall_mem_zipIdx {α : Type u} {P : α → Prop} {l : List α} :
    (∀ p ∈ l.zipIdx, P p.1) ↔ ∀ a ∈ l, P a := by
  have h := List.forall_mem_map (f := Prod.fst) (l := l.zipIdx) (P := P)
  rw [List.zipIdx_map_fst] at h
  exact h.symm

end JobGate.Traversal

import JobGate.CommandLine.Binding
import JobGate.Proofs.Dictionary
import JobGate.Proofs.Traversal
/-! Bindings that are read. `Gives` says what a text gives to a name, with no mention of how it is
cut, and `LastGives` which of several texts counts: main statement, `readBindings_last_wins`. -/
namespace JobGate.CommandLine
open Traversal
variable {s name name' value value' : String} {ss : List String} {d : Dictionary String}
variable {p : String × String} {ps : List (String × String)}

/-- A text that binds a name: it has an equals sign, and something before it. -/
def IsBinding (s : String) : Prop := '=' ∈ s.toList ∧ s.toList.head? ≠ some '='

instance : DecidablePred IsBinding := fun _ => inferInstanceAs (Decidable (_ ∧ _))

/-- The name is all before the first equals sign, and the value all after it. -/
def Gives (s name value : String) : Prop := s = name ++ "=" ++ value ∧ '=' ∉ name.toList

inductive LastGives (name value : String) : List String → Prop where
  | here {s : String} {ss : List String} (h : Gives s name value)
      (hlater : ∀ later ∈ ss, ∀ v, ¬ Gives later name v) : LastGives name value (s :: ss)
  | later {s : String} {ss : List String} (h : LastGives name value ss) :
      LastGives name value (s :: ss)

/- One text. -/

theorem gives_iff_toList :
    Gives s name value ↔ s.toList = name.toList ++ '=' :: value.toList ∧ '=' ∉ name.toList := by
  rw [Gives, ← String.toList_inj]
  simp

theorem Gives.unique (h : Gives s name value) (h' : Gives s name' value') :
    name = name' ∧ value = value' := by
  have hcut := Text.cut_eq_some_iff.2 (gives_iff_toList.1 h)
  rw [Text.cut_eq_some_iff.2 (gives_iff_toList.1 h')] at hcut
  simp only [Option.some.injEq, Prod.mk.injEq, String.toList_inj] at hcut
  exact ⟨hcut.1.symm, hcut.2.symm⟩

theorem binding?_eq_some_iff_gives : binding? s = some p ↔ Gives s p.1 p.2 ∧ p.1 ≠ "" := by
  rw [binding?_eq_some_iff, gives_iff_toList, and_assoc]

theorem isBinding_iff : IsBinding s ↔ ∃ p, binding? s = some p := by
  simp only [binding?_eq_some_iff_gives, gives_iff_toList, IsBinding]
  constructor
  · intro ⟨hmem, hhead⟩
    obtain ⟨name, value, hs, hname⟩ := List.eq_append_cons_of_mem hmem
    refine ⟨(String.ofList name, String.ofList value), by simpa using ⟨hs, hname⟩, ?_⟩
    intro hempty
    have hnil : name = [] := by simpa using hempty
    rw [hs, hnil] at hhead
    exact hhead rfl
  · intro ⟨⟨name, value⟩, ⟨hs, hname⟩, hne⟩
    refine ⟨by simp [hs], ?_⟩
    -- the first character is one of the name, which has no equals sign
    cases hcs : name.toList with
    | nil => exact absurd (by simpa using hcs) hne
    | cons c cs =>
      rw [hcs] at hname
      rw [hs, hcs]
      intro hc
      cases hc
      exact hname List.mem_cons_self

theorem readBinding_eq_ok_iff : readBinding s = .ok p ↔ binding? s = some p := by
  rw [readBinding]
  cases binding? s <;> simp

theorem readBinding_eq_error_iff {e : UsageError} :
    readBinding s = .error e ↔ ¬ IsBinding s ∧ e = .malformedBinding s := by
  rw [isBinding_iff, readBinding]
  cases binding? s <;> simp [eq_comm]

/- Lists of texts. -/

theorem readBindings_eq_ok_iff : readBindings ss = .ok d ↔
    ∃ ps, List.Forall₂ (fun s p => binding? s = some p) ss ps ∧ d = .ofList ps := by
  have hmap : readBindings ss = .ok d ↔ ∃ ps, ss.mapM readBinding = .ok ps ∧ d = .ofList ps := by
    rw [readBindings]
    cases ss.mapM readBinding <;> simp [Except.map, eq_comm]
  simp only [hmap, mapM_eq_ok_iff, readBinding_eq_ok_iff]

theorem exists_readBindings_iff : (∃ d, readBindings ss = .ok d) ↔ ∀ s ∈ ss, IsBinding s := by
  simp only [readBindings_eq_ok_iff, isBinding_iff]
  constructor
  · intro ⟨_, ps, hps, _⟩ s hs
    obtain ⟨p, -, hp⟩ := exists_of_mem_left hps s hs
    exact ⟨p, hp⟩
  · intro h
    obtain ⟨ps, hps⟩ := exists_forall₂ h
    exact ⟨_, ps, hps, rfl⟩

theorem readBindings_eq_error_iff {e : UsageError} : readBindings ss = .error e ↔
    ∃ s, FirstFailing IsBinding ss s ∧ e = .malformedBinding s := by
  have hmap : readBindings ss = .error e ↔ ss.mapM readBinding = .error e := by
    rw [readBindings]
    cases ss.mapM readBinding <;> simp [Except.map]
  have hbinding : ∀ s, (∃ p, readBinding s = .ok p) ↔ IsBinding s := by
    intro s
    simp only [readBinding_eq_ok_iff, isBinding_iff]
  simp only [hmap, mapM_eq_error_iff_firstFailing, hbinding, readBinding_eq_error_iff]
  constructor
  · intro ⟨s, hfirst, _, he⟩
    exact ⟨s, hfirst, he⟩
  · intro ⟨s, hfirst, he⟩
    exact ⟨s, hfirst, hfirst.mem_and_not.2, he⟩

theorem LastGives.exists_gives (h : LastGives name value ss) : ∃ s ∈ ss, Gives s name value := by
  induction h with
  | here h _ => exact ⟨_, List.mem_cons_self, h⟩
  | later _ ih =>
    obtain ⟨s, hs, h⟩ := ih
    exact ⟨s, List.mem_cons_of_mem _ hs, h⟩

theorem exists_lastGives_iff :
    (∃ value, LastGives name value ss) ↔ ∃ s ∈ ss, ∃ value, Gives s name value := by
  constructor
  · intro ⟨value, h⟩
    obtain ⟨s, hs, h⟩ := h.exists_gives
    exact ⟨s, hs, value, h⟩
  · intro h
    induction ss with
    | nil => simp at h
    | cons s ss ih =>
      by_cases hlater : ∃ later ∈ ss, ∃ value, Gives later name value
      · obtain ⟨value, h⟩ := ih hlater
        exact ⟨value, .later h⟩
      · obtain ⟨value, h⟩ : ∃ value, Gives s name value := by
          simpa [hlater] using h
        exact ⟨value, .here h fun later hmem v hv => hlater ⟨later, hmem, v, hv⟩⟩

theorem not_gives_of_not_lastGives (h : ∀ value, ¬ LastGives name value ss) :
    ∀ s ∈ ss, ∀ v, ¬ Gives s name v := by
  intro s hs v hgives
  obtain ⟨value, hlast⟩ := exists_lastGives_iff.2 ⟨s, hs, v, hgives⟩
  exact h value hlast

theorem LastGives.not_free (h : LastGives name value ss) :
    ¬ ∀ s ∈ ss, ∀ v, ¬ Gives s name v := by
  intro hfree
  obtain ⟨s, hs, hgives⟩ := h.exists_gives
  exact hfree s hs value hgives

theorem lastGives_cons_iff : LastGives name value (s :: ss) ↔ LastGives name value ss ∨
    (∀ later ∈ ss, ∀ v, ¬ Gives later name v) ∧ Gives s name value := by
  constructor
  · intro h
    cases h with
    | here h hlater => exact .inr ⟨hlater, h⟩
    | later h => exact .inl h
  · intro h
    obtain h | ⟨hlater, h⟩ := h
    · exact .later h
    · exact .here h hlater

section
variable {p : String → Bool}

theorem forall_not_gives_filter_iff (h : ∀ s ∈ ss, ∀ v, Gives s name v → p s) :
    (∀ s ∈ ss.filter p, ∀ v, ¬ Gives s name v) ↔ ∀ s ∈ ss, ∀ v, ¬ Gives s name v := by
  constructor
  · intro hfilter s hs v hv
    exact hfilter s (List.mem_filter.2 ⟨hs, h s hs v hv⟩) v hv
  · intro hall s hs
    exact hall s (List.mem_filter.1 hs).1

theorem lastGives_filter_iff (h : ∀ s ∈ ss, ∀ v, Gives s name v → p s) :
    LastGives name value (ss.filter p) ↔ LastGives name value ss := by
  induction ss with
  | nil => rfl
  | cons s ss ih =>
    obtain ⟨hs, hss⟩ := List.forall_mem_cons.1 h
    rw [lastGives_cons_iff, List.filter_cons]
    split
    · rw [lastGives_cons_iff, ih hss, forall_not_gives_filter_iff hss]
    · next hp =>
      have hnone : ¬ Gives s name value := fun hv => hp (hs value hv)
      rw [ih hss]
      simp only [hnone, and_false, or_false]

end

theorem gives_iff_of_binding? (h : binding? s = some p) : Gives s name value ↔ p = (name, value) := by
  have hgives := (binding?_eq_some_iff_gives.1 h).1
  constructor
  · intro h'
    obtain ⟨hname, hvalue⟩ := hgives.unique h'
    exact Prod.ext hname hvalue
  · intro hp
    rw [hp] at hgives
    exact hgives

theorem lookup_singleton_eq_some_iff : [p].lookup name = some value ↔ p = (name, value) := by
  obtain ⟨n, v⟩ := p
  by_cases hn : name = n
  · simp [hn]
  · simp [List.lookup_cons, beq_false_of_ne hn, Ne.symm hn]

section
variable (h : List.Forall₂ (fun s p => binding? s = some p) ss ps)
include h

theorem lookup_eq_none_iff_gives :
    ps.reverse.lookup name = none ↔ ∀ s ∈ ss, ∀ v, ¬ Gives s name v := by
  induction h with
  | nil => simp
  | @cons s p ss ps hp _ ih =>
    have hlast : [p].lookup name = none ↔ ∀ v, ¬ Gives s name v := by
      simp only [Option.eq_none_iff_forall_ne_some, ne_eq, lookup_singleton_eq_some_iff,
        gives_iff_of_binding? hp]
    rw [List.reverse_cons, List.lookup_append, Option.or_eq_none_iff, ih, hlast,
      List.forall_mem_cons, and_comm]

theorem lookup_eq_some_iff_lastGives :
    ps.reverse.lookup name = some value ↔ LastGives name value ss := by
  induction h with
  | nil =>
    constructor
    · intro h
      cases h
    · intro h
      cases h
  | @cons s p ss ps hp hps ih =>
    rw [List.reverse_cons, List.lookup_append, Option.or_eq_some_iff, ih, lastGives_cons_iff,
      lookup_eq_none_iff_gives hps, gives_iff_of_binding? hp, lookup_singleton_eq_some_iff]

end

theorem get?_of_readBindings (h : readBindings ss = .ok d) :
    d.get? name = some value ↔ LastGives name value ss := by
  obtain ⟨ps, hps, rfl⟩ := readBindings_eq_ok_iff.1 h
  rw [Dictionary.get?_ofList, lookup_eq_some_iff_lastGives hps]

theorem mem_names_of_readBindings (h : readBindings ss = .ok d) :
    name ∈ d.names ↔ ∃ s ∈ ss, ∃ value, Gives s name value := by
  obtain ⟨ps, hps, rfl⟩ := readBindings_eq_ok_iff.1 h
  rw [← Dictionary.get?_isSome_iff, Dictionary.get?_ofList, Option.isSome_iff_ne_none, ne_eq,
    lookup_eq_none_iff_gives hps]
  simp only [not_forall, not_not, exists_prop]

theorem readBindings_of_pairs (h : ∀ p ∈ ps, p.1 ≠ "" ∧ '=' ∉ p.1.toList) :
    readBindings (ps.map fun p => p.1 ++ "=" ++ p.2) = .ok (.ofList ps) := by
  refine readBindings_eq_ok_iff.2 ⟨ps, ?_, rfl⟩
  rw [List.forall₂_map_left_iff, List.forall₂_same]
  intro p hp
  exact binding?_eq_some_iff_gives.2 ⟨⟨rfl, (h p hp).2⟩, (h p hp).1⟩

/-- Texts are read together exactly if each of them is a binding; otherwise the first that is none
is told. What is read has the names that are given something, and under each of them what the last
text gives to it that gives it something at all. So pairs whose names are not empty and have no
equals sign are given back by their texts, the last one of those with the same name. -/
theorem readBindings_last_wins (ss : List String) :
    ((∃ d, readBindings ss = .ok d) ↔ ∀ s ∈ ss, IsBinding s) ∧
    (∀ e, readBindings ss = .error e ↔ ∃ s, FirstFailing IsBinding ss s ∧
      e = .malformedBinding s ∧
      e.message = s!"Invalid value for --set: expected name=value, got '{s}'") ∧
    (∀ d, readBindings ss = .ok d →
      (∀ name, name ∈ d.names ↔ ∃ s ∈ ss, ∃ value, Gives s name value) ∧
      ∀ name value, d.get? name = some value ↔ LastGives name value ss) ∧
    ∀ ps : List (String × String), (∀ p ∈ ps, p.1 ≠ "" ∧ '=' ∉ p.1.toList) →
      ∃ d, readBindings (ps.map fun p => p.1 ++ "=" ++ p.2) = .ok d ∧
        ∀ name, d.get? name = ps.reverse.lookup name := by
  refine ⟨exists_readBindings_iff, ?_, ?_, ?_⟩
  · intro e
    rw [readBindings_eq_error_iff]
    constructor
    · rintro ⟨s, hfirst, rfl⟩
      exact ⟨s, hfirst, rfl, rfl⟩
    · intro ⟨s, hfirst, he, _⟩
      exact ⟨s, hfirst, he⟩
  · intro d h
    exact ⟨fun _ => mem_names_of_readBindings h, fun _ _ => get?_of_readBindings h⟩
  · intro ps h
    exact ⟨_, readBindings_of_pairs h, fun _ => Dictionary.get?_ofList⟩

/- A name that is given two values, the last with an equals sign, and one that is given no text. -/

theorem readBindings_last_wins_twice :
    (∃ d, readBindings ["k=a", "n=", "k==b "] = .ok d ∧ d.get? "k" = some "=b " ∧
      "n" ∈ d.names) ∧
    readBindings ["k=a", "=b", "k"] = .error (.malformedBinding "=b") ∧
    ∃ d, readBindings ["k=a", "k=b=c"] = .ok d ∧ d.get? "k" = some "b=c" := by
  obtain ⟨hexists, -, hread, -⟩ := readBindings_last_wins ["k=a", "n=", "k==b "]
  obtain ⟨-, herror, -, hpairs⟩ := readBindings_last_wins ["k=a", "=b", "k"]
  have hlast : LastGives "k" "=b " ["k=a", "n=", "k==b "] :=
    .later (.later (.here ⟨rfl, by decide⟩ nofun))
  refine ⟨?_, ?_, ?_⟩
  · obtain ⟨d, hd⟩ := hexists.2 (by decide)
    obtain ⟨hnames, hget⟩ := hread d hd
    exact ⟨d, hd, (hget _ _).2 hlast, (hnames _).2 ⟨"n=", by simp, "", rfl, by decide⟩⟩
  · exact (herror _).2 ⟨"=b", .later (by decide) (.here (by decide)), rfl, rfl⟩
  · obtain ⟨d, hd, hget⟩ := hpairs [("k", "a"), ("k", "b=c")] (by decide)
    exact ⟨d, hd, hget "k"⟩

end JobGate.CommandLine

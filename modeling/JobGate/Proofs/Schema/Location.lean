import JobGate.Schema.Workflow
import Mathlib.Data.List.Sigma
/-! Where violations stand. What is told below a path is what is told of the part there
(`ToldAlone`); maps are told of by their entries, since several keys may be told alike. -/
namespace JobGate.Schema

def within (s : Segment) (vs : List Violation) : List Violation :=
  vs.filterMap fun v =>
    match v.location with
    | t :: rest => if t = s then some ⟨rest, v.cause⟩ else none
    | [] => none

def below (path : List Segment) (vs : List Violation) : List Violation :=
  path.foldl (fun vs s => within s vs) vs

variable {s t : Segment} {vs ws : List Violation} {path : List Segment}

@[simp] theorem below_nil : below [] vs = vs := rfl

@[simp] theorem below_cons : below (s :: path) vs = below path (within s vs) := rfl

@[simp] theorem within_nil : within s [] = [] := rfl

@[simp] theorem within_append : within s (vs ++ ws) = within s vs ++ within s ws :=
  List.filterMap_append

theorem within_map_under : within s (vs.map (·.under t)) = if t = s then vs else [] := by
  induction vs with
  | nil => simp
  | cons v vs ih =>
    by_cases h : t = s <;> simp_all [within, Violation.under]

theorem within_flatMap_under {f : β → List Violation} {g : β → Segment} {l : List β} :
    within s (l.flatMap (fun b => (f b).map (·.under (g b)))) =
      (l.filter (fun b => g b = s)).flatMap f := by
  induction l with
  | nil => rfl
  | cons b l ih =>
    rw [List.flatMap_cons, within_append, within_map_under, ih, List.filter_cons]
    by_cases h : g b = s <;> simp [h]

theorem filter_eq_singleton {g : β → Segment} {l : List β} (h : (l.map g).Nodup) {b : β}
    (hb : b ∈ l) : l.filter (fun x => g x = g b) = [b] := by
  induction l with
  | nil => cases hb
  | cons x l ih =>
    rw [List.map_cons, List.nodup_cons] at h
    rw [List.filter_cons]
    obtain rfl | hb := List.mem_cons.1 hb
    · have hrest : l.filter (fun x => g x = g b) = [] := by
        rw [List.filter_eq_nil_iff]
        intro y hy hgy
        have hgy : g y = g b := by simpa using hgy
        exact h.1 (hgy ▸ List.mem_map_of_mem hy)
      simp [hrest]
    · have hne : g x ≠ g b := fun hg => h.1 (hg ▸ List.mem_map_of_mem hb)
      simp [hne, ih h.2 hb]

/- Fields of a record. -/

section
variable {read : Value → Checked α} {fields : Fields} {name other : String} {u v : Value}

def fieldViolations (name : String) (read : Value → Checked α) (fields : Fields) :
    List Violation :=
  match Value.field? name fields with
  | some v => (read v).violations
  | none => []

def placedViolations (name : String) (read : Value → Checked α) (fields : Fields) :
    List Violation :=
  (fieldViolations name read fields).map (·.under (.name name))

theorem violations_optional {default : α} :
    (fields.optional name default read).violations = placedViolations name read fields := by
  rw [Fields.optional, placedViolations, fieldViolations]
  cases Value.field? name fields with
  | none => rfl
  | some v => exact Checked.violations_under _ _

theorem within_placedViolations :
    within (.name other) (placedViolations name read fields) =
      if name = other then fieldViolations name read fields else [] := by
  rw [placedViolations, within_map_under]
  simp

theorem within_required_of_ne (h : name ≠ other) :
    within (.name other) (fields.required name read).violations = [] := by
  have hsegment : Segment.name name ≠ .name other := by simpa using h
  unfold Fields.required
  split <;> rw [Checked.violations_under, within_map_under, if_neg hsegment]

theorem fieldViolations_of_field? (h : Value.field? name fields = some v) :
    fieldViolations name read fields = (read v).violations := by
  rw [fieldViolations, h]

theorem readRecord_of_unfold {r : Record} {read : Fields → Checked α} (h : v.unfold = .map fields) :
    readRecord r read v = read fields := by
  rw [readRecord, h]

/- Elements of a list. -/

theorem violations_readItems {i : Nat} {items : List Value} :
    (readItems read i items).violations =
      (items.zipIdx i).flatMap (fun p => (read p.1).violations.map (·.under (.index p.2))) := by
  induction items generalizing i with
  | nil => rfl
  | cons item items ih => simp [readItems, ih]

theorem within_readList {items : List Value} {i : Nat} (h : v.unfold = .list items)
    (hi : items[i]? = some u) :
    within (.index i) (readList read v).violations = (read u).violations := by
  have hindices : (items.zipIdx.map (fun p => Segment.index p.2)).Nodup := by
    have hsnd := (List.nodup_zipIdx_map_snd items).map (f := fun n : Nat => Segment.index n)
      (fun a b hab => Int.ofNat.inj (Segment.index.inj hab))
    rwa [List.map_map] at hsnd
  have hmem : (u, i) ∈ items.zipIdx := List.mem_zipIdx_iff_getElem?.2 hi
  have hone := filter_eq_singleton hindices hmem
  rw [readList, h]
  dsimp only
  rw [violations_readItems, within_flatMap_under, hone, List.flatMap_singleton]

end

/- Parts by themselves. -/

def part? : List Segment → Value → Option Value
  | [], v => some v
  | .name name :: path, v =>
    match v.unfold with
    | .map fields => (Value.field? name fields).bind (part? path)
    | _ => none
  | .index (.ofNat i) :: path, v =>
    match v.unfold with
    | .list items => items[i]?.bind (part? path)
    | _ => none
  | .index (.negSucc _) :: _, _ => none

/-- What is told below a path is what is told of the part there by itself. -/
def ToldAlone (path : List Segment) (read : Value → Checked α) (v : Value)
    (vs : List Violation) : Prop :=
  ∀ u, part? path v = some u → below path vs = (read u).violations

section
variable {α : Type u} {β : Type w} {read : Value → Checked α} {readPart : Value → Checked β}
  {path : List Segment} {v : Value}

theorem toldAlone_nil : ToldAlone [] read v (read v).violations := by
  intro u hu
  cases hu
  rfl

theorem toldAlone_field {name : String} {vs : List Violation}
    (hwithin : ∀ fields, v.unfold = .map fields →
      within (.name name) vs = fieldViolations name readPart fields)
    (h : ∀ u, ToldAlone path read u (readPart u).violations) :
    ToldAlone (.name name :: path) read v vs := by
  intro u hu
  unfold part? at hu
  split at hu
  · next fields hv =>
    obtain ⟨field, hfield, hu⟩ := Option.bind_eq_some_iff.1 hu
    rw [below_cons, hwithin fields hv, fieldViolations_of_field? hfield]
    exact h field u hu
  · cases hu

theorem toldAlone_readList {i : Nat} (h : ∀ u, ToldAlone path read u (readPart u).violations) :
    ToldAlone (.index i :: path) read v (readList readPart v).violations := by
  intro u hu
  change part? (.index (.ofNat i) :: path) v = some u at hu
  unfold part? at hu
  split at hu
  · next items hv =>
    obtain ⟨item, hitem, hu⟩ := Option.bind_eq_some_iff.1 hu
    rw [below_cons, within_readList hv hitem]
    exact h item u hu
  · cases hu

theorem toldAlone_readNullable {name : String}
    (h : ToldAlone (.name name :: path) read v (readPart v).violations) :
    ToldAlone (.name name :: path) read v (readNullable readPart v).violations := by
  intro u hu
  unfold readNullable
  split
  · cases hu
  · rw [Checked.violations_map]
    exact h u hu

end

/- Entries of a map. -/

section
variable {read : String → Value → Checked α} {v : Value} {entries : List (Scalar × Value)}

/-- What is told of a key, below the place where it is told to stand. -/
def keyViolations : Scalar → List Violation
  | .text _ => []
  | _ => [⟨[.name "[key]"], .notText⟩]

theorem violations_readKey (k : Scalar) :
    (readKey k).violations = (keyViolations k).map (·.under (keySegment k)) := by
  cases k <;> rfl

def entryViolations (read : String → Value → Checked α) (e : Scalar × Value) : List Violation :=
  keyViolations e.1 ++ (read "" e.2).violations

theorem violations_readEntries
    (hname : ∀ name v, (read name v).violations = (read "" v).violations) :
    (readEntries read entries).violations =
      entries.flatMap (fun e => (entryViolations read e).map (·.under (keySegment e.1))) := by
  induction entries with
  | nil => rfl
  | cons e entries ih =>
    simp [readEntries, ih, violations_readKey, entryViolations, hname]

/-- The violations of a map are those of its entries, each where its key is told to stand. Where all
keys are texts, what is told below a key is what is told of its value by itself. -/
structure ToldByEntries (read : String → Value → Checked α) (entries : List (Scalar × Value))
    (vs : List Violation) : Prop where
  whole : vs = entries.flatMap (fun e => (entryViolations read e).map (·.under (keySegment e.1)))
  entry : ∀ s, within s vs =
    (entries.filter (fun e => keySegment e.1 = s)).flatMap (entryViolations read)
  text : (∀ e ∈ entries, ∃ name, e.1 = .text name) → (entries.map Prod.fst).Nodup →
    ∀ name v, (.text name, v) ∈ entries → within (.name name) vs = (read name v).violations

theorem nodup_keySegments (htext : ∀ e ∈ entries, ∃ name, e.1 = .text name)
    (hnodup : (entries.map Prod.fst).Nodup) : (entries.map (fun e => keySegment e.1)).Nodup := by
  rw [List.Nodup, List.pairwise_map] at hnodup ⊢
  refine hnodup.imp_of_mem ?_
  intro e e' he he' hne hsegment
  obtain ⟨name, hname⟩ := htext e he
  obtain ⟨name', hname'⟩ := htext e' he'
  rw [hname, hname'] at hne hsegment
  exact hne (congrArg Scalar.text (Segment.name.inj hsegment))

theorem toldByEntries_readMap
    (hname : ∀ name v, (read name v).violations = (read "" v).violations)
    (hv : v.unfold = .map entries) : ToldByEntries read entries (readMap read v).violations := by
  have hwhole : (readMap read v).violations =
      entries.flatMap (fun e => (entryViolations read e).map (·.under (keySegment e.1))) := by
    rw [readMap, hv]
    exact (Checked.violations_map _ _).trans (violations_readEntries hname)
  have hentry : ∀ s, within s (readMap read v).violations =
      (entries.filter (fun e => keySegment e.1 = s)).flatMap (entryViolations read) := by
    intro s
    rw [hwhole, within_flatMap_under]
  refine ⟨hwhole, hentry, ?_⟩
  intro htext hnodup name v hmem
  have hone := filter_eq_singleton (nodup_keySegments htext hnodup) hmem
  have hsegment : keySegment (.text name) = .name name := rfl
  rw [hsegment] at hone
  rw [hentry, hone, List.flatMap_singleton, hname]
  rfl

end

end JobGate.Schema

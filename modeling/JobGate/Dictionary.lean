/-! Values under names, in the order in which the names first came, each name once. Every operation
is told by what it does to `get?`; `names` says which names there are and in which order. -/
namespace JobGate

structure Dictionary (α : Type u) where
  entries : List (String × α)
  nodup : (entries.map Prod.fst).Nodup

namespace Dictionary
variable {α : Type u} {β : Type v}

def names (d : Dictionary α) : List String := d.entries.map Prod.fst
def get? (d : Dictionary α) (name : String) : Option α := d.entries.lookup name
def contains (d : Dictionary α) (name : String) : Bool := (d.get? name).isSome
def isEmpty (d : Dictionary α) : Bool := d.entries.isEmpty

def empty : Dictionary α := ⟨[], .nil⟩

instance : EmptyCollection (Dictionary α) := ⟨empty⟩
instance : Inhabited (Dictionary α) := ⟨empty⟩

/-- A known name keeps its place and takes the new value; a new name goes to the end. -/
def put : List (String × α) → String → α → List (String × α)
  | [], name, a => [(name, a)]
  | e :: rest, name, a => if e.1 = name then (name, a) :: rest else e :: put rest name a

theorem mem_names_put {l : List (String × α)} {name x : String} {a : α} :
    x ∈ (put l name a).map Prod.fst ↔ x = name ∨ x ∈ l.map Prod.fst := by
  induction l with
  | nil => simp [put]
  | cons e rest ih =>
    by_cases h : e.1 = name
    · subst h; simp [put]
    · simp only [put, h, if_false, List.map_cons, List.mem_cons, ih]
      exact or_left_comm

theorem nodup_put {l : List (String × α)} {name : String} {a : α}
    (h : (l.map Prod.fst).Nodup) : ((put l name a).map Prod.fst).Nodup := by
  induction l with
  | nil => simp [put]
  | cons e rest ih =>
    simp only [List.map_cons, List.nodup_cons] at h
    by_cases he : e.1 = name
    · subst he; simpa [put] using h
    · simp only [put, he, if_false, List.map_cons, List.nodup_cons, mem_names_put, not_or]
      exact ⟨⟨not_false, h.1⟩, ih h.2⟩

theorem lookup_put {l : List (String × α)} {name x : String} {a : α} :
    (put l name a).lookup x = if x = name then some a else l.lookup x := by
  induction l with
  | nil =>
    by_cases hx : x = name
    · subst hx; simp [put]
    · simp [put, List.lookup_cons, beq_false_of_ne hx, hx]
  | cons e rest ih =>
    obtain ⟨n, b⟩ := e
    by_cases he : n = name
    · subst he
      by_cases hx : x = n
      · subst hx; simp [put]
      · simp [put, List.lookup_cons, beq_false_of_ne hx, hx]
    · by_cases hx : x = n
      · subst hx; simp [put, he]
      · simp [put, he, List.lookup_cons, beq_false_of_ne hx, ih]

def insert (d : Dictionary α) (name : String) (a : α) : Dictionary α :=
  ⟨put d.entries name a, nodup_put d.nodup⟩

def erase (d : Dictionary α) (name : String) : Dictionary α :=
  ⟨d.entries.filter (fun e => e.1 != name), by
    have h := d.nodup.filter (fun n => n != name)
    rwa [List.filter_map] at h⟩

/-- Of several values under one name the last is kept, in the place of the first. -/
def ofList (l : List (String × α)) : Dictionary α :=
  l.foldl (fun d e => d.insert e.1 e.2) empty

def mapEntries (f : String → α → β) (d : Dictionary α) : Dictionary β :=
  ⟨d.entries.map (fun e => (e.1, f e.1 e.2)), by
    simpa [List.map_map, Function.comp_def] using d.nodup⟩

def map (f : α → β) (d : Dictionary α) : Dictionary β := d.mapEntries (fun _ => f)

@[simp] theorem get?_empty (name : String) : (empty : Dictionary α).get? name = none := rfl

theorem get?_insert (d : Dictionary α) (name x : String) (a : α) :
    (d.insert name a).get? x = if x = name then some a else d.get? x :=
  lookup_put

@[simp] theorem get?_insert_self (d : Dictionary α) (name : String) (a : α) :
    (d.insert name a).get? name = some a := by
  simp [get?_insert]

theorem get?_erase (d : Dictionary α) (name x : String) :
    (d.erase name).get? x = if x = name then none else d.get? x := by
  obtain ⟨l, h⟩ := d
  show (l.filter _).lookup x = if x = name then none else l.lookup x
  induction l with
  | nil => simp
  | cons e rest ih =>
    obtain ⟨n, b⟩ := e
    have ih := ih (List.nodup_cons.1 h).2
    by_cases hn : n = name
    · subst hn
      by_cases hx : x = n
      · subst hx; simpa using ih
      · simpa [hx, List.lookup_cons, beq_false_of_ne hx] using ih
    · by_cases hx : x = n
      · subst hx; simp [hn]
      · simpa [hn, List.lookup_cons, beq_false_of_ne hx] using ih

theorem get?_isSome_iff (d : Dictionary α) (name : String) :
    (d.get? name).isSome ↔ name ∈ d.names := by
  obtain ⟨l, h⟩ := d
  show (l.lookup name).isSome ↔ name ∈ l.map Prod.fst
  clear h
  induction l with
  | nil => simp
  | cons e rest ih =>
    obtain ⟨n, b⟩ := e
    by_cases hx : name = n
    · subst hx; simp
    · simp [List.lookup_cons, beq_false_of_ne hx, hx]

theorem get?_mapEntries (f : String → α → β) (d : Dictionary α) (name : String) :
    (d.mapEntries f).get? name = (d.get? name).map (f name) := by
  obtain ⟨l, h⟩ := d
  show (l.map _).lookup name = (l.lookup name).map (f name)
  clear h
  induction l with
  | nil => rfl
  | cons e rest ih =>
    obtain ⟨n, b⟩ := e
    by_cases hx : name = n
    · subst hx; simp
    · simpa [List.lookup_cons, beq_false_of_ne hx] using ih

end Dictionary
end JobGate

import JobGate.CommandLine.Report
import JobGate.Files.Loading
import JobGate.Proofs.Schema.Location
import JobGate.Proofs.Schema.Valid
import JobGate.Proofs.Variant.Grammar
import Mathlib.Logic.Relation
/-! Other spellings of a workflow file. A step writes one thing in another way, in one layer of the
format, and the reading of this layer gives the same before and after it. So the file is read alike
after any number of steps (`respelled_alike`). -/
namespace JobGate.Schema

/- Changes at one place. -/

inductive Changed {α : Type u} (R : α → α → Prop) : List α → List α → Prop where
  | here {a a' : α} {l : List α} (h : R a a') : Changed R (a :: l) (a' :: l)
  | later {a : α} {l l' : List α} (h : Changed R l l') : Changed R (a :: l) (a :: l')

def InList (R : Value → Value → Prop) (v v' : Value) : Prop :=
  ∃ items items', v.unfold = .list items ∧ v'.unfold = .list items' ∧ Changed R items items'

/-- Keys stay as they are. -/
def InMap (R : Value → Value → Prop) (v v' : Value) : Prop :=
  ∃ entries entries', v.unfold = .map entries ∧ v'.unfold = .map entries' ∧
    Changed (fun e e' => e'.1 = e.1 ∧ R e.2 e'.2) entries entries'

def InRecord (R : Fields → Fields → Prop) (v v' : Value) : Prop :=
  ∃ fields fields', v.unfold = .map fields ∧ v'.unfold = .map fields' ∧ R fields fields'

def InField (name : String) (R : Value → Value → Prop) (fields fields' : Fields) : Prop :=
  Changed (fun f f' => f.1 = .text name ∧ f'.1 = .text name ∧ R f.2 f'.2) fields fields'

def Dropped (name : String) (fields fields' : Fields) : Prop :=
  Value.field? name fields = some .null ∧ fields' = fields.filter fun f => f.1 ≠ .text name

/- Steps. -/

/-- A placeholder in parentheses is written with braces. -/
inductive BraceStep : Value → Value → Prop where
  | mk {name : String} (h : Variant.Spells ("$(" ++ name ++ ")") name) :
      BraceStep (.text ("$(" ++ name ++ ")")) (.text ("$\x7b" ++ name ++ "\x7d"))

/-- The bare name of a job is written as a dependency on it, with its extent or without. -/
inductive DependencyStep : Value → Value → Prop where
  | target (name : String) : DependencyStep (.text name) (.map [(.text "target", .text name)])
  | whole (name : String) : DependencyStep (.text name)
      (.map [(.text "target", .text name), (.text "type", .text "whole")])

inductive OperatorStep : Value → Value → Prop where
  | empty : OperatorStep .null (.text "")
  | braces {v v' : Value} (h : BraceStep v v') : OperatorStep v v'

/-- An element of the values is written as its text. -/
inductive ElementStep : Value → Value → Prop where
  | text {v : Value} {s : String} (h : v.written = .ok s) : ElementStep v (.text s)
  | braces {v v' : Value} (h : BraceStep v v') : ElementStep v v'

inductive ValuesStep : Value → Value → Prop where
  | empty : ValuesStep .null (.list [])
  | single {v : Value} (hnull : v.unfold ≠ .null) (hlist : ∀ items, v.unfold ≠ .list items) :
      ValuesStep v (.list [v])
  | element {v v' : Value} (h : InList ElementStep v v') : ValuesStep v v'
  | braces {v v' : Value} (h : BraceStep v v') : ValuesStep v v'

inductive ClauseStep (fields fields' : Fields) : Prop where
  | key (h : InField "key" BraceStep fields fields')
  | operator (h : InField "operator" OperatorStep fields fields')
  | noOperator (h : Dropped "operator" fields fields')
  | values (h : InField "values" ValuesStep fields fields')
  | noValues (h : Dropped "values" fields fields')

def ConditionStep : Fields → Fields → Prop := InField "result_match" (InList (InRecord ClauseStep))

inductive JobStep (fields fields' : Fields) : Prop where
  | dependency (h : InField "depends" (InList DependencyStep) fields fields')
  | condition (h : InField "condition" (InRecord ConditionStep) fields fields')

def WorkflowStep : Fields → Fields → Prop := InField "jobs" (InMap (InRecord JobStep))

def Respelled : Fields → Fields → Prop := Relation.ReflTransGen WorkflowStep

/- Readings of what is changed. -/

section
variable {R : Value → Value → Prop} {read : Value → Checked α} {v v' : Value}

theorem readItems_congr {items items' : List Value} {i : Nat}
    (hread : ∀ v v', R v v' → read v' = read v) (h : Changed R items items') :
    readItems read i items' = readItems read i items := by
  induction h generalizing i with
  | here h => rw [readItems, readItems, hread _ _ h]
  | later _ ih => rw [readItems, readItems, ih]

theorem readList_congr (hread : ∀ v v', R v v' → read v' = read v) (h : InList R v v') :
    readList read v' = readList read v := by
  obtain ⟨items, items', hv, hv', h⟩ := h
  rw [readList, readList, hv, hv']
  exact readItems_congr hread h

theorem readMap_congr {read : String → Value → Checked α}
    (hread : ∀ name v v', R v v' → read name v' = read name v) (h : InMap R v v') :
    readMap read v' = readMap read v := by
  obtain ⟨entries, entries', hv, hv', h⟩ := h
  have hentries : readEntries read entries' = readEntries read entries := by
    clear hv hv'
    induction h with
    | @here e e' l h =>
      obtain ⟨k, v⟩ := e
      obtain ⟨k', v'⟩ := e'
      obtain ⟨rfl, h⟩ := h
      rw [readEntries, readEntries, hread _ _ _ h]
    | later _ ih => rw [readEntries, readEntries, ih]
  rw [readMap, readMap, hv, hv']
  dsimp only
  rw [hentries]

theorem readRecord_congr {R : Fields → Fields → Prop} {r : Record} {read : Fields → Checked α}
    (hread : ∀ fields fields', R fields fields' → read fields' = read fields)
    (h : InRecord R v v') : readRecord r read v' = readRecord r read v := by
  obtain ⟨fields, fields', hv, hv', h⟩ := h
  rw [readRecord_of_unfold hv, readRecord_of_unfold hv']
  exact hread _ _ h

theorem readNullable_of_ne_null (h : v ≠ .null) : readNullable read v = (read v).map some := by
  unfold readNullable
  split
  · exact absurd rfl h
  · rfl

theorem ne_null_of_unfold {fields : Fields} (h : v.unfold = .map fields) : v ≠ .null := by
  intro hnull
  rw [hnull] at h
  cases h

theorem readNullable_congr {R : Fields → Fields → Prop} (hread : read v' = read v)
    (h : InRecord R v v') : readNullable read v' = readNullable read v := by
  obtain ⟨fields, fields', hv, hv', -⟩ := h
  rw [readNullable_of_ne_null (ne_null_of_unfold hv),
    readNullable_of_ne_null (ne_null_of_unfold hv'), hread]

end

/- Fields. -/

section
variable {name other : String} {R : Value → Value → Prop} {fields fields' : Fields}
variable {read : Value → Checked α} {default : α} {k : Scalar} {v : Value}

theorem field?_cons : Value.field? name ((k, v) :: fields) =
    (Value.field? name fields).or (if k = .text name then some v else none) := by
  rw [Value.field?, Value.field?, List.reverse_cons, List.lookup_append]
  congr 1
  by_cases h : k = .text name
  · simp [h]
  · have hk : Scalar.text name ≠ k := fun he => h he.symm
    simp [h, List.lookup_cons, beq_false_of_ne hk]

theorem optional_congr (h : Value.field? name fields' = Value.field? name fields) :
    fields'.optional name default read = fields.optional name default read := by
  rw [Fields.optional, Fields.optional, h]

theorem required_congr (h : Value.field? name fields' = Value.field? name fields) :
    fields'.required name read = fields.required name read := by
  rw [Fields.required, Fields.required, h]

theorem map_optional (read : Value → Checked α) (default : α) (f : α → β) :
    fields.optional name (f default) (fun v => (read v).map f) =
    (fields.optional name default read).map f := by
  rw [Fields.optional, Fields.optional]
  cases Value.field? name fields with
  | none => rfl
  | some v =>
    dsimp only
    cases read v <;> rfl

theorem map_required (read : Value → Checked α) (f : α → β) :
    fields.required name (fun v => (read v).map f) =
    (fields.required name read).map f := by
  rw [Fields.required, Fields.required]
  cases Value.field? name fields with
  | none => rfl
  | some v =>
    dsimp only
    cases read v <;> rfl

namespace InField

theorem field?_of_ne (h : InField name R fields fields') (hne : other ≠ name) :
    Value.field? other fields' = Value.field? other fields := by
  induction h with
  | @here f f' l h =>
    obtain ⟨k, v⟩ := f
    obtain ⟨k', v'⟩ := f'
    obtain ⟨rfl, rfl, -⟩ := h
    have hkey : Scalar.text name ≠ .text other := by simpa using hne.symm
    rw [field?_cons, field?_cons, if_neg hkey, if_neg hkey]
  | later _ ih => rw [field?_cons, field?_cons, ih]

theorem field?_eq_or (h : InField name R fields fields') :
    Value.field? name fields' = Value.field? name fields ∨
      ∃ v v', R v v' ∧ Value.field? name fields = some v ∧ Value.field? name fields' = some v' := by
  induction h with
  | @here f f' l h =>
    obtain ⟨k, v⟩ := f
    obtain ⟨k', v'⟩ := f'
    obtain ⟨rfl, rfl, hR⟩ := h
    rw [field?_cons, field?_cons, if_pos rfl, if_pos rfl]
    cases Value.field? name l with
    | none => exact .inr ⟨v, v', hR, rfl, rfl⟩
    | some u => exact .inl rfl
  | @later f l l' _ ih =>
    obtain ⟨k, v⟩ := f
    rw [field?_cons, field?_cons]
    obtain heq | ⟨u, u', hR, hu, hu'⟩ := ih
    · exact .inl (by rw [heq])
    · exact .inr ⟨u, u', hR, by rw [hu]; rfl, by rw [hu']; rfl⟩

theorem optional (h : InField name R fields fields') (hread : ∀ v v', R v v' → read v' = read v) :
    fields'.optional name default read = fields.optional name default read := by
  obtain heq | ⟨v, v', hR, hv, hv'⟩ := h.field?_eq_or
  · exact optional_congr heq
  · rw [Fields.optional, Fields.optional, hv, hv']
    dsimp only
    rw [hread v v' hR]

theorem required (h : InField name R fields fields') (hread : ∀ v v', R v v' → read v' = read v) :
    fields'.required name read = fields.required name read := by
  obtain heq | ⟨v, v', hR, hv, hv'⟩ := h.field?_eq_or
  · exact required_congr heq
  · rw [Fields.required, Fields.required, hv, hv']
    dsimp only
    rw [hread v v' hR]

end InField

theorem field?_filter_of_ne (fields : Fields) (hne : other ≠ name) :
    Value.field? other (fields.filter fun f => f.1 ≠ .text name) = Value.field? other fields := by
  induction fields with
  | nil => rfl
  | cons f fields ih =>
    obtain ⟨k, v⟩ := f
    rw [List.filter_cons, field?_cons, ← ih]
    split
    · rw [field?_cons]
    · next hk =>
      have hk : k = .text name := by simpa using hk
      have hkey : k ≠ .text other := by simpa [hk] using hne.symm
      rw [if_neg hkey, Option.or_none]

theorem field?_filter_self (fields : Fields) (name : String) :
    Value.field? name (fields.filter fun f => f.1 ≠ .text name) = none := by
  rw [Value.field?, List.lookup_eq_none_iff]
  intro f hf
  have hkey := (List.mem_filter.1 (List.mem_reverse.1 hf)).2
  simpa using Ne.symm (by simpa using hkey)

namespace Dropped

theorem field?_of_ne (h : Dropped name fields fields') (hne : other ≠ name) :
    Value.field? other fields' = Value.field? other fields := by
  rw [h.2, field?_filter_of_ne fields hne]

theorem optional (h : Dropped name fields fields') (hread : read .null = .valid default) :
    fields'.optional name default read = fields.optional name default read := by
  rw [Fields.optional, Fields.optional, h.1, h.2, field?_filter_self]
  dsimp only
  rw [hread]
  rfl

end Dropped
end

/- Placeholders. -/

theorem BraceStep.ofText_eq {v v' : Value} (h : BraceStep v v') :
    ∃ s s', v = .text s ∧ v' = .text s' ∧ Variant.ofText s' = Variant.ofText s := by
  cases h with
  | @mk name h =>
    have hparens := Variant.ofText_eq_placeholder_iff.2 h
    have hbraces : Variant.ofText (Variant.placeholder name).text = .placeholder name :=
      Variant.isLegible_placeholder (Variant.name?_eq_some_iff_spells.2 h)
    exact ⟨_, _, rfl, rfl, hbraces.trans hparens.symm⟩

def readVariant (v : Value) : Checked Variant := (readText v).map Variant.ofText

def readOperator (v : Value) : Checked Variant :=
  (readNullable readText v).map fun op => Variant.ofText (op.getD "")

theorem readVariant_of_braceStep {v v' : Value} (h : BraceStep v v') :
    readVariant v' = readVariant v := by
  obtain ⟨s, s', rfl, rfl, hs⟩ := h.ofText_eq
  exact congrArg Checked.valid hs

theorem readOperator_of_step {v v' : Value} (h : OperatorStep v v') :
    readOperator v' = readOperator v := by
  cases h with
  | empty => rfl
  | braces h =>
    obtain ⟨s, s', rfl, rfl, hs⟩ := h.ofText_eq
    exact congrArg Checked.valid hs

/- Values. -/

def elements (v : Value) : List Value :=
  match v.unfold with
  | .null => []
  | .list items => items
  | _ => [v]

def variants (items : List Value) : Except Numeral.Fault (List Variant) :=
  (Value.writtenAll items).map (List.map Variant.ofText)

def ofVariants : Except Numeral.Fault (List Variant) → Checked (List Variant)
  | .ok vs => .valid vs
  | .error f => .fail (.unwritable f)

theorem readValues_eq (v : Value) : readValues v = ofVariants (variants (elements v)) := by
  unfold readValues
  dsimp only
  split
  · next texts h =>
    have h : Value.writtenAll (elements v) = .ok texts := h
    rw [variants, h]
    rfl
  · next f h =>
    have h : Value.writtenAll (elements v) = .error f := h
    rw [variants, h]
    rfl

theorem variants_cons (v : Value) (items : List Value) : variants (v :: items) = do
    return (← v.written.map Variant.ofText) :: (← variants items) := by
  rw [variants, variants, Value.writtenAll]
  cases v.written with
  | error f => rfl
  | ok s => cases Value.writtenAll items <;> rfl

theorem written_of_elementStep {v v' : Value} (h : ElementStep v v') :
    v'.written.map Variant.ofText = v.written.map Variant.ofText := by
  cases h with
  | text h =>
    rw [h]
    rfl
  | braces h =>
    obtain ⟨s, s', rfl, rfl, hs⟩ := h.ofText_eq
    exact congrArg Except.ok hs

theorem variants_of_changed {items items' : List Value} (h : Changed ElementStep items items') :
    variants items' = variants items := by
  induction h with
  | here h => rw [variants_cons, variants_cons, written_of_elementStep h]
  | later _ ih => rw [variants_cons, variants_cons, ih]

theorem readValues_of_step {v v' : Value} (h : ValuesStep v v') : readValues v' = readValues v := by
  rw [readValues_eq, readValues_eq]
  apply congrArg ofVariants
  cases h with
  | empty => rfl
  | single hnull hlist =>
    have helements : elements v = [v] := by
      unfold elements
      split
      · next h => exact absurd h hnull
      · next items h => exact absurd h (hlist items)
      · rfl
    rw [helements]
    rfl
  | element h =>
    obtain ⟨items, items', hv, hv', h⟩ := h
    have hitems : elements v = items := by rw [elements, hv]
    have hitems' : elements v' = items' := by rw [elements, hv']
    rw [hitems, hitems', variants_of_changed h]
  | braces h =>
    obtain ⟨s, s', rfl, rfl, -⟩ := h.ofText_eq
    exact variants_of_changed (.here (.braces h))

/- The parts of a workflow file. -/

theorem readDependency_of_step {v v' : Value} (h : DependencyStep v v') :
    readDependency v' = readDependency v := by
  cases h <;> rfl

theorem readClause_eq (v : Value) : readClause v = readRecord .clause (fun fields =>
    ((fields.required "key" readVariant).and Prod.mk
      (fields.optional "operator" (Variant.ofText "") readOperator)).and
        (fun p vs => ⟨p.1, p.2, vs⟩) (fields.optional "values" [] readValues)) v := by
  rw [readClause]
  congr 1
  funext fields
  have hkey : fields.required "key" readVariant =
      (fields.required "key" readText).map Variant.ofText := map_required readText _
  have hoperator : fields.optional "operator" (Variant.ofText "") readOperator =
      (fields.optional "operator" none (readNullable readText)).map
        (fun op => Variant.ofText (op.getD "")) := map_optional (readNullable readText) none _
  rw [hkey, hoperator]
  cases fields.required "key" readText <;>
    cases fields.optional "operator" none (readNullable readText) <;>
    cases fields.optional "values" [] readValues <;> rfl

theorem readClause_of_step {v v' : Value} (h : InRecord ClauseStep v v') :
    readClause v' = readClause v := by
  have hnoOperator : readOperator .null = .valid (Variant.ofText "") := rfl
  have hnoValues : readValues .null = .valid [] := rfl
  rw [readClause_eq, readClause_eq]
  refine readRecord_congr ?_ h
  intro fields fields' hstep
  cases hstep with
  | key h =>
    rw [h.required fun _ _ => readVariant_of_braceStep,
      optional_congr (h.field?_of_ne (by decide)), optional_congr (h.field?_of_ne (by decide))]
  | operator h =>
    rw [h.optional fun _ _ => readOperator_of_step,
      required_congr (h.field?_of_ne (by decide)), optional_congr (h.field?_of_ne (by decide))]
  | noOperator h =>
    rw [h.optional hnoOperator, required_congr (h.field?_of_ne (by decide)),
      optional_congr (h.field?_of_ne (by decide))]
  | values h =>
    rw [h.optional fun _ _ => readValues_of_step,
      required_congr (h.field?_of_ne (by decide)), optional_congr (h.field?_of_ne (by decide))]
  | noValues h =>
    rw [h.optional hnoValues, required_congr (h.field?_of_ne (by decide)),
      optional_congr (h.field?_of_ne (by decide))]

theorem readCondition_of_step {v v' : Value} (h : InRecord ConditionStep v v') :
    readCondition v' = readCondition v := by
  refine readRecord_congr ?_ h
  intro fields fields' hstep
  have hclauses : ∀ v v', InList (InRecord ClauseStep) v v' →
      readList readClause v' = readList readClause v :=
    fun _ _ => readList_congr fun _ _ => readClause_of_step
  rw [InField.optional hstep hclauses, required_congr (InField.field?_of_ne hstep (by decide))]

theorem readJob_of_step (name : String) {v v' : Value} (h : InRecord JobStep v v') :
    readJob name v' = readJob name v := by
  refine readRecord_congr ?_ h
  intro fields fields' hstep
  dsimp only
  cases hstep with
  | dependency h =>
    have hdependencies : ∀ v v', InList DependencyStep v v' →
        readList readDependency v' = readList readDependency v :=
      fun _ _ => readList_congr fun _ _ => readDependency_of_step
    rw [h.optional hdependencies, optional_congr (h.field?_of_ne (by decide)),
      optional_congr (h.field?_of_ne (by decide)), optional_congr (h.field?_of_ne (by decide)),
      optional_congr (h.field?_of_ne (by decide))]
  | condition h =>
    have hcondition : ∀ v v', InRecord ConditionStep v v' →
        readNullable readCondition v' = readNullable readCondition v :=
      fun _ _ h => readNullable_congr (readCondition_of_step h) h
    rw [h.optional hcondition, optional_congr (h.field?_of_ne (by decide)),
      optional_congr (h.field?_of_ne (by decide)), optional_congr (h.field?_of_ne (by decide)),
      optional_congr (h.field?_of_ne (by decide))]

theorem readWorkflow_of_step {fields fields' : Fields} (h : WorkflowStep fields fields') :
    readWorkflow fields' = readWorkflow fields := by
  have hjobs : ∀ v v', InMap (InRecord JobStep) v v' → readMap readJob v' = readMap readJob v :=
    fun _ _ => readMap_congr fun name _ _ => readJob_of_step name
  rw [readWorkflow, readWorkflow, InField.optional h hjobs,
    optional_congr (InField.field?_of_ne h (by decide)),
    optional_congr (InField.field?_of_ne h (by decide))]

theorem readWorkflow_of_respelled {fields fields' : Fields} (h : Respelled fields fields') :
    readWorkflow fields' = readWorkflow fields := by
  induction h with
  | refl => rfl
  | tail _ hstep ih => rw [readWorkflow_of_step hstep, ih]

/- Names at the top. -/

theorem all_isTextKey_of_step {fields fields' : Fields} (h : WorkflowStep fields fields') :
    fields'.all (fun f => Loading.isTextKey f.1) = fields.all (fun f => Loading.isTextKey f.1) := by
  unfold WorkflowStep InField at h
  induction h with
  | here h =>
    obtain ⟨hk, hk', -⟩ := h
    rw [List.all_cons, List.all_cons, hk, hk']
  | later _ ih => rw [List.all_cons, List.all_cons, ih]

theorem ofFields_of_respelled {fields fields' : Fields} (path : FilePath)
    (h : Respelled fields fields') : Loading.ofFields path fields' = Loading.ofFields path fields := by
  induction h with
  | refl => rfl
  | tail _ hstep ih =>
    rw [← ih, Loading.ofFields, Loading.ofFields, all_isTextKey_of_step hstep,
      readWorkflow_of_step hstep]

/-- A file that is read without a violation is so in any other spelling, and describes the same
workflow. So all conditions have the same errors, and each is instantiated to the same, whatever is
given for its keys. -/
theorem respelled_alike {fields fields' : Fields} {w : Workflow} (h : Respelled fields fields')
    (hw : readWorkflow fields = .valid w) :
    readWorkflow fields' = .valid w ∧
    (∀ path, Loading.ofFields path fields' = Loading.ofFields path fields) ∧
    ∀ w', readWorkflow fields' = .valid w' → w' = w ∧ w'.conditionErrors = w.conditionErrors ∧
      ∀ job given, CommandLine.instantiation w' job given = CommandLine.instantiation w job given := by
  have hread : readWorkflow fields' = .valid w := (readWorkflow_of_respelled h).trans hw
  refine ⟨hread, fun path => ofFields_of_respelled path h, ?_⟩
  intro w' hw'
  cases hread.symm.trans hw'
  exact ⟨rfl, rfl, fun _ _ => rfl⟩

/- A file with one condition, in which as much is left out as may be, and with all of it spelt out. -/

def oneCondition (clause : Fields) : Fields :=
  [(.text "depend_job", .text "a"), (.text "result_match", .list [.map clause])]

def waitingJob (dependency : Value) (clause : Fields) : Fields :=
  [(.text "depends", .list [dependency]), (.text "condition", .map (oneCondition clause))]

def twoJobs (dependency : Value) (clause : Fields) : Fields :=
  [(.text "jobs", .map [(.text "a", .map []), (.text "b", .map (waitingJob dependency clause))])]

theorem step_of_jobStep {dependency dependency' : Value} {clause clause' : Fields}
    (h : JobStep (waitingJob dependency clause) (waitingJob dependency' clause')) :
    WorkflowStep (twoJobs dependency clause) (twoJobs dependency' clause') := by
  have hmap : InMap (InRecord JobStep)
      (.map [(.text "a", .map []), (.text "b", .map (waitingJob dependency clause))])
      (.map [(.text "a", .map []), (.text "b", .map (waitingJob dependency' clause'))]) :=
    ⟨_, _, rfl, rfl, .later (.here ⟨rfl, _, _, rfl, rfl, h⟩)⟩
  exact .here ⟨rfl, rfl, hmap⟩

theorem step_of_dependencyStep {v v' : Value} (h : DependencyStep v v') (clause : Fields) :
    WorkflowStep (twoJobs v clause) (twoJobs v' clause) := by
  have hlist : InList DependencyStep (.list [v]) (.list [v']) := ⟨_, _, rfl, rfl, .here h⟩
  have hfield : InField "depends" (InList DependencyStep) (waitingJob v clause)
      (waitingJob v' clause) := .here ⟨rfl, rfl, hlist⟩
  exact step_of_jobStep (.dependency hfield)

theorem step_of_clauseStep {clause clause' : Fields} (h : ClauseStep clause clause')
    (dependency : Value) : WorkflowStep (twoJobs dependency clause) (twoJobs dependency clause') := by
  have hlist : InList (InRecord ClauseStep) (.list [.map clause]) (.list [.map clause']) :=
    ⟨_, _, rfl, rfl, .here ⟨_, _, rfl, rfl, h⟩⟩
  have hcondition : ConditionStep (oneCondition clause) (oneCondition clause') :=
    .later (.here ⟨rfl, rfl, hlist⟩)
  have hfield : InField "condition" (InRecord ConditionStep) (waitingJob dependency clause)
      (waitingJob dependency clause') := .later (.here ⟨rfl, rfl, _, _, rfl, rfl, hcondition⟩)
  exact step_of_jobStep (.condition hfield)

def terseClause : Fields :=
  [(.text "key", .text "$(k)"), (.text "operator", .null), (.text "values", .scalar (.bool true))]

def spelledClause : Fields :=
  [(.text "key", .text "$\x7bk\x7d"), (.text "values", .list [.text "True"])]

def wholeDependency : Value := .map [(.text "target", .text "a"), (.text "type", .text "whole")]

theorem respelled_twoJobs :
    Respelled (twoJobs (.text "a") terseClause) (twoJobs wholeDependency spelledClause) := by
  have hdependency : DependencyStep (.text "a") wholeDependency := .whole "a"
  have hspells : Variant.Spells ("$(" ++ "k" ++ ")") "k" := Variant.name?_eq_some_iff_spells.1 rfl
  have hbraces : BraceStep (.text "$(k)") (.text "$\x7bk\x7d") := @BraceStep.mk "k" hspells
  have hkey : ClauseStep terseClause [(.text "key", .text "$\x7bk\x7d"), (.text "operator", .null),
      (.text "values", .scalar (.bool true))] :=
    .key (.here ⟨rfl, rfl, hbraces⟩)
  have hoperator : ClauseStep [(.text "key", .text "$\x7bk\x7d"), (.text "operator", .null),
      (.text "values", .scalar (.bool true))]
      [(.text "key", .text "$\x7bk\x7d"), (.text "values", .scalar (.bool true))] :=
    .noOperator ⟨rfl, rfl⟩
  have hsingle : ClauseStep
      [(.text "key", .text "$\x7bk\x7d"), (.text "values", .scalar (.bool true))]
      [(.text "key", .text "$\x7bk\x7d"), (.text "values", .list [.scalar (.bool true)])] :=
    .values (.later (.here ⟨rfl, rfl, .single nofun nofun⟩))
  have hlist : InList ElementStep (.list [.scalar (.bool true)]) (.list [.text "True"]) :=
    ⟨_, _, rfl, rfl, .here (.text rfl)⟩
  have helement : ClauseStep
      [(.text "key", .text "$\x7bk\x7d"), (.text "values", .list [.scalar (.bool true)])]
      spelledClause :=
    .values (.later (.here ⟨rfl, rfl, .element hlist⟩))
  exact .head (step_of_dependencyStep hdependency _) (.head (step_of_clauseStep hkey _)
    (.head (step_of_clauseStep hoperator _) (.head (step_of_clauseStep hsingle _)
      (.single (step_of_clauseStep helement _)))))

def waitingWorkflow : Workflow :=
  ⟨"", .empty, .ofList [("a", ⟨"a", none, [], none, [], none⟩),
    ("b", ⟨"b", none, [], none, [⟨"a", .whole⟩],
      some ⟨"a", [⟨.placeholder "k", .literal "", [.literal "True"]⟩]⟩⟩)]⟩

theorem respelled_alike_twoJobs :
    Respelled (twoJobs (.text "a") terseClause) (twoJobs wholeDependency spelledClause) ∧
      readWorkflow (twoJobs (.text "a") terseClause) = .valid waitingWorkflow ∧
      readWorkflow (twoJobs wholeDependency spelledClause) = .valid waitingWorkflow := by
  have hterse : readWorkflow (twoJobs (.text "a") terseClause) = .valid waitingWorkflow := by rfl
  exact ⟨respelled_twoJobs, hterse, (respelled_alike respelled_twoJobs hterse).1⟩

end JobGate.Schema

import JobGate.Files.Loading
import JobGate.Proofs.Schema.Valid
import JobGate.Proofs.Variant.Spelling
import JobGate.Schema.Authored
/-! Workflows and their authored forms. What was read is loadable: named as it stands, of declared
types, with variants that are read from their own texts. What is loadable is read from its authored
form: main statement, `readWorkflow_authored`. -/
namespace JobGate

/- What can be read. -/

structure Input.IsLoadable (name : String) (input : Input) : Prop where
  name_eq : input.name = name
  type_declared : input.type ∈ InputType.declared

structure Clause.IsLoadable (clause : Clause) : Prop where
  key : clause.key.IsLegible
  operator : clause.operator.IsLegible
  values : ∀ v ∈ clause.values, v.IsLegible

structure Job.IsLoadable (name : String) (job : Job) : Prop where
  name_eq : job.name = name
  dependencies : ∀ d ∈ job.dependencies, d.extent ∈ Extent.declared
  clauses : ∀ c, job.condition = some c → ∀ clause ∈ c.clauses, clause.IsLoadable

structure Workflow.IsLoadable (w : Workflow) : Prop where
  inputs : ∀ e ∈ w.inputs.entries, e.2.IsLoadable e.1
  jobs : ∀ e ∈ w.jobs.entries, e.2.IsLoadable e.1
  nonempty : w.jobs.isEmpty = false

namespace Schema
open Checked Value

theorem of_readItems {read : Value → Checked α} {i : Nat} {vs : List Value} {as : List α}
    (h : readItems read i vs = .valid as) : ∀ a ∈ as, ∃ v, read v = .valid a := by
  induction vs generalizing i as with
  | nil =>
    cases h
    simp
  | cons v vs ih =>
    rw [readItems, and_eq_valid_iff] at h
    obtain ⟨a, rest, ha, hrest, rfl⟩ := h
    intro x hx
    obtain rfl | hx := List.mem_cons.1 hx
    · exact ⟨v, under_eq_valid_iff.1 ha⟩
    · exact ih hrest x hx

theorem of_readList {read : Value → Checked α} {v : Value} {as : List α}
    (h : readList read v = .valid as) : ∀ a ∈ as, ∃ v, read v = .valid a := by
  unfold readList at h
  split at h
  · exact of_readItems h
  · cases h

theorem of_readNullable {read : Value → Checked α} {v : Value} {a : α}
    (h : readNullable read v = .valid (some a)) : ∃ v, read v = .valid a := by
  unfold readNullable at h
  split at h
  · cases h
  · obtain ⟨b, hb, hab⟩ := map_eq_valid_iff.1 h
    cases hab
    exact ⟨_, hb⟩

theorem of_readChoice {ofName? : String → Option α} {choices : List String} {v : Value} {a : α}
    (h : readChoice ofName? choices v = .valid a) : ∃ s, ofName? s = some a := by
  unfold readChoice at h
  split at h
  · next s =>
    split at h
    · next b hb =>
      cases h
      exact ⟨s, hb⟩
    · cases h
  · cases h

theorem isLoadable_of_readInput {name : String} {v : Value} {input : Input}
    (h : readInput name v = .valid input) : input.IsLoadable name := by
  refine ⟨name_of_readInput h, ?_⟩
  unfold readInput readRecord at h
  split at h
  · simp only [and_eq_valid_iff] at h
    obtain ⟨_, _, ⟨type, _, htype, -, rfl⟩, -, rfl⟩ := h
    refine of_optional (P := (· ∈ InputType.declared)) (by decide) ?_ htype
    intro v type hread
    obtain ⟨s, hs⟩ := of_readChoice hread
    exact List.mem_of_find?_eq_some hs
  · cases h

theorem isLegible_of_readValues {v : Value} {vs : List Variant} (h : readValues v = .valid vs) :
    ∀ v ∈ vs, v.IsLegible := by
  unfold readValues at h
  dsimp only at h
  split at h
  · next texts _ =>
    cases h
    intro v hv
    obtain ⟨s, -, rfl⟩ := List.mem_map.1 hv
    exact Variant.isLegible_ofText s
  · cases h

theorem isLoadable_of_readClause {v : Value} {clause : Clause}
    (h : readClause v = .valid clause) : clause.IsLoadable := by
  unfold readClause readRecord at h
  split at h
  · simp only [and_eq_valid_iff] at h
    obtain ⟨_, values, ⟨key, operator, -, -, rfl⟩, hvalues, rfl⟩ := h
    refine ⟨Variant.isLegible_ofText key, Variant.isLegible_ofText _, ?_⟩
    exact of_optional (P := fun vs => ∀ v ∈ vs, Variant.IsLegible v) (by simp)
      (fun _ _ => isLegible_of_readValues) hvalues
  · cases h

theorem clauses_of_readCondition {v : Value} {c : Condition} (h : readCondition v = .valid c) :
    ∀ clause ∈ c.clauses, clause.IsLoadable := by
  unfold readCondition readRecord at h
  split at h
  · simp only [and_eq_valid_iff] at h
    obtain ⟨_, clauses, -, hclauses, rfl⟩ := h
    refine of_optional (P := fun clauses => ∀ clause ∈ clauses, Clause.IsLoadable clause) (by simp)
      ?_ hclauses
    intro v clauses hread clause hmem
    obtain ⟨_, hclause⟩ := of_readList hread clause hmem
    exact isLoadable_of_readClause hclause
  · cases h

theorem extent_of_readDependencyRecord {v : Value} {d : Dependency}
    (h : readDependencyRecord v = .valid d) : d.extent ∈ Extent.declared := by
  unfold readDependencyRecord readRecord at h
  split at h
  · simp only [and_eq_valid_iff] at h
    obtain ⟨_, extent, -, hextent, rfl⟩ := h
    refine of_optional (P := (· ∈ Extent.declared)) (by decide) ?_ hextent
    intro v extent hread
    obtain ⟨s, hs⟩ := of_readChoice hread
    exact List.mem_of_find?_eq_some hs
  · cases h

theorem extent_of_readDependency {v : Value} {d : Dependency} (h : readDependency v = .valid d) :
    d.extent ∈ Extent.declared := by
  unfold readDependency at h
  split at h
  · cases h
    exact List.mem_cons_self
  · next d' hd =>
    cases h
    exact extent_of_readDependencyRecord hd
  · next c _ hc =>
    obtain ⟨_, d', -, hd, -⟩ := and_eq_valid_iff.1 h
    exact absurd (under_eq_valid_iff.1 hd) (hc d')

theorem isLoadable_of_readJob {name : String} {v : Value} {job : Job}
    (h : readJob name v = .valid job) : job.IsLoadable name := by
  have hname := name_of_readJob h
  unfold readJob readRecord at h
  split at h
  · simp only [and_eq_valid_iff] at h
    obtain ⟨_, condition, ⟨_, _, -, ⟨_, dependencies, -, hdependencies, rfl⟩, rfl⟩, hcondition,
      rfl⟩ := h
    refine ⟨hname, ?_, ?_⟩
    · refine of_optional (P := fun ds => ∀ d ∈ ds, Dependency.extent d ∈ Extent.declared) (by simp)
        ?_ hdependencies
      intro v ds hread d hd
      obtain ⟨_, hd⟩ := of_readList hread d hd
      exact extent_of_readDependency hd
    · refine of_optional (P := fun condition : Option Condition => ∀ c, condition = some c →
        ∀ clause ∈ c.clauses, clause.IsLoadable) (by simp) ?_ hcondition
      rintro v _ hread c rfl
      obtain ⟨_, hc⟩ := of_readNullable hread
      exact clauses_of_readCondition hc
  · cases h

theorem isLoadable_of_readWorkflow {fields : Fields} {w : Workflow}
    (h : readWorkflow fields = .valid w) : w.IsLoadable := by
  rw [readWorkflow, ensure_eq_valid_iff] at h
  simp only [and_eq_valid_iff] at h
  obtain ⟨⟨_, jobs, ⟨_, inputs, -, hinputs, rfl⟩, hjobs, rfl⟩, hnonempty⟩ := h
  refine ⟨?_, ?_, by simpa using hnonempty⟩
  · refine of_optional (P := fun inputs => ∀ e ∈ Dictionary.entries inputs, e.2.IsLoadable e.1)
      (by intro e he; cases he) ?_ hinputs
    intro v inputs hread e he
    obtain ⟨_, hinput⟩ := of_readMap hread (Dictionary.get?_of_mem_entries he)
    exact isLoadable_of_readInput hinput
  · refine of_optional (P := fun jobs => ∀ e ∈ Dictionary.entries jobs, e.2.IsLoadable e.1)
      (by intro e he; cases he) ?_ hjobs
    intro v jobs hread e he
    obtain ⟨_, hjob⟩ := of_readMap hread (Dictionary.get?_of_mem_entries he)
    exact isLoadable_of_readJob hjob

/- Readings of authored forms, part by part. -/

theorem optional_of_field? {fields : Fields} {name : String} {default a : α}
    {read : Value → Checked α} {v : Value} (hf : field? name fields = some v)
    (hr : read v = .valid a) : fields.optional name default read = .valid a := by
  rw [Fields.optional, hf]
  exact under_eq_valid_iff.2 hr

theorem required_of_field? {fields : Fields} {name : String} {a : α}
    {read : Value → Checked α} {v : Value} (hf : field? name fields = some v)
    (hr : read v = .valid a) : fields.required name read = .valid a := by
  rw [Fields.required, hf]
  exact under_eq_valid_iff.2 hr

theorem readItems_map {read : Value → Checked α} {write : α → Value} {i : Nat} {as : List α}
    (h : ∀ a ∈ as, read (write a) = .valid a) : readItems read i (as.map write) = .valid as := by
  induction as generalizing i with
  | nil => rfl
  | cons a as ih =>
    have ha := under_eq_valid_iff (s := .index i).2 (h a List.mem_cons_self)
    have has := ih (i := i + 1) (fun x hx => h x (List.mem_cons_of_mem a hx))
    exact and_eq_valid_iff.2 ⟨a, as, ha, has, rfl⟩

theorem readList_map {read : Value → Checked α} {write : α → Value} {as : List α}
    (h : ∀ a ∈ as, read (write a) = .valid a) :
    readList read (.list (as.map write)) = .valid as :=
  readItems_map h

theorem readList_texts (ss : List String) : readList readText (texts ss) = .valid ss :=
  readList_map (fun _ _ => rfl)

theorem readList_rows (rows : List (List Value)) :
    readList (readList readAny) (.list (rows.map .list)) = .valid rows := by
  apply readList_map
  intro row _
  have hitems : readItems readAny 0 (row.map id) = .valid row := readItems_map (fun _ _ => rfl)
  rw [List.map_id] at hitems
  exact hitems

theorem readNullable_orNull {read : Value → Checked α} {write : α → Value} {o : Option α}
    (h : ∀ a, o = some a → write a ≠ .null ∧ read (write a) = .valid a) :
    readNullable read (orNull write o) = .valid o := by
  cases o with
  | none => rfl
  | some a =>
    obtain ⟨hnull, hread⟩ := h a rfl
    rw [orNull]
    unfold readNullable
    split
    · next heq => exact absurd heq hnull
    · rw [hread]
      rfl

theorem writtenAll_texts (ss : List String) : writtenAll (ss.map .text) = .ok ss := by
  induction ss with
  | nil => rfl
  | cons s ss ih =>
    rw [List.map_cons, writtenAll, ih]
    rfl

theorem readValues_texts {vs : List Variant} (h : ∀ v ∈ vs, v.IsLegible) :
    readValues (texts (vs.map Variant.text)) = .valid vs := by
  have hread : (vs.map Variant.text).map Variant.ofText = vs := by
    rw [List.map_map]
    calc
      vs.map (Variant.ofText ∘ Variant.text) = vs.map id := List.map_congr_left h
      _ = vs := List.map_id vs
  unfold readValues
  dsimp only [texts, Value.unfold]
  rw [writtenAll_texts]
  exact congrArg Checked.valid hread

theorem readClause_authored {clause : Clause} (h : clause.IsLoadable) :
    readClause clause.authored = .valid clause := by
  refine and_eq_valid_iff.2 ⟨(clause.key.text, some clause.operator.text), clause.values,
    and_eq_valid_iff.2 ⟨_, _, required_of_field? rfl rfl, optional_of_field? rfl rfl, rfl⟩,
    optional_of_field? rfl (readValues_texts h.values), ?_⟩
  have hkey : Variant.ofText clause.key.text = clause.key := h.key
  have hoperator : Variant.ofText clause.operator.text = clause.operator := h.operator
  simp only [Option.getD_some, hkey, hoperator]

theorem readCondition_authored {c : Condition} (h : ∀ clause ∈ c.clauses, clause.IsLoadable) :
    readCondition c.authored = .valid c :=
  and_eq_valid_iff.2 ⟨_, _, required_of_field? rfl rfl, optional_of_field? rfl
    (readList_map (fun clause hclause => readClause_authored (h clause hclause))), rfl⟩

theorem readIteration_authored (it : Iteration) : readIteration it.authored = .valid it :=
  and_eq_valid_iff.2 ⟨_, _, and_eq_valid_iff.2 ⟨_, _, optional_of_field? rfl rfl,
    optional_of_field? rfl (readList_rows it.rows), rfl⟩,
    optional_of_field? rfl (readList_rows it.nestedRows), rfl⟩

theorem readDependency_authored {d : Dependency} (h : d.extent ∈ Extent.declared) :
    readDependency d.authored = .valid d := by
  have hextent : readChoice Extent.ofName? (Extent.declared.filterMap Extent.name?)
      (orNull .text d.extent.name?) = .valid d.extent := by
    have hcases : d.extent = .whole ∨ d.extent = .iterate := by simpa [Extent.declared] using h
    obtain he | he := hcases <;> rw [he] <;> rfl
  have hrecord : readDependencyRecord d.authored = .valid d :=
    and_eq_valid_iff.2 ⟨_, _, required_of_field? rfl rfl, optional_of_field? rfl hextent, rfl⟩
  unfold readDependency
  split
  · next heq => cases heq
  · next hd _ => exact hd.symm.trans hrecord
  · next hinvalid => exact absurd hrecord (hinvalid d)

theorem readInput_authored {name : String} {input : Input} (h : input.IsLoadable name) :
    readInput name input.authored = .valid input := by
  have htype : readChoice InputType.ofName? (InputType.declared.map InputType.name)
      (.text input.type.name) = .valid input.type := by
    have hcases := h.type_declared
    simp only [InputType.declared, List.mem_cons, List.not_mem_nil, or_false] at hcases
    obtain ht | ht | ht | ht := hcases <;> rw [ht] <;> rfl
  refine and_eq_valid_iff.2 ⟨(input.type, input.default), input.description,
    and_eq_valid_iff.2 ⟨_, _, optional_of_field? rfl htype, optional_of_field? rfl rfl, rfl⟩,
    optional_of_field? rfl rfl, ?_⟩
  simp only [← h.name_eq]

theorem readJob_authored {name : String} {job : Job} (h : job.IsLoadable name) :
    readJob name job.authored = .valid job := by
  have himage : readNullable readText (orNull .text job.image) = .valid job.image :=
    readNullable_orNull (fun _ _ => ⟨nofun, rfl⟩)
  have hiteration : readNullable readIteration (orNull Iteration.authored job.iteration) =
      .valid job.iteration :=
    readNullable_orNull (fun it _ => ⟨nofun, readIteration_authored it⟩)
  have hdependencies : readList readDependency (.list (job.dependencies.map Dependency.authored)) =
      .valid job.dependencies :=
    readList_map (fun d hd => readDependency_authored (h.dependencies d hd))
  have hcondition : readNullable readCondition (orNull Condition.authored job.condition) =
      .valid job.condition :=
    readNullable_orNull (fun c hc => ⟨nofun, readCondition_authored (h.clauses c hc)⟩)
  refine and_eq_valid_iff.2 ⟨((job.image, job.commands), (job.iteration, job.dependencies)),
    job.condition, and_eq_valid_iff.2 ⟨_, _, and_eq_valid_iff.2 ⟨_, _,
      optional_of_field? rfl himage, optional_of_field? rfl (readList_texts job.commands), rfl⟩,
      and_eq_valid_iff.2 ⟨_, _, optional_of_field? rfl hiteration,
        optional_of_field? rfl hdependencies, rfl⟩, rfl⟩,
    optional_of_field? rfl hcondition, ?_⟩
  simp only [← h.name_eq]

theorem readEntries_record {read : String → Value → Checked α} {write : α → Value}
    {entries : List (String × α)} (h : ∀ e ∈ entries, read e.1 (write e.2) = .valid e.2) :
    readEntries read (entries.map (fun e => (.text e.1, write e.2))) = .valid entries := by
  induction entries with
  | nil => rfl
  | cons e entries ih =>
    have he : ((read e.1 (write e.2)).under (.name e.1)) = .valid e.2 :=
      under_eq_valid_iff.2 (h e List.mem_cons_self)
    have hrest := ih (fun e' he' => h e' (List.mem_cons_of_mem e he'))
    exact and_eq_valid_iff.2 ⟨e, entries, and_eq_valid_iff.2 ⟨e.1, e.2, rfl, he, rfl⟩, hrest, rfl⟩

theorem readMap_authored {read : String → Value → Checked α} {write : α → Value}
    {d : Dictionary α} (h : ∀ e ∈ d.entries, read e.1 (write e.2) = .valid e.2) :
    readMap read (d.authored write) = .valid d := by
  have hentries := readEntries_record h
  rw [Dictionary.authored, record, List.map_map]
  exact map_eq_valid_iff.2 ⟨d.entries, hentries, d.ofList_entries.symm⟩

theorem readWorkflow_of_isLoadable {w : Workflow} (h : w.IsLoadable) :
    readWorkflow w.authored = .valid w := by
  have hinputs : readMap readInput (w.inputs.authored Input.authored) = .valid w.inputs :=
    readMap_authored (fun e he => readInput_authored (h.inputs e he))
  have hjobs : readMap readJob (w.jobs.authored Job.authored) = .valid w.jobs :=
    readMap_authored (fun e he => readJob_authored (h.jobs e he))
  refine ensure_eq_valid_iff.2 ⟨and_eq_valid_iff.2 ⟨(w.version, w.inputs), w.jobs,
    and_eq_valid_iff.2 ⟨_, _, optional_of_field? rfl rfl, optional_of_field? rfl hinputs, rfl⟩,
    optional_of_field? rfl hjobs, rfl⟩, ?_⟩
  rw [h.nonempty]
  rfl

theorem exists_readWorkflow_iff {w : Workflow} :
    (∃ fields, readWorkflow fields = .valid w) ↔ w.IsLoadable := by
  constructor
  · intro ⟨fields, h⟩
    exact isLoadable_of_readWorkflow h
  · intro h
    exact ⟨w.authored, readWorkflow_of_isLoadable h⟩

/-- A workflow that was read is read again from its authored form, whose names at the top are
texts. -/
theorem readWorkflow_authored {fields : Fields} {w : Workflow}
    (h : readWorkflow fields = .valid w) :
    (∀ f ∈ w.authored, Loading.isTextKey f.1) ∧ readWorkflow w.authored = .valid w := by
  have hw : w.IsLoadable := exists_readWorkflow_iff.1 ⟨fields, h⟩
  refine ⟨?_, readWorkflow_of_isLoadable hw⟩
  simp [Workflow.authored, Loading.isTextKey]

/- A file that says as little as it may, and what is read from it. -/

def terseFields : Fields :=
  let clause : Value := .map [(.text "key", .text "$(k)"), (.text "operator", .null),
    (.text "values", .scalar (.bool true))]
  let condition : Value := .map [(.text "depend_job", .text "a"),
    (.text "result_match", .list [clause])]
  let job : Value := .map [(.text "depends", .list [.text "a"]), (.text "condition", condition)]
  [(.text "inputs", .map [(.text "k", .map [])]),
    (.text "jobs", .map [(.text "a", .map []), (.text "b", job)])]

def terseWorkflow : Workflow :=
  ⟨"", .ofList [("k", ⟨"k", .string, "", .null⟩)],
    .ofList [("a", ⟨"a", none, [], none, [], none⟩),
      ("b", ⟨"b", none, [], none, [⟨"a", .whole⟩],
        some ⟨"a", [⟨.placeholder "k", .literal "", [.literal "True"]⟩]⟩⟩)]⟩

theorem readWorkflow_authored_terse :
    readWorkflow terseFields = .valid terseWorkflow ∧
      readWorkflow terseWorkflow.authored = .valid terseWorkflow := by
  have hterse : readWorkflow terseFields = .valid terseWorkflow := by rfl
  exact ⟨hterse, (readWorkflow_authored hterse).2⟩

end Schema
end JobGate

import JobGate.Proofs.CommandLine.Arguments
import JobGate.Proofs.Files.Loading
import JobGate.Proofs.Workflow.Blocks
/-! The two commands on one file. `instantiate` stops at the errors that `validate` tells of the
same job, and all conditions are valid exactly if it stops for none (`commands_agree`). -/
namespace JobGate

/-- Each default of an input can be written as a text. -/
def Workflow.HasWrittenDefaults (w : Workflow) : Prop :=
  ∀ e ∈ w.inputs.entries, ∃ text, e.2.default.written = .ok text

instance (w : Workflow) : Decidable w.HasWrittenDefaults :=
  decidable_of_iff (∀ e ∈ w.inputs.entries, e.2.default.written.isOk)
    (by simp only [Traversal.isOk_iff]; rfl)

theorem FileTree.not_hasNull_of_load {t : FileTree} {path : FilePath} {w : Workflow}
    (h : t.load path = .ok w) : ¬ path.hasNull := by
  intro hnull
  have hfind : t.find? path = .error .nullCharacter := by rw [find?, if_pos hnull]
  rw [load, Loading.entry, hfind] at h
  cases h

theorem FileTree.wellNamed_of_load {t : FileTree} {path : FilePath} {w : Workflow}
    (h : t.load path = .ok w) : w.WellNamed := by
  obtain ⟨e, -, h⟩ := Traversal.bind_eq_ok_iff.1 h
  cases e with
  | directory => cases h
  | file bytes =>
    obtain ⟨_, -, _, -, -, hread⟩ := Loading.ofBytes_eq_ok_iff.1 h
    exact Schema.wellNamed_of_readWorkflow hread

namespace CommandLine
open Traversal
variable {s : Surroundings} {settings : Settings} {t : FileTree} {w : Workflow}
variable {file job : String} {path : FilePath}

def Print.errorRows? : Print → Option (List (List String))
  | .line _ => none
  | .table t => if t.title = "Condition errors" then some t.rows else none

def Report.errorRows? (r : Report) : Option (List (List String)) :=
  r.prints.findSome? Print.errorRows?

/-- What a run comes to on the files as they are, if it comes to an end. -/
def reportOf (s : Surroundings) (t : FileTree) (args : List String) : Option Report :=
  (run s t.load args).toOption.map Outcome.report

/-- The rows that are shown when a job is instantiated. -/
def shownRows? (s : Surroundings) (t : FileTree) (file : String) (bindings : List String)
    (job : String) : Option (List (List String)) :=
  (reportOf s t (instantiationLine file job bindings)).bind Report.errorRows?

def stopReport (rows : List (List String)) : Report :=
  ⟨exitInvalid, [.table ⟨"Condition errors", ["Path", "Kind", "Message"], rows⟩]⟩

/- A table is shown exactly if there are errors. -/

def tableRows? : List Condition.Error → Option (List (List String))
  | [] => none
  | es => some (es.map errorRow)

theorem tableRows?_eq_none_iff {es : List Condition.Error} : tableRows? es = none ↔ es = [] := by
  cases es <;> simp [tableRows?]

theorem getD_tableRows? (es : List Condition.Error) :
    (tableRows? es).getD [] = es.map errorRow := by
  cases es <;> rfl

theorem errorRows?_validation : (validation w).errorRows? = tableRows? w.conditionErrors := by
  rw [validation]
  cases w.conditionErrors <;> rfl

theorem exit_validation_eq_ok_iff : (validation w).exit = exitOk ↔ w.conditionErrors = [] := by
  rw [validation]
  cases w.conditionErrors <;> simp [exitOk, exitInvalid]

theorem title_ne (rest : String) : "Condition of '" ++ rest ≠ "Condition errors" := by
  intro h
  -- the two titles go on differently after the first word
  have hnext := congrArg (fun title => title.toList[10]?) h
  simp at hnext

theorem errorRows?_compiled (c : CompiledCondition) :
    ((Instantiation.compiled c).report path job).errorRows? = none := by
  have htitle : s!"Condition of '{job}' on '{c.dependency}'" ≠ "Condition errors" := by
    show "Condition of '" ++ job ++ "' on '" ++ c.dependency ++ "'" ≠ _
    simp only [String.append_assoc]
    exact title_ne _
  simp [Report.errorRows?, Instantiation.report, Print.errorRows?, htitle]

/-- Whatever the names are bound to, the instantiation of a job stops at errors of its condition
exactly if there are some. -/
theorem instantiateJob_outcome (w : Workflow) (job : String) (data : Bindings) :
    w.errorsAt job ≠ [] ∧ instantiateJob w job data = .ok (.invalid (w.errorsAt job)) ∨
      w.errorsAt job = [] ∧ ∀ es, instantiateJob w job data ≠ .ok (.invalid es) := by
  unfold instantiateJob Workflow.errorsAt
  cases w.jobs.get? job with
  | none => exact .inr ⟨rfl, nofun⟩
  | some current =>
    dsimp only
    cases current.condition with
    | none => exact .inr ⟨rfl, nofun⟩
    | some c =>
      dsimp only
      cases Condition.errors current.name (some c) w.inputs w with
      | cons e es => exact .inl ⟨nofun, rfl⟩
      | nil =>
        refine .inr ⟨rfl, ?_⟩
        cases c.compile (Condition.baseOf job) data with
        | ok compiled => exact nofun
        | error failure => cases failure <;> exact nofun

theorem errorRows?_of_not_invalid {i : Instantiation} (h : ∀ es, i ≠ .invalid es) :
    (i.report path job).errorRows? = none := by
  cases i with
  | missingJob | unconditional | refused => rfl
  | invalid es => exact absurd rfl (h es)
  | compiled c => exact errorRows?_compiled c

/- Reports. -/

theorem reportOf_of_plan {args : List String} {level : Nat} {task : Task}
    (hplan : plan s args = .ok (.load level path task)) (hload : t.load path = .ok w) :
    reportOf s t args = (task.report path w).toOption := by
  rw [reportOf, run, hplan]
  simp only [bind, Except.bind, Plan.finish, hload]
  cases task.report path w <;> rfl

theorem defaultTexts_ok {l : List (String × Input)}
    (h : ∀ e ∈ l, ∃ text, e.2.default.written = .ok text) : ∃ texts, defaultTexts l = .ok texts := by
  induction l with
  | nil => exact ⟨[], rfl⟩
  | cons e l ih =>
    obtain ⟨name, input⟩ := e
    obtain ⟨⟨text, htext⟩, hrest⟩ := List.forall_mem_cons.1 h
    obtain ⟨texts, hl⟩ := ih hrest
    rw [defaultTexts]
    split
    · exact ⟨texts, hl⟩
    · next hdefault =>
      refine ⟨(name, .text text) :: texts, ?_⟩
      simp only at htext
      rw [htext, hl]
      rfl

theorem bindingsOf_ok (h : w.HasWrittenDefaults) (given : Dictionary String) :
    ∃ data, bindingsOf w given = .ok data := by
  obtain ⟨texts, htexts⟩ := defaultTexts_ok h
  refine ⟨.ofList (texts ++ (given.map Value.text).entries), ?_⟩
  rw [bindingsOf, htexts]
  rfl

theorem readBindings_ok {bindings : List String} (h : ∀ b ∈ bindings, (binding? b).isSome) :
    ∃ given, readBindings bindings = .ok given := by
  have hread : ∀ b ∈ bindings, ∃ pair, readBinding b = .ok pair := by
    intro b hb
    obtain ⟨pair, hpair⟩ := Option.isSome_iff_exists.1 (h b hb)
    exact ⟨pair, by rw [readBinding, hpair]⟩
  obtain ⟨pairs, hpairs⟩ := exists_forall₂ hread
  refine ⟨.ofList pairs, ?_⟩
  rw [readBindings, mapM_eq_ok_iff.2 hpairs]
  rfl

section
variable (hs : Settings.read s.environment s.file = .ok settings)
  (hload : t.load (.ofText file) = .ok w)
include hs hload

theorem reportOf_validationLine : reportOf s t (validationLine file) = some (validation w) := by
  obtain ⟨level, hplan⟩ := plan_validationLine hs (FileTree.not_hasNull_of_load hload)
  rw [reportOf_of_plan hplan hload]
  rfl

variable {bindings : List String} (hdefaults : w.HasWrittenDefaults)
  (hbindings : ∀ b ∈ bindings, (binding? b).isSome) (job : String)
include hdefaults hbindings

theorem reportOf_instantiationLine :
    ∃ data, reportOf s t (instantiationLine file job bindings) =
      ((instantiateJob w job data).map (Instantiation.report (.ofText file) job)).toOption := by
  obtain ⟨given, hgiven⟩ := readBindings_ok hbindings
  obtain ⟨data, hdata⟩ := bindingsOf_ok hdefaults given
  obtain ⟨level, hplan⟩ :=
    plan_instantiationLine hs (FileTree.not_hasNull_of_load hload) hgiven job
  refine ⟨data, ?_⟩
  rw [reportOf_of_plan hplan hload, Task.report, instantiation, hdata]
  rfl

theorem shownRows?_outcome :
    w.errorsAt job ≠ [] ∧ reportOf s t (instantiationLine file job bindings) =
        some (stopReport ((w.errorsAt job).map errorRow)) ∨
      w.errorsAt job = [] ∧ shownRows? s t file bindings job = none := by
  obtain ⟨data, hreport⟩ := reportOf_instantiationLine hs hload hdefaults hbindings job
  obtain ⟨hsome, hstop⟩ | ⟨hnil, hgo⟩ := instantiateJob_outcome w job data
  · left
    rw [hreport, hstop]
    exact ⟨hsome, rfl⟩
  · right
    refine ⟨hnil, ?_⟩
    rw [shownRows?, hreport]
    cases hi : instantiateJob w job data with
    | error f => rfl
    | ok i =>
      apply errorRows?_of_not_invalid
      intro es h
      exact hgo es (h ▸ hi)

theorem shownRows?_eq :
    shownRows? s t file bindings job = tableRows? (w.errorsAt job) := by
  obtain ⟨hsome, hreport⟩ | ⟨hnil, hnone⟩ := shownRows?_outcome hs hload hdefaults hbindings job
  · rw [shownRows?, hreport]
    cases hes : w.errorsAt job with
    | nil => exact absurd hes hsome
    | cons e es => rfl
  · rw [hnone, hnil]
    rfl

end

/-- For a file that loads, with settings that are read, defaults that can be written and bindings
that are well formed: all conditions are valid exactly if no job shows a table of errors; a job that
shows one stops there, and its rows are a block of those that are shown for all jobs; the blocks of
the jobs with a condition, by ascending name, make up the whole; and no error is that the job itself
is missing. -/
theorem commands_agree {bindings : List String}
    (hs : Settings.read s.environment s.file = .ok settings)
    (hload : t.load (.ofText file) = .ok w) (hdefaults : w.HasWrittenDefaults)
    (hbindings : ∀ b ∈ bindings, (binding? b).isSome) :
    ∃ validated, reportOf s t (validationLine file) = some validated ∧
      (validated.exit = exitOk ↔ ∀ job, shownRows? s t file bindings job = none) ∧
      (∀ job rows, shownRows? s t file bindings job = some rows →
        reportOf s t (instantiationLine file job bindings) = some (stopReport rows) ∧
        rows <:+: validated.errorRows?.getD []) ∧
      (∃ jobs : List String, jobs.Pairwise (· < ·) ∧
        (∀ job, job ∈ jobs ↔ ∃ j, w.jobs.get? job = some j ∧ j.condition.isSome) ∧
        jobs.flatMap (fun job => (shownRows? s t file bindings job).getD []) =
          validated.errorRows?.getD []) ∧
      ∀ e ∈ w.conditionErrors, ∀ job : String,
        e.cause.message ≠ s!"job '{job}' is missing from the workflow" := by
  -- whatever is bound, the rows that a job shows are its own errors
  have hshown : ∀ job, shownRows? s t file bindings job = tableRows? (w.errorsAt job) :=
    shownRows?_eq hs hload hdefaults hbindings
  have hall : (validation w).errorRows?.getD [] = w.conditionErrors.map errorRow := by
    rw [errorRows?_validation, getD_tableRows?]
  refine ⟨validation w, reportOf_validationLine hs hload, ?_, ?_, ?_, ?_⟩
  · rw [exit_validation_eq_ok_iff, Workflow.conditionErrors_eq_nil_iff]
    simp only [hshown, tableRows?_eq_none_iff]
  · intro job rows hrows
    have hblock : rows = (w.errorsAt job).map errorRow := by
      rw [← getD_tableRows?, ← hshown, hrows]
      rfl
    rw [hall, hblock]
    refine ⟨?_, (Workflow.errorsAt_infix job).map errorRow⟩
    obtain ⟨-, hreport⟩ | ⟨-, hnone⟩ := shownRows?_outcome hs hload hdefaults hbindings job
    · exact hreport
    · rw [hnone] at hrows
      cases hrows
  · refine ⟨w.conditionalNames, Workflow.conditionalNames_sorted,
      fun job => Workflow.mem_conditionalNames_iff, ?_⟩
    simp only [hshown, getD_tableRows?]
    rw [hall, Workflow.conditionErrors_eq_flatMap, List.map_flatMap]
  · exact fun e => Workflow.message_ne_missingJob (FileTree.wellNamed_of_load hload)

/- A file with two conditions, in which neither job may depend on the other as it does. -/

def twoConditions : FileTree :=
  let lines := ["inputs:", " k:", "  default: 1", "jobs:",
    " b:", "  condition:", "   depend_job: c",
    " a:", "  condition:", "   depend_job: b"]
  FileTree.empty.put (.ofText "wf.yaml") (.file ("\n".intercalate lines).toUTF8 0)

def rowOfA : List String :=
  ["workflow.a.condition", "dependency_shape", "job 'a' must have exactly one dependency, got []"]

def rowOfB : List String :=
  ["workflow.b.condition", "missing_dependency", "job 'b' depends on missing job 'c'"]

theorem load_twoConditions :
    ∃ w, twoConditions.load (.ofText "wf.yaml") = .ok w ∧ w.HasWrittenDefaults ∧
      tableRows? (w.errorsAt "a") = some [rowOfA] ∧ tableRows? (w.errorsAt "b") = some [rowOfB] := by
  have hloaded : (twoConditions.load (.ofText "wf.yaml")).toOption.any (fun w =>
      w.HasWrittenDefaults ∧ tableRows? (w.errorsAt "a") = some [rowOfA] ∧
        tableRows? (w.errorsAt "b") = some [rowOfB]) := by
    decide +kernel
  cases hload : twoConditions.load (.ofText "wf.yaml") with
  | error f =>
    rw [hload] at hloaded
    cases hloaded
  | ok w =>
    rw [hload] at hloaded
    exact ⟨w, rfl, of_decide_eq_true hloaded⟩

theorem commands_agree_twoConditions :
    ∃ settings w validated, Settings.read [] none = .ok settings ∧
      twoConditions.load (.ofText "wf.yaml") = .ok w ∧ w.HasWrittenDefaults ∧
      (∀ b ∈ ["k=v"], (binding? b).isSome) ∧
      reportOf ⟨[], none⟩ twoConditions (validationLine "wf.yaml") = some validated ∧
      validated.exit ≠ exitOk ∧ [rowOfA] <:+: validated.errorRows?.getD [] ∧
      [rowOfB] <:+: validated.errorRows?.getD [] := by
  have hsettings : (Settings.read [] none).isOk := by decide +kernel
  have hbindings : ∀ b ∈ ["k=v"], (binding? b).isSome := by decide +kernel
  obtain ⟨settings, hs⟩ := isOk_iff.1 hsettings
  obtain ⟨w, hload, hdefaults, hrowsOfA, hrowsOfB⟩ := load_twoConditions
  have hshown := shownRows?_eq (s := ⟨[], none⟩) hs hload hdefaults hbindings
  obtain ⟨validated, hreport, hexit, hblocks, -⟩ :=
    commands_agree (s := ⟨[], none⟩) hs hload hdefaults hbindings
  refine ⟨settings, w, validated, hs, hload, hdefaults, hbindings, hreport, ?_,
    (hblocks "a" [rowOfA] ?_).2, (hblocks "b" [rowOfB] ?_).2⟩
  · intro hok
    have hnone := hexit.1 hok "a"
    rw [hshown, hrowsOfA] at hnone
    cases hnone
  · rw [hshown, hrowsOfA]
  · rw [hshown, hrowsOfB]

end CommandLine
end JobGate

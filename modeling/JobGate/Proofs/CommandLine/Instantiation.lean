import JobGate.Proofs.CommandLine.Agreement
import JobGate.Proofs.CommandLine.Bindings
import JobGate.Proofs.Condition.Agreement
import JobGate.Proofs.Condition.Reads
import JobGate.Proofs.Value.Writable
import JobGate.Schema.Authored
/-! Bindings of an instantiation. A name has the last text given to it, and else that of the
default of its input (`BoundTo`). Only without both is a valid condition refused for want of a
binding: main statement, `instantiation_under_bindings`. -/
namespace JobGate

/-- The defaults of the inputs have no integers past the limit of digits. -/
def Workflow.HasShortDefaults (w : Workflow) : Prop :=
  ∀ e ∈ w.inputs.entries, e.2.default.HasShortIntegers

namespace CommandLine
open Traversal
variable {s : Surroundings} {settings : Settings} {t : FileTree} {w : Workflow}
variable {file job name text : String} {bindings bindings' : List String} {data : Bindings}
variable {given : Dictionary String} {c : Condition}

/-- The text that a name is bound to. -/
inductive BoundTo (w : Workflow) (bindings : List String) (name text : String) : Prop where
  | given (h : LastGives name text bindings) : BoundTo w bindings name text
  | default {input : Input} (hfree : ∀ b ∈ bindings, ∀ v, ¬ Gives b name v)
      (hi : w.inputs.get? name = some input) (hd : input.default ≠ .null)
      (hw : input.default.written = .ok text) : BoundTo w bindings name text

/-- Bindings under which each name has the text that it is bound to, and no others have any. -/
def Binds (w : Workflow) (bindings : List String) (data : Bindings) : Prop :=
  ∀ name v, data.get? name = some v ↔ ∃ text, BoundTo w bindings name text ∧ v = .text text

/- Defaults. -/

/-- The default of the input is something, and this is the text of it. -/
def IsDefault (input : Input) (v : Value) : Prop :=
  input.default ≠ .null ∧ ∃ text, input.default.written = .ok text ∧ v = .text text

theorem mem_defaultTexts_iff {l : List (String × Input)} {texts : List (String × Value)} {v : Value}
    (h : defaultTexts l = .ok texts) :
    (name, v) ∈ texts ↔ ∃ e ∈ l, e.1 = name ∧ IsDefault e.2 v := by
  induction l generalizing texts with
  | nil =>
    cases h
    simp
  | cons e l ih =>
    obtain ⟨n, input⟩ := e
    rw [defaultTexts] at h
    rw [List.exists_mem_cons_iff]
    split at h
    · next hnull =>
      have hnone : ¬ IsDefault input v := fun hd => hd.1 hnull
      rw [ih h]
      simp only [hnone, and_false, false_or]
    · next hsome =>
      obtain ⟨text, hw, h⟩ := bind_eq_ok_iff.1 h
      obtain ⟨rest, hrest, h⟩ := bind_eq_ok_iff.1 h
      cases h
      have hdefault : IsDefault input v ↔ v = .text text := by
        constructor
        · intro hd
          obtain ⟨-, text', hw', hv⟩ := hd
          cases hw.symm.trans hw'
          exact hv
        · exact fun hv => ⟨hsome, text, hw, hv⟩
      have hhead : (name, v) = (n, .text text) ↔ n = name ∧ IsDefault input v := by
        rw [Prod.mk.injEq, hdefault, @eq_comm _ name n]
      rw [List.mem_cons, ih hrest, hhead]

theorem names_defaultTexts_sublist {l : List (String × Input)} {texts : List (String × Value)}
    (h : defaultTexts l = .ok texts) : (texts.map Prod.fst).Sublist (l.map Prod.fst) := by
  induction l generalizing texts with
  | nil =>
    cases h
    exact .slnil
  | cons e l ih =>
    obtain ⟨n, input⟩ := e
    rw [defaultTexts] at h
    split at h
    · exact (ih h).cons n
    · obtain ⟨text, -, h⟩ := bind_eq_ok_iff.1 h
      obtain ⟨rest, hrest, h⟩ := bind_eq_ok_iff.1 h
      cases h
      exact (ih hrest).cons_cons n

theorem get?_of_defaultTexts {texts : List (String × Value)} {v : Value}
    (h : defaultTexts w.inputs.entries = .ok texts) :
    (Dictionary.ofList texts).get? name = some v ↔
      ∃ input, w.inputs.get? name = some input ∧ IsDefault input v := by
  have hnodup : (texts.map Prod.fst).Nodup := (names_defaultTexts_sublist h).nodup w.inputs.nodup
  rw [Dictionary.get?_eq_some_iff, Dictionary.entries_ofList hnodup, mem_defaultTexts_iff h]
  simp only [Dictionary.get?_eq_some_iff]
  constructor
  · rintro ⟨⟨_, input⟩, hmem, rfl, hd⟩
    exact ⟨input, hmem, hd⟩
  · intro ⟨input, hmem, hd⟩
    exact ⟨(name, input), hmem, rfl, hd⟩

theorem get?_of_bindingsOf (h : bindingsOf w given = .ok data) (name : String) : ∃ texts,
    defaultTexts w.inputs.entries = .ok texts ∧ data.get? name =
      ((given.get? name).map Value.text).or ((Dictionary.ofList texts).get? name) := by
  obtain ⟨texts, htexts, h⟩ := bind_eq_ok_iff.1 h
  cases h
  refine ⟨texts, htexts, ?_⟩
  have hgiven : (given.map Value.text).entries.reverse.lookup name =
      (given.get? name).map Value.text := by
    rw [← Dictionary.get?_ofList, Dictionary.ofList_entries, Dictionary.map,
      Dictionary.get?_mapEntries]
  rw [Dictionary.get?_ofList, Dictionary.get?_ofList, List.reverse_append, List.lookup_append,
    hgiven]

theorem binds_of_bindingsOf (hgiven : readBindings bindings = .ok given)
    (h : bindingsOf w given = .ok data) : Binds w bindings data := by
  intro name v
  obtain ⟨texts, htexts, hget⟩ := get?_of_bindingsOf h name
  -- what is given decides where there is something, and the default where there is nothing
  have hlast : ∀ value, given.get? name = some value ↔ LastGives name value bindings :=
    fun _ => get?_of_readBindings hgiven
  rw [hget]
  cases hg : given.get? name with
  | some value =>
    have hvalue : LastGives name value bindings := (hlast value).1 hg
    constructor
    · intro hv
      cases hv
      exact ⟨value, .given hvalue, rfl⟩
    · intro ⟨text, hbound, hv⟩
      cases hbound with
      | given h =>
        cases hg.symm.trans ((hlast text).2 h)
        exact congrArg some hv.symm
      | default hfree _ _ _ => exact absurd hfree hvalue.not_free
  | none =>
    have hfree : ∀ b ∈ bindings, ∀ v, ¬ Gives b name v := by
      apply not_gives_of_not_lastGives
      intro value hvalue
      cases hg.symm.trans ((hlast value).2 hvalue)
    simp only [Option.map_none, Option.none_or, get?_of_defaultTexts htexts]
    constructor
    · intro ⟨input, hi, hd, text, hw, hv⟩
      exact ⟨text, .default hfree hi hd hw, hv⟩
    · intro ⟨text, hbound, hv⟩
      cases hbound with
      | given h => exact absurd hfree h.not_free
      | default _ hi hd hw => exact ⟨_, hi, hd, text, hw, hv⟩

theorem hasWrittenDefaults_of_short (h : w.HasShortDefaults) : w.HasWrittenDefaults :=
  fun e he => Value.exists_written (h e he)

/- What is bound to nothing. -/

/-- A declared input is bound to nothing exactly if it has no default and nothing is given to it. -/
theorem Binds.eq_none_iff {input : Input} (h : Binds w bindings data) (hw : w.HasShortDefaults)
    (hi : w.inputs.get? name = some input) : data.get? name = none ↔
      input.default = .null ∧ ∀ b ∈ bindings, ∀ v, ¬ Gives b name v := by
  constructor
  · intro hnone
    have hunbound : ∀ text, ¬ BoundTo w bindings name text := by
      intro text hbound
      cases hnone.symm.trans ((h name _).2 ⟨text, hbound, rfl⟩)
    have hfree : ∀ b ∈ bindings, ∀ v, ¬ Gives b name v :=
      not_gives_of_not_lastGives fun value hlast => hunbound value (.given hlast)
    refine ⟨?_, hfree⟩
    by_contra hd
    obtain ⟨text, htext⟩ := Value.exists_written (hw _ (Dictionary.mem_entries_of_get? hi))
    exact hunbound text (.default hfree hi hd htext)
  · intro ⟨hd, hfree⟩
    rw [Option.eq_none_iff_forall_ne_some]
    intro v hv
    obtain ⟨text, hbound, -⟩ := (h name v).1 hv
    cases hbound with
    | given hlast => exact hlast.not_free hfree
    | default _ hi' hd' _ =>
      cases hi.symm.trans hi'
      exact hd' hd

/- The end of a run. -/

/-- What a run prints and exits with, or the fault that it ends with. -/
def ending (s : Surroundings) (t : FileTree) (args : List String) : Except Fault Report :=
  (run s t.load args).map Outcome.report

def told (path : FilePath) (job : String) :
    Except Condition.Failure CompiledCondition → Except Fault Report
  | .ok k => .ok ((Instantiation.compiled k).report path job)
  | .error (.refused place obstacle) => .ok ((Instantiation.refused place obstacle).report path job)
  | .error (.numeral f) => .error (.numeral f)

theorem ending_of_plan {args : List String} {level : Nat} {path : FilePath} {task : Task}
    (hplan : plan s args = .ok (.load level path task)) (hload : t.load path = .ok w) :
    ending s t args = (task.report path w).mapError .numeral := by
  rw [ending, run, hplan]
  simp only [bind, Except.bind, Plan.finish, hload]
  cases task.report path w <;> rfl

theorem report_instantiateJob {path : FilePath} {j : Job} (hjob : w.jobs.get? job = some j)
    (hc : j.condition = some c) (hvalid : w.errorsAt job = []) :
    ((instantiateJob w job data).map (Instantiation.report path job)).mapError Fault.numeral =
      told path job (c.compile (Condition.baseOf job) data) := by
  simp only [Workflow.errorsAt, hjob, hc] at hvalid
  simp only [instantiateJob, hjob, hc, hvalid]
  cases c.compile (Condition.baseOf job) data with
  | ok k => rfl
  | error failure => cases failure <;> rfl

/- Reports of keys that are bound to nothing. -/

def unboundReport (job : String) (i : Nat) (name : String) : Report :=
  ⟨exitInvalid, [.styled .red (s!"Error: workflow.{job}.condition.resultmatch[{i}].key: " ++
    s!"no value bound for variant $\x7b{name}\x7d")]⟩

theorem report_refused_inj {path : FilePath} {place place' : Condition.Place}
    {obstacle obstacle' : Condition.Obstacle}
    (h : (Instantiation.refused ⟨Condition.baseOf job, place⟩ obstacle).report path job =
      (Instantiation.refused ⟨Condition.baseOf job, place'⟩ obstacle').report path job) :
    place.text ++ (": " ++ obstacle.message) = place'.text ++ (": " ++ obstacle'.message) := by
  simp only [Instantiation.report, Condition.located, Condition.Path.text, Print.styled,
    Report.mk.injEq, List.cons.injEq, Print.line.injEq, Span.mk.injEq, true_and, and_true,
    String.append_assoc, String.append_right_inj] at h
  exact h

theorem report_unbound (path : FilePath) (job : String) (i : Nat) (name : String) :
    (Instantiation.refused ⟨Condition.baseOf job, .key i⟩
      (.unbound (.placeholder name))).report path job = unboundReport job i name := by
  have hbase : Condition.baseOf job = "workflow." ++ job ++ ".condition" := rfl
  have hplace : (Condition.Place.key i).text = ".resultmatch[" ++ toString i ++ "]" ++ ".key" := rfl
  have hmessage : (Condition.Obstacle.unbound (.placeholder name)).message =
      "no value bound for variant " ++ ("$\x7b" ++ name ++ "\x7d") := rfl
  -- the same text with its fixed parts cut where the parts of the path and of the message end
  have htext : s!"Error: workflow.{job}.condition.resultmatch[{i}].key: " ++
      s!"no value bound for variant $\x7b{name}\x7d" =
        ("Error: " ++ "workflow.") ++ job ++ (".condition" ++ ".resultmatch[") ++ toString i ++
          ("]" ++ ".key" ++ ": ") ++
            (("no value bound for variant " ++ "$\x7b") ++ name ++ "\x7d") := rfl
  rw [unboundReport, htext]
  simp only [Instantiation.report, Condition.located, Condition.Path.text, hbase, hplace, hmessage,
    String.append_assoc]

theorem rest_of_report_eq {path : FilePath} {place : Condition.Place} {i j : Nat} {rest : String}
    {obstacle : Condition.Obstacle} (hplace : place.text = Condition.clauseText j ++ rest)
    (h : (Instantiation.refused ⟨Condition.baseOf job, place⟩ obstacle).report path job =
      unboundReport job i name) :
    j = i ∧ rest ++ (": " ++ obstacle.message) =
      ".key" ++ (": " ++ (Condition.Obstacle.unbound (.placeholder name)).message) := by
  rw [← report_unbound path] at h
  have htext := report_refused_inj h
  have hkey : (Condition.Place.key i).text = Condition.clauseText i ++ ".key" := rfl
  rw [hplace, hkey, String.append_assoc, String.append_assoc] at htext
  exact Condition.clauseText_append_inj htext

theorem message_unbound_inj {name name' : String}
    (h : (Condition.Obstacle.unbound (.placeholder name)).message =
      (Condition.Obstacle.unbound (.placeholder name')).message) : name = name' := by
  have htext : ∀ name, (Variant.placeholder name).text = "$\x7b" ++ name ++ "\x7d" := fun _ => rfl
  have h : (Variant.placeholder name).text = (Variant.placeholder name').text :=
    (String.append_right_inj _).1 h
  rw [htext, htext] at h
  have h := (String.append_left_inj _).1 h
  exact (String.append_right_inj _).1 h

theorem report_declined_eq_iff {path : FilePath} {clause : Clause} {i j : Nat}
    {place : Condition.Path} {obstacle : Condition.Obstacle}
    (h : Condition.Declines (Condition.baseOf job) data clause j place obstacle) :
    (Instantiation.refused place obstacle).report path job = unboundReport job i name ↔
      place = ⟨Condition.baseOf job, .key i⟩ ∧ obstacle = .unbound (.placeholder name) := by
  constructor
  · intro hreport
    -- the second character after the clause tells the sort of the place
    cases h with
    | unbound hk hn =>
      obtain ⟨rfl, hrest⟩ := rest_of_report_eq rfl hreport
      rw [String.append_right_inj, String.append_right_inj] at hrest
      rw [message_unbound_inj hrest]
      exact ⟨rfl, rfl⟩
    | operator hk ho =>
      obtain ⟨-, hrest⟩ := rest_of_report_eq rfl hreport
      have hsecond := congrArg (fun text => text.toList[1]?) hrest
      simp at hsecond
    | @value _ _ _ k hk ho hv hbefore =>
      have htext : (Condition.Place.value j k).text =
          Condition.clauseText j ++ (".value[" ++ toString k ++ "]") := rfl
      obtain ⟨-, hrest⟩ := rest_of_report_eq htext hreport
      have hsecond := congrArg (fun text => text.toList[1]?) hrest
      simp at hsecond
    | requirement hk ho hv hb =>
      obtain ⟨-, hrest⟩ := rest_of_report_eq String.append_empty.symm hreport
      have hsecond := congrArg (fun text => text.toList[1]?) hrest
      simp at hsecond
  · intro ⟨hplace, hobstacle⟩
    rw [hplace, hobstacle, report_unbound]

theorem told_eq_unbound_iff {path : FilePath} {i : Nat} :
    told path job (c.compile (Condition.baseOf job) data) = .ok (unboundReport job i name) ↔
      c.compile (Condition.baseOf job) data =
        .error (.refused ⟨Condition.baseOf job, .key i⟩ (.unbound (.placeholder name))) := by
  cases h : c.compile (Condition.baseOf job) data with
  | ok k => simp [told, Instantiation.report, unboundReport, exitOk, exitInvalid]
  | error failure =>
    cases failure with
    | numeral f => simp [told]
    | refused place obstacle =>
      obtain ⟨j, clause, -, hdeclines⟩ := Condition.refused_iff.1 h
      simp only [told, Except.ok.injEq, report_declined_eq_iff hdeclines, Except.error.injEq,
        Condition.Failure.refused.injEq]

/- Bindings that no key asks for. -/

def asksFor (c : Condition) (b : String) : Bool :=
  match binding? b with
  | none => false
  | some (name, _) => c.clauses.any fun clause => clause.key = .placeholder name

theorem asksFor_of_gives {b v : String} (hb : IsBinding b) (hname : c.HasKeyName name)
    (h : Gives b name v) : asksFor c b := by
  obtain ⟨p, hp⟩ := isBinding_iff.1 hb
  have hpair := (gives_iff_of_binding? hp).1 h
  obtain ⟨clause, hclause, hkey⟩ := hname
  simp only [asksFor, hp, hpair, List.any_eq_true, decide_eq_true_eq]
  exact ⟨clause, hclause, hkey⟩

theorem boundTo_filter_iff {p : String → Bool} (h : ∀ b ∈ bindings, ∀ v, Gives b name v → p b) :
    BoundTo w (bindings.filter p) name text ↔ BoundTo w bindings name text := by
  constructor
  · intro hbound
    cases hbound with
    | given hlast => exact .given ((lastGives_filter_iff h).1 hlast)
    | default hfree hi hd hw => exact .default ((forall_not_gives_filter_iff h).1 hfree) hi hd hw
  · intro hbound
    cases hbound with
    | given hlast => exact .given ((lastGives_filter_iff h).2 hlast)
    | default hfree hi hd hw => exact .default ((forall_not_gives_filter_iff h).2 hfree) hi hd hw

theorem compile_eq_of_filter_eq {base : String} {data' : Bindings}
    (h : Binds w bindings data) (h' : Binds w bindings' data')
    (hb : ∀ b ∈ bindings, IsBinding b) (hb' : ∀ b ∈ bindings', IsBinding b)
    (hsame : bindings'.filter (asksFor c) = bindings.filter (asksFor c)) :
    c.compile base data' = c.compile base data := by
  -- only the names of keys are read, and what binds them stands in both lists in the same order
  apply Condition.compile_congr
  intro name hname
  have hbound : ∀ text, BoundTo w bindings' name text ↔ BoundTo w bindings name text := by
    intro text
    rw [← boundTo_filter_iff fun b hmem _ => asksFor_of_gives (hb' b hmem) hname, hsame,
      boundTo_filter_iff fun b hmem _ => asksFor_of_gives (hb b hmem) hname]
  have hget : data'.get? name = data.get? name := by
    apply Option.ext
    intro v
    rw [h' name v, h name v]
    simp only [hbound]
  rw [Bindings.text?, Bindings.text?, hget]

section
variable (hs : Settings.read s.environment s.file = .ok settings)
  (hload : t.load (.ofText file) = .ok w) (hshort : w.HasShortDefaults) {j : Job}
  (hjob : w.jobs.get? job = some j) (hc : j.condition = some c) (hvalid : w.errorsAt job = [])
include hload hjob hc hvalid

theorem declared_of_valid {clause : Clause} {i : Nat} (hi : c.clauses[i]? = some clause)
    (hkey : clause.key = .placeholder name) :
    ∃ input, w.inputs.get? name = some input ∧ input.type.name = "string" := by
  have hname : j.name = job := (FileTree.wellNamed_of_load hload).jobs job j hjob
  simp only [Workflow.errorsAt, hjob, hc, hname] at hvalid
  cases hcause : Condition.keyCause? w.inputs clause.key with
  | none => exact Condition.keyCause?_eq_none_iff.1 hcause name hkey
  | some cause =>
    have hmem : (⟨⟨Condition.baseOf job, .key i⟩, cause⟩ : Condition.Error) ∈
        Condition.errors job (some c) w.inputs w :=
      Condition.error_of_violation (.key hi hcause)
    rw [hvalid] at hmem
    cases hmem

include hs hshort

theorem exists_binds_ending (hbindings : ∀ b ∈ bindings, IsBinding b) :
    ∃ data, Binds w bindings data ∧ ending s t (instantiationLine file job bindings) =
      told (.ofText file) job (c.compile (Condition.baseOf job) data) := by
  obtain ⟨given, hgiven⟩ := exists_readBindings_iff.2 hbindings
  obtain ⟨data, hdata⟩ := bindingsOf_ok (hasWrittenDefaults_of_short hshort) given
  refine ⟨data, binds_of_bindingsOf hgiven hdata, ?_⟩
  obtain ⟨level, hplan⟩ :=
    plan_instantiationLine hs (FileTree.not_hasNull_of_load hload) hgiven job
  rw [ending_of_plan hplan hload, Task.report, instantiation, hdata]
  exact report_instantiateJob hjob hc hvalid

end

/-- For a file that loads, a job whose condition has no errors and bindings that are well formed:
the condition is compiled under what the names are bound to. So a key is told to be bound to nothing
exactly if its clause is the first that does not build, and it stands for an input without a default
to which nothing is given; there is no such key if all inputs that are strings have defaults. And
bindings with the same of what the keys ask for, in the same order, come to the same end. -/
theorem instantiation_under_bindings {j : Job}
    (hs : Settings.read s.environment s.file = .ok settings)
    (hload : t.load (.ofText file) = .ok w) (hshort : w.HasShortDefaults)
    (hjob : w.jobs.get? job = some j) (hc : j.condition = some c) (hvalid : w.errorsAt job = [])
    (hbindings : ∀ b ∈ bindings, IsBinding b) :
    ∃ data, Binds w bindings data ∧
      ending s t (instantiationLine file job bindings) =
        told (.ofText file) job (c.compile (Condition.baseOf job) data) ∧
      (∀ i name, ending s t (instantiationLine file job bindings) =
          .ok (unboundReport job i name) ↔
        ∃ clause input, Condition.Reaches data c i clause ∧
          (¬ ∃ r, Condition.Builds data clause r) ∧ clause.key = .placeholder name ∧
          w.inputs.get? name = some input ∧ input.default = .null ∧
          ∀ b ∈ bindings, ∀ v, ¬ Gives b name v) ∧
      ((∀ name input, w.inputs.get? name = some input → input.type.name = "string" →
          input.default ≠ .null) →
        ∀ i name, ending s t (instantiationLine file job bindings) ≠
          .ok (unboundReport job i name)) ∧
      ∀ bindings' : List String, (∀ b ∈ bindings', IsBinding b) →
        bindings'.filter (asksFor c) = bindings.filter (asksFor c) →
        ending s t (instantiationLine file job bindings') =
          ending s t (instantiationLine file job bindings) := by
  obtain ⟨data, hdata, hending⟩ :=
    exists_binds_ending hs hload hshort hjob hc hvalid hbindings
  have hunbound : ∀ i name, ending s t (instantiationLine file job bindings) =
      .ok (unboundReport job i name) ↔ ∃ clause input, Condition.Reaches data c i clause ∧
        (¬ ∃ r, Condition.Builds data clause r) ∧ clause.key = .placeholder name ∧
        w.inputs.get? name = some input ∧ input.default = .null ∧
        ∀ b ∈ bindings, ∀ v, ¬ Gives b name v := by
    intro i name
    rw [hending, told_eq_unbound_iff, Condition.compile_eq_unbound_iff]
    constructor
    · intro ⟨clause, hreaches, hbuilds, hkey, hnone⟩
      obtain ⟨input, hi, -⟩ := declared_of_valid hload hjob hc hvalid hreaches.get hkey
      exact ⟨clause, input, hreaches, hbuilds, hkey, hi, (hdata.eq_none_iff hshort hi).1 hnone⟩
    · intro ⟨clause, input, hreaches, hbuilds, hkey, hi, hnone⟩
      exact ⟨clause, hreaches, hbuilds, hkey, (hdata.eq_none_iff hshort hi).2 hnone⟩
  refine ⟨data, hdata, hending, hunbound, ?_, ?_⟩
  · intro hdefaults i name h
    obtain ⟨clause, input, hreaches, -, hkey, hi, hnull, -⟩ := (hunbound i name).1 h
    obtain ⟨input', hi', hstring⟩ := declared_of_valid hload hjob hc hvalid hreaches.get hkey
    exact hdefaults name input' hi' hstring (by cases hi.symm.trans hi'; exact hnull)
  · intro bindings' hbindings' hsame
    obtain ⟨data', hdata', hending'⟩ :=
      exists_binds_ending hs hload hshort hjob hc hvalid hbindings'
    rw [hending', hending, compile_eq_of_filter_eq hdata hdata' hbindings hbindings' hsame]

/- A file with two keys that are left open, of which one has neither a default nor a binding. -/

def twoKeys : FileTree :=
  let lines := ["inputs:", " k:", "  default: d", " n: \x7b\x7d", "jobs:", " b: \x7b\x7d",
    " a:", "  depends: [b]", "  condition:", "   depend_job: b", "   result_match:",
    "   - key: $(k)", "     operator: Exists", "   - key: $(n)", "     operator: Exists"]
  FileTree.empty.put (.ofText "wf.yaml") (.file ("\n".intercalate lines).toUTF8 0)

def openKeys : Condition :=
  ⟨"b", [⟨.placeholder "k", .literal "Exists", []⟩, ⟨.placeholder "n", .literal "Exists", []⟩]⟩

def plainDefault? (input : Input) : Option (Option String) :=
  match input.default with
  | .null => some none
  | .text s => some (some s)
  | _ => none

theorem default_of_plainDefault? {input : Input} {given : Option String}
    (h : plainDefault? input = some given) : input.default = Value.orNull .text given := by
  rw [plainDefault?] at h
  split at h <;> cases h <;> assumption

theorem short_of_plainDefault? {input : Input} (h : (plainDefault? input).isSome) :
    input.default.HasShortIntegers := by
  obtain ⟨given, hgiven⟩ := Option.isSome_iff_exists.1 h
  rw [default_of_plainDefault? hgiven]
  intro n hn
  cases given <;> cases hn

theorem load_twoKeys :
    ∃ w j input, twoKeys.load (.ofText "wf.yaml") = .ok w ∧ w.HasShortDefaults ∧
      w.jobs.get? "a" = some j ∧ j.condition = some openKeys ∧ w.errorsAt "a" = [] ∧
      w.inputs.get? "n" = some input ∧ input.default = .null := by
  have hloaded : (twoKeys.load (.ofText "wf.yaml")).toOption.any (fun w =>
      w.inputs.entries.all (fun e => (plainDefault? e.2).isSome) ∧
        (w.jobs.get? "a").bind Job.condition = some openKeys ∧ w.errorsAt "a" = [] ∧
        (w.inputs.get? "n").bind plainDefault? = some none) := by
    decide +kernel
  cases hload : twoKeys.load (.ofText "wf.yaml") with
  | error f =>
    rw [hload] at hloaded
    cases hloaded
  | ok w =>
    rw [hload] at hloaded
    obtain ⟨hplain, hjob, hvalid, hinput⟩ := of_decide_eq_true hloaded
    obtain ⟨j, hj, hc⟩ := Option.bind_eq_some_iff.1 hjob
    obtain ⟨input, hi, hnull⟩ := Option.bind_eq_some_iff.1 hinput
    have hshort : w.HasShortDefaults :=
      fun e he => short_of_plainDefault? (List.all_eq_true.1 hplain e he)
    exact ⟨w, j, input, rfl, hshort, hj, hc, hvalid, hi, default_of_plainDefault? hnull⟩

theorem instantiation_under_bindings_twoKeys :
    ∃ settings w j, Settings.read [] none = .ok settings ∧
      twoKeys.load (.ofText "wf.yaml") = .ok w ∧ w.HasShortDefaults ∧
      w.jobs.get? "a" = some j ∧ j.condition = some openKeys ∧ w.errorsAt "a" = [] ∧
      (∀ b ∈ ["m=y", "k=x"], IsBinding b) ∧
      ending ⟨[], none⟩ twoKeys (instantiationLine "wf.yaml" "a" ["m=y", "k=x"]) =
        .ok (unboundReport "a" 1 "n") ∧
      ending ⟨[], none⟩ twoKeys (instantiationLine "wf.yaml" "a" ["k=x", "k2==", "m="]) =
        .ok (unboundReport "a" 1 "n") := by
  have hsettings : (Settings.read [] none).isOk := by decide +kernel
  have hbindings : ∀ b ∈ ["m=y", "k=x"], IsBinding b := by decide
  obtain ⟨settings, hs⟩ := isOk_iff.1 hsettings
  obtain ⟨w, j, input, hload, hshort, hj, hc, hvalid, hi, hnull⟩ := load_twoKeys
  obtain ⟨data, hdata, -, hunbound, -, hsame⟩ :=
    instantiation_under_bindings (s := ⟨[], none⟩) hs hload hshort hj hc hvalid hbindings
  have hfree : ∀ b ∈ ["m=y", "k=x"], ∀ v, ¬ Gives b "n" v := by
    have hnames : ∀ b ∈ ["m=y", "k=x"], ∀ p ∈ binding? b, p.1 ≠ "n" := by decide
    intro b hb v hgives
    obtain ⟨p, hp⟩ := isBinding_iff.1 (hbindings b hb)
    have hpair := (gives_iff_of_binding? hp).1 hgives
    exact hnames b hb p hp (by rw [hpair])
  have hn : data.get? "n" = none := (hdata.eq_none_iff hshort hi).2 ⟨hnull, hfree⟩
  have hlast : LastGives "k" "x" ["m=y", "k=x"] := .later (.here ⟨rfl, by decide⟩ nofun)
  have hk : Variant.TextOf data (.placeholder "k") "x" :=
    .bound ((hdata _ _).2 ⟨"x", .given hlast, rfl⟩) rfl
  have hreaches : Condition.Reaches data openKeys 1 ⟨.placeholder "n", .literal "Exists", []⟩ := by
    refine ⟨rfl, ?_⟩
    intro earlier he
    simp only [openKeys, List.take_succ_cons, List.take_zero, List.mem_singleton] at he
    subst he
    exact ⟨_, "x", "Exists", [], hk, rfl, rfl, rfl⟩
  have hreport : ending ⟨[], none⟩ twoKeys (instantiationLine "wf.yaml" "a" ["m=y", "k=x"]) =
      .ok (unboundReport "a" 1 "n") :=
    (hunbound 1 "n").2 ⟨_, input, hreaches, Condition.not_builds_of_unbound rfl hn, rfl, hi, hnull, hfree⟩
  refine ⟨settings, w, j, hs, hload, hshort, hj, hc, hvalid, hbindings, hreport, ?_⟩
  rw [hsame ["k=x", "k2==", "m="] (by decide) (by decide), hreport]

end CommandLine
end JobGate

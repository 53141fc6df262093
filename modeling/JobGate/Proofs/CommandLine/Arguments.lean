import JobGate.CommandLine.Run
import JobGate.Proofs.Traversal
/-! Command lines. A file and a job may be called anything if two dashes stand before them: what is
planned is what was meant (`plan_validationLine`, `plan_instantiationLine`). -/
namespace JobGate.CommandLine
open Traversal
variable {s : Surroundings} {settings : Settings} {file : String}

def validationLine (file : String) : List String := [CommandName.validate.text, "--", file]

def instantiationLine (file job : String) (bindings : List String) : List String :=
  CommandName.instantiate.text ::
    (bindings.flatMap (fun b => [bindingOption, b]) ++ ["--", file, job])

/- The options before the dashes. -/

theorem scan_dashes (known : List String) (everywhere : Bool) (rest : List String) :
    scan known everywhere none ("--" :: rest) = .ok (.ofRest rest) := by
  rw [scan]
  rfl

theorem scan_binding (b : String) (rest : List String) :
    scan [bindingOption] true none (bindingOption :: b :: rest) =
      (scan [bindingOption] true none rest).map (.withOption bindingOption b) := by
  have hdashes : bindingOption ≠ "--" := by decide
  have hoption : isOption bindingOption := by decide +kernel
  have hsplit : splitOption bindingOption = (bindingOption, none) := rfl
  have hhelp : bindingOption ≠ helpOption := by decide
  have hknown : [bindingOption].contains bindingOption := by decide
  rw [scan, if_neg hdashes, if_pos hoption, hsplit]
  simp only [hhelp, if_false, hknown, Bool.not_true, Bool.false_eq_true]
  rw [scan]

theorem scan_bindings (bindings rest : List String) :
    scan [bindingOption] true none
        (bindings.flatMap (fun b => [bindingOption, b]) ++ "--" :: rest) =
      .ok ⟨bindings.map (bindingOption, ·), false, rest⟩ := by
  induction bindings with
  | nil => exact scan_dashes ..
  | cons b bindings ih =>
    show scan _ _ _ (bindingOption :: b :: (bindings.flatMap _ ++ _)) = _
    rw [scan_binding, ih]
    rfl

theorem read_command (c : CommandName) (args : List String) :
    Invocation.read (c.text :: args) = .ok ⟨none, c, args⟩ := by
  have hdashes : c.text ≠ "--" := by cases c <;> decide
  have hoption : isOption c.text = false := by cases c <;> decide +kernel
  have hname : CommandName.ofText? c.text = some c := by cases c <;> decide
  have hscan : scannedProgram (c.text :: args) = .ok (.ofRest (c.text :: args)) := by
    rw [scannedProgram, scanned, scan, if_neg hdashes, hoption]
    rfl
  rw [Invocation.read, hscan]
  simp only [bind, Except.bind, Scanned.ofRest, hname]
  rfl

/- Settings that are read have a level that logging knows. -/

theorem level_of_settings {environment : List (String × String)} {bytes : Option ByteArray}
    (h : Settings.read environment bytes = .ok settings) :
    settings.logLevel ∈ Settings.levels := by
  have hmem : ∀ {given level}, Settings.readLevel given = .ok level →
      level ∈ Settings.levels := by
    intro given level hlevel
    simp only [Settings.readLevel] at hlevel
    split at hlevel
    · next hmem =>
      cases hlevel
      exact List.contains_iff_mem.1 hmem
    · cases hlevel
  cases bytes <;> simp only [Settings.read, bind_eq_ok_iff] at h
  all_goals
    obtain ⟨_, -, level, hlevel, h⟩ := h
    cases h
    exact hmem hlevel

theorem exists_number {level : String} (h : level ∈ Settings.levels) :
    ∃ n, LogLevel.number level = .ok n := by
  have hall : ∀ level ∈ Settings.levels, (LogLevel.number level).isOk := by decide +kernel
  exact isOk_iff.1 (hall level h)

/- Plans. -/

theorem plan_of_readTask {c : CommandName} {args : List String} {path : FilePath} {task : Task}
    (hs : Settings.read s.environment s.file = .ok settings)
    (ht : readTask settings c args = .ok (path, task)) :
    ∃ level, plan s (c.text :: args) = .ok (.load level path task) := by
  obtain ⟨level, hlevel⟩ := exists_number (level_of_settings hs)
  refine ⟨level, ?_⟩
  simp only [plan, read_command, hs, Except.mapError, bind, Except.bind, Option.getD_none, hlevel,
    ht]
  rfl

theorem readPath_of_not_null (h : ¬ (FilePath.ofText file).hasNull) :
    readPath file = .ok (.ofText file) := by
  simp only [readPath, h]
  rfl

theorem plan_validationLine (hs : Settings.read s.environment s.file = .ok settings)
    (hfile : ¬ (FilePath.ofText file).hasNull) :
    ∃ level, plan s (validationLine file) = .ok (.load level (.ofText file) .validate) := by
  apply plan_of_readTask hs
  have hscan : scanned [] true ["--", file] = .ok (.ofRest [file]) := rfl
  simp only [readTask, Command.read, hscan, readPath_of_not_null hfile, bind, Except.bind,
    Scanned.ofRest]
  rfl

theorem plan_instantiationLine {bindings : List String} {given : Dictionary String}
    (hs : Settings.read s.environment s.file = .ok settings)
    (hfile : ¬ (FilePath.ofText file).hasNull) (hb : readBindings bindings = .ok given)
    (job : String) :
    ∃ level, plan s (instantiationLine file job bindings) =
      .ok (.load level (.ofText file) (.instantiate job given)) := by
  apply plan_of_readTask hs
  have hscan : scanned [bindingOption] true
      (bindings.flatMap (fun b => [bindingOption, b]) ++ ["--", file, job]) =
      .ok ⟨bindings.map (bindingOption, ·), false, [file, job]⟩ := by
    rw [scanned, scan_bindings]
    rfl
  have hvalues : (bindings.map (bindingOption, ·)).map Prod.snd = bindings := by
    rw [List.map_map]
    exact List.map_id' bindings
  simp only [readTask, Command.read, hscan, readPath_of_not_null hfile, hvalues, hb, bind,
    Except.bind, pure, Except.pure, Halt.ofUsage, Except.mapError]

end JobGate.CommandLine

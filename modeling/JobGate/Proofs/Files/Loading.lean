import JobGate.Files.Loading
/-! What loads. A file gives a workflow if its text is a document whose top level, with text names
only, is read without a violation (`ofBytes_eq_ok_iff`). -/
namespace JobGate.Loading
variable {path : FilePath} {w : Workflow}

theorem ofFields_eq_ok_iff {fields : Schema.Fields} :
    ofFields path fields = .ok w ↔
      (∀ f ∈ fields, isTextKey f.1) ∧ Schema.readWorkflow fields = .valid w := by
  rw [ofFields, ← List.all_eq_true (p := fun f : Scalar × Value => isTextKey f.1)]
  split
  · next hkeys =>
    cases Schema.readWorkflow fields <;> simp [hkeys, refuse]
  · next hkeys => simp [hkeys]

/-- The fields at the top of a document; one that is blank has none. -/
def topFields? (v : Value) : Option Schema.Fields :=
  if v.isBlank then some []
  else
    match v.unfold with
    | .map fields => some fields
    | _ => none

/-- The workflow of a document, wherever it was read. -/
def Describes (v : Value) (w : Workflow) : Prop :=
  ∃ fields, topFields? v = some fields ∧ (∀ f ∈ fields, isTextKey f.1) ∧
    Schema.readWorkflow fields = .valid w

theorem ofValue_eq_ok_iff {v : Value} : ofValue path v = .ok w ↔ Describes v w := by
  unfold ofValue Describes topFields?
  split
  · simp [ofFields_eq_ok_iff]
  · cases v.unfold <;> simp [ofFields_eq_ok_iff, refuse]

def document (bytes : ByteArray) : Except Yaml.Fault Value :=
  Yaml.read (Text.readable bytes).text
    (if (Text.readable bytes).complete then none else some .unreadable)

theorem ofBytes_eq_ok_iff {bytes : ByteArray} :
    ofBytes path bytes = .ok w ↔ ∃ v, document bytes = .ok v ∧ Describes v w := by
  rw [ofBytes, ← document]
  cases document bytes with
  | ok v => simp [ofValue_eq_ok_iff]
  | error f => cases f <;> simp [refuse]

end JobGate.Loading

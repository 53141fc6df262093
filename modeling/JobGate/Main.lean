import JobGate.CommandLine.Run
/-! The program. Files and variables are read here, and nothing is decided. -/
open JobGate JobGate.CommandLine

def readEntry (path : String) : IO (Option Entry) := do
  try
    return some (.file (← IO.FS.readBinFile path) 0)
  catch
    | .noFileOrDirectory .. => return none
    | _ => return some (.directory none)

def readSurroundings : IO Surroundings := do
  let names := [Settings.levelVariable, Settings.fileVariable].map (·.map Char.toUpper)
  let values ← names.mapM (fun name => return (name, ← IO.getEnv name))
  let file ← readEntry ".env"
  return ⟨values.filterMap (fun v => v.2.map (fun value => (v.1, value))), file.bind Entry.bytes?⟩

def main (args : List String) : IO UInt32 := do
  let surroundings ← readSurroundings
  let file := (plan surroundings args).toOption.bind Plan.file?
  let entry ← match file with
    | some path => readEntry path.text
    | none => pure none
  let loaded (path : FilePath) := match entry with
    | some e => Loading.ofEntry path.resolve e
    | none => Loading.refuse path .notFound
  match run surroundings loaded args with
  | .ok o =>
    for print in o.report.prints do IO.println print.plain
    if let some e := o.usage then IO.eprintln ("Error: " ++ e.message)
    return UInt32.ofNat o.report.exit
  | .error f =>
    IO.eprintln f.message
    return 1

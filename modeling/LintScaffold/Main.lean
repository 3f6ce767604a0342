import LintScaffold.Command.Line

/-!
# The program

The command line, run on the files of the machine.  What a command finds out it finds out
by the same inquiries that a file tree answers; here the machine answers them.
-/

namespace LintScaffold

/-- What a path leads to on the machine. -/
def lookUp (path : FilePath) : IO Finding := do
  if path.hasNul then return .error .nulInPath
  let place := (← IO.currentDir) / String.ofList path.text
  if ← place.isDir then return .ok .directory
  if ← place.pathExists then
    return .ok (.file (← IO.FS.readBinFile place).toList)
  return .error .noEntry

/-- The result of an inquiry about the files of the machine. -/
def Inquiry.perform {α : Type} : Inquiry α → IO α
  | .done a => pure a
  | .find path next => do
      let finding ← lookUp path
      (next finding).perform

/-- Prints records behind one another on the error output. -/
def showRecords (threshold : Int) (records : List Record) : IO Unit := do
  for record in records.filter (Record.isShown threshold) do
    IO.eprintln ("[" ++ record.severity.name ++ "] " ++ record.reporter.name ++ ": " ++
      String.ofList record.message)

/-- Does on the machine what a command does in the end. -/
def Deed.enact (threshold : Int) : Deed → IO Unit
  | .print text => do
      let stdout ← IO.getStdout
      let shown := if ← stdout.isTty then text else Text.dropControlSequences text
      stdout.putStr (String.ofList shown)
      stdout.flush
  | .save target text report => do
      IO.FS.createDirAll (String.ofList target.parent.text)
      IO.FS.writeBinFile (String.ofList target.text) ⟨(Utf8.encode text).toArray⟩
      showRecords threshold [⟨.info, .command, report⟩]

/-- Runs a command line on the machine and yields the code that it ends with. -/
def runOnMachine (environment : Option Text) (line : List Text) : IO Nat := do
  let cwd := (FilePath.parse (← IO.currentDir).toString.toList).names
  let stopped (halt : Halt) : IO Nat := do
    match halt with
    | .usage fault => IO.eprintln ("Error: " ++ String.ofList fault.message)
    | .reported => pure ()
    | .fault fault => IO.eprintln (String.ofList fault.message)
    return (Ending.stopped halt).exitCode
  match Call.read environment line with
  | .error fault => stopped (.usage fault)
  | .ok call =>
      let (outcome, records) ← ((call.deed cwd).run.run []).perform
      showRecords call.threshold records
      match outcome with
      | .error halt => stopped halt
      | .ok deed =>
          deed.enact call.threshold
          return (Ending.done []).exitCode

end LintScaffold

/-- The program. -/
def main (arguments : List String) : IO UInt32 := do
  let environment ← IO.getEnv "LOG_LEVEL"
  let code ← LintScaffold.runOnMachine (environment.map String.toList)
    (arguments.map String.toList)
  return UInt32.ofNat code

import CommandGrammar.Shell.CommandLine
import CommandGrammar.Shell.FileTree
import CommandGrammar.Shell.Lines
import CommandGrammar.Shell.Yaml.Configuration

/-!
# Command line

Looks up the files that a request may ask for, runs it, and prints what it reports.
-/

set_option autoImplicit false

namespace CommandGrammar.Cli

def usageText : String :=
  "\n".intercalate
    ["Usage: cmdmatch [--config <CONFIG>] <COMMAND>", "", "Commands:",
     "  match -g <GRAMMAR> [--interpret] <INPUT>", "  parse <GRAMMAR>", "  render <GRAMMAR>",
     "  dispatch <INPUT>", "  list", "  help", ""]

def UsageFault.summary : UsageFault → String
  | unknownArgument => "unexpected argument"
  | invalidSubcommand => "unrecognized subcommand"
  | missingRequiredArgument => "a required argument was not provided"
  | missingSubcommand => "a subcommand is required"
  | invalidValue => "a value is required for an option"
  | argumentConflict => "an option cannot be used multiple times"
  | tooManyValues => "a flag takes no value"
  | help | helpOnMissing => "help"

def candidates (directory : String) : Source → List String
  | .file path => [joinPath directory path]
  | .layered global => global.toList ++ Source.projectNames.map (joinPath directory)

def lookupFile (path : String) : IO Lookup := do
  if let some error := pathFault? path then return .missing error
  try
    return .file (← IO.FS.readBinFile path).toList
  catch
    | .noFileOrDirectory .. => return .missing .notFound
    | .inappropriateType _ 21 _ => return .unreadable .isDirectory
    | .inappropriateType .. => return .missing .notDirectory
    | .invalidArgument _ 36 _ => return .missing .nameTooLong
    | error => return .unreadable ⟨toString error⟩

def lookupDirectory : IO (Except FileFault String) := do
  try
    return .ok (← IO.currentDir).toString
  catch error =>
    return .error ⟨toString error⟩

def answerUsage (error : UsageFault) : IO UInt32 := do
  match error with
  | .help =>
    IO.print usageText
    return 0
  | .helpOnMissing =>
    IO.eprint usageText
    return 2
  | error =>
    IO.eprint ("error: " ++ error.summary ++ "\n\n" ++ usageText)
    return 2

def answerRequest (request : Request) : IO UInt32 := do
  let directory ← lookupDirectory
  let home ← IO.getEnv "HOME"
  let paths := directory.toOption.elim [] fun directory =>
    candidates directory (request.source home)
  let found ← paths.mapM fun path => return (path, ← lookupFile path)
  let files : Files := fun path => (found.lookup path).getD (.missing .notFound)
  let report := (request.run ⟨Yaml.readConfig, files, directory, home⟩).report []
  IO.print (report.output.print fun fields => fields.mergeSort (·.1 ≤ ·.1))
  if let .error error := report.result then
    IO.eprintln ("cmdmatch: " ++ error.message)
  return report.code.toUInt32

end CommandGrammar.Cli

open CommandGrammar.Cli in
def main (args : List String) : IO UInt32 :=
  match Request.ofArguments args with
  | .ok request => answerRequest request
  | .error error => answerUsage error

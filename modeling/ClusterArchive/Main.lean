import ClusterArchive.Command.Invocation
import ClusterArchive.Policy.Report

/-!
# The program

Reads the command line and the environment and checks policies, which is all that the program does
on its own: the receiver and the log service are functions from requests to responses, which a host
with a network calls.
-/

namespace ClusterArchive.Main

open Command (Invocation UsageError Environment Declared)

/-- The variables that stand in for options, as far as they are set. -/
def environment : IO Environment := do
  let declared : List Declared :=
    Command.topLevel.options ++ Command.commandNames.flatMap Command.optionsOf
  let found ← declared.mapM fun o => do
    return (← IO.getEnv o.variable_).map fun v => (o.variable_, v)
  return found.filterMap id

/-- The failure that an error of the system stands for. -/
def failureOf : IO.Error → Files.Failure
  | .noFileOrDirectory .. => .notFound
  | .inappropriateType .. => .notADirectory
  | _ => .other

/-- What a look into a directory shows. -/
def listing (path : String) : IO Files.Listing := do
  try
    let entries ← ((← IO.currentDir) / path).readDir
    let found ← entries.toList.mapM fun e => do
      let target : Option Files.Target ←
        try
          let about ← e.path.metadata
          if about.type == .dir then pure (some (.directory []))
          else
            let contents ←
              try
                let bytes ← IO.FS.readBinFile e.path
                pure (Except.ok bytes.toList)
              catch err => pure (.error (failureOf err))
            pure (some (.file contents about.modified.sec))
        catch _ => pure none
      return (⟨e.fileName, target⟩ : Files.Entry)
    return .ok found
  catch err => return .error (failureOf err)

/-- Writes a report on the policies of a directory. -/
def checkPolicies (path : String) : IO UInt32 := do
  match Policy.load path (← listing path) with
  | .error _ => return Policy.haltCode.toUInt32
  | .ok loaded =>
    let report := Policy.Report.of path loaded
    report.output.forM IO.println
    report.errors.forM IO.eprintln
    return report.code.toUInt32

/-- The commands with their options, one to a line. -/
def usage : String :=
  Text.joined "\n" (Command.commandNames.map fun name =>
    Text.joined " " (name :: (Command.levelOf name).options.map fun o => "[--" ++ o.name ++ "]"))

/-- Reports why a command line is not carried out. -/
def refuse : UsageError → IO UInt32
  | .displayHelp => do
    IO.println usage
    return 0
  | .displayVersion => do
    IO.println "0.1.0"
    return 0
  | _ => do
    IO.eprintln usage
    return 2

/-- Carries out a command line. -/
def run (arguments : List String) : IO UInt32 := do
  match Invocation.read arguments (← environment) with
  | .error e => refuse e
  | .ok invocation =>
    match invocation.action with
    | .checkPolicies path => checkPolicies (path.getD "")
    | .sink _ | .logs _ => do
      IO.eprintln "this service is run by a host with a network"
      return 1

end ClusterArchive.Main

/-- The entry point. -/
def main (arguments : List String) : IO UInt32 := ClusterArchive.Main.run arguments

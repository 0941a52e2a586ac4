import Std.Time.DateTime.Timestamp
import TagGovernance.CommandLine.Run

/-!
# The program

Reads the files that a command line names, runs it, and prints what comes out.
-/

namespace TagGovernance

namespace CommandLine.Invocation

/-- Whether the payload comes from the standard input. -/
def readsInput (i : Invocation) : Bool :=
  match i.command with
  | .reconcile r => r.existing = "-"
  | _ => false

/-- The files that an invocation reads. -/
def files (i : Invocation) : List String :=
  i.overrides.config.toList ++ match i.command with
    | .reconcile r => [r.existing]
    | .catalog => []
    | .replay path _ => [path]

end CommandLine.Invocation

/-- The content of a file, if it can be read. -/
def readFile? (path : String) : IO (Option ByteArray) := do
  try return some (← IO.FS.readBinFile path) catch _ => return none

/-- Everything that an invocation looks at. -/
def surroundings (i : CommandLine.Invocation) : IO CommandLine.Surroundings := do
  let contents ← i.files.mapM fun path => do return (path, ← readFile? path)
  let input ← if i.readsInput then (← IO.getStdin).readBinToEnd else pure .empty
  let now ← Std.Time.Timestamp.now
  return ⟨fun path => (Keyed.find? path contents).join, input, ⟨now.toSecondsSinceUnixEpoch.val⟩⟩

/-- How a command line is written. -/
def usage : String :=
  "usage: [--config FILE] [--log-format json|pretty] [--concurrency N]\n" ++
  "    [--ingest strict|last-wins] COMMAND\n" ++
  "  reconcile --existing FILE [--shape pascal|camel|map] [--add KEY=VALUE]...\n" ++
  "    [--remove KEY]...\n" ++
  "  catalog\n" ++
  "  replay --flight FILE --kind KIND [--filter FILTER]... [--logging KEY=VALUE]...\n" ++
  "    [--cross-account] [--allow-account ACCOUNT]... [--marked-for-op OP] [--skew DAYS]\n" ++
  "    [--add KEY=VALUE]... [--remove KEY]... [--mark OP:DAYS] [--mark-tag KEY]\n" ++
  "    [--delete-protection true|false] [--delete]"

end TagGovernance

open TagGovernance in
/-- Runs the command line: 0 if all went well, 1 if it failed, 2 if it could not be read. -/
def main (words : List String) : IO UInt32 := do
  match CommandLine.Invocation.ofWords? words with
  | none =>
    IO.eprintln usage
    return 2
  | some invocation =>
    let outcome := invocation.run (← surroundings invocation)
    IO.print outcome.output
    match outcome.failure with
    | none => return 0
    | some e =>
      IO.eprintln ("Error: " ++ e.line)
      return 1

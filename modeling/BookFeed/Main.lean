import BookFeed.Command.Run

set_option autoImplicit false

/-!
# The command line

The outer layer: it reads the words of the command line, the environment and the file of
variables, and writes what the command leaves behind. It has no network of its own, so that
every request is refused.

## Main definitions

* `BookFeed.runWords` — what a command line leaves behind.
* `main` — the program.
-/

namespace BookFeed

/-- The variables of a block in which each `NAME=value` ends with a null character. -/
def readEnvironment (block : String) : List Settings.Variable :=
  (block.toList.splitOn '\x00').filterMap fun cs =>
    let name := cs.takeWhile (· != '=')
    if name.isEmpty || name.length == cs.length then none
    else some ⟨String.ofList name, String.ofList (cs.drop (name.length + 1))⟩

/-- The contents of a file, if it can be read. -/
def fileText? (path : String) : IO (Option String) := do
  try
    return some (← IO.FS.readFile path)
  catch _ =>
    return none

/-- The file of variables in the working directory, or else in the nearest directory above
it. -/
def variableFile? : Nat → String → IO (Option String)
  | 0, _ => return none
  | levels + 1, directory => do
    match ← fileText? (directory ++ ".env") with
    | some text => return some text
    | none => variableFile? levels (directory ++ "../")

/-- How many directories are looked at for the file of variables. -/
def searchedDirectories : Nat := 64

/-- Without a network every request is refused. -/
def refuse : Nat → Seed.Getter IO := fun _ _ => return .error .refused

/-- What a command line leaves behind. -/
def runWords (words : List String) : IO Command.Result := do
  let environment := readEnvironment ((← fileText? "/proc/self/environ").getD "")
  let file ← variableFile? searchedDirectories ""
  match Command.plan words environment file with
  | .error result => return result
  | .ok plan =>
    let report ← plan.run refuse []
    return report.result

end BookFeed

/-- Run a command line. -/
def main (words : List String) : IO UInt32 := do
  let result ← BookFeed.runWords words
  IO.print result.out
  IO.eprint result.err
  return UInt32.ofNat result.exit

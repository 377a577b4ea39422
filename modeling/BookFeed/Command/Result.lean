import BookFeed.Error

set_option autoImplicit false

/-!
# What a command leaves behind

## Main definitions

* `BookFeed.Command.Result` — exit code and texts.
* `BookFeed.Command.Fault` — a failure with what is behind it.
* `BookFeed.Command.Fault.report` — how a failure is reported.
-/

namespace BookFeed.Command

/-- What a command leaves behind. -/
structure Result where
  /-- The exit code. -/
  exit : Nat := 0
  /-- What it has written. -/
  out : String := ""
  /-- What it has complained about. -/
  err : String := ""
deriving DecidableEq, Repr

/-- A failure and the failures behind it. -/
structure Fault where
  /-- The failure. -/
  message : String
  /-- What is behind it, the outermost first. -/
  causes : List String := []
deriving DecidableEq, Repr

/-- A failure of the program, as a fault. -/
def Fault.ofFailure : Failure → Fault
  | .load e => ⟨(Failure.load e).message, [e.message]⟩
  | .fetch e => ⟨(Failure.fetch e).message, e.message :: e.causes⟩
  | e => ⟨e.message, []⟩

/-- A failed fetch, as a fault. -/
def Fault.ofFetch (e : Seed.FetchError) : Fault := ⟨e.message, e.causes⟩

/-- A text whose further lines are indented. -/
def indentLines (indent text : String) : String :=
  String.ofList (text.toList.flatMap fun c => if c == '\n' then c :: indent.toList else [c])

/-- The causes of a failure, with numbers if there are several. -/
def causesText : List String → String
  | [] => ""
  | [cause] => "\n\nCaused by:\n    " ++ indentLines "    " cause
  | causes => "\n\nCaused by:" ++ String.join (causes.zipIdx.map fun (cause, i) =>
      s!"\n    {i}: " ++ indentLines "       " cause)

/-- How a failure is reported. -/
def Fault.report (f : Fault) : String := s!"Error: {f.message}" ++ causesText f.causes ++ "\n"

/-- The result of a command that has written something and then failed or not. -/
def Result.of (out : String) : Except Fault Unit → Result
  | .ok () => { out := out }
  | .error f => { exit := 1, out := out, err := f.report }

end BookFeed.Command

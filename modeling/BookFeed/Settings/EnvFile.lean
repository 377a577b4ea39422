import BookFeed.Text.Blank
import BookFeed.Text.Letter

set_option autoImplicit false

/-!
# Files of variables

A file of variables has lines such as `NAME=value`, perhaps with the word `export` before the
name. A number sign starts a comment. A value may be quoted: between single quotes all
characters stand for themselves, between double quotes a backslash escapes; a quoted value may
span lines. A dollar sign and a name, perhaps in braces, stand for the value of a variable. The
file is read up to its first fault; what was read before it counts.

## Main definitions

* `BookFeed.Settings.Variable` — a variable.
* `BookFeed.Settings.extend` — the environment with the variables of a file.
-/

namespace BookFeed.Settings

/-- A variable of the environment. -/
structure Variable where
  /-- Its name. -/
  name : String
  /-- Its value. -/
  value : String
deriving DecidableEq, Repr

/-- The value of a variable, if there is one. -/
def lookup? (name : String) (vs : List Variable) : Option String :=
  (vs.find? (·.name == name)).map (·.value)

/-! ### Lines -/

/-- Where a reader is in a line, as far as it matters for where the line ends. -/
inductive LineState where
  /-- Outside of quotes. -/
  | plain
  /-- Behind a blank, where a comment may start. -/
  | blank
  /-- Behind a backslash outside of quotes. -/
  | escape
  /-- Between single quotes. -/
  | single
  /-- Behind a backslash between single quotes. -/
  | singleEscape
  /-- Between double quotes. -/
  | double
  /-- Behind a backslash between double quotes. -/
  | doubleEscape
deriving DecidableEq, Repr

/-- What a character outside of quotes leads to, if it is no blank. -/
def LineState.outside : Char → LineState
  | '\\' => .escape
  | '"' => .double
  | '\'' => .single
  | _ => .plain

/-- Pass a character; none where a comment starts. -/
def LineState.next : LineState → Char → Option LineState
  | .plain, c => some (if Text.isBlank c && c != '\n' && c != '\r' then .blank else .outside c)
  | .blank, c => if c == '#' then none else some (.outside c)
  | .escape, _ => some .plain
  | .single, c => some (if c == '\\' then .singleEscape else if c == '\'' then .plain else .single)
  | .singleEscape, _ => some .single
  | .double, c => some (if c == '\\' then .doubleEscape else if c == '"' then .plain else .double)
  | .doubleEscape, _ => some .double

/-- A line up to its comment, and the state behind it; none where there is a comment. -/
def scanLine : LineState → List Char → List Char × Option LineState
  | s, [] => ([], some s)
  | s, c :: cs =>
    match s.next c with
    | none => ([], none)
    | some s =>
      let (front, s) := scanLine s cs
      (c :: front, s)

/-- The lines of a text, each with its line feed. -/
def physicalLines : List Char → List (List Char)
  | [] => []
  | c :: cs =>
    if c == '\n' then [c] :: physicalLines cs
    else match physicalLines cs with
      | [] => [[c]]
      | l :: ls => (c :: l) :: ls

/-- A line without its line end. -/
def withoutLineEnd (cs : List Char) : List Char :=
  match cs.reverse with
  | '\n' :: '\r' :: rest => rest.reverse
  | '\n' :: rest => rest.reverse
  | _ => cs

/-- The lines of a file, where those that a quoted value spans are one. There is nothing in the
place of a line that the file does not finish, and a comment is an empty line. -/
def logicalLines : List Char → LineState → List (List Char) → List (Option (List Char))
  | _, .plain, [] => []
  | _, _, [] => [none]
  | before, state, line :: lines =>
    if (Text.trimStart (before ++ line)).head? == some '#' then
      some [] :: logicalLines [] .plain lines
    else match scanLine state line with
      | (front, none) => some (before ++ front) :: logicalLines [] .plain lines
      | (_, some .plain) => some (withoutLineEnd (before ++ line)) :: logicalLines [] .plain lines
      | (_, some state) => logicalLines (before ++ line) state lines

/-! ### Values -/

/-- Where a reader is in a value. -/
inductive ValueState where
  /-- Outside of single quotes, and perhaps between double ones. -/
  | free (quoted : Bool)
  /-- Behind a backslash there. -/
  | escape (quoted : Bool)
  /-- Between single quotes. -/
  | single
  /-- Behind a dollar sign, in the name of a variable. -/
  | dollar (quoted : Bool) (name : List Char)
  /-- In the name of a variable that is in braces. -/
  | braced (quoted : Bool) (name : List Char)
  /-- Behind a blank that ends the value. -/
  | ended
  /-- In a comment. -/
  | comment
deriving DecidableEq, Repr

/-- What a character stands for behind a backslash. -/
def escaped? (c : Char) : Option Char :=
  if c ∈ ['\\', '\'', '"', '$', ' '] then some c
  else if c == 'n' then some '\n'
  else none

/-- Pass a character of a value: the state behind it, and what it adds. The values of variables
come from a function. -/
def ValueState.next (value : List Char → List Char) :
    ValueState → Char → Option (ValueState × List Char)
  | .ended, c =>
    if c == ' ' || c == '\t' then some (.ended, [])
    else if c == '#' then some (.comment, [])
    else none
  | .comment, _ => some (.comment, [])
  | .escape quoted, c => (escaped? c).map fun e => (.free quoted, [e])
  | .single, c => some (if c == '\'' then (.free false, []) else (.single, [c]))
  | .dollar quoted name, c =>
    if Text.isLetterOrDigit c then some (.dollar quoted (name ++ [c]), [])
    else if c == '\x7b' && name.isEmpty then some (.braced quoted [], [])
    else if c == '$' then some (.dollar quoted [], value name)
    else some (.free quoted, value name ++ [c])
  | .braced quoted name, c =>
    if c == '\x7d' then some (.free quoted, value name)
    else some (.braced quoted (name ++ [c]), [])
  | .free quoted, '$' => some (.dollar quoted [], [])
  | .free quoted, '\\' => some (.escape quoted, [])
  | .free quoted, '"' => some (.free !quoted, [])
  | .free true, c => some (.free true, [c])
  | .free false, '\'' => some (.single, [])
  | .free false, ' ' => some (.ended, [])
  | .free false, '\t' => some (.ended, [])
  | .free false, c => some (.free false, [c])

/-- The value of a text, from a state on; none if it has a fault or does not end. -/
def readValue (value : List Char → List Char) : ValueState → List Char → Option (List Char)
  | .free false, [] => some []
  | .escape false, [] => some []
  | .dollar false name, [] => some (value name)
  | .ended, [] => some []
  | .comment, [] => some []
  | _, [] => none
  | s, c :: cs =>
    match s.next value c with
    | none => none
    | some (s, added) => (readValue value s cs).map (added ++ ·)

/-! ### Assignments -/

/-- A name at the start of a text, and what follows it and its blanks. -/
def readName (cs : List Char) : Option (List Char × List Char) :=
  let name := cs.takeWhile fun c => c.isAlphanum || c == '_' || c == '.'
  match name with
  | [] => none
  | c :: _ =>
    if c.isAlpha || c == '_' then some (name, Text.trimStart (cs.drop name.length)) else none

/-- What follows an equals sign and its blanks. -/
def afterEquals : List Char → Option (List Char)
  | '=' :: cs => some (Text.trimStart cs)
  | _ => none

/-- The name and the unread value of an assignment. The word `export` is a name itself if an
equals sign follows. -/
def readAssignment (cs : List Char) : Option (List Char × List Char) := do
  let (name, rest) ← readName cs
  match afterEquals rest with
  | some value => pure (name, value)
  | none =>
    if name == "export".toList then
      let (name, rest) ← readName rest
      pure (name, ← afterEquals rest)
    else none

/-- The variable of a line: none at a fault, and nothing in it where a line is empty or a
comment. The values of other variables come from a function. -/
def readLine (value : List Char → List Char) (line : List Char) : Option (Option Variable) :=
  let cs := Text.trim line
  if cs.isEmpty || cs.head? == some '#' then some none
  else match readAssignment cs with
    | none => none
    | some (name, text) =>
      let read := if text.head? == some '#' then some [] else readValue value (.free false) text
      read.map fun v => some ⟨String.ofList name, String.ofList v⟩

/-! ### Files -/

/-- What the lines of a file add to an environment: variables that it does not have yet. A name
in a value stands for the variable of the environment, else for the last one of that name in the
file, else for nothing. -/
def extendLines (env earlier : List Variable) : List (Option (List Char)) → List Variable
  | [] => env
  | none :: _ => env
  | some line :: lines =>
    let value := fun name : List Char =>
      let name := String.ofList name
      (((lookup? name env).or (lookup? name earlier)).getD "").toList
    match readLine value line with
    | none => env
    | some none => extendLines env earlier lines
    | some (some v) =>
      let known := (lookup? v.name env).isSome
      extendLines (if known then env else env ++ [v]) (v :: earlier) lines

/-- A text without the mark that may stand at the start of a file. -/
def withoutMark : List Char → List Char
  | c :: cs => if c.toNat == 0xFEFF then cs else c :: cs
  | [] => []

/-- The environment with the variables of a file; its own variables win over those of the
file. -/
def extend (env : List Variable) (file : String) : List Variable :=
  extendLines env [] (logicalLines [] .plain (physicalLines (withoutMark file.toList)))

end BookFeed.Settings

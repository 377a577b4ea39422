import BookFeed.Json.Error

set_option autoImplicit false

/-!
# Reading scanned values

A reader turns a scanned value into a typed one. Readers of containers go through the elements
in the order of the text and stop at the first complaint, and only then look at how the
container ends.

## Main definitions

* `BookFeed.Json.Reader` — what reads a value.
* `BookFeed.Json.Reader.string`, `natural`, `integer`, `boolean` — scalars.
* `BookFeed.Json.Reader.optional`, `BookFeed.Json.Reader.list` — values that may be absent,
  arrays.
* `BookFeed.Json.Reader.skip` — passing over a value.
* `BookFeed.Json.Reader.kept` — the check of a value that is kept as a whole.
* `BookFeed.Json.Reader.run` — reading a text.
-/

namespace BookFeed.Json

/-- What reads a value. -/
abbrev Reader (α : Type) := Node → Except Error α

namespace Reader

/-! ### Scalars -/

/-- Read a string. -/
def string : Reader String
  | .string s => s.text.map String.ofList
  | n => .error (n.mismatch "a string")

/-- Read a truth value. -/
def boolean : Reader Bool
  | .bool b => .ok b
  | n => .error (n.mismatch "a boolean")

/-- Read a natural number of 64 bits. -/
def natural : Reader Nat
  | .number n => do
    match ← n.value with
    | .natural k => return k
    | .negative k => throw (.wrongValue (.integer k) "u64")
    | .float x => throw (.wrongKind (.float x) "u64")
  | n => .error (n.mismatch "u64")

/-- Read an integer of 64 bits with sign. -/
def integer : Reader Int
  | .number n => do
    match ← n.value with
    | .natural k =>
      if k < 9223372036854775808 then return k else throw (.wrongValue (.integer k) "i64")
    | .negative k => return k
    | .float x => throw (.wrongKind (.float x) "i64")
  | n => .error (n.mismatch "i64")

/-! ### Containers -/

/-- Read a value that may be `null`. -/
def optional {α : Type} (read : Reader α) : Reader (Option α)
  | .null => .ok none
  | n => (read n).map some

/-- The end of a container whose elements have all been read. -/
def ending : Option Fault → Except Error Unit
  | none => .ok ()
  | some f => .error (.kept f)

/-- Read an array of any length. -/
def list {α : Type} (read : Reader α) : Reader (List α)
  | .array items fault => do
    let xs ← items.mapM read
    ending fault
    return xs
  | n => .error (n.mismatch "a sequence")

/-- The end of an array of fixed length, behind its last element: `rest` is what follows it. An
end behind a comma is told from anything else. -/
def fixedEnding (rest : List Node) (fault : Option Fault) : Except Error Unit :=
  match rest, fault with
  | [], none => .ok ()
  | [], some .arrayCut => .error (.kept .arrayCut)
  | [], some .arrayTrailingComma => .error .trailingComma
  | _, _ => .error .trailingCharacters

/-- The next element of an array of fixed length, if there is one. -/
def next (items : List Node) (fault : Option Fault) : Except Error (Option (Node × List Node)) :=
  match items with
  | n :: rest => .ok (some (n, rest))
  | [] => (ending fault).map fun _ => none

/-- Read an array of two elements. -/
def pair {α β : Type} (first : Reader α) (second : Reader β) : Reader (α × β)
  | .array items fault => do
    let some (x, items) ← next items fault | throw (.wrongLength 0 "a tuple of size 2")
    let a ← first x
    let some (y, items) ← next items fault | throw (.wrongLength 1 "a tuple of size 2")
    let b ← second y
    fixedEnding items fault
    return (a, b)
  | n => .error (n.mismatch "a tuple of size 2")

/-! ### Values as a whole -/

/-- Pass over a value: nothing but its syntax matters. -/
def skip : Reader Unit := fun n =>
  match n.fault with
  | none => .ok ()
  | some f => .error (.passed f)

/-- How many containers a kept value may be inside of, itself included. -/
def depthLimit : Nat := 128

mutual

/-- Check a value that is kept as a whole, with `depth` containers around it: syntax, numbers,
strings and the number of nested containers. -/
def kept (depth : Nat) : Node → Except Error Unit
  | .null => .ok ()
  | .bool _ => .ok ()
  | .number n => n.value.map fun _ => ()
  | .string s => s.text.map fun _ => ()
  | .array items fault =>
    if depth + 1 < depthLimit then do
      keptItems (depth + 1) items
      ending fault
    else .error .tooDeep
  | .object members fault =>
    if depth + 1 < depthLimit then do
      keptMembers (depth + 1) members
      ending fault
    else .error .tooDeep
  | .broken f => .error (.kept f)

/-- Check the elements of an array. -/
def keptItems (depth : Nat) : List Node → Except Error Unit
  | [] => .ok ()
  | n :: ns => do
    kept depth n
    keptItems depth ns

/-- Check the members of an object. -/
def keptMembers (depth : Nat) : List (Node × Node) → Except Error Unit
  | [] => .ok ()
  | m :: ms => do
    keptMember depth m
    keptMembers depth ms

/-- Check a member of an object; its key has to be a string. -/
def keptMember (depth : Nat) : Node × Node → Except Error Unit
  | (.string key, value) => do
    let _ ← key.text
    kept depth value
  | _ => .error (.kept .keyNotString)

end

/-- Read a value that may have several shapes: it is checked as a whole, and the first shape
that fits is taken. -/
def firstOf {α : Type} (type : String) (depth : Nat) (shapes : List (Reader α)) : Reader α :=
  fun n => do
    kept depth n
    match shapes.findSome? fun read => (read n).toOption with
    | some a => return a
    | none => throw (.noShape type)

/-! ### Texts -/

/-- Read a text that consists of one value. -/
def run {α : Type} (read : Reader α) (text : String) : Except Error α := do
  let d := Document.scan text.toList
  let a ← read d.root
  if d.trailing then throw .trailingCharacters
  return a

end Reader

end BookFeed.Json

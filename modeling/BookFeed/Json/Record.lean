import BookFeed.Json.Reader

set_option autoImplicit false

/-!
# Records

A record is read from an object whose members may stand in any order, or from an array of its
fields in the order of their declaration. Members of unknown names are passed over. A field that
is not required keeps its initial value where it is absent.

## Main definitions

* `BookFeed.Json.Member`, `BookFeed.Json.Record` — how a record of a type is made up.
* `BookFeed.Json.Record.read` — reading it.
-/

namespace BookFeed.Json

/-- A field of records of type `σ`. -/
structure Member (σ : Type) where
  /-- The name that messages use. -/
  name : String
  /-- Other names under which the field may be given. -/
  aliases : List String := []
  /-- Whether the field must be present. -/
  required : Bool := false
  /-- How its value is read: the result puts it into a record. -/
  read : Reader (σ → σ)

/-- Whether a field may be given under a name. -/
def Member.answersTo {σ : Type} (f : Member σ) (name : String) : Bool :=
  f.name == name || f.aliases.contains name

/-- A field that puts what it reads into a record. -/
def Member.of {σ α : Type} (name : String) (put : α → σ → σ) (read : Reader α) :
    Member σ where
  name := name
  read := fun n => (read n).map put

/-- A field with further names. -/
def Member.orNamed {σ : Type} (f : Member σ) (aliases : List String) : Member σ :=
  { f with aliases := aliases }

/-- A field that must be present. -/
def Member.demanded {σ : Type} (f : Member σ) : Member σ :=
  { f with required := true }

/-- How records of type `σ` are made up. -/
structure Record (σ : Type) where
  /-- The name that messages use. -/
  name : String
  /-- The fields in the order of their declaration. -/
  fields : List (Member σ)
  /-- A record before any field is read. What stands here for a required field is never seen. -/
  initial : σ

namespace Record

variable {σ : Type}

/-! ### Objects -/

/-- What is known of a record while its members are read. -/
structure Progress (σ : Type) where
  /-- The names of the fields met so far. -/
  seen : List String := []
  /-- The record with their values. -/
  record : σ

/-- The field that a member of this name belongs to. -/
def field? (r : Record σ) (name : String) : Option (Member σ) :=
  r.fields.find? (·.answersTo name)

/-- Read one member. That a field comes for the second time is said before its value is read. -/
def readMember (r : Record σ) (p : Progress σ) : Node × Node → Except Error (Progress σ)
  | (.string key, value) => do
    match r.field? (String.ofList (← key.text)) with
    | none =>
      Reader.skip value
      return p
    | some f =>
      if p.seen.contains f.name then throw (.duplicateField f.name)
      let put ← f.read value
      return { seen := f.name :: p.seen, record := put p.record }
  | _ => .error (.kept .keyNotString)

/-- The first field that must be present and is not. -/
def missing? (r : Record σ) (seen : List String) : Option (Member σ) :=
  r.fields.find? fun f => f.required && !seen.contains f.name

/-- Read an object. -/
def readObject (r : Record σ) (members : List (Node × Node)) (fault : Option Fault) :
    Except Error σ := do
  let p ← members.foldlM r.readMember { record := r.initial }
  Reader.ending fault
  match r.missing? p.seen with
  | some f => throw (.missingField f.name)
  | none => return p.record

/-! ### Arrays -/

/-- What a message expects of an array with too few elements. -/
def expectedLength (r : Record σ) : String :=
  s!"struct {r.name} with {r.fields.length} element" ++ if r.fields.length = 1 then "" else "s"

/-- Read the fields from the one at `index` on. -/
def readFields (r : Record σ) (fault : Option Fault) :
    Nat → List (Member σ) → List Node → σ → Except Error σ
  | _, [], items, record => do
    Reader.fixedEnding items fault
    return record
  | index, f :: fs, items, record => do
    match ← Reader.next items fault with
    | some (n, rest) =>
      let put ← f.read n
      readFields r fault (index + 1) fs rest (put record)
    | none =>
      if f.required then throw (.wrongLength index r.expectedLength)
      readFields r fault (index + 1) fs [] record

/-! ### Both forms -/

/-- Read a record in either form. -/
def read (r : Record σ) : Reader σ
  | .object members fault => r.readObject members fault
  | .array items fault => r.readFields fault 0 r.fields items r.initial
  | n => .error (n.mismatch s!"struct {r.name}")

end Record

end BookFeed.Json

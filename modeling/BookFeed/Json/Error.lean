import BookFeed.Json.Node
import BookFeed.Double.Shortest
import BookFeed.Text.Quoted

set_option autoImplicit false

/-!
# What a reader complains about

Reading gives a typed value or the first complaint in the order of the text. A complaint is
about the syntax, about the kind of a value, about the members of an object, or it comes from
the type that was to be read.

## Main definitions

* `BookFeed.Json.Found` — what stands in the text instead of what was expected.
* `BookFeed.Json.Error`, `BookFeed.Json.Error.message` — the complaints and their wording.
* `BookFeed.Json.Node.mismatch` — the complaint about a value of the wrong kind.
-/

namespace BookFeed.Json

/-- What stands in the text, as a message shows it. -/
inductive Found where
  /-- An integer. -/
  | integer (n : Int)
  /-- Any other number. -/
  | float (x : Double)
  /-- A truth value. -/
  | boolean (b : Bool)
  /-- A string. -/
  | string (cs : List Char)
  /-- Nothing. -/
  | null
  /-- An array. -/
  | sequence
  /-- An object. -/
  | map
deriving DecidableEq, Repr

/-- The wording of what was found. -/
def Found.message : Found → String
  | .integer n => s!"integer `{n}`"
  | .float x => "floating point `" ++ String.ofList x.messageText ++ "`"
  | .boolean b => s!"boolean `{b}`"
  | .string cs => "string " ++ String.ofList (Text.quote cs)
  | .null => "null"
  | .sequence => "sequence"
  | .map => "map"

/-- The complaints of a reader. -/
inductive Error where
  /-- A syntax fault met by a reader that keeps the value. -/
  | kept (fault : Fault)
  /-- A syntax fault met in passing over a value. -/
  | passed (fault : Fault)
  /-- A value of another kind than expected. -/
  | wrongKind (found : Found) (expected : String)
  /-- A value of the right kind that is not acceptable. -/
  | wrongValue (found : Found) (expected : String)
  /-- An array with too few elements. -/
  | wrongLength (length : Nat) (expected : String)
  /-- A second member of one name. -/
  | duplicateField (name : String)
  /-- No member of a name that must be there. -/
  | missingField (name : String)
  /-- A string that is none of the words of an enumeration. -/
  | unknownVariant (name : String) (known : List String)
  /-- A trailing surrogate unit alone, or a leading one before something else. -/
  | loneSurrogate
  /-- A leading surrogate unit with no second escape. -/
  | unpairedSurrogate
  /-- A number beyond the largest double. -/
  | numberOutOfRange
  /-- Too many containers around a value. -/
  | tooDeep
  /-- Text or elements behind the end of the value. -/
  | trailingCharacters
  /-- A comma before the end of an array of fixed length. -/
  | trailingComma
  /-- A value that fits none of several shapes. -/
  | noShape (type : String)
  /-- The type that was to be read rejects the value, in its own words. -/
  | rejected (message : String)
deriving DecidableEq, Repr

/-- The words of an enumeration, as a message lists them. -/
def variantList : List String → String
  | [] => ""
  | [a] => s!"`{a}`"
  | [a, b] => s!"`{a}` or `{b}`"
  | a :: r => "one of " ++ ", ".intercalate ((a :: r).map fun x => s!"`{x}`")

/-- The wording of a complaint. -/
def Error.message : Error → String
  | .kept f => f.keptMessage
  | .passed f => f.passedMessage
  | .wrongKind found expected => s!"invalid type: {found.message}, expected {expected}"
  | .wrongValue found expected => s!"invalid value: {found.message}, expected {expected}"
  | .wrongLength n expected => s!"invalid length {n}, expected {expected}"
  | .duplicateField name => s!"duplicate field `{name}`"
  | .missingField name => s!"missing field `{name}`"
  | .unknownVariant name known => s!"unknown variant `{name}`, expected {variantList known}"
  | .loneSurrogate => "lone leading surrogate in hex escape"
  | .unpairedSurrogate => "unexpected end of hex escape"
  | .numberOutOfRange => "number out of range"
  | .tooDeep => "recursion limit exceeded"
  | .trailingCharacters => "trailing characters"
  | .trailingComma => "trailing comma"
  | .noShape type => s!"data did not match any variant of untagged enum {type}"
  | .rejected message => message

/-! ### Scalars -/

/-- The complaint about the pieces of a string. -/
def Error.ofDecode : Quoted.DecodeError → Error
  | .loneSurrogate => .loneSurrogate
  | .unpaired => .unpairedSurrogate
  | .cut f => .kept f

/-- The characters of a string. -/
def Quoted.text (q : Quoted) : Except Error (List Char) :=
  q.decode.mapError Error.ofDecode

/-- The value of a number. -/
def Numeral.value (n : Numeral) : Except Error NumberValue :=
  match n.value? with
  | some v => .ok v
  | none => .error .numberOutOfRange

/-- A number as a message shows it. -/
def NumberValue.found : NumberValue → Found
  | .natural n => .integer n
  | .negative n => .integer n
  | .float x => .float x

/-- What a message shows of a value. Scalars are read to their end, and a fault in them comes
first; of a container only its first character has been seen. -/
def Node.found : Node → Except Error Found
  | .null => .ok .null
  | .bool b => .ok (.boolean b)
  | .number n => n.value.map NumberValue.found
  | .string s => s.text.map .string
  | .array _ _ => .ok .sequence
  | .object _ _ => .ok .map
  | .broken f => .error (.kept f)

/-- The complaint about a value of the wrong kind. -/
def Node.mismatch (expected : String) (n : Node) : Error :=
  match n.found with
  | .ok found => .wrongKind found expected
  | .error e => e

end BookFeed.Json

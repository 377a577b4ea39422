import BookFeed.Json.Record
import BookFeed.Json.Value

set_option autoImplicit false

/-!
# Requests to the server

A request subscribes to a list of streams or takes such a subscription back. It carries a number
once it is about to be sent.

## Main definitions

* `BookFeed.Feed.Method` — what a request asks for.
* `BookFeed.Feed.Request` — a request.
* `BookFeed.Feed.Request.encode` — its wire text.
* `BookFeed.Feed.Request.read` — reading it back.
-/

namespace BookFeed.Feed

open Json

/-! ### Methods -/

/-- What a request asks for. -/
inductive Method where
  /-- Add streams. -/
  | subscribe
  /-- Remove streams. -/
  | unsubscribe
deriving DecidableEq, Repr

namespace Method

/-- The word for a method. -/
def name : Method → String
  | .subscribe => "SUBSCRIBE"
  | .unsubscribe => "UNSUBSCRIBE"

/-- All words for methods. -/
def names : List String := [name .subscribe, name .unsubscribe]

/-- The method of a word. -/
def ofName? (s : String) : Option Method :=
  if s = name .subscribe then some .subscribe
  else if s = name .unsubscribe then some .unsubscribe
  else none

/-- The method of a word in a document. -/
def ofText (s : String) : Except Error Method :=
  match ofName? s with
  | some m => .ok m
  | none => .error (.unknownVariant s names)

/-- The complaint about a character with which no method starts. -/
def noMethod : Error := .kept .unexpectedCharacter

/-- Read the word that is the only key of an object. -/
def readKey : Reader Method
  | .string s => do ofText (String.ofList (← s.text))
  | n => .error (n.mismatch "variant identifier")

/-- Read the value that belongs to such a key. -/
def readUnit : Reader Unit
  | .null => .ok ()
  | n => .error (n.mismatch "unit")

/-- Read a method from an object with one member, whose value is `null`. -/
def readObject (members : List (Node × Node)) (fault : Option Fault) : Except Error Method :=
  match members, fault with
  | [], some .objectCut => .error (.kept .missingValue)
  | [], _ => .error noMethod
  | (key, value) :: rest, fault => do
    let m ← readKey key
    readUnit value
    match rest, fault with
    | [], none => return m
    | [], some .objectCut => throw (.kept .objectCut)
    | _, _ => throw noMethod

/-- Read a method. Of other values only the first character matters. -/
def read : Reader Method
  | .string s => do ofText (String.ofList (← s.text))
  | .object members fault => readObject members fault
  | .broken .missingValue => .error (.kept .missingValue)
  | .broken .colonCut => .error (.kept .colonCut)
  | .broken .colonMissing => .error (.kept .colonMissing)
  | _ => .error noMethod

end Method

/-! ### Requests -/

/-- A request. -/
structure Request where
  /-- What it asks for. -/
  method : Method
  /-- The streams. -/
  params : List String
  /-- Its number. -/
  id : Option Nat := none
deriving DecidableEq, Repr

namespace Request

/-- A subscription to one stream. -/
def subscribe (stream : String) : Request := ⟨.subscribe, [stream], none⟩

/-- The end of a subscription to one stream. -/
def unsubscribe (stream : String) : Request := ⟨.unsubscribe, [stream], none⟩

/-- The request with a number. -/
def withId (r : Request) (id : Nat) : Request := { r with id := some id }

/-- A request as an object. A number that is absent is left out. -/
def value (r : Request) : Value :=
  .object <|
    [("method".toList, .ofString r.method.name),
      ("params".toList, .array (r.params.map Value.ofString))] ++
    match r.id with
    | some id => [("id".toList, .integer id)]
    | none => []

/-- The wire text of a request. -/
def encode (r : Request) : String := r.value.toText

/-- How a request is made up. -/
def record : Record Request where
  name := "Request"
  fields :=
    [(Member.of "method" (fun m r => { r with method := m }) Method.read).demanded,
     (Member.of "params" (fun params r => { r with params })
       (Reader.list Reader.string)).demanded,
     Member.of "id" (fun id r => { r with id := id }) (Reader.optional Reader.natural)]
  initial := ⟨.subscribe, [], none⟩

/-- Read a request. -/
def read : Reader Request := record.read

end Request

end BookFeed.Feed

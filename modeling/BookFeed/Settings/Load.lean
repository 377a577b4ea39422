import BookFeed.Settings.Basic
import BookFeed.Settings.EnvFile

set_option autoImplicit false

/-!
# Settings from the environment

Each setting may be given by a variable of its name, whatever the case of its letters. The
variables are read in their order, and the first fault is told.

## Main definitions

* `BookFeed.Settings.LoadError` — what can be wrong with a variable.
* `BookFeed.Settings.ofVariables` — the settings of an environment.
* `BookFeed.Settings.load` — the settings of an environment and a file of variables.
-/

namespace BookFeed.Settings

/-- Why a text is not the value of a setting. -/
inductive ValueFault where
  /-- A number without digits. -/
  | emptyNumber
  /-- A number with something else than digits. -/
  | invalidDigit
  /-- A number that does not fit into 64 bits. -/
  | tooLarge
  /-- Neither of the two words of a switch. -/
  | noSwitch
deriving DecidableEq, Repr

/-- The wording of a fault of a value. -/
def ValueFault.message : ValueFault → String
  | .emptyNumber => "cannot parse integer from empty string"
  | .invalidDigit => "invalid digit found in string"
  | .tooLarge => "number too large to fit in target type"
  | .noSwitch => String.ofList <|
    "provided string was not ".toList ++ '\x60' :: "true".toList ++ '\x60' :: " or ".toList ++
      '\x60' :: "false".toList ++ ['\x60']

/-- What can be wrong with a variable. -/
inductive LoadError where
  /-- Its text is not a value of the setting. -/
  | badValue (fault : ValueFault) (v : Variable)
  /-- Another variable has given the setting already. -/
  | duplicate (setting : String)
deriving DecidableEq, Repr

/-- The wording of an error of a variable. -/
def LoadError.message : LoadError → String
  | .badValue fault v => s!"{fault.message} while parsing value '{v.value}' provided by {v.name}"
  | .duplicate setting => String.ofList <|
    "duplicate field ".toList ++ '\x60' :: setting.toList ++ ['\x60']

/-! ### Values -/

/-- Go on with a number by one digit. -/
def readDigit (n : Nat) (c : Char) : Except ValueFault Nat :=
  if !c.isDigit then .error .invalidDigit
  else
    let n := 10 * n + (c.toNat - 0x30)
    if n < 18446744073709551616 then .ok n else .error .tooLarge

/-- A number of 64 bits in digits, perhaps after a plus sign. -/
def readNumber (s : String) : Except ValueFault Nat :=
  match s.toList with
  | [] => .error .emptyNumber
  | ['+'] => .error .invalidDigit
  | '+' :: cs => cs.foldlM readDigit 0
  | cs => cs.foldlM readDigit 0

/-- A switch. -/
def readSwitch (s : String) : Except ValueFault Bool :=
  if s == "true" then .ok true else if s == "false" then .ok false else .error .noSwitch

/-- A text is a value as it is. -/
def readText (s : String) : Except ValueFault String := .ok s

/-! ### Settings by name -/

/-- A setting by name: how a text changes it. -/
structure Setting where
  /-- The name, in small letters. -/
  name : String
  /-- The change of a text. -/
  read : String → Except ValueFault (Settings → Settings)

/-- A setting from a reader of its values and a way to put them in. -/
def Setting.of {α : Type} (name : String) (read : String → Except ValueFault α)
    (put : α → Settings → Settings) : Setting where
  name
  read text := (read text).map put

/-- All settings. -/
def all : List Setting :=
  [.of "mirror_ws_url" readText fun x s => { s with streamUrl := x },
   .of "mirror_http_url" readText fun x s => { s with seedUrl := x },
   .of "mirror_market" readText fun x s => { s with market := x },
   .of "reconnect_delay_ms" readNumber fun x s => { s with reconnectDelay := x },
   .of "resubscribe_interval_ms" readNumber fun x s => { s with resubscribeInterval := x },
   .of "http_timeout_ms" readNumber fun x s => { s with httpTimeout := x },
   .of "seed_buffer_limit" readNumber fun x s => { s with seedBufferLimit := x },
   .of "rust_log" readText fun x s => { s with logFilter := x },
   .of "verbose" readSwitch fun x s => { s with verbose := x }]

/-- The small letter of a capital of a name. Beside the capitals of ASCII only the sign of the
unit kelvin has a small letter that is ASCII. -/
def smallNameLetter (c : Char) : Char := if c.toNat == 0x212A then 'k' else c.toLower

/-- The setting that a variable gives, if there is one. -/
def settingOf? (v : Variable) : Option Setting :=
  all.find? (·.name.toList == v.name.toList.map smallNameLetter)

/-- Take a variable into the settings, given the names of those that are taken. -/
def take : Settings × List String → Variable → Except LoadError (Settings × List String)
  | (s, taken), v =>
    match settingOf? v with
    | none => .ok (s, taken)
    | some setting =>
      if setting.name ∈ taken then .error (.duplicate setting.name)
      else match setting.read v.value with
        | .error fault => .error (.badValue fault v)
        | .ok change => .ok (change s, setting.name :: taken)

/-- The settings of an environment. -/
def ofVariables (vs : List Variable) : Except LoadError Settings :=
  (vs.foldlM take ({}, [])).map (·.1)

/-- The settings of an environment and, if there is one, a file of variables. -/
def load (env : List Variable) (file : Option String) : Except LoadError Settings :=
  ofVariables (match file with
    | some text => extend env text
    | none => env)

end BookFeed.Settings

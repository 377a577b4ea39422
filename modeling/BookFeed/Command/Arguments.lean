set_option autoImplicit false

/-!
# Arguments

The words of a command line say which command to run and with which options. Some options belong
to all commands and may stand before or behind the command; where both places have one, the one
behind wins. In one place an option stands at most once.

## Main definitions

* `BookFeed.Command.Arguments` — what a command line says.
* `BookFeed.Command.Arguments.parse` — reading a command line.
-/

namespace BookFeed.Command

/-- What to do. -/
inductive Task where
  /-- Follow the market until told to stop. -/
  | watch
  /-- Check the settings. -/
  | checkConfig
  /-- Ask for everything once; candles of an interval. -/
  | seed (interval : String)
deriving DecidableEq, Repr

/-- What a command line says. -/
structure Arguments where
  /-- Whether more is logged. -/
  verbose : Bool := false
  /-- The market, if it is not the one of the settings. -/
  market : Option String := none
  /-- The port on which figures are published. -/
  metricsPort : Option Nat := none
  /-- What to do. -/
  task : Task := .watch
deriving DecidableEq, Repr

/-- Why nothing is to be run. -/
inductive Refusal where
  /-- The version is to be told. -/
  | version
  /-- Help is asked for. -/
  | help
  /-- The line is not understood. -/
  | usage
deriving DecidableEq, Repr

/-! ### Options -/

/-- The options. -/
inductive OptionKind where
  /-- More is logged. -/
  | verbose
  /-- A market follows. -/
  | market
  /-- A port follows. -/
  | metricsPort
  /-- An interval follows. -/
  | interval
  /-- The version is to be told. -/
  | version
  /-- Help is asked for. -/
  | help
deriving DecidableEq, Repr

/-- Where in the line options stand: before the command, or behind one. -/
inductive Place where
  /-- Before the command. -/
  | front
  /-- Behind the command that watches. -/
  | watch
  /-- Behind the command that checks. -/
  | checkConfig
  /-- Behind the command that asks. -/
  | seed
deriving DecidableEq, Repr

/-- Options that all places have. -/
def shared : List (List String × OptionKind) :=
  [(["--verbose", "-v"], .verbose), (["--market", "-m"], .market),
   (["--metrics-port"], .metricsPort), (["--help", "-h"], .help)]

/-- The options of a place, by their words. -/
def Place.options : Place → List (List String × OptionKind)
  | .front => shared ++ [(["--version", "-V"], .version)]
  | .seed => shared ++ [(["--interval"], .interval)]
  | _ => shared

/-- The option of a word. -/
def Place.option? (p : Place) (word : List Char) : Option OptionKind :=
  (p.options.find? (·.1.any (·.toList == word))).map (·.2)

/-- What the options of one place say. -/
structure Options where
  /-- Whether more is logged. -/
  verbose : Bool := false
  /-- The market. -/
  market : Option String := none
  /-- The port on which figures are published. -/
  metricsPort : Option Nat := none
  /-- The interval of candles. -/
  interval : Option String := none
deriving DecidableEq, Repr

/-- A port: digits, perhaps after a plus sign. -/
def readPort? (cs : List Char) : Option Nat :=
  let digits := match cs with
    | '+' :: ds => ds
    | ds => ds
  if digits.isEmpty || !digits.all Char.isDigit then none
  else
    let port := digits.foldl (fun n c => 10 * n + (c.toNat - 0x30)) 0
    if port < 65536 then some port else none

/-- Take an option that stands alone. -/
def Options.takeFlag (o : Options) : OptionKind → Except Refusal Options
  | .verbose => if o.verbose then .error .usage else .ok { o with verbose := true }
  | .version => .error .version
  | .help => .error .help
  | _ => .error .usage

/-- Take an option with a value. -/
def Options.takeValue (o : Options) (value : List Char) : OptionKind → Except Refusal Options
  | .market =>
    if o.market.isSome then .error .usage
    else .ok { o with market := some (String.ofList value) }
  | .interval =>
    if o.interval.isSome then .error .usage
    else .ok { o with interval := some (String.ofList value) }
  | .metricsPort =>
    match o.metricsPort, readPort? value with
    | none, some port => .ok { o with metricsPort := some port }
    | _, _ => .error .usage
  | _ => .error .usage

/-- Whether a value follows an option. -/
def OptionKind.hasValue : OptionKind → Bool
  | .market => true
  | .metricsPort => true
  | .interval => true
  | _ => false

/-! ### Words -/

/-- What a word of options comes to: the options so far, and the option whose value has to be
the next word. -/
abbrev Taken := Options × Option OptionKind

/-- Take a long option, perhaps with a value behind an equals sign. -/
def takeLong (p : Place) (o : Options) (word : List Char) : Except Refusal Taken :=
  let name := word.takeWhile (· != '=')
  let value := if name.length == word.length then none else some (word.drop (name.length + 1))
  match p.option? name, value with
  | none, _ => .error .usage
  | some x, none => if x.hasValue then .ok (o, some x) else (o.takeFlag x).map (·, none)
  | some x, some v => (o.takeValue v x).map (·, none)

/-- Take short options that share a word; the rest of the word behind one with a value is the
value, with or without an equals sign between them. -/
def takeShort (p : Place) : Options → List Char → Except Refusal Taken
  | o, [] => .ok (o, none)
  | o, c :: cs =>
    match p.option? ['-', c] with
    | none => .error .usage
    | some x =>
      if x.hasValue then
        match cs with
        | [] => .ok (o, some x)
        | '=' :: v => (o.takeValue v x).map (·, none)
        | v => (o.takeValue v x).map (·, none)
      else do takeShort p (← o.takeFlag x) cs

/-- Whether a word is one of options. A lone hyphen is a value. -/
def isOption (word : List Char) : Bool := word.head? == some '-' && word != ['-']

/-- Take the words of one place, up to the first that is no option. Behind two hyphens nothing
is an option, and nothing may follow. -/
def takeOptions (p : Place) : Taken → List String → Except Refusal (Options × List String)
  | (_, some _), [] => .error .usage
  | (o, none), [] => .ok (o, [])
  | (o, some x), word :: words => do
    if isOption word.toList then throw .usage
    takeOptions p (← o.takeValue word.toList x, none) words
  | (o, none), word :: words =>
    match word.toList with
    | ['-', '-'] => if words.isEmpty then .ok (o, []) else .error .usage
    | '-' :: '-' :: rest => do takeOptions p (← takeLong p o ('-' :: '-' :: rest)) words
    | ['-'] => .ok (o, word :: words)
    | '-' :: rest => do takeOptions p (← takeShort p o rest) words
    | _ => .ok (o, word :: words)

/-! ### Command lines -/

/-- The commands by their words. -/
def commands : List (String × Place) :=
  [("watch", .watch), ("check-config", .checkConfig), ("seed", .seed)]

/-- The task of a command with its options. -/
def Place.task (o : Options) : Place → Task
  | .seed => .seed (o.interval.getD "1m")
  | .checkConfig => .checkConfig
  | _ => .watch

/-- What options before and behind a command say. -/
def arguments (front back : Options) (p : Place) : Arguments where
  verbose := front.verbose || back.verbose
  market := back.market <|> front.market
  metricsPort := back.metricsPort <|> front.metricsPort
  task := p.task back

/-- Read a command line. -/
def Arguments.parse (words : List String) : Except Refusal Arguments := do
  let (front, words) ← takeOptions .front ({}, none) words
  match words with
  | [] => pure (arguments front {} .watch)
  | word :: words =>
    if word == "help" then
      throw (if words.all fun w => (commands.lookup w).isSome then .help else .usage)
    match commands.lookup word with
    | none => throw .usage
    | some p =>
      let (back, rest) ← takeOptions p ({}, none) words
      if rest.isEmpty then pure (arguments front back p) else throw .usage

end BookFeed.Command

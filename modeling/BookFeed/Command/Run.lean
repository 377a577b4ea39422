import BookFeed.Command.Arguments
import BookFeed.Command.CheckConfig
import BookFeed.Command.Watch

set_option autoImplicit false

/-!
# Running a command line

## Main definitions

* `BookFeed.Command.Plan` — the settings and the task of a command line.
* `BookFeed.Command.plan` — reading command line and environment.
* `BookFeed.Command.Plan.run` — carrying out a plan.
-/

namespace BookFeed.Command

open BookFeed.Seed

/-- The settings and the task of a command line. -/
structure Plan where
  /-- The settings. -/
  settings : Settings
  /-- The task. -/
  task : Task

/-- The version line. -/
def versionLine : String := "depth-mirror 0.1.0\n"

/-- The help that is given. -/
def helpText : String :=
  "Client-side order book and ticker mirror\n\nUsage: depth-mirror [OPTIONS] [COMMAND]\n"

/-- What a command line leaves behind when nothing is to be run. -/
def Refusal.result : Refusal → Result
  | .version => { out := versionLine }
  | .help => { out := helpText }
  | .usage => { exit := 2, err := helpText }

/-- The plan of a command line in an environment, perhaps with a file of variables. -/
def plan (words : List String) (env : List Settings.Variable) (file : Option String) :
    Except Result Plan := do
  let arguments ← (Arguments.parse words).mapError Refusal.result
  let settings ← (Settings.load env file).mapError fun e =>
    .of "" (.error (.ofFailure (.load e)))
  let market := arguments.market.getD settings.market
  pure ⟨{ settings with market := market }, arguments.task⟩

/-- Carry out a plan, with a getter for each time to wait, while texts of the stream come in. -/
def Plan.run {μ : Type → Type} [Monad μ] (p : Plan) (get : Nat → Getter μ)
    (texts : List String) : μ WatchReport := do
  match p.task with
  | .checkConfig => return { result := checkConfig p.settings }
  | .seed interval => return { result := ← seed p.settings (get p.settings.httpTimeout) interval }
  | .watch => watch p.settings (get p.settings.httpTimeout) texts

end BookFeed.Command

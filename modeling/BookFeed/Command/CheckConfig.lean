import BookFeed.Command.Result

set_option autoImplicit false

/-!
# Checking the settings

## Main definitions

* `BookFeed.Command.checkConfig` — what is written about settings.
-/

namespace BookFeed.Command

/-- The heading of the check. -/
def checkHeading : List String :=
  let rule := String.ofList (List.replicate 70 '=')
  [rule, "DEPTH MIRROR - CONFIGURATION CHECK", rule]

/-- The settings, one on each line. -/
def settingLines (s : Settings) : List String :=
  ["", "Configuration:",
   s!"  Stream URL:           {s.streamUrl}",
   s!"  Seed URL:             {s.seedUrl}",
   s!"  Market:               {s.market}",
   s!"  Reconnect delay:      {s.reconnectDelay}ms",
   s!"  Re-subscribe every:   {s.resubscribeInterval}ms",
   s!"  HTTP timeout:         {s.httpTimeout}ms",
   s!"  Seed buffer limit:    {s.seedBufferLimit}"]

/-- Lines of text, each with its line feed. -/
def linesText (lines : List String) : String := String.join (lines.map (· ++ "\n"))

/-- Check settings, and show them if they can be worked with. -/
def checkConfig (s : Settings) : Result :=
  match s.check with
  | .ok () =>
    .of (linesText (checkHeading ++ ["Validating configuration... OK"] ++ settingLines s)) (.ok ())
  | .error e =>
    .of (linesText
        (checkHeading ++ ["Validating configuration... FAILED", s!"  Error: {e.message}"]))
      (.error ⟨"Configuration validation failed", []⟩)

end BookFeed.Command

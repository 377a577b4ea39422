import BookFeed.Seed.Client

set_option autoImplicit false

/-!
# A server with scripted answers

A stand-in for a web server: each target has a list of answers for its first, second and later
requests, the last of which stays. Other addresses do not answer.

## Main definitions

* `BookFeed.Seed.ScriptedServer` — the answers, and what was asked.
* `BookFeed.Seed.ScriptedServer.get` — asking.
-/

namespace BookFeed.Seed

/-- What a server does about a request. -/
structure ScriptedAnswer where
  /-- The answer. -/
  reply : Reply := ⟨200, ""⟩
  /-- How long it takes, in milliseconds. -/
  delay : Nat := 0
  /-- Whether it ends the connection instead. -/
  hangsUp : Bool := false
deriving DecidableEq, Repr

/-- A server with scripted answers. -/
structure ScriptedServer where
  /-- Where it is. -/
  host : Url.Host
  /-- Its port. -/
  port : Nat
  /-- The answers to come, by target. -/
  answers : List (String × List ScriptedAnswer) := []
  /-- The targets that were asked for. -/
  requests : List String := []
deriving DecidableEq, Repr

namespace ScriptedServer

/-- Whether a URL leads to the server. -/
def isAt (s : ScriptedServer) (url : Url) : Bool :=
  url.scheme == "http".toList &&
    match url.authority with
    | some a => a.host == s.host && (a.port <|> Url.usualPort? url.scheme) == some s.port
    | none => false

/-- The answer to the next request for a target. -/
def next (s : ScriptedServer) (target : String) : ScriptedAnswer :=
  match s.answers.lookup target with
  | some (a :: _) => a
  | _ => { reply := ⟨404, ""⟩ }

/-- The answers after one more request, of which the last one stays. -/
def rest : List ScriptedAnswer → List ScriptedAnswer
  | _ :: b :: bs => b :: bs
  | as => as

/-- The server after a request for a target. -/
def asked (s : ScriptedServer) (target : String) : ScriptedServer :=
  { s with
    requests := s.requests ++ [target]
    answers := s.answers.map fun (t, as) => (t, if t == target then rest as else as) }

/-- Whether answers of a status have no body. -/
def isBodiless (status : Nat) : Bool := status == 204 || status == 304

/-- What comes of an answer when the client waits for a time. -/
def outcome (timeout : Nat) (a : ScriptedAnswer) : Except HttpFault Reply :=
  if a.hangsUp then .error .dropped
  else if timeout < a.delay then .error .timeout
  else if isBodiless a.reply.status then .ok { a.reply with body := "" }
  else .ok a.reply

/-- Ask a server, waiting for a time. -/
def get (timeout : Nat) : Getter (StateM ScriptedServer) := fun url => do
  let s ← StateT.get
  if s.isAt url then
    let target := String.ofList url.target
    StateT.set (s.asked target)
    return outcome timeout (s.next target)
  else return .error .refused

end ScriptedServer

end BookFeed.Seed

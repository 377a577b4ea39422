import Mathlib.Data.List.Basic
import BookFeed.Proofs.Connection.Handling
import BookFeed.Proofs.Connection.Wanted

set_option autoImplicit false

/-!
# The boundary of a frame

Whatever a link delivers is handled text by text, and a text does no harm beyond itself: it is
not understood, or it carries nothing, or nobody listens to its stream, or it is heard. Exactly
one of these is the fate of a text, and each but the last is counted. The callbacks in a
registry are run for the events of their streams, in the order in which the texts come in, and
texts that nobody hears might as well not have come.

Callbacks may submit requests, as many as they like and depending on the outbox and on all that
has been received so far; they leave the registry alone.

## Main definitions

* `BookFeed.Feed.Fate`, `BookFeed.Feed.Registry.fate` — what becomes of a text.
* `BookFeed.Connection.Reaction` — the requests that callbacks submit.
* `BookFeed.Connection.Reception`, `BookFeed.Connection.Reception.run` — a manager that
  handles texts.
* `BookFeed.Connection.Reception.receivedBy` — what one callback has received.

## Main results

* `BookFeed.Connection.Reception.counters_run` — what is counted for texts.
* `BookFeed.Connection.Reception.received_run` — which callbacks are run, and in which order.
* `BookFeed.Connection.Reception.uncounted_run_filter` — texts that nobody hears leave only
  counts.
* `BookFeed.Connection.Reception.frames_accounted` — all of this for every registry and all
  texts.
-/

namespace BookFeed.Feed

/-! ### The fate of a text -/

/-- What becomes of a text. -/
inductive Fate where
  /-- It is not understood. -/
  | malformed
  /-- It carries no event. -/
  | eventless
  /-- It carries an event, and nobody listens to its stream. -/
  | missed
  /-- It carries an event, and somebody listens to its stream. -/
  | heard
deriving DecidableEq, Repr

/-- The event of a text, if its stream is the given one. -/
def eventOn (stream text : String) : Option Event :=
  match decode text with
  | .ok (some i) => if i.stream = stream then some i.event else none
  | _ => none

namespace Registry

variable {κ : Type}

/-- The fate of a text in a registry. -/
def fate (r : Registry κ) (text : String) : Fate :=
  match decode text with
  | .error _ => .malformed
  | .ok none => .eventless
  | .ok (some i) => if (r.callbacks i.stream).isEmpty then .missed else .heard

/-- What a callback receives of a text: its event, as often as the callback is listed for its
stream. -/
def share [DecidableEq κ] (r : Registry κ) (callback : κ) (text : String) : List Event :=
  match decode text with
  | .ok (some i) => List.replicate ((r.callbacks i.stream).count callback) i.event
  | _ => []

/-- Each text has one of the four fates. -/
theorem length_eq_countP_fate (r : Registry κ) (texts : List String) :
    texts.length =
      texts.countP (r.fate · = .malformed) + texts.countP (r.fate · = .eventless) +
        texts.countP (r.fate · = .missed) + texts.countP (r.fate · = .heard) := by
  induction texts with
  | nil => rfl
  | cons text texts ih =>
    simp only [List.length_cons, List.countP_cons]
    cases r.fate text <;> simp <;> omega

/-- A callback that is listed for one stream only, and once, receives the events of that
stream. -/
theorem share_of_single [DecidableEq κ] {r : Registry κ} {callback : κ} {stream : String}
    (h : ∀ s, (r.callbacks s).count callback = if s = stream then 1 else 0) (text : String) :
    r.share callback text = (eventOn stream text).toList := by
  unfold share eventOn
  cases decode text with
  | error e => rfl
  | ok inbound =>
    cases inbound with
    | none => rfl
    | some i =>
      dsimp only
      rw [h]
      split <;> rfl

end Registry

end BookFeed.Feed

namespace BookFeed.Connection

open Feed

/-! ### Counters -/

namespace Counters

/-- Counters without those of requests. -/
def ofFrames (c : Counters) : Counters := { c with requestsSent := 0, requestsBuffered := 0 }

/-- Count what became of a text. -/
def add (c : Counters) : Fate → Counters
  | .malformed => { c with decodeErrors := c.decodeErrors + 1 }
  | .eventless => { c with droppedUnknownEvent := c.droppedUnknownEvent + 1 }
  | .missed => { c with droppedUnknownStream := c.droppedUnknownStream + 1 }
  | .heard => c

/-- Count that a text has come in. -/
def receive (c : Counters) : Counters :=
  { c with
    framesReceived := c.framesReceived + 1
    dispatchLatencies := c.dispatchLatencies + 1 }

/-- The fate of a text is counted among the frames. -/
theorem ofFrames_add (c : Counters) (f : Fate) : (c.add f).ofFrames = c.ofFrames.add f := by
  cases f <;> rfl

end Counters

namespace Manager

variable {κ : Type}

/-- Each callback that is run for a text hears it: there is at least one iff the text is
heard. -/
theorem deliveries_eq_nil_iff (m : Manager κ) (text : String) :
    m.deliveries text = [] ↔ m.registry.fate text ≠ .heard := by
  unfold deliveries Registry.fate
  cases decode text with
  | error e => simp
  | ok inbound =>
    cases inbound with
    | none => simp
    | some i => simp

/-- What is counted for a text follows from its fate. A text that is heard is answered with a
number of callbacks that is not zero, so it is not taken for one that carries no event. -/
theorem tally_outcome (m m' : Manager κ) (text : String) :
    m'.tally (m.outcome text) =
      { m' with counters := m'.counters.add (m.registry.fate text) } := by
  unfold outcome Registry.fate
  cases decode text with
  | error e => rfl
  | ok inbound =>
    cases inbound with
    | none => rfl
    | some i =>
      dsimp only
      cases m.registry.callbacks i.stream with
      | nil => rfl
      | cons c cs => rfl

/-- A request moves the counters of requests only. -/
theorem ofFrames_submit (m : Manager κ) (r : Request) :
    (m.submit r).1.counters.ofFrames = m.counters.ofFrames := by
  simp only [submit]
  split <;> rfl

/-- A manager without its counters. -/
def uncounted (m : Manager κ) : Manager κ := { m with counters := {} }

/-- What a request does to a manager does not depend on its counters. -/
theorem uncounted_submit (m : Manager κ) (r : Request) :
    (m.submit r).1.uncounted = (m.uncounted.submit r).1.uncounted := by
  simp only [submit, uncounted]
  split <;> rfl

end Manager

/-! ### Handling texts one after the other -/

/-- The requests that a callback submits for an event, given the outbox that it finds and all
that has been received so far. -/
abbrev Reaction (κ : Type) := Outbox → List (κ × Event) → κ → Event → List Request

/-- A manager that handles texts, and what its callbacks have been run for. -/
structure Reception (κ : Type) where
  /-- The manager. -/
  manager : Manager κ
  /-- The callbacks that have been run and their events, the oldest first. -/
  received : List (κ × Event) := []

namespace Reception

variable {κ : Type}

/-- Submit some requests. -/
def submitAll (m : Manager κ) (requests : List Request) : Manager κ :=
  requests.foldl (fun m request => (m.submit request).1) m

/-- Run a callback: it receives the event and submits requests. -/
def callback (react : Reaction κ) (c : κ) (e : Event) (r : Reception κ) : Reception κ where
  manager := submitAll r.manager (react r.manager.outbox r.received c e)
  received := r.received ++ [(c, e)]

/-- Run the callbacks of some deliveries. -/
def deliver (react : Reaction κ) (r : Reception κ) (deliveries : List (κ × Event)) :
    Reception κ :=
  deliveries.foldl (fun r d => r.callback react d.1 d.2) r

/-- Handle a text. -/
def handle (react : Reaction κ) (r : Reception κ) (text : String) : Reception κ :=
  let handling : StateM (Reception κ) Unit :=
    Manager.handle (do return (← get).manager)
      (fun change => modify fun r => { r with manager := change r.manager })
      (fun c e => modify (callback react c e)) text
  (handling.run r).2

/-- Handle texts one after the other. -/
def run (react : Reaction κ) (r : Reception κ) (texts : List String) : Reception κ :=
  texts.foldl (handle react) r

/-- A manager with a registry, before any text has come. -/
def new (config : Config) (outbox : Outbox) (registry : Registry κ) : Reception κ where
  manager := { config := config, outbox := outbox, registry := registry }

/-- What one callback has received, in order. -/
def receivedBy [DecidableEq κ] (r : Reception κ) (c : κ) : List Event :=
  (r.received.filter (·.1 = c)).map (·.2)

theorem run_concat (react : Reaction κ) (r : Reception κ) (texts : List String) (text : String) :
    r.run react (texts ++ [text]) = (r.run react texts).handle react text := by
  simp [run]

/-- Handling a text counts it, runs the callbacks of its stream, and counts its fate. -/
theorem handle_eq (react : Reaction κ) (r : Reception κ) (text : String) :
    r.handle react text =
      let delivered :=
        deliver react { r with manager := r.manager.received } (r.manager.deliveries text)
      { delivered with
        manager :=
          { delivered.manager with
            counters := delivered.manager.counters.add (r.manager.registry.fate text) } } := by
  have hrun := Manager.run_handle (fun r : Reception κ => r.manager)
    (fun change r => { r with manager := change r.manager }) (callback react) text r
  simp only [Manager.tally_outcome] at hrun
  exact congrArg Prod.snd hrun

/-! ### What callbacks leave alone -/

/-- Requests leave the registry and the counters of frames alone. -/
theorem submitAll_spec (m : Manager κ) (requests : List Request) :
    (submitAll m requests).registry = m.registry ∧
      (submitAll m requests).counters.ofFrames = m.counters.ofFrames := by
  induction requests using List.reverseRecOn with
  | nil => exact ⟨rfl, rfl⟩
  | append_singleton requests request ih =>
    have hlast : submitAll m (requests ++ [request]) =
        ((submitAll m requests).submit request).1 := by
      simp [submitAll]
    obtain ⟨hregistry, hcounters⟩ := ih
    rw [hlast, Manager.registry_submit, Manager.ofFrames_submit]
    exact ⟨hregistry, hcounters⟩

/-- What requests do to a manager does not depend on its counters. -/
theorem uncounted_submitAll (m : Manager κ) (requests : List Request) :
    (submitAll m requests).uncounted = (submitAll m.uncounted requests).uncounted := by
  induction requests generalizing m with
  | nil => rfl
  | cons request requests ih =>
    calc (submitAll m (request :: requests)).uncounted
        = (submitAll (m.submit request).1.uncounted requests).uncounted := ih _
      _ = (submitAll (m.uncounted.submit request).1.uncounted requests).uncounted := by
          rw [Manager.uncounted_submit]
      _ = (submitAll m.uncounted (request :: requests)).uncounted := (ih _).symm

/-- Callbacks receive their events one after the other, and leave the registry and the counters
of frames alone. -/
theorem deliver_spec (react : Reaction κ) (r : Reception κ) (deliveries : List (κ × Event)) :
    (deliver react r deliveries).received = r.received ++ deliveries ∧
      (deliver react r deliveries).manager.registry = r.manager.registry ∧
      (deliver react r deliveries).manager.counters.ofFrames = r.manager.counters.ofFrames := by
  induction deliveries generalizing r with
  | nil => exact ⟨by simp [deliver], rfl, rfl⟩
  | cons d ds ih =>
    obtain ⟨hreceived, hregistry, hcounters⟩ := ih (r.callback react d.1 d.2)
    obtain ⟨hregistry', hcounters'⟩ := submitAll_spec r.manager
      (react r.manager.outbox r.received d.1 d.2)
    refine ⟨?_, hregistry.trans hregistry', hcounters.trans hcounters'⟩
    calc (deliver react r (d :: ds)).received
        = (r.callback react d.1 d.2).received ++ ds := hreceived
      _ = r.received ++ d :: ds := by simp [callback]

/-! ### Registry, counters and what is received -/

/-- A text leaves the registry alone. -/
theorem registry_handle (react : Reaction κ) (r : Reception κ) (text : String) :
    (r.handle react text).manager.registry = r.manager.registry := by
  rw [handle_eq]
  exact (deliver_spec react _ _).2.1

/-- Texts leave the registry alone. -/
theorem registry_run (react : Reaction κ) (r : Reception κ) (texts : List String) :
    (r.run react texts).manager.registry = r.manager.registry := by
  induction texts using List.reverseRecOn with
  | nil => rfl
  | append_singleton texts text ih => rw [run_concat, registry_handle, ih]

/-- A text is counted when it comes in and once more for its fate. -/
theorem counters_handle (react : Reaction κ) (r : Reception κ) (text : String) :
    (r.handle react text).manager.counters.ofFrames =
      r.manager.counters.ofFrames.receive.add (r.manager.registry.fate text) := by
  obtain ⟨-, -, hcounters⟩ := deliver_spec react { r with manager := r.manager.received }
    (r.manager.deliveries text)
  have hreceived : r.manager.received.counters.ofFrames = r.manager.counters.ofFrames.receive := rfl
  rw [handle_eq, ← hreceived, ← hcounters]
  exact Counters.ofFrames_add _ _

/-- The counters of frames after some texts: all texts are counted and timed, and each of them
is counted for its fate. -/
theorem counters_run (react : Reaction κ) (config : Config) (outbox : Outbox)
    (registry : Registry κ) (texts : List String) :
    ((new config outbox registry).run react texts).manager.counters.ofFrames =
      { framesReceived := texts.length
        decodeErrors := texts.countP (registry.fate · = .malformed)
        droppedUnknownEvent := texts.countP (registry.fate · = .eventless)
        droppedUnknownStream := texts.countP (registry.fate · = .missed)
        dispatchLatencies := texts.length } := by
  induction texts using List.reverseRecOn with
  | nil => rfl
  | append_singleton texts text ih =>
    have hregistry : ((new config outbox registry).run react texts).manager.registry = registry :=
      registry_run react _ texts
    rw [run_concat, counters_handle, ih, hregistry]
    simp only [List.length_append, List.length_singleton, List.countP_append,
      List.countP_singleton]
    cases registry.fate text <;> rfl

/-- A text runs the callbacks of its stream. -/
theorem received_handle (react : Reaction κ) (r : Reception κ) (text : String) :
    (r.handle react text).received = r.received ++ r.manager.deliveries text := by
  rw [handle_eq]
  exact (deliver_spec react _ _).1

/-- What the callbacks of a registry are run for: text by text, the callbacks of its stream. -/
theorem received_run (react : Reaction κ) (r : Reception κ) (texts : List String) :
    (r.run react texts).received = r.received ++ texts.flatMap r.manager.deliveries := by
  induction texts using List.reverseRecOn with
  | nil => simp [run]
  | append_singleton texts text ih =>
    have hregistry := registry_run react r texts
    have hsame : (r.run react texts).manager.deliveries text = r.manager.deliveries text := by
      unfold Manager.deliveries
      rw [hregistry]
    rw [run_concat, received_handle, ih, hsame, List.flatMap_append, List.flatMap_singleton,
      List.append_assoc]

/-- What one callback is run for when a text comes in. -/
theorem filter_deliveries [DecidableEq κ] (m : Manager κ) (c : κ) (text : String) :
    ((m.deliveries text).filter (·.1 = c)).map (·.2) = m.registry.share c text := by
  unfold Manager.deliveries Registry.share
  cases decode text with
  | error e => rfl
  | ok inbound =>
    cases inbound with
    | none => rfl
    | some i =>
      dsimp only
      generalize m.registry.callbacks i.stream = cs
      induction cs with
      | nil => rfl
      | cons c' cs ih =>
        by_cases h : c' = c
        · simp [h, List.replicate_succ, ih]
        · simp [h, ih]

/-- What one callback is run for when texts come in. -/
theorem filter_flatMap_deliveries [DecidableEq κ] (m : Manager κ) (c : κ) (texts : List String) :
    ((texts.flatMap m.deliveries).filter (·.1 = c)).map (·.2) =
      texts.flatMap (m.registry.share c) := by
  induction texts with
  | nil => rfl
  | cons text texts ih =>
    rw [List.flatMap_cons, List.flatMap_cons, List.filter_append, List.map_append,
      filter_deliveries, ih]

/-- One callback receives its share of each text, in order. -/
theorem receivedBy_run [DecidableEq κ] (react : Reaction κ) (config : Config) (outbox : Outbox)
    (registry : Registry κ) (texts : List String) (c : κ) :
    ((new config outbox registry).run react texts).receivedBy c =
      texts.flatMap (registry.share c) := by
  have hall : ((new config outbox registry).run react texts).received =
      texts.flatMap (new config outbox registry).manager.deliveries :=
    received_run react (new config outbox registry) texts
  unfold receivedBy
  rw [hall]
  exact filter_flatMap_deliveries _ c texts

/-! ### Texts that nobody hears -/

/-- A reception without its counters. -/
def uncounted (r : Reception κ) : Reception κ := { r with manager := r.manager.uncounted }

/-- What callbacks do does not depend on the counters. -/
theorem uncounted_deliver (react : Reaction κ) (r : Reception κ)
    (deliveries : List (κ × Event)) :
    (deliver react r deliveries).uncounted = (deliver react r.uncounted deliveries).uncounted := by
  induction deliveries generalizing r with
  | nil => rfl
  | cons d ds ih =>
    have hone : (r.callback react d.1 d.2).uncounted =
        (r.uncounted.callback react d.1 d.2).uncounted :=
      congrArg (Reception.mk · (r.received ++ [(d.1, d.2)])) (uncounted_submitAll r.manager _)
    calc (deliver react r (d :: ds)).uncounted
        = (deliver react (r.callback react d.1 d.2).uncounted ds).uncounted := ih _
      _ = (deliver react (r.uncounted.callback react d.1 d.2).uncounted ds).uncounted := by
        rw [hone]
      _ = (deliver react r.uncounted (d :: ds)).uncounted := (ih _).symm

/-- What a text does, apart from counting: it runs the callbacks of its stream. -/
theorem uncounted_handle (react : Reaction κ) (r : Reception κ) (text : String) :
    (r.handle react text).uncounted =
      (deliver react r.uncounted (r.manager.deliveries text)).uncounted := by
  rw [handle_eq]
  exact uncounted_deliver react { r with manager := r.manager.received } _

/-- A text that nobody hears does nothing but count. -/
theorem uncounted_handle_of_not_heard (react : Reaction κ) {r : Reception κ} {text : String}
    (h : r.manager.registry.fate text ≠ .heard) :
    (r.handle react text).uncounted = r.uncounted := by
  rw [uncounted_handle, (r.manager.deliveries_eq_nil_iff text).2 h]
  rfl

/-- What a text does, apart from counting, does not depend on the counters. -/
theorem uncounted_handle_congr (react : Reaction κ) {r r' : Reception κ}
    (h : r.uncounted = r'.uncounted) (text : String) :
    (r.handle react text).uncounted = (r'.handle react text).uncounted := by
  have hregistry : r.uncounted.manager.registry = r'.uncounted.manager.registry := by rw [h]
  have hdeliveries : r.manager.deliveries text = r'.manager.deliveries text := by
    unfold Manager.deliveries
    rw [show r.manager.registry = r'.manager.registry from hregistry]
  rw [uncounted_handle, uncounted_handle, h, hdeliveries]

/-- Apart from counting, some texts do what those of them do that somebody hears. -/
theorem uncounted_run_filter (react : Reaction κ) (r : Reception κ) (texts : List String) :
    (r.run react texts).uncounted =
      (r.run react (texts.filter (r.manager.registry.fate · = .heard))).uncounted := by
  induction texts using List.reverseRecOn with
  | nil => rfl
  | append_singleton texts text ih =>
    have hregistry := registry_run react r texts
    rw [run_concat, List.filter_append]
    by_cases h : r.manager.registry.fate text = .heard
    · have hone : [text].filter (r.manager.registry.fate · = .heard) = [text] := by simp [h]
      rw [hone, run_concat]
      exact uncounted_handle_congr react ih text
    · have hnone : [text].filter (r.manager.registry.fate · = .heard) = [] := by simp [h]
      rw [hnone, List.append_nil, ← ih]
      rw [← hregistry] at h
      exact uncounted_handle_of_not_heard react h

/-- **Every frame is accounted for.** A manager with any registry handles any texts, and
callbacks submit whatever requests they like. Then

* the texts that came in are those that were not understood, those that carried no event, those
  that nobody listened to and those that were heard, and the handling of each of them was timed;
* the callbacks have been run for the texts in the order of the texts, and each callback has
  received its share of each text: the event, as often as the callback is listed for the stream
  of the event; so a callback that is listed once, for one stream, has received exactly the
  events of that stream;
* the registry is the same as before;
* any other texts among which the same ones are heard, in the same order, lead to the same runs
  of callbacks, to the same outbox and to the same registry. So texts that nobody hears can be
  inserted and deleted anywhere.

**Proof sketch.** A text has one of four fates, and what is counted for it follows from its
fate, since a text that is heard is answered with a number of callbacks that is not zero. The
callbacks of a text are run on a copy of the list of its stream, and no callback changes the
registry, so each text finds the registry of the start. What a text does apart from counting is
what its callbacks do, and nobody's requests depend on the counters. -/
theorem frames_accounted [DecidableEq κ] (react : Reaction κ) (config : Config) (outbox : Outbox)
    (registry : Registry κ) (texts : List String) :
    let start : Reception κ := new config outbox registry
    let now := start.run react texts
    let counted := now.manager.counters
    counted.framesReceived =
        counted.decodeErrors + counted.droppedUnknownEvent + counted.droppedUnknownStream +
          texts.countP (registry.fate · = .heard) ∧
      counted.framesReceived = texts.length ∧ counted.dispatchLatencies = texts.length ∧
      now.received = texts.flatMap start.manager.deliveries ∧
      (∀ c, now.receivedBy c = texts.flatMap (registry.share c)) ∧
      (∀ c stream, (∀ s, (registry.callbacks s).count c = if s = stream then 1 else 0) →
        now.receivedBy c = texts.filterMap (eventOn stream)) ∧
      now.manager.registry = registry ∧
      ∀ texts', texts'.filter (registry.fate · = .heard) =
          texts.filter (registry.fate · = .heard) →
        let other := start.run react texts'
        other.received = now.received ∧ other.manager.outbox = now.manager.outbox ∧
          other.manager.registry = now.manager.registry := by
  intro start now counted
  have hcounted : counted.ofFrames = _ := counters_run react config outbox registry texts
  have hframes : counted.framesReceived = texts.length := congrArg Counters.framesReceived hcounted
  have hmalformed : counted.decodeErrors = texts.countP (registry.fate · = .malformed) :=
    congrArg Counters.decodeErrors hcounted
  have heventless : counted.droppedUnknownEvent = texts.countP (registry.fate · = .eventless) :=
    congrArg Counters.droppedUnknownEvent hcounted
  have hmissed : counted.droppedUnknownStream = texts.countP (registry.fate · = .missed) :=
    congrArg Counters.droppedUnknownStream hcounted
  have htimed : counted.dispatchLatencies = texts.length :=
    congrArg Counters.dispatchLatencies hcounted
  have hshare : ∀ c, now.receivedBy c = texts.flatMap (registry.share c) :=
    receivedBy_run react config outbox registry texts
  refine ⟨?_, hframes, htimed, received_run react start texts, hshare, ?_,
    registry_run react start texts, ?_⟩
  · rw [hframes, hmalformed, heventless, hmissed]
    exact registry.length_eq_countP_fate texts
  · intro c stream hsingle
    rw [hshare, List.filterMap_eq_flatMap_toList]
    exact congrArg (texts.flatMap ·) (funext (Registry.share_of_single hsingle))
  · intro texts' hsame other
    have hnow : now.uncounted = _ := uncounted_run_filter react start texts
    have hother : other.uncounted = _ := uncounted_run_filter react start texts'
    have heq : other.uncounted = now.uncounted := by
      rw [hother, hnow]
      exact congrArg (fun ts => (start.run react ts).uncounted) hsame
    have hreceived : other.uncounted.received = now.uncounted.received := by rw [heq]
    have houtbox : other.uncounted.manager.outbox = now.uncounted.manager.outbox := by rw [heq]
    have hregistry : other.uncounted.manager.registry = now.uncounted.manager.registry := by
      rw [heq]
    exact ⟨hreceived, houtbox, hregistry⟩

/-- Two listeners of a book and one of its figures. -/
private def bookAndFigures : Registry String :=
  ⟨[("depth@SOL_USDC", [⟨"a", "first"⟩, ⟨"b", "second"⟩]),
    ("ticker@SOL_USDC", [⟨"a", "third"⟩])]⟩

/-- Changes of the book. -/
private def changesText : String :=
  "\x7b\"stream\":\"depth@SOL_USDC\",\"data\":\x7b\"e\":\"depth\",\"id\":7\x7d\x7d"

/-- Figures. -/
private def figuresText : String :=
  "\x7b\"stream\":\"ticker@SOL_USDC\",\"tickerdata\":\x7b\"high\":\"110\"\x7d\x7d"

/-- A text that is cut off, one of an unknown event and one of an unknown stream. -/
private def unheardTexts : List String :=
  ["\x7boops", "\x7b\"stream\":\"depth@SOL_USDC\",\"data\":\x7b\"e\":\"kline\"\x7d\x7d",
    "\x7b\"stream\":\"ticker@BTC_USDC\",\"tickerdata\":\x7b\x7d\x7d"]

/-- The second listener asks for the figures again whenever it receives something. -/
private def askAgain : Reaction String := fun _ _ c _ =>
  if c = "second" then [.subscribe "ticker@SOL_USDC"] else []

/-- Texts that nobody hears come between two that are heard, or do not come. -/
theorem frames_accounted_unheard_between :
    let texts := changesText :: unheardTexts ++ [figuresText]
    ((new {} {} bookAndFigures).run askAgain texts).manager.counters.framesReceived =
        texts.length ∧
      (∀ s, (bookAndFigures.callbacks s).count "third" =
        if s = "ticker@SOL_USDC" then 1 else 0) ∧
      ((new {} {} bookAndFigures).run askAgain texts).receivedBy "third" =
        texts.filterMap (eventOn "ticker@SOL_USDC") ∧
      [changesText, figuresText].filter (bookAndFigures.fate · = .heard) =
        texts.filter (bookAndFigures.fate · = .heard) ∧
      ((new {} {} bookAndFigures).run askAgain [changesText, figuresText]).received =
        ((new {} {} bookAndFigures).run askAgain texts).received := by
  intro texts
  have hsingle : ∀ s, (bookAndFigures.callbacks s).count "third" =
      if s = "ticker@SOL_USDC" then 1 else 0 := by
    intro s
    by_cases hbook : s = "depth@SOL_USDC"
    · simp [hbook, bookAndFigures, Registry.callbacks, Registry.listeners, Registry.list?]
    · by_cases hfigures : s = "ticker@SOL_USDC"
      · simp [hfigures, bookAndFigures, Registry.callbacks, Registry.listeners, Registry.list?]
      · simp [bookAndFigures, Registry.callbacks, Registry.listeners, Registry.list?, hfigures,
          Ne.symm hbook, Ne.symm hfigures]
  have hsame : [changesText, figuresText].filter (bookAndFigures.fate · = .heard) =
      texts.filter (bookAndFigures.fate · = .heard) := by
    decide +kernel
  obtain ⟨-, hframes, -, -, -, hthird, -, hother⟩ :=
    frames_accounted askAgain {} {} bookAndFigures texts
  exact ⟨hframes, hsingle, hthird "third" "ticker@SOL_USDC" hsingle, hsame,
    (hother [changesText, figuresText] hsame).1⟩

end Reception

end BookFeed.Connection

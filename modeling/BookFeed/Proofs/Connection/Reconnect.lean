import BookFeed.Proofs.Connection.Life

set_option autoImplicit false

/-!
# Reconnecting

A client that is started and left running goes through what its connector brings, one attempt
after the other. It reads every link up to its end and no further, counts what it does, and
holds the writing end of a link exactly while it says that it is open. None of this touches the
registry, so a callback that has been registered receives the events of all links that come,
without being registered again.

The outbox of a link that refuses a text of its queue is never open, and the link is still read
to its end. So whether a link is read and whether the outbox is open are two things, and only
one direction holds: while no link is read the outbox is not open.

## Main definitions

* `BookFeed.Connection.Gauge`, `BookFeed.Connection.Manager.gauge` — what a manager shows of
  its links.
* `BookFeed.Connection.Life.handled`, `BookFeed.Connection.Life.unread` — the texts so far.
* `BookFeed.Connection.replay` — registry and receptions as the past alone determines them.
* `BookFeed.Connection.Life.Scripted`, `BookFeed.Connection.Life.Counted`,
  `BookFeed.Connection.Life.Replayed` — what every event keeps.
* `BookFeed.Connection.Life.work` — how many steps the task has left.

## Main results

* `BookFeed.Connection.Life.Kept.run` — a run keeps all of it.
* `BookFeed.Connection.Life.Kept.exists_done` — the task never gets stuck.
* `BookFeed.Connection.Life.reads_every_link` — the life of a client that is not shut down.
-/

namespace BookFeed.Connection

open Feed

/-! ### What a manager shows -/

/-- What a manager shows of its links. -/
structure Gauge where
  /-- Whether a link is being made, there is one, or there is none. -/
  phase : Phase
  /-- Whether the writing end of a link is held. -/
  held : Bool
  /-- How many links there have been. -/
  connections : Nat
  /-- How often a link has ended or an attempt has failed. -/
  reconnects : Nat
  /-- How many texts have come in. -/
  frames : Nat

namespace Manager

variable {κ : Type}

/-- What a manager shows of its links. -/
def gauge (m : Manager κ) : Gauge where
  phase := m.outbox.phase
  held := m.outbox.sink.isSome
  connections := m.connections
  reconnects := m.counters.reconnects
  frames := m.counters.framesReceived

/-- A request shows nothing of links: whoever takes it, the same writing end is held. -/
theorem gauge_submit (m : Manager κ) (r : Request) : (m.submit r).1.gauge = m.gauge := by
  have hcounted : (m.submit r).1.connections = m.connections ∧
      (m.submit r).1.counters.reconnects = m.counters.reconnects ∧
      (m.submit r).1.counters.framesReceived = m.counters.framesReceived := by
    simp only [submit]
    split <;> exact ⟨rfl, rfl, rfl⟩
  have houtbox : (m.submit r).1.outbox.phase = m.outbox.phase ∧
      (m.submit r).1.outbox.sink.isSome = m.outbox.sink.isSome := by
    rcases m.submit_cases r with ⟨s, s', hopen, -, h, -⟩ | ⟨-, h, -⟩
    · have hheld : m.outbox.sink.isSome = true := by
        unfold Outbox.openSink at hopen
        split at hopen
        · obtain ⟨hsink, -⟩ := Option.filter_eq_some_iff.1 hopen
          rw [hsink]
          rfl
        · cases hopen
      rw [h]
      exact ⟨rfl, hheld.symm⟩
    · rw [h]
      exact ⟨rfl, rfl⟩
  simp only [gauge, hcounted, houtbox]

/-- Calls show nothing of links. -/
theorem gauge_callAll (m : Manager κ) (calls : List (Call κ)) :
    (m.callAll calls).gauge = m.gauge := by
  induction calls generalizing m with
  | nil => rfl
  | cons c cs ih =>
    have hone : (m.call c).gauge = m.gauge := by
      cases c with
      | submit r => exact m.gauge_submit r
      | repeatWish stream =>
        simp only [call, repeatSubscription]
        split
        · exact m.gauge_submit _
        · rfl
      | register stream identity callback => rfl
      | deregister stream identity => rfl
    exact (ih _).trans hone

/-- A link that stops taking texts is held on to. -/
theorem gauge_stop (m : Manager κ) (link : Nat) : (m.stop link).gauge = m.gauge := by
  simp [gauge, stop, Outbox.stop]

/-- What becomes of a text shows nothing of links. -/
theorem gauge_tally (m : Manager κ) (x : Except FrameError Nat) : (m.tally x).gauge = m.gauge := by
  unfold tally
  split <;> rfl

/-- A new link is counted. It is held, and the manager is open, unless the link refuses a
text. -/
theorem gauge_ready (m : Manager κ) (s : Sink) :
    (m.ready s).gauge = { m.gauge with connections := m.connections + 1 } ∨
      (m.ready s).gauge =
        { m.gauge with phase := .opened, held := true, connections := m.connections + 1 } := by
  have hcounted : (m.ready s).connections = m.connections + 1 ∧
      (m.ready s).counters.reconnects = m.counters.reconnects ∧
      (m.ready s).counters.framesReceived = m.counters.framesReceived := ⟨rfl, rfl, rfl⟩
  rcases m.ready_cases s with
    ⟨taken, left, -, houtbox, -⟩ | ⟨n, -, houtbox, -⟩ | ⟨s', -, houtbox, -⟩
  · exact Or.inl (by simp only [gauge, hcounted, houtbox])
  · exact Or.inl (by simp only [gauge, hcounted, houtbox])
  · exact Or.inr (by simp only [gauge, hcounted, houtbox, Option.isSome_some])

/-- Calls change the registry one after the other. -/
theorem registry_callAll (m : Manager κ) (calls : List (Call κ)) :
    (m.callAll calls).registry = calls.foldl Call.onRegistry m.registry := by
  induction calls generalizing m with
  | nil => rfl
  | cons c cs ih =>
    have hone : (m.call c).registry = c.onRegistry m.registry := by
      cases c with
      | submit r => exact m.registry_submit r
      | repeatWish stream => exact m.registry_advance (.repeatWish stream)
      | register stream identity callback => rfl
      | deregister stream identity => rfl
    rw [List.foldl_cons, ← hone]
    exact ih _

end Manager

/-! ### The past alone -/

/-- A registry and what callbacks have received, after one more deed: a text runs the callbacks
that its stream has at that time. -/
def replayOne {κ : Type} (s : Registry κ × List (κ × Event)) :
    Deed κ → Registry κ × List (κ × Event)
  | .text text => (s.1, s.2 ++ ({ registry := s.1 } : Manager κ).deliveries text)
  | .call c => (c.onRegistry s.1, s.2)

/-- The registry and what callbacks have received, as the texts that were handled and the calls
that were made determine them. Links do not occur here. -/
def replay {κ : Type} (history : List (Deed κ)) : Registry κ × List (κ × Event) :=
  history.foldl replayOne ({}, [])

/-- Calls change the registry only. -/
theorem foldl_replayOne_calls {κ : Type} (s : Registry κ × List (κ × Event))
    (calls : List (Call κ)) :
    (calls.map Deed.call).foldl replayOne s = (calls.foldl Call.onRegistry s.1, s.2) := by
  induction calls generalizing s with
  | nil => rfl
  | cons c cs ih =>
    rw [List.map_cons, List.foldl_cons, ih]
    rfl

/-- Calls are not texts. -/
theorem filterMap_text_calls {κ : Type} (calls : List (Call κ)) :
    calls.filterMap (Deed.text? ∘ Deed.call) = [] :=
  List.filterMap_eq_nil_iff.2 fun _ _ => rfl

/-- The texts that a link delivers are those before its end. -/
theorem filterMap_text_linkEvents (ms : List SocketMessage) :
    (linkEvents ms).filterMap LinkEvent.text? = textsBeforeEnd ms := by
  rw [linkEvents_eq, List.filterMap_append, List.filterMap_map]
  have hid : LinkEvent.text? ∘ LinkEvent.frame = some := rfl
  rw [hid, List.filterMap_some]
  simp

namespace Life

variable {κ : Type} (react : Conduct κ)

/-- The attempt whose link is being read, if there is one. -/
def present (l : Life κ) : List Trial := l.current.toList.map Reading.trial

/-- The texts that have been handled, the oldest first. -/
def handled (l : Life κ) : List String := l.history.filterMap Deed.text?

/-- The texts that the link has delivered or will deliver, and that have not been read. -/
def unread (l : Life κ) : List String :=
  l.current.toList.flatMap fun r => r.inbox.filterMap LinkEvent.text?

/-! ### What the connector brings -/

/-- A client works through what its connector brings: what is over, what is read and what is to
come make up the script, and what is handled and what is unread make up the texts of the links
so far. -/
structure Scripted (script : List Trial) (l : Life κ) : Prop where
  /-- No attempt is lost, repeated or moved. -/
  script : l.past ++ l.present ++ l.coming = script
  /-- What has not been read of a link are some texts and that it has ended. -/
  inbox : ∀ r ∈ l.current, ∃ texts : List String,
    r.inbox = texts.map .frame ++ [.closed (ending r.messages).1 (ending r.messages).2]
  /-- No text is lost, repeated or moved. -/
  texts : l.handled ++ l.unread = (l.past ++ l.present).flatMap Trial.texts

/-- Nothing has come yet. -/
theorem Scripted.new (config : Config) (script : List Trial) :
    (new config script : Life κ).Scripted script where
  script := rfl
  inbox r hr := by simp [Life.new] at hr
  texts := rfl

/-- A link that delivers no text next delivers that it has ended, and nothing after that. -/
theorem Scripted.inbox_eq {script : List Trial} {l : Life κ} (h : l.Scripted script) {r : Reading}
    (hcurrent : l.current = some r) (hhead : ∀ text inbox, r.inbox ≠ .frame text :: inbox) :
    r.inbox = [.closed (ending r.messages).1 (ending r.messages).2] := by
  obtain ⟨texts, heq⟩ := h.inbox r hcurrent
  cases texts with
  | nil => exact heq
  | cons t ts => exact absurd heq (hhead t _)

/-- The task works through what the connector brings. -/
theorem Scripted.went {script : List Trial} {l l' : Life κ} (h : l.Scripted script)
    (hwent : Went l l') : l'.Scripted script := by
  obtain ⟨hscript, hinbox, htexts⟩ := h
  cases hwent with
  | waits hcurrent hstage => exact ⟨hscript, hinbox, htexts⟩
  | begins c hcurrent hstage hc hmanager => exact ⟨hscript, hinbox, htexts⟩
  | fails c rest hcurrent hstage hcoming hc hmanager =>
    refine ⟨?_, hinbox, ?_⟩
    · simpa [present, hcurrent, hcoming] using hscript
    · simpa [present, unread, handled, hcurrent, Trial.texts] using htexts
  | links c link room messages rest hcurrent hstage hcoming hc hmanager =>
    refine ⟨?_, ?_, ?_⟩
    · simpa [present, hcurrent, hcoming, Reading.trial] using hscript
    · intro r hr
      obtain rfl := Option.some.inj hr
      exact ⟨_, linkEvents_eq messages⟩
    · have hbefore : l.history.filterMap Deed.text? = l.past.flatMap Trial.texts := by
        simpa [present, unread, handled, hcurrent] using htexts
      simp [present, unread, handled, Reading.trial, Trial.texts, filterMap_text_linkEvents,
        hbefore]
  | reads r text inbox calls x hcurrent hhead =>
    refine ⟨?_, ?_, ?_⟩
    · simpa [present, hcurrent, Reading.trial] using hscript
    · intro r' hr'
      obtain rfl := Option.some.inj hr'
      obtain ⟨texts, heq⟩ := hinbox r hcurrent
      rw [hhead] at heq
      -- what has been read is the first of the texts, since the last event is none
      cases texts with
      | nil => cases heq
      | cons t ts => exact ⟨ts, (List.cons.inj heq).2⟩
    · simpa [present, unread, handled, hcurrent, hhead, Reading.trial,
        filterMap_text_calls] using htexts
  | ends c r hcurrent hhead hc hmanager =>
    have hlast := Scripted.inbox_eq ⟨hscript, hinbox, htexts⟩ hcurrent hhead
    refine ⟨?_, ?_, ?_⟩
    · simpa [present, hcurrent] using hscript
    · intro r' hr'
      cases hr'
    · simpa [present, unread, handled, hcurrent, hlast, List.filterMap_cons] using htexts

/-- Events leave the script as it is, and the task works through it. -/
theorem Scripted.advance {script : List Trial} {l : Life κ} (hs : l.Steady) (h : l.Scripted script)
    (e : LifeEvent κ) : (l.advance react e).Scripted script := by
  cases e with
  | start => exact ⟨h.script, h.inbox, h.texts⟩
  | go => exact h.went (went_go react hs)
  | call c =>
    have hhandled : (l.advance react (.call c)).handled = l.handled := by
      simp [Life.advance, call, handled]
    refine ⟨h.script, h.inbox, ?_⟩
    rw [hhandled]
    exact h.texts
  | refuse link => exact ⟨h.script, h.inbox, h.texts⟩

/-! ### What is counted -/

/-- A client counts what it does, and holds the writing end of a link exactly while it is
open. -/
structure Counted (l : Life κ) : Prop where
  /-- The links so far. -/
  connections : l.client.manager.gauge.connections = (l.past ++ l.present).countP Trial.isLink
  /-- The attempts that are over. -/
  reconnects : l.client.manager.gauge.reconnects = l.past.length
  /-- The texts that were handled. -/
  frames : l.client.manager.gauge.frames = l.handled.length
  /-- The writing end is held exactly while the manager is open. -/
  held : l.client.manager.gauge.held = true ↔ l.client.manager.gauge.phase = .opened
  /-- While no link is read, the manager is not open. -/
  quiet : l.current = none → l.client.manager.gauge.phase ≠ .opened

/-- Nothing has been counted yet. -/
theorem Counted.new (config : Config) (script : List Trial) :
    (new config script : Life κ).Counted where
  connections := rfl
  reconnects := rfl
  frames := rfl
  held := by simp [Life.new, Manager.gauge]
  quiet _ := nofun

/-- What is counted depends on the gauge and on what has been brought and handled. -/
theorem Counted.of_gauge {l l' : Life κ} (h : l.Counted)
    (hgauge : l'.client.manager.gauge = l.client.manager.gauge) (hpast : l'.past = l.past)
    (hcurrent : l'.current = l.current) (hhandled : l'.handled = l.handled) : l'.Counted := by
  have hpresent : l'.present = l.present := by rw [present, present, hcurrent]
  obtain ⟨hconnections, hreconnects, hframes, hheld, hquiet⟩ := h
  refine ⟨?_, ?_, ?_, ?_, ?_⟩
  · rw [hgauge, hpast, hpresent]
    exact hconnections
  · rw [hgauge, hpast]
    exact hreconnects
  · rw [hgauge, hhandled]
    exact hframes
  · rw [hgauge]
    exact hheld
  · rw [hgauge, hcurrent]
    exact hquiet

/-- An attempt that is over is counted, and no writing end is held after it. -/
theorem Counted.of_dropped {l l' : Life κ} (h : l.Counted)
    (hmanager : l'.client.manager = l.client.manager.dropped)
    (hpast : l'.past.length = l.past.length + 1)
    (hlinks : (l'.past ++ l'.present).countP Trial.isLink =
      (l.past ++ l.present).countP Trial.isLink)
    (hhandled : l'.handled = l.handled) : l'.Counted where
  connections := by
    rw [hmanager, hlinks]
    exact h.connections
  reconnects := by
    rw [hmanager, hpast, ← h.reconnects]
    rfl
  frames := by
    rw [hmanager, hhandled]
    exact h.frames
  held := by
    rw [hmanager]
    exact ⟨nofun, nofun⟩
  quiet _ := by
    rw [hmanager]
    nofun

/-- What the task does is counted. -/
theorem Counted.went {l l' : Life κ} (h : l.Counted) (hwent : Went l l') : l'.Counted := by
  cases hwent with
  | waits hcurrent hstage => exact h
  | begins c hcurrent hstage hc hmanager =>
    have hgauge : c.manager.gauge = { l.client.manager.gauge with phase := .connecting } := by
      rw [hmanager]
      rfl
    -- no writing end is held that the new phase would not match
    have hfree : ¬ l.client.manager.gauge.held = true :=
      fun hsome => h.quiet hcurrent (h.held.1 hsome)
    refine ⟨?_, ?_, ?_, ?_, ?_⟩ <;> dsimp only <;> rw [hgauge]
    · exact h.connections
    · exact h.reconnects
    · exact h.frames
    · exact ⟨fun hsome => absurd hsome hfree, nofun⟩
    · exact fun _ => nofun
  | fails c rest hcurrent hstage hcoming hc hmanager =>
    refine h.of_dropped hmanager (by simp) ?_ rfl
    simp [present, Trial.isLink]
  | links c link room messages rest hcurrent hstage hcoming hc hmanager =>
    have hlinks : (l.past ++ [Trial.link room messages]).countP Trial.isLink =
        l.client.manager.gauge.connections + 1 := by
      rw [h.connections]
      simp [present, hcurrent, Trial.isLink]
    rcases l.client.manager.gauge_ready ⟨link, room⟩ with hgauge | hgauge
    · refine ⟨?_, ?_, ?_, ?_, nofun⟩ <;> dsimp only <;> rw [hmanager, hgauge]
      · exact hlinks.symm
      · exact h.reconnects
      · exact h.frames
      · exact h.held
    · refine ⟨?_, ?_, ?_, ?_, nofun⟩ <;> dsimp only <;> rw [hmanager, hgauge]
      · exact hlinks.symm
      · exact h.reconnects
      · exact h.frames
      · exact ⟨fun _ => rfl, fun _ => rfl⟩
  | reads r text inbox calls x hcurrent hhead =>
    have hgauge : ((l.client.manager.received.callAll calls).tally x).gauge =
        { l.client.manager.gauge with frames := l.client.manager.gauge.frames + 1 } := by
      rw [Manager.gauge_tally, Manager.gauge_callAll]
      rfl
    refine ⟨?_, ?_, ?_, ?_, nofun⟩ <;> dsimp only <;> rw [hgauge]
    · simpa [present, hcurrent, Reading.trial] using h.connections
    · exact h.reconnects
    · simp [handled, h.frames, filterMap_text_calls]
    · exact h.held
  | ends c r hcurrent hhead hc hmanager =>
    refine h.of_dropped hmanager (by simp) ?_ rfl
    simp [present, hcurrent]

/-- What happens is counted. -/
theorem Counted.advance {l : Life κ} (hs : l.Steady) (h : l.Counted) (e : LifeEvent κ) :
    (l.advance react e).Counted := by
  cases e with
  | start =>
    have hmanager : l.client.start.manager = l.client.manager := l.client.start_manager
    exact h.of_gauge (congrArg Manager.gauge hmanager) rfl rfl rfl
  | go => exact h.went (went_go react hs)
  | call c =>
    have hgauge : (l.client.manager.call c).gauge = l.client.manager.gauge :=
      l.client.manager.gauge_callAll [c]
    exact h.of_gauge hgauge rfl rfl (by simp [Life.advance, call, handled])
  | refuse link => exact h.of_gauge (l.client.manager.gauge_stop link) rfl rfl rfl

/-! ### The registry -/

/-- The registry and what callbacks have received are what the past alone determines. -/
def Replayed (l : Life κ) : Prop := (l.client.manager.registry, l.received) = replay l.history

/-- What happens to links and attempts does not touch the registry. -/
theorem Replayed.of_registry {l l' : Life κ} (h : l.Replayed)
    (hregistry : l'.client.manager.registry = l.client.manager.registry)
    (hhistory : l'.history = l.history) (hreceived : l'.received = l.received) : l'.Replayed := by
  unfold Replayed
  rw [hregistry, hhistory, hreceived]
  exact h

/-- What the task does to the registry and to callbacks is to handle texts. -/
theorem Replayed.went {l l' : Life κ} (h : l.Replayed) (hwent : Went l l') : l'.Replayed := by
  cases hwent with
  | waits hcurrent hstage => exact h
  | begins c hcurrent hstage hc hmanager =>
    exact h.of_registry ((congrArg Manager.registry hmanager).trans rfl) rfl rfl
  | fails c rest hcurrent hstage hcoming hc hmanager =>
    exact h.of_registry ((congrArg Manager.registry hmanager).trans rfl) rfl rfl
  | links c link room messages rest hcurrent hstage hcoming hc hmanager =>
    exact h.of_registry ((congrArg Manager.registry hmanager).trans rfl) rfl rfl
  | reads r text inbox calls x hcurrent hhead =>
    have hregistry : ((l.client.manager.received.callAll calls).tally x).registry =
        calls.foldl Call.onRegistry l.client.manager.registry := by
      rw [Manager.registry_tally, Manager.registry_callAll]
      rfl
    unfold Replayed at h ⊢
    dsimp only
    rw [hregistry, replay, List.foldl_append, List.foldl_cons, foldl_replayOne_calls]
    rw [replay] at h
    rw [← h]
    rfl
  | ends c r hcurrent hhead hc hmanager =>
    exact h.of_registry ((congrArg Manager.registry hmanager).trans rfl) rfl rfl

/-- Whatever happens, the past alone determines the registry and what callbacks have
received. -/
theorem Replayed.advance {l : Life κ} (hs : l.Steady) (h : l.Replayed) (e : LifeEvent κ) :
    (l.advance react e).Replayed := by
  cases e with
  | start => exact h.of_registry (congrArg Manager.registry l.client.start_manager) rfl rfl
  | go => exact h.went (went_go react hs)
  | call c =>
    have hregistry : (l.client.manager.call c).registry = c.onRegistry l.client.manager.registry :=
      l.client.manager.registry_callAll [c]
    unfold Replayed at h ⊢
    simp only [Life.advance, call, changeManager]
    rw [hregistry, replay, List.foldl_append, ← replay, ← h]
    rfl
  | refuse link => exact h.of_registry rfl rfl rfl

/-! ### Getting to the end -/

/-- How many steps some attempts take the task, each of them up to the beginning of the next
round. -/
def stepsOf : List Trial → Nat
  | [] => 0
  | .failed :: ts => 2 + stepsOf ts
  | .link _ messages :: ts => (linkEvents messages).length + 2 + stepsOf ts

/-- How many steps the task has left until it waits for an attempt that does not come. -/
def work (l : Life κ) : Nat :=
  stepsOf l.coming +
    match l.current, l.client.stage? with
    | some r, _ => r.inbox.length + 1
    | none, some .connecting => 0
    | none, _ => 1

/-- Once a client has been started, each step of the task is one less that is left. -/
theorem Scripted.work_went {script : List Trial} {l l' : Life κ} (h : l.Scripted script)
    (hstarted : l.client.stage? ≠ none) (hwent : Went l l') : l'.work = l.work - 1 := by
  cases hwent with
  | waits hcurrent hstage =>
    obtain hidle | ⟨hconnecting, hcoming⟩ := hstage
    · exact absurd hidle hstarted
    · simp [work, hcurrent, hconnecting, hcoming, stepsOf]
  | begins c hcurrent hstage hc hmanager =>
    rcases hstage with hspawned | hsleeping
    · simp [work, hcurrent, hspawned, hc.stage?_eq]
    · simp [work, hcurrent, hsleeping, hc.stage?_eq]
  | fails c rest hcurrent hstage hcoming hc hmanager =>
    simp [work, hcurrent, hstage, hcoming, hc.stage?_eq, stepsOf]
    omega
  | links c link room messages rest hcurrent hstage hcoming hc hmanager =>
    simp [work, hcurrent, hstage, hcoming, stepsOf]
    omega
  | reads r text inbox calls x hcurrent hhead =>
    simp [work, hcurrent, hhead]
  | ends c r hcurrent hhead hc hmanager =>
    have hlast := h.inbox_eq hcurrent hhead
    simp [work, hcurrent, hlast, hc.stage?_eq]

/-- A client that has been started stays so. -/
theorem Went.started {l l' : Life κ} (hwent : Went l l') (hstarted : l.client.stage? ≠ none) :
    l'.client.stage? ≠ none := by
  cases hwent with
  | waits hcurrent hstage => exact hstarted
  | begins c hcurrent hstage hc hmanager => simp [hc.stage?_eq]
  | fails c rest hcurrent hstage hcoming hc hmanager => simp [hc.stage?_eq]
  | links c link room messages rest hcurrent hstage hcoming hc hmanager => simp [hc.stage?_eq]
  | reads r text inbox calls x hcurrent hhead =>
    exact hstarted
  | ends c r hcurrent hhead hc hmanager => simp [hc.stage?_eq]

/-! ### Runs -/

/-- What every event keeps, for a client that is not shut down and the script of its
connector. -/
structure Kept (script : List Trial) (l : Life κ) : Prop where
  /-- It has at most one task. -/
  steady : l.Steady
  /-- It works through the script. -/
  scripted : l.Scripted script
  /-- It counts what it does. -/
  counted : l.Counted
  /-- Its past determines its registry and what callbacks have received. -/
  replayed : l.Replayed

/-- An event keeps what every event keeps. -/
theorem Kept.advance {script : List Trial} {l : Life κ} (h : l.Kept script) (e : LifeEvent κ) :
    (l.advance react e).Kept script where
  steady := h.steady.advance react e
  scripted := h.scripted.advance react h.steady e
  counted := h.counted.advance react h.steady e
  replayed := h.replayed.advance react h.steady e

/-- So does a run. -/
theorem Kept.run {script : List Trial} {l : Life κ} (h : l.Kept script)
    (es : List (LifeEvent κ)) :
    (l.run react es).Kept script := by
  induction es using List.reverseRecOn with
  | nil => exact h
  | append_singleton es e ih =>
    rw [run_concat]
    exact ih.advance react e

/-- A client that has not been started keeps what every event keeps. -/
theorem Kept.new (config : Config) (script : List Trial) :
    (new config script : Life κ).Kept script where
  steady := steady_new config script
  scripted := .new config script
  counted := .new config script
  replayed := rfl

/-- In each step the task does one of those that are left. -/
theorem work_run_go {script : List Trial} {l : Life κ} (h : l.Kept script)
    (hstarted : l.client.stage? ≠ none) (n : Nat) :
    (l.run react (List.replicate n .go)).work = l.work - n := by
  induction n generalizing l with
  | zero => rfl
  | succ n ih =>
    have hfirst : l.run react (List.replicate (n + 1) .go) =
        (l.go react).run react (List.replicate n .go) := rfl
    have hkept : (l.go react).Kept script := h.advance react .go
    have hwent := went_go react h.steady
    rw [hfirst, ih hkept (hwent.started hstarted), h.scripted.work_went hstarted hwent]
    omega

/-- When no step is left, everything has come and is over. -/
theorem eq_nil_of_work_eq_zero {l : Life κ} (h : l.work = 0) :
    l.coming = [] ∧ l.current = none := by
  unfold work at h
  obtain ⟨hcoming, hcurrent⟩ := Nat.add_eq_zero_iff.1 h
  constructor
  · cases hcases : l.coming with
    | nil => rfl
    | cons t ts =>
      rw [hcases] at hcoming
      cases t <;> simp [stepsOf] at hcoming
  · cases hcases : l.current with
    | none => rfl
    | some r => simp [hcases] at hcurrent

/-- Once it has been started, the task of a client gets to the end of the script. -/
theorem Kept.exists_done {script : List Trial} {l : Life κ} (h : l.Kept script) :
    ∃ n, (l.run react (.start :: List.replicate n .go)).coming = [] ∧
      (l.run react (.start :: List.replicate n .go)).current = none := by
  have hkept : (l.advance react .start).Kept script := h.advance react .start
  have hstarted : (l.advance react .start).client.stage? ≠ none := by
    obtain ⟨s, hs, -⟩ := h.steady
    cases s with
    | none => simp [Life.advance, hs.start_of_idle.1.stage?_eq]
    | some stage => simp [Life.advance, hs.start_of_task, hs.stage?_eq]
  refine ⟨(l.advance react .start).work, eq_nil_of_work_eq_zero ?_⟩
  have hwork := work_run_go react hkept hstarted (l.advance react .start).work
  rw [Nat.sub_self] at hwork
  exact hwork

/-- **A client that is not shut down reads every link to its end, and no further.** Its
connector brings any attempts: each fails or brings a link, and a link takes any number of texts
and delivers any list of socket messages. The client is started, its task goes on, callers use
the manager, links stop taking texts, and callbacks do with the manager what they like, in any
order and at any time. Then

* the attempts that are over, the one whose link is read and those to come are the script;
* the texts that have been handled, followed by those that the present link still delivers, are
  the texts of all links so far, for each link those before the first message that ends it;
* after its texts a link delivers one event that it has ended, and nothing else;
* as many connections are counted as there have been links, as many reconnects as attempts have
  failed and links have ended, and as many frames as texts have been handled;
* the writing end of a link is held exactly while the manager is open;
* the registry and what callbacks have received are determined by the calls that were made and
  the texts that were handled: every text runs the callbacks that have been registered for its
  stream, whichever link delivers it;
* if the client is started, unless it has been, and left alone, its task comes to the end of the
  script, and the texts that it has handled then are all texts of all links.

**Proof sketch.** There is never a second task, so what the task can do is one of a few things,
each of which moves one attempt or one text from what is to come to what is over. What has not
been read of a link are texts and its end, so the task neither stops before the end nor reads
behind it. For the writing end, the outbox is not open while no link is read, so a new round
finds none that is held. And no step but handling a text touches the registry or runs a
callback. Every step takes one off the number of those that are left. -/
theorem reads_every_link (config : Config) (script : List Trial) (es : List (LifeEvent κ)) :
    let now := (new config script : Life κ).run react es
    let manager := now.client.manager
    now.past ++ now.present ++ now.coming = script ∧
      now.handled ++ now.unread = (now.past ++ now.present).flatMap Trial.texts ∧
      (∀ messages, linkEvents messages =
        (textsBeforeEnd messages).map .frame ++
          [.closed (ending messages).1 (ending messages).2]) ∧
      manager.connections = (now.past ++ now.present).countP Trial.isLink ∧
      manager.counters.reconnects =
        now.past.countP (fun t => !t.isLink) + now.past.countP Trial.isLink ∧
      manager.counters.framesReceived = now.handled.length ∧
      (manager.outbox.sink.isSome = true ↔ manager.outbox.phase = .opened) ∧
      (manager.registry, now.received) = replay now.history ∧
      ∃ n,
        let done := now.run react (.start :: List.replicate n .go)
        done.past = script ∧ done.handled = script.flatMap Trial.texts := by
  intro now manager
  have hnow : now.Kept script := (Kept.new config script).run react es
  have hover : now.past.countP (fun t => !t.isLink) + now.past.countP Trial.isLink =
      now.past.length := by
    have hsplit := List.length_eq_countP_add_countP Trial.isLink (l := now.past)
    simp only [Bool.not_eq_true, Bool.decide_eq_false] at hsplit
    omega
  refine ⟨hnow.scripted.script, hnow.scripted.texts, linkEvents_eq, hnow.counted.connections, ?_,
    hnow.counted.frames, hnow.counted.held, hnow.replayed, ?_⟩
  · rw [hover]
    exact hnow.counted.reconnects
  · obtain ⟨n, hcoming, hcurrent⟩ := hnow.exists_done react
    have hdone : (now.run react (.start :: List.replicate n .go)).Kept script :=
      hnow.run react (.start :: List.replicate n .go)
    have hscript := hdone.scripted.script
    have htexts := hdone.scripted.texts
    simp only [present, unread, hcoming, hcurrent, Option.toList_none, List.map_nil,
      List.flatMap_nil, List.append_nil] at hscript htexts
    refine ⟨n, hscript, ?_⟩
    rw [hscript] at htexts
    exact htexts

end Life

end BookFeed.Connection

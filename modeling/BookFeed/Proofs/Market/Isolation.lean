import BookFeed.Proofs.Market.Guards
import BookFeed.Proofs.Market.Run

set_option autoImplicit false

/-!
# Views on one manager

Many views live on one manager: they are opened, for any markets and several for one market,
they take texts and fetched depths, and they are closed again. All of them share one registry
and one list of listeners per stream. Still each of them lives as if it were alone: what it
holds is what a view on its own would hold after the events of its two streams and its own
fetched depths.

The manager runs a view by its number, which no other view has, here or on other managers.

## Main definitions

* `BookFeed.Market.Hosted`, `BookFeed.Market.Host` — views and the manager that they live on.
* `BookFeed.Market.HostEvent`, `BookFeed.Market.Host.run` — what happens to them.
* `BookFeed.Market.Hosted.step` — what an event is to one view.
* `BookFeed.Market.HostEvent.toView`, `BookFeed.Market.ownEvents` — the events of one view.
* `BookFeed.Market.Host.Sound` — the listeners of a stream are those of the views that hear
  it.

## Main results

* `BookFeed.Market.Hosted.run_eq` — a view by itself takes its own events until it is closed.
* `BookFeed.Market.Host.Sound.deliveries_eq` — the views that a text runs.
* `BookFeed.Market.Host.Sound.views_advance` — an event is to each view what it is to that
  view alone.
* `BookFeed.Market.Host.views_isolated` — both, for all that can happen to a manager with
  views.
-/

namespace BookFeed.Market

open Connection Feed

/-! ### Views and their manager -/

/-- A view that has been opened. -/
structure Hosted where
  /-- Its number. -/
  number : ℕ
  /-- What it holds. -/
  view : View
  /-- Whether it has not been closed yet. -/
  live : Bool := true

/-- A manager and the views that have been opened on it. The callbacks of the manager are the
numbers of views. -/
structure Host where
  /-- The manager. -/
  manager : Manager ℕ
  /-- How many views have been opened, here or elsewhere. -/
  count : ℕ := 0
  /-- The views, the oldest first. -/
  views : List Hosted := []

/-- What happens to a manager with views. -/
inductive HostEvent where
  /-- A view is opened. -/
  | openView (market : String) (limit : ℕ)
  /-- A view is opened on another manager. -/
  | openElsewhere
  /-- A view is closed. -/
  | closeView (number : ℕ)
  /-- A depth and a price were to be fetched for a view. -/
  | reseed (number : ℕ) (depth : Except Seed.FetchError Book.Depth)
      (price : Except Seed.FetchError Decimal)
  /-- A text comes in. -/
  | frame (text : String)
  /-- The manager is used otherwise, or its link changes. -/
  | manager (t : Transition)

namespace Hosted

/-- The guards that a view holds. -/
def guards (v : Hosted) : List Guard := if v.live then View.guards v.view.market v.number else []

/-- Whether a view hears a stream: it is one of the two of its market, and the view has not been
closed. -/
def hears (v : Hosted) (stream : String) : Bool := v.live && View.isStreamOf v.view.market stream

/-- A view after something of its own. -/
def take (v : Hosted) (e : ViewEvent) : Hosted := { v with view := v.view.advance e }

end Hosted

namespace Host

/-- A manager without views. -/
def new (config : Config) : Host := { manager := { config := config } }

/-- The numbers of the views. -/
def numbers (h : Host) : List ℕ := h.views.map (·.number)

/-- The view with a number. -/
def view? (h : Host) (number : ℕ) : Option Hosted := h.views.find? (·.number = number)

/-- Change the view with a number. -/
def changeView (h : Host) (number : ℕ) (f : Hosted → Hosted) : Host :=
  { h with views := h.views.map fun v => if v.number = number then f v else v }

/-- Open a view, which gets the next number. -/
def openView (h : Host) (market : String) (limit : ℕ) : Host where
  manager := h.manager.subscribeAll (View.guards market (h.count + 1)) (h.count + 1)
  count := h.count + 1
  views := h.views ++ [{ number := h.count + 1, view := View.new market limit }]

/-- Close a view: it gives back the guards that it holds. -/
def closeView (h : Host) (number : ℕ) : Host :=
  { h.changeView number ({ · with live := false }) with
    manager := h.manager.releaseAll (((h.view? number).map Hosted.guards).getD []) }

/-- A view that has not been closed takes what was fetched for it. -/
def reseed (h : Host) (number : ℕ) (depth : Except Seed.FetchError Book.Depth)
    (price : Except Seed.FetchError Decimal) : Host :=
  h.changeView number fun v => if v.live then v.take (.reseed depth price) else v

/-- Handle a text. -/
def frame (h : Host) (text : String) : Host :=
  let handling : StateM Host Unit :=
    Manager.handle (do return (← get).manager)
      (fun change => modify fun h => { h with manager := change h.manager })
      (fun number e => modify (changeView · number (·.take (.event e)))) text
  (handling.run h).2

/-- A manager with views after an event. -/
def advance (h : Host) : HostEvent → Host
  | .openView market limit => h.openView market limit
  | .openElsewhere => { h with count := h.count + 1 }
  | .closeView number => h.closeView number
  | .reseed number depth price => h.reseed number depth price
  | .frame text => h.frame text
  | .manager t => { h with manager := h.manager.advance t }

/-- A manager with views after some events. -/
def run (h : Host) (es : List HostEvent) : Host := es.foldl advance h

theorem run_concat (h : Host) (es : List HostEvent) (e : HostEvent) :
    h.run (es ++ [e]) = (h.run es).advance e := by
  simp [run]

end Host

/-! ### What events are to one view -/

/-- What an event is to the view of a market with a number, as long as the view is not
closed. -/
def HostEvent.toView (number : ℕ) (market : String) : HostEvent → Option ViewEvent
  | .reseed n depth price => if n = number then some (.reseed depth price) else none
  | .frame text =>
    match decode text with
    | .ok (some i) => if View.isStreamOf market i.stream then some (.event i.event) else none
    | _ => none
  | _ => none

/-- Whether an event closes the view with a number. -/
def HostEvent.closes (number : ℕ) : HostEvent → Bool
  | .closeView n => n = number
  | _ => false

/-- The events of the view of a market with a number: those of its streams and what was fetched
for it, until it is closed. -/
def ownEvents (number : ℕ) (market : String) (es : List HostEvent) : List ViewEvent :=
  (es.takeWhile (!·.closes number)).filterMap (HostEvent.toView number market)

namespace Hosted

/-- A view by itself after an event. -/
def step (v : Hosted) (e : HostEvent) : Hosted where
  number := v.number
  view := if v.live then (e.toView v.number v.view.market).elim v.view v.view.advance else v.view
  live := v.live && !e.closes v.number

/-- A view by itself after some events. -/
def run (v : Hosted) (es : List HostEvent) : Hosted := es.foldl step v

/-- A view that has been closed stays as it is. -/
theorem run_of_not_live {v : Hosted} (h : v.live = false) (es : List HostEvent) : v.run es = v := by
  induction es with
  | nil => rfl
  | cons e es ih =>
    have hstep : v.step e = v := by
      cases v
      simp_all [step]
    rw [run, List.foldl_cons, hstep]
    exact ih

/-- An event that is nothing to a view leaves it as it is. -/
theorem step_eq_self (v : Hosted) {e : HostEvent} (hown : e.toView v.number v.view.market = none)
    (hcloses : e.closes v.number = false) : v.step e = v := by
  cases v
  simp_all [step]

/-- A view stays the view of its market. -/
theorem market_step (v : Hosted) (e : HostEvent) : (v.step e).view.market = v.view.market := by
  simp only [step]
  split
  · cases e.toView v.number v.view.market with
    | none => rfl
    | some x => exact View.market_advance v.view x
  · rfl

/-- A view by itself takes its own events until it is closed. -/
theorem run_eq {v : Hosted} (h : v.live = true) (es : List HostEvent) :
    v.run es =
      { number := v.number
        view := v.view.run (ownEvents v.number v.view.market es)
        live := !es.any (·.closes v.number) } := by
  induction es generalizing v with
  | nil =>
    cases v
    simp_all [run, ownEvents, View.run]
  | cons e es ih =>
    have hrun : v.run (e :: es) = (v.step e).run es := rfl
    by_cases hcloses : e.closes v.number = true
    · -- nothing of the view's own comes with the event that closes it
      have hown : e.toView v.number v.view.market = none := by
        cases e <;> simp_all [HostEvent.closes, HostEvent.toView]
      have hdead : (v.step e).live = false := by simp [step, hcloses]
      rw [hrun, run_of_not_live hdead]
      simp [step, h, hown, hcloses, ownEvents, View.run]
    · have hlive : (v.step e).live = true := by simp [step, h, hcloses]
      have hview : (v.step e).view.run (ownEvents v.number v.view.market es) =
          v.view.run (ownEvents v.number v.view.market (e :: es)) := by
        cases hown : e.toView v.number v.view.market with
        | none => simp [step, hown, ownEvents, hcloses]
        | some x => simp [step, h, hown, ownEvents, hcloses, View.run]
      have hnumber : (v.step e).number = v.number := rfl
      rw [hrun, ih hlive, v.market_step, hnumber, hview]
      simp [hcloses]

/-- What a text is to a view: an event, if the view hears its stream. -/
theorem step_frame (v : Hosted) (text : String) :
    v.step (.frame text) =
      match decode text with
      | .ok (some i) => if v.hears i.stream then v.take (.event i.event) else v
      | _ => v := by
  obtain ⟨number, view, live⟩ := v
  simp only [step, HostEvent.toView, HostEvent.closes, hears, take]
  cases decode text with
  | error e => simp
  | ok inbound =>
    cases inbound with
    | none => simp
    | some i =>
      dsimp only
      cases live
      · simp
      · by_cases hstream : View.isStreamOf view.market i.stream = true <;> simp [hstream]

/-! ### Guards and listeners of one view -/

/-- Guards belong to one view. -/
theorem number_eq_of_mem_guards {v w : Hosted} {g : Guard} (hv : g ∈ v.guards)
    (hw : g ∈ w.guards) :
    v.number = w.number := by
  unfold guards at hv hw
  split at hv
  · split at hw
    · exact View.number_eq_of_mem_guards hv hw
    · simp at hw
  · simp at hv

/-- A view keeps its guards as long as it is not closed. -/
theorem guards_step (v : Hosted) {e : HostEvent} (hcloses : e.closes v.number = false) :
    (v.step e).guards = v.guards := by
  have hlive : (v.step e).live = v.live := by simp [step, hcloses]
  have hnumber : (v.step e).number = v.number := rfl
  rw [guards, guards, hlive, hnumber, market_step]

/-- The listeners of a view at a stream. -/
def listenersAt (v : Hosted) (stream : String) : List (Listener ℕ) :=
  (v.guards.filter (·.stream = stream)).map (Manager.listenerOf v.number)

/-- A listener of a view is that of one of its guards. -/
theorem mem_guards_of_mem_listenersAt {v : Hosted} {stream : String} {l : Listener ℕ}
    (h : l ∈ v.listenersAt stream) : ⟨stream, l.identity⟩ ∈ v.guards := by
  obtain ⟨g, hg, rfl⟩ := List.mem_map.1 h
  obtain ⟨hmem, hstream⟩ := List.mem_filter.1 hg
  rw [← of_decide_eq_true hstream]
  exact hmem

/-- A view is run once for a stream that it hears, and not for others. -/
theorem callbacks_listenersAt (v : Hosted) (stream : String) :
    (v.listenersAt stream).map (·.callback) = if v.hears stream then [v.number] else [] := by
  have hconst : (v.listenersAt stream).map (·.callback) =
      List.replicate (v.guards.filter (·.stream = stream)).length v.number := by
    rw [listenersAt, List.map_map, ← List.map_const']
    rfl
  rw [hconst, guards, hears]
  cases v.live
  · simp
  · rw [if_pos rfl, View.length_filter_guards, Bool.true_and]
    split <;> rfl

end Hosted

namespace Host

/-! ### Who hears a text -/

/-- The listeners of a stream are those of the views, in the order in which the views were
opened. -/
structure Sound (h : Host) : Prop where
  /-- No stream has two lists of listeners. -/
  keyed : h.manager.registry.Keyed
  /-- Numbers that have not been counted are free. -/
  numbered : ∀ n ∈ h.numbers, n ≤ h.count
  /-- No two views have one number. -/
  distinct : h.numbers.Nodup
  /-- The listeners of each stream are those of the views. -/
  listened : ∀ stream,
    h.manager.registry.listeners stream = h.views.flatMap (·.listenersAt stream)

/-- The views that hear a text, with its event. -/
def hearings (h : Host) (text : String) : List (ℕ × Event) :=
  match decode text with
  | .ok (some i) => ((h.views.filter (·.hears i.stream)).map (·.number)).map (·, i.event)
  | _ => []

/-- The callbacks of a stream are the views that hear it, each once. -/
theorem Sound.callbacks_eq {h : Host} (hs : h.Sound) (stream : String) :
    h.manager.registry.callbacks stream = (h.views.filter (·.hears stream)).map (·.number) := by
  rw [Registry.callbacks, hs.listened, List.map_flatMap]
  induction h.views with
  | nil => rfl
  | cons v vs ih =>
    rw [List.flatMap_cons, ih, Hosted.callbacks_listenersAt, List.filter_cons]
    split <;> rfl

/-- The views that a text runs are those that hear it. -/
theorem Sound.deliveries_eq {h : Host} (hs : h.Sound) (text : String) :
    h.manager.deliveries text = h.hearings text := by
  unfold Manager.deliveries hearings
  cases decode text with
  | error e => rfl
  | ok inbound =>
    cases inbound with
    | none => rfl
    | some i =>
      dsimp only
      rw [hs.callbacks_eq]

/-- Views are found by their numbers. -/
theorem Sound.view?_eq {h : Host} (hs : h.Sound) {v : Hosted} (hv : v ∈ h.views) :
    h.view? v.number = some v := by
  cases hfind : h.view? v.number with
  | none =>
    have hne := List.find?_eq_none.1 hfind v hv
    simp at hne
  | some w =>
    have hw : w ∈ h.views := List.mem_of_find?_eq_some hfind
    have hnumber : w.number = v.number := by simpa using List.find?_some hfind
    rw [List.inj_on_of_nodup_map hs.distinct hw hv hnumber]

/-- Changing several views that differ is changing each of them. -/
theorem foldl_changeView {f : Hosted → Hosted} (hf : ∀ v, (f v).number = v.number)
    {numbers : List ℕ} (hnodup : numbers.Nodup) (h : Host) :
    numbers.foldl (fun h number => h.changeView number f) h =
      { h with views := h.views.map fun v => if v.number ∈ numbers then f v else v } := by
  induction numbers generalizing h with
  | nil => simp
  | cons n ns ih =>
    obtain ⟨hn, hns⟩ := List.nodup_cons.1 hnodup
    rw [List.foldl_cons, ih hns]
    simp only [changeView, List.map_map]
    congr 2
    funext v
    by_cases hv : v.number = n
    · simp [hv, hf, hn]
    · simp [hv]

/-- The views that hear a stream are those whose numbers are among theirs. -/
theorem Sound.number_mem_iff {h : Host} (hs : h.Sound) {v : Hosted} (hv : v ∈ h.views)
    (stream : String) :
    v.number ∈ (h.views.filter (·.hears stream)).map (·.number) ↔ v.hears stream = true := by
  constructor
  · intro hmem
    obtain ⟨w, hw, hnumber⟩ := List.mem_map.1 hmem
    obtain ⟨hwmem, hhears⟩ := List.mem_filter.1 hw
    rwa [List.inj_on_of_nodup_map hs.distinct hwmem hv hnumber] at hhears
  · intro hhears
    exact List.mem_map_of_mem (List.mem_filter.2 ⟨hv, hhears⟩)

/-- The views that hear a text take its event, each once. -/
theorem Sound.foldl_hearings {h : Host} (hs : h.Sound) (text : String) (h' : Host)
    (hsame : h'.views = h.views) :
    (h.hearings text).foldl (fun h d => h.changeView d.1 (·.take (.event d.2))) h' =
      { h' with views := h.views.map (·.step (.frame text)) } := by
  simp only [Hosted.step_frame]
  unfold hearings
  cases decode text with
  | error e => simp [← hsame]
  | ok inbound =>
    cases inbound with
    | none => simp [← hsame]
    | some i =>
      dsimp only
      have hnodup : ((h.views.filter (·.hears i.stream)).map (·.number)).Nodup :=
        (List.filter_sublist.map _).nodup hs.distinct
      rw [List.foldl_map, foldl_changeView (f := (·.take (.event i.event))) (fun _ => rfl) hnodup,
        hsame]
      congr 1
      refine List.map_congr_left fun v hv => ?_
      by_cases hhears : v.hears i.stream = true
      · rw [if_pos ((hs.number_mem_iff hv _).2 hhears), if_pos hhears]
      · rw [if_neg fun hmem => hhears ((hs.number_mem_iff hv _).1 hmem), if_neg hhears]

/-- Handling a text counts, and is to each view what the text is to that view alone. -/
theorem Sound.exists_frame_eq {h : Host} (hs : h.Sound) (text : String) :
    ∃ x, h.frame text =
      { h with
        manager := h.manager.received.tally x
        views := h.views.map (·.step (.frame text)) } := by
  refine ⟨h.manager.received.outcome text, ?_⟩
  have hrun := Manager.run_handle (fun h : Host => h.manager)
    (fun change h => { h with manager := change h.manager })
    (fun number e h => h.changeView number (·.take (.event e))) text h
  have hdeliveries : h.manager.received.deliveries text = h.hearings text := hs.deliveries_eq text
  rw [hdeliveries, hs.foldl_hearings text { h with manager := h.manager.received } rfl] at hrun
  exact congrArg Prod.snd hrun

/-! ### Events -/

/-- Nobody listens on a manager without views. -/
theorem Sound.new (config : Config) : (new config).Sound where
  keyed := List.nodup_nil
  numbered _ hv := absurd hv List.not_mem_nil
  distinct := List.nodup_nil
  listened _ := rfl

/-- Changes of views that leave their numbers alone leave the list of numbers alone. -/
theorem numbers_eq_of_map {h h' : Host} {f : Hosted → Hosted}
    (hnumber : ∀ v, (f v).number = v.number) (hviews : h'.views = h.views.map f) :
    h'.numbers = h.numbers := by
  rw [numbers, numbers, hviews, List.map_map]
  exact List.map_congr_left fun v _ => hnumber v

/-- An event that closes no view leaves the listeners alone, whatever it is to the views. -/
theorem Sound.of_step {h h' : Host} (hs : h.Sound) (e : HostEvent)
    (hcloses : ∀ n, e.closes n = false) (hviews : h'.views = h.views.map (·.step e))
    (hregistry : h'.manager.registry = h.manager.registry) (hcount : h.count ≤ h'.count) :
    h'.Sound where
  keyed := by
    rw [hregistry]
    exact hs.keyed
  numbered n hn := by
    rw [numbers_eq_of_map (f := (·.step e)) (fun _ => rfl) hviews] at hn
    exact (hs.numbered n hn).trans hcount
  distinct := by
    rw [numbers_eq_of_map (f := (·.step e)) (fun _ => rfl) hviews]
    exact hs.distinct
  listened stream := by
    rw [hregistry, hs.listened, hviews, List.flatMap_map]
    refine List.flatMap_congr fun v _ => ?_
    have hguards := v.guards_step (hcloses v.number)
    have hnumber : (v.step e).number = v.number := rfl
    rw [Hosted.listenersAt, Hosted.listenersAt, hguards, hnumber]

/-- A view that is opened gets the next number. -/
theorem numbers_openView (h : Host) (market : String) (limit : ℕ) :
    (h.openView market limit).numbers = h.numbers ++ [h.count + 1] := by
  simp [numbers, openView]

/-- A view that is opened gets listeners behind all others. -/
theorem Sound.openView {h : Host} (hs : h.Sound) (market : String) (limit : ℕ) :
    (h.openView market limit).Sound where
  keyed := Manager.keyed_subscribeAll hs.keyed _ _
  numbered n hn := by
    rw [numbers_openView, List.mem_append, List.mem_singleton] at hn
    rcases hn with hold | hnew
    · exact (hs.numbered n hold).trans (Nat.le_succ _)
    · exact Nat.le_of_eq hnew
  distinct := by
    rw [numbers_openView]
    refine List.nodup_append.2 ⟨hs.distinct, List.nodup_singleton _, fun n hn k hk => ?_⟩
    have hle := hs.numbered n hn
    rw [List.mem_singleton.1 hk]
    omega
  listened stream := by
    -- a listener that had the identity of a new guard would be that of a view with the new
    -- number
    have hnew : ∀ g ∈ View.guards market (h.count + 1),
        ∀ l ∈ h.manager.registry.listeners g.stream, l.identity ≠ g.identity := by
      intro g hg l hl hidentity
      rw [hs.listened] at hl
      obtain ⟨v, hv, hmem⟩ := List.mem_flatMap.1 hl
      have hguard := Hosted.mem_guards_of_mem_listenersAt hmem
      rw [hidentity] at hguard
      have hnumber : v.number = h.count + 1 :=
        Hosted.number_eq_of_mem_guards
          (w := ⟨h.count + 1, View.new market limit, true⟩) hguard hg
      have hle := hs.numbered v.number (List.mem_map_of_mem hv)
      omega
    simp only [Host.openView]
    rw [Manager.listeners_subscribeAll (View.nodup_guards _ _) hnew, hs.listened,
      List.flatMap_append, List.flatMap_singleton]
    rfl

/-- A guard that is given back when a view is closed is one of that view. -/
theorem number_of_mem_view? {h : Host} {number : ℕ} {v : Hosted} {g : Guard} (hv : g ∈ v.guards)
    (hg : g ∈ ((h.view? number).map Hosted.guards).getD []) : v.number = number := by
  cases hfind : h.view? number with
  | none => simp [hfind] at hg
  | some w =>
    have hw : w.number = number := by simpa using List.find?_some hfind
    rw [hfind] at hg
    rw [← hw]
    exact Hosted.number_eq_of_mem_guards hv hg

/-- A view that is closed loses its listeners, and no other view loses one. -/
theorem Sound.closeView {h : Host} (hs : h.Sound) (number : ℕ) : (h.closeView number).Sound := by
  obtain ⟨hkeyed, hlisteners⟩ :=
    Manager.listeners_releaseAll hs.keyed (((h.view? number).map Hosted.guards).getD [])
  have hviews : (h.closeView number).views =
      h.views.map fun v => if v.number = number then { v with live := false } else v := rfl
  have hnumbers : (h.closeView number).numbers = h.numbers := by
    refine numbers_eq_of_map (fun v => ?_) hviews
    split <;> rfl
  refine ⟨hkeyed, ?_, ?_, fun stream => ?_⟩
  · rw [hnumbers]
    exact hs.numbered
  · rw [hnumbers]
    exact hs.distinct
  · have hmanager : (h.closeView number).manager =
        h.manager.releaseAll (((h.view? number).map Hosted.guards).getD []) := rfl
    rw [hmanager, hlisteners, hs.listened, hviews, List.filter_flatMap, List.flatMap_map]
    refine List.flatMap_congr fun v hv => ?_
    by_cases hnumber : v.number = number
    · -- all listeners of the view that is closed go
      have hgone : ∀ l ∈ v.listenersAt stream,
          ¬ decide (⟨stream, l.identity⟩ ∉ ((h.view? number).map Hosted.guards).getD []) =
            true := by
        intro l hl
        have hguard := Hosted.mem_guards_of_mem_listenersAt hl
        have hfind : h.view? number = some v := hnumber ▸ hs.view?_eq hv
        simpa [hfind] using hguard
      rw [List.filter_eq_nil_iff.2 hgone, if_pos hnumber]
      rfl
    · -- and all listeners of another view stay
      have hkept : ∀ l ∈ v.listenersAt stream,
          decide (⟨stream, l.identity⟩ ∉ ((h.view? number).map Hosted.guards).getD []) =
            true := by
        intro l hl
        have hguard := Hosted.mem_guards_of_mem_listenersAt hl
        rw [decide_eq_true_eq]
        exact fun hmem => hnumber (number_of_mem_view? hguard hmem)
      rw [List.filter_eq_self.2 hkept, if_neg hnumber]

/-- The views that an event adds. -/
def opened (h : Host) : HostEvent → List Hosted
  | .openView market limit => [{ number := h.count + 1, view := View.new market limit }]
  | _ => []

/-- An event is to each view what it is to that view alone. -/
theorem Sound.views_advance {h : Host} (hs : h.Sound) (e : HostEvent) :
    (h.advance e).views = h.views.map (·.step e) ++ h.opened e := by
  cases e with
  | openView market limit =>
    have hstep : ∀ v : Hosted, v.step (.openView market limit) = v :=
      fun v => v.step_eq_self rfl rfl
    simp [Host.advance, Host.openView, opened, hstep]
  | openElsewhere =>
    have hstep : ∀ v : Hosted, v.step .openElsewhere = v := fun v => v.step_eq_self rfl rfl
    simp [Host.advance, opened, hstep]
  | closeView number =>
    simp only [Host.advance, Host.closeView, changeView, opened, List.append_nil]
    refine List.map_congr_left fun v _ => ?_
    by_cases hnumber : v.number = number
    · rw [if_pos hnumber]
      simp [Hosted.step, HostEvent.toView, HostEvent.closes, hnumber]
    · rw [if_neg hnumber]
      exact (v.step_eq_self rfl (by simp [HostEvent.closes, Ne.symm hnumber])).symm
  | reseed number depth price =>
    simp only [Host.advance, Host.reseed, changeView, opened, List.append_nil]
    refine List.map_congr_left fun v _ => ?_
    by_cases hnumber : v.number = number
    · rw [if_pos hnumber]
      obtain ⟨n, view, live⟩ := v
      cases live <;>
        simp [Hosted.step, Hosted.take, HostEvent.toView, HostEvent.closes, Eq.symm hnumber]
    · rw [if_neg hnumber]
      exact (v.step_eq_self (by simp [HostEvent.toView, Ne.symm hnumber]) rfl).symm
  | frame text =>
    obtain ⟨x, hx⟩ := hs.exists_frame_eq text
    simp [Host.advance, hx, opened]
  | manager t =>
    have hstep : ∀ v : Hosted, v.step (.manager t) = v := fun v => v.step_eq_self rfl rfl
    simp [Host.advance, opened, hstep]

/-- What happens to a manager with views leaves the listeners of streams to the views. -/
theorem Sound.advance {h : Host} (hs : h.Sound) (e : HostEvent) : (h.advance e).Sound := by
  have hviews := hs.views_advance e
  cases e with
  | openView market limit => exact hs.openView market limit
  | openElsewhere =>
    exact hs.of_step _ (fun _ => rfl) (hviews.trans (List.append_nil _)) rfl (Nat.le_succ _)
  | closeView number => exact hs.closeView number
  | reseed number depth price =>
    exact hs.of_step _ (fun _ => rfl) (hviews.trans (List.append_nil _)) rfl (Nat.le_refl _)
  | frame text =>
    obtain ⟨x, hx⟩ := hs.exists_frame_eq text
    have hregistry : (h.frame text).manager.registry = h.manager.registry := by
      rw [hx]
      exact Manager.registry_tally _ x
    have hcount : (h.frame text).count = h.count := by rw [hx]
    exact hs.of_step _ (fun _ => rfl) (hviews.trans (List.append_nil _)) hregistry hcount.ge
  | manager t =>
    exact hs.of_step _ (fun _ => rfl) (hviews.trans (List.append_nil _))
      (h.manager.registry_advance t) (Nat.le_refl _)

/-! ### Runs -/

/-- The listeners of streams are those of the views, all along. -/
theorem Sound.run {h : Host} (hs : h.Sound) (es : List HostEvent) : (h.run es).Sound := by
  induction es using List.reverseRecOn with
  | nil => exact hs
  | append_singleton es e ih =>
    rw [run_concat]
    exact ih.advance e

/-- A view goes through a run as it would by itself. -/
theorem Sound.run_mem_views {h : Host} (hs : h.Sound) {v : Hosted} (hv : v ∈ h.views)
    (es : List HostEvent) : v.run es ∈ (h.run es).views := by
  induction es generalizing h v with
  | nil => exact hv
  | cons e es ih =>
    have hstep : v.step e ∈ (h.advance e).views := by
      rw [hs.views_advance]
      exact List.mem_append_left _ (List.mem_map_of_mem hv)
    exact ih (hs.advance e) hstep

/-- **Views on one manager do not see each other.** Whatever has happened to a manager with
views: views of any markets have been opened on it, several for one market and others elsewhere,
and have been reseeded and closed, texts have come in, requests have been made, and links have
come and gone. Then

* no two views have one number;
* a text runs the views that have not been closed and have its stream among the two of their
  market, each once and in the order in which they were opened, and no others;
* these views take the event of the text; all other views are what they were, with everything
  that they hold and have published;
* a view that is opened now holds at any time, whatever happens until then, what a view on its
  own holds after the events of its own two streams and its own fetched depths and prices, up to
  the moment at which it is closed.

**Proof sketch.** The listeners of a stream are those of the views, in the order in which the
views were opened. Opening a view keeps this, since its guards are new: the stream of a guard
determines the market, and the identity then determines the number. Closing keeps it for the
same reason, since no other view has one of the guards that are given back. So an event is to
each view what it is to that view alone, and a run of the manager is a run of each view by
itself. -/
theorem views_isolated (config : Config) (es : List HostEvent) :
    let now := (new config).run es
    now.numbers.Nodup ∧
      (∀ text, now.manager.deliveries text = now.hearings text) ∧
      (∀ text, (now.advance (.frame text)).views = now.views.map fun v =>
        match decode text with
        | .ok (some i) => if v.hears i.stream then v.take (.event i.event) else v
        | _ => v) ∧
      ∀ market limit later,
        let number := now.count + 1
        ((now.openView market limit).run later).view? number =
          some
            { number := number
              view := (View.new market limit).run (ownEvents number market later)
              live := !later.any (·.closes number) } := by
  intro now
  have hs : now.Sound := (Sound.new config).run es
  refine ⟨hs.distinct, hs.deliveries_eq, fun text => ?_, fun market limit later => ?_⟩
  · refine (hs.views_advance (.frame text)).trans ((List.append_nil _).trans ?_)
    exact List.map_congr_left fun v _ => v.step_frame text
  · intro number
    have hnew : ⟨number, View.new market limit, true⟩ ∈ (now.openView market limit).views :=
      List.mem_append_right _ (List.mem_singleton_self _)
    have hlater := (hs.openView market limit).run_mem_views hnew later
    rw [Hosted.run_eq rfl] at hlater
    exact ((hs.openView market limit).run later).view?_eq hlater

end Host

end BookFeed.Market

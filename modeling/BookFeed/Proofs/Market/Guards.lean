import Mathlib
import BookFeed.Market.View
import BookFeed.Proofs.Connection.Holding

set_option autoImplicit false

/-!
# The guards of a view

A view holds two guards, one for each stream of its market. Streams and identities are texts
that are put together from the market, which may itself contain at signs and dashes. Still no
two views have a guard in common: a stream determines its market, and with the market known the
number of the view is what is left of the identity.

Guards are opened and given back together. Opening guards that are new to their streams adds
their listeners at the end, and giving guards back removes exactly the listeners with their
streams and identities.

## Main definitions

* `BookFeed.Connection.Manager.subscribeAll`, `BookFeed.Connection.Manager.releaseAll` —
  opening guards and giving them back.
* `BookFeed.Market.View.guards` — the guards of a view.
* `BookFeed.Market.View.isStreamOf` — a stream is one of the two of a market.

## Main results

* `BookFeed.Connection.Manager.listeners_subscribeAll`,
  `BookFeed.Connection.Manager.listeners_releaseAll` — the listeners of every stream after
  that.
* `BookFeed.Market.View.number_eq_of_mem_guards` — views have no guard in common.
-/

namespace BookFeed.Connection

open Feed

attribute [ext] Guard

namespace Manager

/-! ### Several guards at once -/

variable {κ : Type}

/-- The listener that a guard stands for. -/
def listenerOf (callback : κ) (g : Guard) : Listener κ := ⟨g.identity, callback⟩

/-- Open some guards, all with one callback. -/
def subscribeAll (m : Manager κ) (gs : List Guard) (callback : κ) : Manager κ :=
  gs.foldl (fun m g => (m.subscribe g.stream g.identity callback).1) m

/-- Give back some guards. -/
def releaseAll (m : Manager κ) (gs : List Guard) : Manager κ := gs.foldl release m

/-- Opening guards gives no stream a second list. -/
theorem keyed_subscribeAll {m : Manager κ} (h : m.registry.Keyed) (gs : List Guard)
    (callback : κ) :
    (m.subscribeAll gs callback).registry.Keyed := by
  induction gs generalizing m with
  | nil => exact h
  | cons g gs ih =>
    refine ih ?_
    rw [registry_subscribe]
    exact h.register _ _ _

/-- Guards whose identities are new to their streams add their listeners at the end. -/
theorem listeners_subscribeAll {m : Manager κ} {gs : List Guard} (hgs : gs.Nodup)
    (hnew : ∀ g ∈ gs, ∀ l ∈ m.registry.listeners g.stream, l.identity ≠ g.identity)
    (callback : κ) (stream : String) :
    (m.subscribeAll gs callback).registry.listeners stream =
      m.registry.listeners stream ++
        (gs.filter (·.stream = stream)).map (listenerOf callback) := by
  induction gs generalizing m with
  | nil => simp [subscribeAll]
  | cons g gs ih =>
    obtain ⟨hg, hgs'⟩ := List.nodup_cons.1 hgs
    obtain ⟨hnewg, hnewgs⟩ := List.forall_mem_cons.1 hnew
    -- the first guard is entered at the end of its stream
    have hfirst : ∀ s, (m.subscribe g.stream g.identity callback).1.registry.listeners s =
        m.registry.listeners s ++ if s = g.stream then [listenerOf callback g] else [] := by
      intro s
      rw [registry_subscribe, Registry.listeners_register]
      split
      · next heq =>
        rw [heq, Registry.enter_of_forall_ne hnewg]
        rfl
      · rw [List.append_nil]
    -- and the others are still new, since they differ from it
    have hrest : ∀ g' ∈ gs,
        ∀ l ∈ (m.subscribe g.stream g.identity callback).1.registry.listeners g'.stream,
          l.identity ≠ g'.identity := by
      intro g' hg' l hl
      rw [hfirst, List.mem_append] at hl
      rcases hl with hold | hnew'
      · exact hnewgs g' hg' l hold
      · by_cases hstream : g'.stream = g.stream
        · rw [if_pos hstream, List.mem_singleton] at hnew'
          intro hidentity
          rw [hnew'] at hidentity
          have heq : g' = g := Guard.ext hstream hidentity.symm
          exact hg (heq ▸ hg')
        · rw [if_neg hstream] at hnew'
          simp at hnew'
    calc (m.subscribeAll (g :: gs) callback).registry.listeners stream
        = (m.subscribe g.stream g.identity callback).1.registry.listeners stream ++
            (gs.filter (·.stream = stream)).map (listenerOf callback) := ih hgs' hrest
      _ = m.registry.listeners stream ++
            ((g :: gs).filter (·.stream = stream)).map (listenerOf callback) := by
          rw [hfirst, List.filter_cons]
          by_cases hstream : g.stream = stream
          · simp [hstream]
          · simp [hstream, Ne.symm hstream]

/-- Giving back guards removes the listeners with their streams and identities, and no
others. -/
theorem listeners_releaseAll {m : Manager κ} (h : m.registry.Keyed) (gs : List Guard) :
    (m.releaseAll gs).registry.Keyed ∧ ∀ stream,
      (m.releaseAll gs).registry.listeners stream =
        (m.registry.listeners stream).filter fun l => ⟨stream, l.identity⟩ ∉ gs := by
  induction gs using List.reverseRecOn with
  | nil => exact ⟨h, fun stream => by simp [releaseAll]⟩
  | append_singleton gs g ih =>
    obtain ⟨hkeyed, hlisteners⟩ := ih
    have hlast : m.releaseAll (gs ++ [g]) = (m.releaseAll gs).release g := by
      simp [releaseAll]
    rw [hlast, registry_release]
    refine ⟨hkeyed.deregister _ _, fun stream => ?_⟩
    rw [Registry.listeners_deregister hkeyed]
    have hmem : ∀ l : Listener κ, (⟨stream, l.identity⟩ : Guard) ∈ gs ++ [g] ↔
        ⟨stream, l.identity⟩ ∈ gs ∨ (stream = g.stream ∧ l.identity = g.identity) := by
      intro l
      rw [List.mem_append, List.mem_singleton, Guard.ext_iff]
    simp only [hmem]
    by_cases hstream : stream = g.stream
    · rw [if_pos hstream, hlisteners, ← hstream, List.filter_filter]
      refine List.filter_congr fun l _ => ?_
      by_cases hidentity : l.identity = g.identity <;> simp [hidentity]
    · rw [if_neg hstream, hlisteners]
      simp [hstream]

end Manager

end BookFeed.Connection

namespace BookFeed.Feed.StreamName

/-! ### Names of streams -/

/-- A stream of changes determines its market. -/
theorem eq_of_text_depth {market market' : String}
    (h : (depth market).text = (depth market').text) :
    market = market' := by
  simpa [text, depth, String.append_right_inj] using h

/-- A stream of figures determines its market. -/
theorem eq_of_text_ticker {market market' : String}
    (h : (ticker market).text = (ticker market').text) : market = market' := by
  simpa [text, ticker, String.append_right_inj] using h

/-- No stream has changes of one market and figures of another: the two channels differ in their
first letters, whatever the markets contain. -/
theorem text_depth_ne_text_ticker (market market' : String) :
    (depth market).text ≠ (ticker market').text := by
  intro h
  have hfirst := congrArg (fun s => s.toList.head?) h
  simp [text, depth, ticker, depthChannel, tickerChannel] at hfirst

end BookFeed.Feed.StreamName

namespace BookFeed.Market.View

open Connection Feed

/-! ### Guards of views -/

/-- The guards of a view, one for each stream of its market. -/
def guards (market : String) (number : ℕ) : List Guard :=
  (streams market).map fun s => ⟨s.1.text, identity s.2 market number⟩

/-- Whether a stream is one of the two of a market. -/
def isStreamOf (market stream : String) : Bool :=
  stream = (StreamName.depth market).text || stream = (StreamName.ticker market).text

/-- An identity at a stream of a market determines the number of the view. -/
theorem number_eq_of_identity {kind market : String} {number number' : ℕ}
    (h : identity kind market number = identity kind market number') : number = number' := by
  have htext : toString number = toString number' := by
    simpa [identity, String.append_right_inj] using h
  exact Nat.repr_inj.1 htext

/-- Views have no guard in common. -/
theorem number_eq_of_mem_guards {market market' : String} {number number' : ℕ} {g : Guard}
    (h : g ∈ guards market number) (h' : g ∈ guards market' number') : number = number' := by
  simp only [guards, streams, List.map_cons, List.map_nil, List.mem_cons, List.not_mem_nil,
    or_false] at h h'
  rcases h with rfl | rfl <;> rcases h' with h' | h' <;> obtain ⟨hstream, hidentity⟩ :=
    Guard.mk.inj h'
  · rw [← StreamName.eq_of_text_depth hstream] at hidentity
    exact number_eq_of_identity hidentity
  · exact absurd hstream (StreamName.text_depth_ne_text_ticker _ _)
  · exact absurd hstream.symm (StreamName.text_depth_ne_text_ticker _ _)
  · rw [← StreamName.eq_of_text_ticker hstream] at hidentity
    exact number_eq_of_identity hidentity

/-- The two guards of a view differ. -/
theorem nodup_guards (market : String) (number : ℕ) : (guards market number).Nodup := by
  have hne := StreamName.text_depth_ne_text_ticker market market
  simp [guards, streams, hne]

/-- A view has one guard at each of its streams, and none at others. -/
theorem length_filter_guards (market : String) (number : ℕ) (stream : String) :
    ((guards market number).filter (·.stream = stream)).length =
      if isStreamOf market stream then 1 else 0 := by
  have hne := StreamName.text_depth_ne_text_ticker market market
  by_cases hdepth : (StreamName.depth market).text = stream
  · have hticker : (StreamName.ticker market).text ≠ stream := hdepth ▸ hne.symm
    simp [guards, streams, isStreamOf, hdepth, hticker]
  · by_cases hticker : (StreamName.ticker market).text = stream
    · simp [guards, streams, isStreamOf, hdepth, hticker]
    · simp [guards, streams, isStreamOf, hdepth, hticker, Ne.symm hdepth, Ne.symm hticker]

end BookFeed.Market.View

import Mathlib.Logic.Function.Basic
import BookFeed.Proofs.Market.Figures

set_option autoImplicit false

/-!
# Fetches that take time

A fetch for a view asks for a depth and a price at once and then waits for both answers. Until
they are there events go on coming in, and other fetches for the same view may be under way.
Only when the second answer has come does the view take what was fetched, all of it at one
moment. So a fetch is one event of the view, at the moment of its later answer; without a depth
that event changes nothing, and without a price it does not touch the last price.

## Main definitions

* `BookFeed.Market.Fetch`, `BookFeed.Market.Fetching` — the answers to a fetch, a view with
  all its fetches.
* `BookFeed.Market.FetchEvent`, `BookFeed.Market.Fetching.run` — events and answers in any
  order.
* `BookFeed.Market.depthAnswer`, `BookFeed.Market.priceAnswer` — what a fetch is answered in a
  run.
* `BookFeed.Market.Fetching.onView` — what an event or an answer is to the view.

## Main results

* `BookFeed.Market.Fetching.view_advance` — a fetch is one event of the view.
* `BookFeed.Market.Fetching.project_run` — fetches that do not change a part of the view can
  be left out.
* `BookFeed.Market.Fetching.failed_fetch_leaves_nothing` — what fetches without a depth and
  fetches without a price come to.
-/

namespace BookFeed.Market

open Book

/-! ### Views and fetches -/

/-- The answers to a fetch that have come so far. -/
structure Fetch where
  /-- The answer about the depth. -/
  depth : Option (Except Seed.FetchError Depth) := none
  /-- The answer about the price. -/
  price : Option (Except Seed.FetchError Decimal) := none

/-- What is said about a fetch that has both answers: whether there was a depth. -/
def Fetch.result (f : Fetch) : Option (Except Seed.FetchError Unit) :=
  f.depth.bind fun depth => f.price.map fun _ => depth.map fun _ => ()

/-- A view with all fetches for it, which are numbered. -/
structure Fetching where
  /-- The view. -/
  view : View
  /-- The answers to each fetch. -/
  fetches : ℕ → Fetch := fun _ => {}
  /-- What whoever asked for a fetch has been told. -/
  told : ℕ → Option (Except Seed.FetchError Unit) := fun _ => none

/-- What happens to a view while fetches for it are under way. -/
inductive FetchEvent where
  /-- An event of one of its streams comes. -/
  | event (e : Feed.Event)
  /-- The answer about the depth comes to a fetch. -/
  | depth (n : ℕ) (answer : Except Seed.FetchError Depth)
  /-- The answer about the price comes to a fetch. -/
  | price (n : ℕ) (answer : Except Seed.FetchError Decimal)

namespace FetchEvent

/-- The event of a stream. -/
def event? : FetchEvent → Option ViewEvent
  | .event e => some (.event e)
  | _ => none

/-- The answer about the depth, if it comes to the fetch `n`. -/
def depthFor (n : ℕ) : FetchEvent → Option (Except Seed.FetchError Depth)
  | .depth m answer => if m = n then some answer else none
  | _ => none

/-- The answer about the price, if it comes to the fetch `n`. -/
def priceFor (n : ℕ) : FetchEvent → Option (Except Seed.FetchError Decimal)
  | .price m answer => if m = n then some answer else none
  | _ => none

/-- Whether it is an event of a stream, or an answer to one of the fetches `p`. -/
def isFor (p : ℕ → Bool) : FetchEvent → Bool
  | .event _ => true
  | .depth n _ => p n
  | .price n _ => p n

/-- The same, except that the fetch `n` is told the price `p`. -/
def withPrice (n : ℕ) (p : Decimal) : FetchEvent → FetchEvent
  | .price m answer => .price m (if m = n then .ok p else answer)
  | e => e

end FetchEvent

/-- The answer about the depth that comes to the fetch `n`: the first one, since a fetch asks
once. -/
def depthAnswer (es : List FetchEvent) (n : ℕ) : Option (Except Seed.FetchError Depth) :=
  es.findSome? (·.depthFor n)

/-- The answer about the price that comes to the fetch `n`. -/
def priceAnswer (es : List FetchEvent) (n : ℕ) : Option (Except Seed.FetchError Decimal) :=
  es.findSome? (·.priceFor n)

/-- Whether the fetch `n` gets a depth. -/
def getsDepth (es : List FetchEvent) (n : ℕ) : Bool := (depthAnswer es n).any (·.toOption.isSome)

/-- Whether the fetch `n` gets a price. -/
def getsPrice (es : List FetchEvent) (n : ℕ) : Bool := (priceAnswer es n).any (·.toOption.isSome)

theorem depthAnswer_concat (es : List FetchEvent) (e : FetchEvent) (n : ℕ) :
    depthAnswer (es ++ [e]) n = (depthAnswer es n).or (e.depthFor n) := by
  simp [depthAnswer, List.findSome?_append]

theorem priceAnswer_concat (es : List FetchEvent) (e : FetchEvent) (n : ℕ) :
    priceAnswer (es ++ [e]) n = (priceAnswer es n).or (e.priceFor n) := by
  simp [priceAnswer, List.findSome?_append]

/-- Leaving out other fetches does not change what a fetch is answered. -/
theorem answers_filter {kept : ℕ → Bool} {n : ℕ} (hn : kept n = true) (es : List FetchEvent) :
    depthAnswer (es.filter (·.isFor kept)) n = depthAnswer es n ∧
      priceAnswer (es.filter (·.isFor kept)) n = priceAnswer es n := by
  have hother : ∀ e : FetchEvent, e.isFor kept = false →
      e.depthFor n = none ∧ e.priceFor n = none := by
    intro e he
    cases e with
    | event e => cases he
    | depth m answer =>
      have hm : m ≠ n := fun hm => by simp [FetchEvent.isFor, hm, hn] at he
      simp [FetchEvent.depthFor, FetchEvent.priceFor, hm]
    | price m answer =>
      have hm : m ≠ n := fun hm => by simp [FetchEvent.isFor, hm, hn] at he
      simp [FetchEvent.depthFor, FetchEvent.priceFor, hm]
  induction es with
  | nil => exact ⟨rfl, rfl⟩
  | cons e es ih =>
    unfold depthAnswer priceAnswer at ih ⊢
    cases he : e.isFor kept with
    | true => simp only [List.filter_cons, he, if_true, List.findSome?_cons, ih, and_self]
    | false =>
      obtain ⟨hdepth, hprice⟩ := hother e he
      simp only [List.filter_cons, he, List.findSome?_cons, hdepth, hprice]
      exact ih

namespace Fetching

/-- A view for which nothing is being fetched. -/
def new (v : View) : Fetching := { view := v }

/-- A fetch that has both answers is at its end: the view takes them, and whoever asked is
told. -/
def finish (s : Fetching) (n : ℕ) : Fetching :=
  match (s.fetches n).depth, (s.fetches n).price with
  | some depth, some price =>
    { s with
      view := (s.view.reseed depth price).1
      told := Function.update s.told n (some (s.view.reseed depth price).2) }
  | _, _ => s

/-- A view with its fetches after an event or an answer. An answer that has come already does
not come again. -/
def advance (s : Fetching) : FetchEvent → Fetching
  | .event e => { s with view := s.view.onEvent e }
  | .depth n answer =>
    if (s.fetches n).depth.isSome then s
    else finish { s with
      fetches := Function.update s.fetches n { s.fetches n with depth := some answer } } n
  | .price n answer =>
    if (s.fetches n).price.isSome then s
    else finish { s with
      fetches := Function.update s.fetches n { s.fetches n with price := some answer } } n

/-- A view with its fetches after some events and answers. -/
def run (s : Fetching) (es : List FetchEvent) : Fetching := es.foldl advance s

theorem run_concat (s : Fetching) (es : List FetchEvent) (e : FetchEvent) :
    s.run (es ++ [e]) = (s.run es).advance e := by
  simp [run]

/-! ### One event or answer -/

/-- What an event or an answer is to the view: the second answer to a fetch is its fetched depth
and price, the first one is nothing. -/
def onView (s : Fetching) : FetchEvent → Option ViewEvent
  | .event e => some (.event e)
  | .depth n answer =>
    if (s.fetches n).depth.isSome then none else (s.fetches n).price.map (.reseed answer ·)
  | .price n answer =>
    if (s.fetches n).price.isSome then none else (s.fetches n).depth.map (.reseed · answer)

theorem fetches_finish (s : Fetching) (n : ℕ) : (s.finish n).fetches = s.fetches := by
  unfold finish
  split <;> rfl

/-- A fetch is one event of the view. -/
theorem view_advance (s : Fetching) (e : FetchEvent) :
    (s.advance e).view = (s.onView e).elim s.view s.view.advance := by
  cases e with
  | event e => rfl
  | depth n answer =>
    cases hdepth : (s.fetches n).depth with
    | some d => simp [advance, onView, hdepth]
    | none => cases hprice : (s.fetches n).price <;>
        simp [advance, onView, finish, hdepth, hprice, View.advance]
  | price n answer =>
    cases hprice : (s.fetches n).price with
    | some p => simp [advance, onView, hprice]
    | none => cases hdepth : (s.fetches n).depth <;>
        simp [advance, onView, finish, hdepth, hprice, View.advance]

/-- An answer is kept with its fetch, unless there has been one. -/
theorem fetches_advance (s : Fetching) (e : FetchEvent) (n : ℕ) :
    (s.advance e).fetches n =
      ⟨(s.fetches n).depth <|> e.depthFor n, (s.fetches n).price <|> e.priceFor n⟩ := by
  rcases hn : s.fetches n with ⟨depth, price⟩
  cases e with
  | event e => simp [advance, FetchEvent.depthFor, FetchEvent.priceFor, hn]
  | depth m answer =>
    simp only [advance, FetchEvent.depthFor, FetchEvent.priceFor]
    by_cases hm : m = n
    · subst hm
      cases depth <;> simp [hn, fetches_finish]
    · split <;> simp [fetches_finish, Function.update_of_ne (Ne.symm hm), hn]
  | price m answer =>
    simp only [advance, FetchEvent.depthFor, FetchEvent.priceFor]
    by_cases hm : m = n
    · subst hm
      cases price <;> simp [hn, fetches_finish]
    · split <;> simp [fetches_finish, Function.update_of_ne (Ne.symm hm), hn]

/-- With the second answer whoever asked is told, and otherwise nothing is said. -/
theorem told_finish (s : Fetching) (m n : ℕ) :
    (s.finish m).told n = if n = m then (s.fetches m).result <|> s.told m else s.told n := by
  rcases hm : s.fetches m with ⟨_ | depth, _ | price⟩
  · simp +contextual [finish, hm, Fetch.result]
  · simp +contextual [finish, hm, Fetch.result]
  · simp +contextual [finish, hm, Fetch.result]
  · have htold : (s.view.reseed depth price).2 = depth.map fun _ => () := by cases depth <;> rfl
    simp [finish, hm, Fetch.result, htold, Function.update_apply]

theorem told_finish_of_new {s : Fetching} {m : ℕ} (hm : s.told m = none)
    (h : ∀ n, n ≠ m → s.told n = (s.fetches n).result) (n : ℕ) :
    (s.finish m).told n = ((s.finish m).fetches n).result := by
  rw [told_finish, fetches_finish]
  by_cases hn : n = m
  · subst hn
    simp [hm]
  · rw [if_neg hn, h n hn]

/-- Whoever asked for a fetch has been told what its answers say, after every event as before
it. -/
theorem told_advance {s : Fetching} (h : ∀ n, s.told n = (s.fetches n).result) (e : FetchEvent)
    (n : ℕ) : (s.advance e).told n = ((s.advance e).fetches n).result := by
  cases e with
  | event e => exact h n
  | depth m answer =>
    simp only [advance]
    split
    · exact h n
    · refine told_finish_of_new ?_ (fun k hk => ?_) n
      · simp_all [Fetch.result]
      · simpa [hk] using h k
  | price m answer =>
    simp only [advance]
    split
    · exact h n
    · refine told_finish_of_new ?_ (fun k hk => ?_) n
      · simp_all [Fetch.result]
      · simpa [hk] using h k

/-! ### Runs -/

/-- After a run, a fetch has the answers that came to it. -/
theorem fetches_run (v : View) (es : List FetchEvent) (n : ℕ) :
    ((new v).run es).fetches n = ⟨depthAnswer es n, priceAnswer es n⟩ := by
  induction es using List.reverseRecOn with
  | nil => rfl
  | append_singleton es e ih =>
    rw [run_concat, fetches_advance, ih, depthAnswer_concat, priceAnswer_concat]
    simp

/-- After a run, whoever asked for a fetch has been told what its answers say. -/
theorem told_run (v : View) (es : List FetchEvent) (n : ℕ) :
    ((new v).run es).told n = (Fetch.mk (depthAnswer es n) (priceAnswer es n)).result := by
  rw [← fetches_run v]
  induction es using List.reverseRecOn generalizing n with
  | nil => rfl
  | append_singleton es e ih =>
    rw [run_concat]
    exact told_advance ih e n

/-- What the last event of a run is to the view. -/
theorem view_run_concat (v : View) (es : List FetchEvent) (e : FetchEvent) :
    ((new v).run (es ++ [e])).view =
      (((new v).run es).onView e).elim ((new v).run es).view ((new v).run es).view.advance := by
  rw [run_concat, view_advance]

/-- An event or an answer is the same to two views if the fetch that is answered has the same
answers. -/
theorem onView_congr {s s' : Fetching} {e : FetchEvent} {kept : ℕ → Bool}
    (he : e.isFor kept = true) (h : ∀ n, kept n = true → s.fetches n = s'.fetches n) :
    s.onView e = s'.onView e := by
  cases e with
  | event e => rfl
  | depth n answer => simp only [onView, h n he]
  | price n answer => simp only [onView, h n he]

/-- What an answer is to the view after a run: what the fetch brings, if it is the second
answer. -/
theorem onView_eq_reseed {v : View} {es : List FetchEvent} {e : FetchEvent} {kept : ℕ → Bool}
    (he : e.isFor kept = false) {x : ViewEvent} (hx : ((new v).run es).onView e = some x) :
    ∃ n depth price, kept n = false ∧ depthAnswer (es ++ [e]) n = some depth ∧
      priceAnswer (es ++ [e]) n = some price ∧ x = .reseed depth price := by
  cases e with
  | event e => cases he
  | depth n answer =>
    rw [onView, fetches_run, Option.ite_none_left_eq_some, Option.map_eq_some_iff] at hx
    obtain ⟨hnew, price, hprice, rfl⟩ := hx
    refine ⟨n, answer, price, he, ?_, ?_, rfl⟩
    · simp_all [depthAnswer_concat, FetchEvent.depthFor]
    · simp_all [priceAnswer_concat]
  | price n answer =>
    rw [onView, fetches_run, Option.ite_none_left_eq_some, Option.map_eq_some_iff] at hx
    obtain ⟨hnew, depth, hdepth, rfl⟩ := hx
    refine ⟨n, depth, answer, he, ?_, ?_, rfl⟩
    · simp_all [depthAnswer_concat]
    · simp_all [priceAnswer_concat, FetchEvent.priceFor]

/-- Fetches that do not change some part of the view can be left out, as far as this part goes.

**Proof sketch.** Induction on the run, from its end. An answer to a fetch that is left out is
nothing to the view, or what this fetch brings, which does not change the part. Anything else is
to both views the same, since the fetches that are kept have the same answers in both runs. -/
theorem project_run {α : Type} (part : View → α)
    (hpart : ∀ v w e, part v = part w → part (v.advance e) = part (w.advance e))
    (kept : ℕ → Bool) (v : View) (es : List FetchEvent)
    (hskip : ∀ n depth price, kept n = false → depthAnswer es n = some depth →
      priceAnswer es n = some price → ∀ w, part (w.advance (.reseed depth price)) = part w) :
    part ((new v).run es).view = part ((new v).run (es.filter (·.isFor kept))).view := by
  induction es using List.reverseRecOn with
  | nil => rfl
  | append_singleton es e ih =>
    have hbefore := ih fun n depth price hn hdepth hprice => hskip n depth price hn
      (by simp [depthAnswer_concat, hdepth]) (by simp [priceAnswer_concat, hprice])
    rw [view_run_concat, List.filter_append]
    cases he : e.isFor kept with
    | true =>
      -- the fetch that is answered, if any, is kept: it has the same answers in both runs
      have hsame : ((new v).run es).onView e =
          ((new v).run (es.filter (·.isFor kept))).onView e := by
        refine onView_congr he fun n hn => ?_
        rw [fetches_run, fetches_run, (answers_filter hn es).1, (answers_filter hn es).2]
      rw [List.filter_singleton, he, cond_true, view_run_concat, ← hsame]
      cases ((new v).run es).onView e with
      | none => exact hbefore
      | some x => exact hpart _ _ x hbefore
    | false =>
      -- the answer comes in one of the runs only, where it changes nothing of the part
      rw [List.filter_singleton, he, cond_false, List.append_nil, ← hbefore]
      cases hx : ((new v).run es).onView e with
      | none => rfl
      | some x =>
        obtain ⟨n, depth, price, hn, hdepth, hprice, rfl⟩ := onView_eq_reseed he hx
        exact hskip n depth price hn hdepth hprice _

/-- Without fetches, a view takes the events of its streams. -/
theorem view_run_filter_events (v : View) (es : List FetchEvent) :
    ((new v).run (es.filter (·.isFor fun _ => false))).view =
      v.run (es.filterMap (·.event?)) := by
  induction es generalizing v with
  | nil => rfl
  | cons e es ih =>
    cases e with
    | event e => exact ih (v.onEvent e)
    | depth n answer => exact ih v
    | price n answer => exact ih v

/-- Another price for a fetch changes the answers about prices alone. -/
theorem answers_withPrice (n : ℕ) (p : Decimal) (es : List FetchEvent) (m : ℕ) :
    depthAnswer (es.map (·.withPrice n p)) m = depthAnswer es m ∧
      priceAnswer (es.map (·.withPrice n p)) m =
        (priceAnswer es m).map fun answer => if m = n then .ok p else answer := by
  have hdepth : ∀ e : FetchEvent, (e.withPrice n p).depthFor m = e.depthFor m := fun e => by
    cases e <;> rfl
  have hprice : ∀ e : FetchEvent, (e.withPrice n p).priceFor m =
      (e.priceFor m).map fun answer => if m = n then .ok p else answer := by
    intro e
    cases e with
    | event e => rfl
    | depth k answer => rfl
    | price k answer =>
      by_cases hk : k = m
      · simp [FetchEvent.withPrice, FetchEvent.priceFor, hk]
      · simp [FetchEvent.withPrice, FetchEvent.priceFor, hk]
  constructor
  · simp only [depthAnswer, List.findSome?_map, Function.comp_def, hdepth]
  · simp only [priceAnswer, List.findSome?_map, Function.comp_def, hprice, List.map_findSome?]

/-- With another price for a fetch, events and answers are the same to the book. -/
theorem onBook_withPrice (v : View) (es : List FetchEvent) (n : ℕ) (p : Decimal)
    (e : FetchEvent) :
    (((new v).run (es.map (·.withPrice n p))).onView (e.withPrice n p)).bind ViewEvent.onBook =
      (((new v).run es).onView e).bind ViewEvent.onBook := by
  have hbook : ∀ depth q q',
      (ViewEvent.reseed depth q).onBook = (ViewEvent.reseed depth q').onBook := fun depth q q' => by
    cases depth <;> rfl
  have hfetch : ∀ m, ((new v).run (es.map (·.withPrice n p))).fetches m = ⟨depthAnswer es m,
      (priceAnswer es m).map fun answer => if m = n then .ok p else answer⟩ := fun m => by
    rw [fetches_run, (answers_withPrice n p es m).1, (answers_withPrice n p es m).2]
  cases e with
  | event e => rfl
  | depth m answer =>
    change (Fetching.onView _ (.depth m answer)).bind _ = _
    simp only [onView, hfetch, fetches_run]
    cases depthAnswer es m with
    | some d => rfl
    | none => cases priceAnswer es m with
      | none => rfl
      | some q => exact hbook _ _ _
  | price m answer =>
    change (Fetching.onView _ (.price m _)).bind _ = _
    simp only [onView, hfetch, fetches_run]
    cases priceAnswer es m with
    | some q => rfl
    | none => cases depthAnswer es m with
      | none => rfl
      | some d => exact hbook _ _ _

/-- Another price for a fetch does not change the book.

**Proof sketch.** Induction on the run, from its end: each event and each answer is to the book
what it is with the other price (`onBook_withPrice`). -/
theorem book_run_withPrice (v : View) (es : List FetchEvent) (n : ℕ) (p : Decimal) :
    ((new v).run (es.map (·.withPrice n p))).view.state.book =
      ((new v).run es).view.state.book := by
  induction es using List.reverseRecOn with
  | nil => rfl
  | append_singleton es e ih =>
    have hbook : ∀ (w : View) (o : Option ViewEvent), (o.elim w w.advance).state.book =
        (o.bind ViewEvent.onBook).elim w.state.book w.state.book.advance := by
      intro w o
      cases o with
      | none => rfl
      | some x => exact View.book_advance w x
    rw [List.map_append, List.map_singleton, view_run_concat, view_run_concat, hbook, hbook, ih,
      onBook_withPrice]

/-- **A failed fetch leaves nothing behind.** A view of any kind gets events of its streams,
while fetches for it are under way: each asks for a depth and for a price, and the answers come
in any order, between any events and answers to other fetches. Then

* whoever asked is told of a failure iff the depth has failed and the price has been answered,
  one way or the other, and the failure is that of the depth;
* the view, with the batches that wait in it, the last price and what it has published, is what
  it would be without the fetches that got no depth, and whoever asked for one of the others is
  told the same: if no fetch got a depth, it is what the events alone make of it;
* the book, with its snapshot and the batches that wait, is the one that any other answer about
  the price of a fetch would have led to;
* the last price is what it would be without the fetches that got no price: if no fetch got one,
  it is what the events alone make of it.

**Proof sketch.** A fetch is one event of the view, at the moment of its second answer
(`view_advance`). Without a depth this event changes nothing at all, and without a price it does
not change the last price; so in either case the fetch can be left out (`project_run`). The book
sees the depth only. -/
theorem failed_fetch_leaves_nothing (v : View) (es : List FetchEvent) :
    let now := (new v).run es
    let withDepth := (new v).run (es.filter (·.isFor (getsDepth es)))
    let withPrice := (new v).run (es.filter (·.isFor (getsPrice es)))
    (∀ n e, now.told n = some (.error e) ↔
        depthAnswer es n = some (.error e) ∧ (priceAnswer es n).isSome) ∧
      now.view = withDepth.view ∧
      (∀ n, getsDepth es n = true → now.told n = withDepth.told n) ∧
      ((∀ n, getsDepth es n = false) → now.view = v.run (es.filterMap (·.event?))) ∧
      (∀ n p, ((new v).run (es.map (·.withPrice n p))).view.state.book = now.view.state.book) ∧
      now.view.state.lastPrice = withPrice.view.state.lastPrice ∧
      ((∀ n, getsPrice es n = false) →
        now.view.state.lastPrice = (v.run (es.filterMap (·.event?))).state.lastPrice) := by
  intro now withDepth withPrice
  have hview : now.view = withDepth.view := by
    refine project_run id (fun v w e h => congrArg (·.advance e) h) _ v es ?_
    intro n depth price hn hdepth hprice w
    cases depth with
    | error e => rfl
    | ok d => simp [getsDepth, hdepth, Except.toOption] at hn
  have hlastPrice : now.view.state.lastPrice = withPrice.view.state.lastPrice := by
    refine project_run (·.state.lastPrice) (fun v w e h => ?_) _ v es ?_
    · simp only [View.lastPrice_advance, h]
    · intro n depth price hn hdepth hprice w
      cases price with
      | error e => rw [View.lastPrice_advance]; cases depth <;> rfl
      | ok p => simp [getsPrice, hprice, Except.toOption] at hn
  refine ⟨fun n e => ?_, hview, fun n hn => ?_, fun hnone => ?_, book_run_withPrice v es,
    hlastPrice, fun hnone => ?_⟩
  · rw [told_run, Fetch.result]
    rcases depthAnswer es n with _ | _ | d <;> rcases priceAnswer es n with _ | price <;>
      simp [Except.map]
  · simp only [now, withDepth, told_run, answers_filter hn]
  · rw [hview, ← view_run_filter_events, ← funext hnone]
  · rw [hlastPrice, ← view_run_filter_events, ← funext hnone]

/-- A fetch gets its price, then figures come, and then it gets no depth; the batch that came
before waits still. Another one gets a depth, then a batch comes, and then it gets no price. -/
theorem failed_fetch_between_events :
    let market := View.new "SOL_USDC" 10
    let batch : Feed.Event := .depth { bids := [⟨.ofInt 99 (by decide), .ofInt 1 (by decide)⟩] }
    let figures : Feed.Event := .ticker { high := some (.ofInt 100 (by decide)) }
    let busy : Seed.FetchError := .status "/depth" 503
    let noDepth :=
      (new market).run [.event batch, .price 0 (.ok (.ofInt 98 (by decide))), .event figures,
        .depth 0 (.error busy)]
    let noPrice :=
      (new market).run [.event figures, .depth 0 (.ok {}), .event batch, .price 0 (.error busy)]
    noDepth.told 0 = some (.error busy) ∧
      noDepth.view = market.run [.event batch, .event figures] ∧
      noPrice.view.state.lastPrice =
        (market.run [.event figures, .event batch]).state.lastPrice := by
  intro market batch figures busy noDepth noPrice
  obtain ⟨htold, -, -, hview, -⟩ := failed_fetch_leaves_nothing market [.event batch,
    .price 0 (.ok (.ofInt 98 (by decide))), .event figures, .depth 0 (.error busy)]
  obtain ⟨-, -, -, -, -, -, hprice⟩ := failed_fetch_leaves_nothing market [.event figures,
    .depth 0 (.ok {}), .event batch, .price 0 (.error busy)]
  refine ⟨(htold 0 busy).2 ⟨rfl, rfl⟩, hview fun n => ?_, hprice fun n => ?_⟩
  · by_cases hn : 0 = n <;>
      simp [getsDepth, depthAnswer, FetchEvent.depthFor, hn, Except.toOption]
  · by_cases hn : 0 = n <;>
      simp [getsPrice, priceAnswer, FetchEvent.priceFor, hn, Except.toOption]

end Fetching

end BookFeed.Market

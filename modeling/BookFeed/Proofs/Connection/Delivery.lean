import BookFeed.Proofs.Connection.Holding

set_option autoImplicit false

/-!
# What a held guard delivers

While a guard is held, its callback should be run for every event on its stream. A registry
knows a listener by its identity only, and so does a guard that is given back: it removes
whatever is registered under its identity. So a guard that has taken the place of older ones
with its stream and identity keeps delivering exactly until one of those is given back. From
then on its callback is silent although the guard is held, and if nobody else listens to the
stream, the stream is not wanted either.

## Main definitions

* `BookFeed.Connection.Holding.Delivers` — a guard delivers what comes in on its stream.

## Main results

* `BookFeed.Connection.Holding.advance_cases`, `BookFeed.Connection.Holding.run_cases` — what
  an event and a run do to the guards of one identity.
* `BookFeed.Connection.Holding.delivers_iff` — the last guard of an identity delivers exactly
  as long as no guard that it has replaced is given back.
* `BookFeed.Connection.Holding.silent_after_release` — a guard that is held and does not
  deliver.
-/

namespace BookFeed.Connection

open Feed

namespace Holding

variable {κ : Type}

/-- A guard delivers: its callback is registered, its stream is wanted, and its callback is run
for every event that comes in on the stream. -/
structure Delivers (h : Holding κ) (g : Guard) (callback : κ) : Prop where
  /-- The callback is registered. -/
  registered : h.callback? g = some callback
  /-- The stream is wanted. -/
  wanted : g.stream ∈ h.manager.outbox.active
  /-- The callback is run for every event of the stream. -/
  receives : ∀ text e, decode text = .ok (some ⟨g.stream, e⟩) →
    ∃ new, (h.frame text).received = h.received ++ new ∧ (callback, e) ∈ new

/-- A callback that is registered is wanted and run. -/
theorem delivers_of_registered {h : Holding κ} (hs : h.Sound) {g : Guard} {callback : κ}
    (hreg : h.callback? g = some callback) : h.Delivers g callback where
  registered := hreg
  wanted := hs.wanted _ (Registry.listenerCount_pos_of_callback? hreg)
  receives text e hdecode := by
    refine ⟨_, h.received_frame text, ?_⟩
    simp only [Manager.deliveries, hdecode]
    exact List.mem_map_of_mem (Registry.mem_callbacks_of_callback? hreg)

/-! ### Guards with one identity -/

/-- All that an event can do to the guards of one stream and identity, unless it opens one of
them: they are held as before and the same is run for them, or one that was held is given back
and nothing is run for them any more. -/
theorem advance_cases {h : Holding κ} (hs : h.Sound) {g : Guard} {e : GuardEvent κ}
    (he : ∀ callback, e ≠ .subscribe g callback) :
    ((∀ n, (h.advance e).Holds n g ↔ h.Holds n g) ∧
      (h.advance e).callback? g = h.callback? g) ∨
    ∃ k, h.Holds k g ∧ (∀ n, (h.advance e).Holds n g ↔ h.Holds n g ∧ n ≠ k) ∧
      (h.advance e).callback? g = none := by
  cases e with
  | subscribe g' callback =>
    have hne : g ≠ g' := fun heq => he callback (heq ▸ rfl)
    refine Or.inl ⟨fun n => ?_, ?_⟩
    · simp [advance, holds_subscribe, hne]
    · rw [advance, callback?_subscribe, if_neg hne]
  | release k =>
    by_cases hk : ∃ g', h.Holds k g'
    · obtain ⟨g', hg'⟩ := hk
      by_cases heq : g = g'
      · refine Or.inr ⟨k, heq ▸ hg', fun n => h.holds_release k n g, ?_⟩
        rw [advance, callback?_release hs hg', if_pos heq]
      · refine Or.inl ⟨fun n => ?_, ?_⟩
        · rw [advance, holds_release]
          refine ⟨fun hn => hn.1, fun hn => ⟨hn, fun hnk => heq ?_⟩⟩
          rw [hnk] at hn
          exact hn.unique hg'
        · rw [advance, callback?_release hs hg', if_neg heq]
    · rw [advance, release_eq_self fun g' hg' => hk ⟨g', hg'⟩]
      exact Or.inl ⟨fun _ => Iff.rfl, rfl⟩
  | tick n =>
    rcases h.tick_cases n with htick | ⟨g', -, htick⟩
    · rw [advance, htick]
      exact Or.inl ⟨fun _ => Iff.rfl, rfl⟩
    · rw [advance, htick]
      exact Or.inl ⟨fun _ => Iff.rfl, by simp [callback?]⟩
  | frame text => exact Or.inl ⟨fun n => by simp [advance, Holds], by simp [advance, callback?]⟩
  | turn t => exact Or.inl ⟨fun n => by simp [advance, Holds], by simp [advance, callback?]⟩

/-- All that a run can do to the guards of one stream and identity, unless it opens one of them:
they are held as before and the same is run for them, or one that was held is given back and
nothing is run for them any more. -/
theorem run_cases {h : Holding κ} (hs : h.Sound) {g : Guard} {es : List (GuardEvent κ)}
    (hnew : ∀ callback, .subscribe g callback ∉ es) :
    ((∀ n, (h.run es).Holds n g ↔ h.Holds n g) ∧ (h.run es).callback? g = h.callback? g) ∨
    ∃ k, h.Holds k g ∧ ¬ (h.run es).Holds k g ∧ (h.run es).callback? g = none := by
  induction es using List.reverseRecOn with
  | nil => exact Or.inl ⟨fun _ => Iff.rfl, rfl⟩
  | append_singleton es e ih =>
    have hstep := advance_cases (hs.run es) (g := g) (e := e) fun c hc => hnew c (by simp [hc])
    rw [run_concat]
    rcases ih fun c hc => hnew c (List.mem_append_left _ hc) with
      ⟨hsame, hcallback⟩ | ⟨k, hk, hgone, hnone⟩
    · rcases hstep with ⟨hsame', hcallback'⟩ | ⟨k, hk, hgone, hnone⟩
      · exact Or.inl ⟨fun n => (hsame' n).trans (hsame n), hcallback'.trans hcallback⟩
      · exact Or.inr ⟨k, (hsame k).1 hk, fun hlater => ((hgone k).1 hlater).2 rfl, hnone⟩
    · refine Or.inr ⟨k, hk, ?_⟩
      rcases hstep with ⟨hsame', hcallback'⟩ | ⟨k', -, hgone', hnone'⟩
      · exact ⟨fun hlater => hgone ((hsame' k).1 hlater), hcallback'.trans hnone⟩
      · exact ⟨fun hlater => hgone ((hgone' k).1 hlater).1, hnone'⟩

/-! ### The last guard of an identity -/

/-- **A held guard delivers exactly as long as no guard that it has replaced is given back.**
After any events a guard is opened, and after any further events it is still held and is the
last one that has been opened for its stream and identity. Then its callback is registered, its
stream is wanted and its callback is run for all that comes in on the stream, if and only if
every guard with the same stream and identity that was held when it was opened is still held.

**Proof sketch.** Opening registers the callback. Every later event leaves the guards of this
identity and what is run for them as they are, or gives one of them back and removes the
listener, which nothing adds again. A registered callback has a listener on the stream, so the
stream is wanted. -/
theorem delivers_iff (config : Config) (es es' : List (GuardEvent κ)) (g : Guard) (callback : κ)
    (hlast : ∀ callback', .subscribe g callback' ∉ es') :
    let before := (Holding.new config).run es
    let now := before.run (.subscribe g callback :: es')
    now.Holds before.leases.length g →
      (now.Delivers g callback ↔ ∀ n, before.Holds n g → now.Holds n g) := by
  intro before now hheld
  have hbefore : before.Sound := (Sound.new config).run es
  have hopened : (before.subscribe g callback).Sound := hbefore.subscribe g callback
  have hregistered : (before.subscribe g callback).callback? g = some callback := by
    rw [callback?_subscribe, if_pos rfl]
  rcases run_cases hopened hlast with ⟨hsame, hcallback⟩ | ⟨k, hk, hgone, hnone⟩
  · have hdelivers : now.Delivers g callback :=
      delivers_of_registered (hopened.run es') (hcallback.trans hregistered)
    have hall : ∀ n, before.Holds n g → now.Holds n g := fun n hn =>
      (hsame n).2 ((before.holds_subscribe g callback n g).2 (Or.inl hn))
    exact iff_of_true hdelivers hall
  · have hold : before.Holds k g := by
      rcases (before.holds_subscribe g callback k g).1 hk with hold | ⟨rfl, -⟩
      · exact hold
      · exact absurd hheld hgone
    refine iff_of_false (fun hdelivers => ?_) fun hall => hgone (hall k hold)
    have hcontra := hdelivers.registered.symm.trans hnone
    cases hcontra

/-- A guard for changes of a book. -/
private def bookGuard : Guard := ⟨"depth@SOL_USDC", "book"⟩

/-- A text with no changes of that book. -/
private def bookText : String :=
  "\x7b\"stream\":\"depth@SOL_USDC\",\"data\":\x7b\"e\":\"depth\"\x7d\x7d"

/-- The first of three guards has been given back when the third one is opened. -/
private def firstAndSecond : List (GuardEvent String) :=
  [.subscribe bookGuard "first", .release 0, .subscribe bookGuard "second"]

/-- Another guard comes and goes, a link becomes ready, and a timer ticks. -/
private def afterThird : List (GuardEvent String) :=
  [.subscribe ⟨"depth@SOL_USDC", "other"⟩ "other", .release 3, .turn .connecting,
    .turn (.ready none), .tick 2]

/-- A third guard delivers while the second one, which it has replaced, is held. -/
theorem delivers_while_replaced_held :
    let before := (Holding.new {}).run firstAndSecond
    let now := before.run (.subscribe bookGuard "third" :: afterThird)
    (∀ callback', .subscribe bookGuard callback' ∉ afterThird) ∧ now.Holds 2 bookGuard ∧
      before.Holds 1 bookGuard ∧ now.Delivers bookGuard "third" := by
  intro before now
  have hlast : ∀ callback', .subscribe bookGuard callback' ∉ afterThird := by
    intro callback' hmem
    simp [afterThird, bookGuard] at hmem
  have hheld : now.Holds 2 bookGuard := by decide +kernel
  have hall : ∀ n, before.Holds n bookGuard → now.Holds n bookGuard := by
    intro n hn
    rcases n with _ | _ | n
    · exact absurd hn (by decide +kernel)
    · decide +kernel
    · cases hn
  exact ⟨hlast, hheld, by decide +kernel,
    (delivers_iff {} firstAndSecond afterThird bookGuard "third" hlast hheld).2 hall⟩

/-- **A guard that is held and does not deliver.** Two guards of one stream and identity are
opened, and the first one is given back. The second one is the last one and is held, but nothing
is run for it, its stream is not wanted and its callback does not receive what comes in. -/
theorem silent_after_release :
    let now := (Holding.new {}).run
      [.subscribe bookGuard "old", .subscribe bookGuard "new", .release 0]
    now.Holds 1 bookGuard ∧ now.callback? bookGuard = none ∧ now.manager.outbox.active = [] ∧
      decode bookText = .ok (some ⟨bookGuard.stream, .depth ⟨[], [], none⟩⟩) ∧
      (now.frame bookText).received = [] ∧ ¬ now.Delivers bookGuard "new" := by
  intro now
  have hnone : now.callback? bookGuard = none := by decide +kernel
  refine ⟨by decide +kernel, hnone, by decide +kernel, by decide +kernel, by decide +kernel, ?_⟩
  intro hdelivers
  rw [hdelivers.registered] at hnone
  cases hnone

end Holding

end BookFeed.Connection

import BookFeed.Proofs.Connection.Crowd

set_option autoImplicit false

/-!
# Guards whose steps interleave

Once all that has been begun is finished, a stream should be wanted exactly if somebody listens
to it. If the steps of several guards interleave, two races break this, and nothing else does:

* a guard that is given back counts nobody, and another one is opened completely before the
  request to end the subscription goes out: the stream is lost, although somebody listens to it;
* a timer fires while its guard is held, and asks for the stream only after the last guard has
  told that nobody is left: the stream is revived, although nobody listens to it.

## Main definitions

* `BookFeed.Connection.Crowd.Attended` — somebody listens, or a guard is being given back.
* `BookFeed.Connection.Crowd.Overtaken`, `BookFeed.Connection.Crowd.Revived` — the two races.

## Main results

* `BookFeed.Connection.Crowd.Interleaving.overtaken` — how a stream is lost.
* `BookFeed.Connection.Crowd.Interleaving.revived` — how a stream is revived.
* `BookFeed.Connection.Crowd.wanted_iff_listened_iff` — the two races, and nothing else.
* `BookFeed.Connection.Crowd.lost_and_revived` — both of them happen.
-/

namespace BookFeed.Connection.Crowd

variable {κ : Type}

/-! ### How a stream is lost -/

/-- Who listens although another guard has counted nobody has added its listener after that
count, and has asked for the stream after that, if it has done so.

**Proof sketch.** Induction on the steps. When the count comes, the guard does not listen, so it
has neither added its listener nor asked; each of these two steps comes behind what was
there. -/
theorem Interleaving.opened_after_count {c : Crowd κ} {ss : List Step} (h : c.Interleaving ss)
    {r i : String} (hcount : .count r true ∈ ss) (hlistens : Listens ss i) :
    [.count r true, .register i].Sublist ss ∧
      (.ask i ∈ ss → [.count r true, .register i, .ask i].Sublist ss) := by
  induction ss using List.reverseRecOn with
  | nil => cases hcount
  | append_singleton ss s ih =>
    obtain ⟨hss, hs⟩ := interleaving_concat.1 h
    have hstays : .deregister i ∉ ss := fun hmem => hlistens.2 (List.mem_append_left _ hmem)
    by_cases hearlier : .count r true ∈ ss
    · by_cases hreg : .register i ∈ ss
      · -- only asking can be new here, and it comes behind the other two
        obtain ⟨hpair, htriple⟩ := ih hss hearlier ⟨hreg, hstays⟩
        refine ⟨hpair.trans (List.sublist_append_left ss [s]), fun hask => ?_⟩
        rcases List.mem_append.1 hask with hask | hask
        · exact (htriple hask).trans (List.sublist_append_left ss [s])
        · rw [← List.mem_singleton.1 hask]
          exact hpair.append (List.Sublist.refl [Step.ask i])
      · obtain rfl : .register i = s := by simpa [hreg] using hlistens.1
        refine ⟨(List.singleton_sublist.2 hearlier).append (List.Sublist.refl [Step.register i]),
          fun hask => ?_⟩
        exact absurd (hss.prepared (.ask i) (by simpa using hask)) hreg
    · -- a count that comes now would have found the guard
      obtain rfl : .count r true = s := by simpa [hearlier] using hcount
      exact absurd ⟨by simpa using hlistens.1, hstays⟩ (h.not_listens_of_count i)

/-- **How a stream is lost.** If the stream is not wanted although a guard has been opened and
listens, the last request is that of another guard which has counted nobody before the whole
opening.

**Proof sketch.** Induction on the steps. A step that asks for the stream makes it wanted. One
that tells that nobody is left is the last request from then on, and its count comes before the
opening of the guard that listens. A step that submits nothing leaves both as they are. -/
theorem Interleaving.overtaken {c : Crowd κ} {ss : List Step} (h : c.Interleaving ss) {i : String}
    (hunwanted : c.stream ∉ (c.manager ss).outbox.active) (hlistens : Listens ss i)
    (hask : .ask i ∈ ss) :
    ∃ r before, LastRequest ss before (.tell r) ∧
      [.count r true, .register i, .ask i].Sublist before := by
  induction ss using List.reverseRecOn with
  | nil => cases hask
  | append_singleton ss s ih =>
    obtain ⟨hss, hs⟩ := interleaving_concat.1 h
    rw [manager_concat, mem_active_act] at hunwanted
    have hbefore (hask : .ask i ∈ ss) : Listens ss i :=
      ⟨hss.prepared (.ask i) hask, fun hmem => hlistens.2 (List.mem_append_left _ hmem)⟩
    cases s with
    | ask j | askAgain j n => simp [Step.wish] at hunwanted
    | tell r =>
      have hask : .ask i ∈ ss := by simpa using hask
      have hrace := (hss.opened_after_count hs.1 (hbefore hask)).2 hask
      exact ⟨r, ss, .concat_self (Option.some_ne_none _), hrace⟩
    | register j | deregister j | count j b | fire j n | look j n b | turn t =>
      have hask : .ask i ∈ ss := by simpa using hask
      obtain ⟨r, before, hlast, hrace⟩ := ih hss hunwanted (hbefore hask) hask
      exact ⟨r, before, hlast.concat rfl, hrace⟩

/-! ### How a stream is revived -/

/-- Somebody listens, or a guard is being given back: it has yet to count, or it has counted
nobody and has yet to tell. -/
inductive Attended (ss : List Step) : Prop where
  /-- Somebody listens. -/
  | listened (i : String) (h : Listens ss i)
  /-- A guard has yet to count. -/
  | uncounted (r : String) (h : .deregister r ∈ ss) (hcount : ¬ Counted ss r)
  /-- A guard has counted nobody and has yet to tell. -/
  | untold (r : String) (h : .count r true ∈ ss) (htell : .tell r ∉ ss)

theorem Attended.exists_listens {ss : List Step} (h : Attended ss) (hfinished : Finished ss) :
    ∃ i, Listens ss i := by
  cases h with
  | listened i h => exact ⟨i, h⟩
  | uncounted r h hcount => exact absurd (hfinished _ h) hcount
  | untold r h htell => exact absurd (hfinished _ h rfl) htell

/-- As long as nobody tells that nobody is left, somebody attends. -/
theorem Interleaving.attended_concat {c : Crowd κ} {ss : List Step} {s : Step}
    (h : c.Interleaving (ss ++ [s])) (hs : ∀ r, s ≠ .tell r) (ha : Attended ss) :
    Attended (ss ++ [s]) := by
  have hss := (interleaving_concat.1 h).1
  cases ha with
  | listened i hi =>
    by_cases hi' : s = .deregister i
    · -- who removes its listener has yet to count
      subst hi'
      refine .uncounted i (by simp) fun hcount => hi.2 (hss.deregister_of_counted ?_)
      simpa [Counted] using hcount
    · exact .listened i ⟨List.mem_append_left _ hi.1, by simp [hi.2, Ne.symm hi']⟩
  | uncounted r hr hcount =>
    by_cases hr' : ∃ nobody, s = .count r nobody
    · obtain ⟨nobody, rfl⟩ := hr'
      -- who counts nobody has yet to tell; otherwise there is somebody
      cases nobody with
      | true =>
        refine .untold r (by simp) fun htell => hcount (Or.inl (hss.prepared (.tell r) ?_))
        simpa using htell
      | false =>
        obtain ⟨i, hi⟩ := h.exists_listens_of_count
        exact .listened i ⟨List.mem_append_left _ hi.1, by simp [hi.2]⟩
    · refine .uncounted r (List.mem_append_left _ hr) fun hcount' => hcount ?_
      have hne (nobody : Bool) : ¬ Step.count r nobody = s := fun heq => hr' ⟨nobody, heq.symm⟩
      simpa [Counted, hne] using hcount'
  | untold r hr htell =>
    exact .untold r (List.mem_append_left _ hr) (by simp [htell, Ne.symm (hs r)])

/-- Since a timer has fired somebody attends, or somebody has told that nobody is left.

**Proof sketch.** Induction on the steps. When the timer fires, its guard listens or has yet to
count. From then on somebody attends until somebody tells. -/
theorem Interleaving.attended_or_told {c : Crowd κ} {ss : List Step} (h : c.Interleaving ss)
    {i : String} {n : Nat} (hfire : .fire i n ∈ ss) :
    Attended ss ∨ ∃ r, [.fire i n, .tell r].Sublist ss := by
  induction ss using List.reverseRecOn with
  | nil => cases hfire
  | append_singleton ss s ih =>
    obtain ⟨hss, hs⟩ := interleaving_concat.1 h
    by_cases hearlier : .fire i n ∈ ss
    · rcases ih hss hearlier with ha | ⟨r, hr⟩
      · by_cases htell : ∃ r, s = .tell r
        · obtain ⟨r, rfl⟩ := htell
          exact Or.inr ⟨r, (List.singleton_sublist.2 hearlier).append
            (List.Sublist.refl [Step.tell r])⟩
        · exact Or.inl (h.attended_concat (fun r hr => htell ⟨r, hr⟩) ha)
      · exact Or.inr ⟨r, hr.trans (List.sublist_append_left ss [s])⟩
    · -- the timer runs, so its guard has not counted yet
      obtain rfl : .fire i n = s := by simpa [hearlier] using hfire
      refine Or.inl (h.attended_concat (fun r hr => by cases hr) ?_)
      by_cases hderegister : .deregister i ∈ ss
      · exact .uncounted i hderegister hs.2.1
      · exact .listened i ⟨hss.prepared _ hs.1, hderegister⟩

/-- **How a stream is revived.** If the stream is wanted although nobody attends, the last
request is that of a timer which has fired before somebody told that nobody is left.

**Proof sketch.** Induction on the steps. Who opens a guard listens, and a step that tells makes
the stream unwanted. A timer that asks again while nobody attends has fired when somebody did,
so somebody has told in between. If a step submits nothing and nobody attends after it, nobody
did before it. -/
theorem Interleaving.revived {c : Crowd κ} {ss : List Step} (h : c.Interleaving ss)
    (hwanted : c.stream ∈ (c.manager ss).outbox.active) :
    Attended ss ∨ ∃ i n r before, LastRequest ss before (.askAgain i n) ∧
      [.fire i n, .tell r].Sublist before := by
  induction ss using List.reverseRecOn with
  | nil => cases hwanted
  | append_singleton ss s ih =>
    obtain ⟨hss, hs⟩ := interleaving_concat.1 h
    rw [manager_concat, mem_active_act] at hwanted
    cases s with
    | ask i =>
      have hstays : .deregister i ∉ ss := fun hmem => hs.2 (hss.prepared (.deregister i) hmem)
      exact Or.inl (.listened i ⟨List.mem_append_left _ hs.1, by simp [hstays]⟩)
    | tell r => simp [Step.wish] at hwanted
    | askAgain i n =>
      have hfire : .fire i n ∈ ss := hss.prepared _ hs.1
      rcases hss.attended_or_told hfire with ha | ⟨r, hr⟩
      · exact Or.inl (h.attended_concat (fun r hr => by cases hr) ha)
      · exact Or.inr ⟨i, n, r, ss, .concat_self (Option.some_ne_none _), hr⟩
    | register j | deregister j | count j b | fire j n | look j n b | turn t =>
      rcases ih hss hwanted with ha | ⟨i, n, r, before, hlast, hrace⟩
      · exact Or.inl (h.attended_concat (fun r hr => by cases hr) ha)
      · exact Or.inr ⟨i, n, r, before, hlast.concat rfl, hrace⟩

/-! ### The two races -/

/-- A guard is given back and counts nobody; then another guard is opened, which is still held;
and the last request is that of the first one, which ends the subscription. -/
def Overtaken (ss : List Step) : Prop :=
  ∃ r i before, LastRequest ss before (.tell r) ∧
    [.count r true, .register i, .ask i].Sublist before ∧ .deregister i ∉ ss

/-- A timer fires; then somebody tells that nobody is left, all guards are given back; and the
last request is that of the timer, which asks for the stream. -/
def Revived (ss : List Step) : Prop :=
  ∃ i n r before, LastRequest ss before (.askAgain i n) ∧
    [.fire i n, .tell r].Sublist before ∧ ∀ k, .register k ∈ ss → .deregister k ∈ ss

/-- **The two races, and nothing else.** Any number of guards of one stream, with identities of
their own, are opened and given back, their timers tick, and links come and go; the steps of all
that interleave in any way, and in the end all that has been begun is finished. Then the stream
is wanted exactly if it has a listener, unless the last request ends the subscription and was
overtaken by the opening of a guard that is still held, or the last request is that of a timer
which fired before somebody told that nobody is left, and all guards have been given back.

**Proof sketch.** In the first race the stream is not wanted although somebody listens, in the
second one it is wanted although nobody does. Conversely, a guard that listens has asked for the
stream, since all is finished; so if the stream is not wanted, the request was overtaken. If the
stream is wanted and nobody listens, nobody attends, since all is finished; so the stream was
revived. -/
theorem wanted_iff_listened_iff (c : Crowd κ) (ss : List Step) (h : c.Interleaving ss)
    (hfinished : Finished ss) :
    (c.stream ∈ (c.manager ss).outbox.active ↔
        0 < (c.manager ss).registry.listenerCount c.stream) ↔
      ¬ Overtaken ss ∧ ¬ Revived ss := by
  rw [h.listenerCount_pos_iff]
  constructor
  · intro hagree
    constructor
    · rintro ⟨r, i, before, hlast, hrace, hstays⟩
      have hregister : .register i ∈ ss := hlast.mem_of_mem_before (hrace.subset (by simp))
      have hwanted := (hlast.mem_active_iff c).1 (hagree.2 ⟨i, hregister, hstays⟩)
      simp [Step.wish] at hwanted
    · rintro ⟨i, n, r, before, hlast, -, hall⟩
      obtain ⟨k, hk⟩ := hagree.1 ((hlast.mem_active_iff c).2 rfl)
      exact hk.2 (hall k hk.1)
  · rintro ⟨hovertaken, hrevived⟩
    constructor
    · intro hwanted
      by_contra hnobody
      rcases h.revived hwanted with ha | ⟨i, n, r, before, hlast, hrace⟩
      · exact hnobody (ha.exists_listens hfinished)
      · refine hrevived ⟨i, n, r, before, hlast, hrace, fun k hk => ?_⟩
        by_contra hstays
        exact hnobody ⟨k, hk, hstays⟩
    · rintro ⟨i, hlistens⟩
      by_contra hunwanted
      have hask : .ask i ∈ ss := hfinished _ hlistens.1
      obtain ⟨r, before, hlast, hrace⟩ := h.overtaken hunwanted hlistens hask
      exact hovertaken ⟨r, i, before, hlast, hrace, hlistens.2⟩

/-- Guards for changes of a book. -/
private def bookCrowd : Crowd String where
  stream := "depth@SOL_USDC"
  callback := id

/-- Two guards are opened step by step in turn, and while the second one still has to ask, the
first one is given back and its timer fires: it counts one listener, and the timer asks
again. -/
private def inTurn : List Step :=
  [.turn .connecting, .turn (.ready none), .register "older", .register "newer", .ask "older",
    .fire "older" 0, .deregister "older", .count "older" false, .look "older" 0 true, .ask "newer",
    .askAgain "older" 0]

/-- Steps that interleave without a race: the stream is wanted and has a listener. -/
theorem wanted_iff_listened_iff_in_turn :
    bookCrowd.Interleaving inTurn ∧ Finished inTurn ∧
      bookCrowd.stream ∈ (bookCrowd.manager inTurn).outbox.active ∧
      0 < (bookCrowd.manager inTurn).registry.listenerCount bookCrowd.stream ∧
      ¬ Overtaken inTurn ∧ ¬ Revived inTurn := by
  have hinterleaving : bookCrowd.Interleaving inTurn := by decide +kernel
  have hfinished : Finished inTurn := by decide +kernel
  have hwanted : bookCrowd.stream ∈ (bookCrowd.manager inTurn).outbox.active := by decide +kernel
  have hlistened : 0 < (bookCrowd.manager inTurn).registry.listenerCount bookCrowd.stream := by
    decide +kernel
  exact ⟨hinterleaving, hfinished, hwanted, hlistened,
    (wanted_iff_listened_iff bookCrowd inTurn hinterleaving hfinished).1
      (iff_of_true hwanted hlistened)⟩

/-- The older guard has counted nobody when the newer one is opened, and tells after that. -/
private def lost : List Step :=
  [.register "older", .ask "older", .deregister "older", .count "older" true, .register "newer",
    .ask "newer", .tell "older"]

/-- The timer of the only guard has looked when the guard is given back, and asks after that. -/
private def revived : List Step :=
  [.turn .connecting, .turn (.ready none), .register "only", .ask "only", .fire "only" 0,
    .look "only" 0 true, .deregister "only", .count "only" true, .tell "only", .askAgain "only" 0]

/-- **Both races happen.** In the first run all is finished, somebody listens, and the stream is
not wanted; in the second one all is finished, nobody listens, and the stream is wanted. -/
theorem lost_and_revived :
    (bookCrowd.Interleaving lost ∧ Finished lost ∧
      bookCrowd.stream ∉ (bookCrowd.manager lost).outbox.active ∧
      0 < (bookCrowd.manager lost).registry.listenerCount bookCrowd.stream) ∧
    bookCrowd.Interleaving revived ∧ Finished revived ∧
      bookCrowd.stream ∈ (bookCrowd.manager revived).outbox.active ∧
      (bookCrowd.manager revived).registry.listenerCount bookCrowd.stream = 0 := by
  decide +kernel

end BookFeed.Connection.Crowd

import Mathlib.Data.List.Induction
import BookFeed.Proofs.Feed.Listeners

set_option autoImplicit false

/-!
# A registry and its history

The listeners of a stream can be read off the list of all changes so far. Somebody listens if
the last change that concerns him is a registration, and it is the callback of that registration
that is run. A registration of somebody who listens already leaves him where he is, so the
listeners of a stream stand in the order in which they joined: each at the first registration
since he was last absent. A stream that nobody listens to any more is forgotten.

## Main definitions

* `BookFeed.Feed.Change` — a registration or its end.
* `BookFeed.Feed.Registry.after` — the registry after some changes.
* `BookFeed.Feed.lastChange`, `BookFeed.Feed.standing` — the last change that concerns
  somebody, and the callback that it leaves.
* `BookFeed.Feed.JoinedAt`, `BookFeed.Feed.Earlier` — when somebody joined a stream, and who
  joined before whom.

## Main results

* `BookFeed.Feed.joinedAt_unique`, `BookFeed.Feed.exists_joinedAt` — who listens has joined
  once.
* `BookFeed.Feed.Registry.Reflects.change` — one more change of registry and history.
* `BookFeed.Feed.Registry.ordered_dictionary` — the registry is read off its history.
-/

namespace BookFeed.Feed

variable {κ : Type}

/-! ### Histories -/

/-- A change of a registry. -/
inductive Change (κ : Type) where
  /-- Somebody listens to a stream, or gives another callback. -/
  | register (stream identity : String) (callback : κ)
  /-- Somebody listens no more. -/
  | deregister (stream identity : String)

namespace Change

/-- The stream of a change. -/
def stream : Change κ → String
  | .register stream _ _ => stream
  | .deregister stream _ => stream

/-- Who it is about. -/
def identity : Change κ → String
  | .register _ identity _ => identity
  | .deregister _ identity => identity

/-- The callback that it leaves, if it leaves one. -/
def callback? : Change κ → Option κ
  | .register _ _ callback => some callback
  | .deregister _ _ => none

/-- Whether it is about this identity on this stream. -/
def concerns (stream identity : String) (c : Change κ) : Bool :=
  stream == c.stream && identity == c.identity

theorem concerns_iff {stream identity : String} {c : Change κ} :
    c.concerns stream identity = true ↔ stream = c.stream ∧ identity = c.identity := by
  simp [concerns]

/-- A change that leaves a callback is the registration of that callback. -/
theorem eq_register_iff {stream identity : String} {callback : κ} {c : Change κ} :
    c = .register stream identity callback ↔
      c.concerns stream identity = true ∧ c.callback? = some callback := by
  constructor
  · rintro rfl
    exact ⟨concerns_iff.2 ⟨rfl, rfl⟩, rfl⟩
  · rintro ⟨hconcerns, hcallback⟩
    obtain ⟨rfl, rfl⟩ := concerns_iff.1 hconcerns
    cases c with
    | register stream identity callback' =>
      cases hcallback
      rfl
    | deregister stream identity => cases hcallback

end Change

/-- The last change that concerns an identity on a stream. -/
def lastChange (cs : List (Change κ)) (stream identity : String) : Option (Change κ) :=
  (cs.filter (·.concerns stream identity)).getLast?

/-- The callback that the last such change has left. -/
def standing (cs : List (Change κ)) (stream identity : String) : Option κ :=
  (lastChange cs stream identity).bind Change.callback?

theorem lastChange_concat (cs : List (Change κ)) (c : Change κ) (stream identity : String) :
    lastChange (cs ++ [c]) stream identity =
      if c.concerns stream identity then some c else lastChange cs stream identity := by
  unfold lastChange
  split <;> next h => simp [List.filter_append, h]

theorem standing_concat (cs : List (Change κ)) (c : Change κ) (stream identity : String) :
    standing (cs ++ [c]) stream identity =
      if c.concerns stream identity then c.callback? else standing cs stream identity := by
  unfold standing
  rw [lastChange_concat]
  split <;> rfl

theorem standing_eq_some_iff {cs : List (Change κ)} {stream identity : String} {callback : κ} :
    standing cs stream identity = some callback ↔
      lastChange cs stream identity = some (.register stream identity callback) := by
  constructor
  · intro h
    obtain ⟨c, hc, hcallback⟩ := Option.bind_eq_some_iff.1 h
    have hmem := List.mem_of_getLast? hc
    rw [hc, Change.eq_register_iff.2 ⟨(List.mem_filter.1 hmem).2, hcallback⟩]
  · intro h
    rw [standing, h]
    rfl

/-! ### When somebody joined -/

/-- The change with number `n` is the first registration since the identity was last absent from
the stream: it was absent before, and has been there ever since. -/
structure JoinedAt (cs : List (Change κ)) (stream identity : String) (n : Nat) : Prop where
  registers : ∃ callback, cs[n]? = some (.register stream identity callback)
  absent : standing (cs.take n) stream identity = none
  stays : ∀ k, n < k → k ≤ cs.length → (standing (cs.take k) stream identity).isSome

/-- One of two listeners joined a stream before the other one. -/
def Earlier (cs : List (Change κ)) (stream identity identity' : String) : Prop :=
  ∃ n n', JoinedAt cs stream identity n ∧ JoinedAt cs stream identity' n' ∧ n < n'

section JoinedAt

variable {cs : List (Change κ)} {stream identity : String} {n n' : Nat}

theorem JoinedAt.lt_length (h : JoinedAt cs stream identity n) : n < cs.length := by
  obtain ⟨callback, hn⟩ := h.registers
  exact (List.getElem?_eq_some_iff.1 hn).1

theorem joinedAt_unique (h : JoinedAt cs stream identity n) (h' : JoinedAt cs stream identity n') :
    n = n' := by
  -- between the earlier and the later one the identity would have to be there and absent
  rcases Nat.lt_trichotomy n n' with hlt | heq | hlt
  · have hstays := h.stays n' hlt (Nat.le_of_lt h'.lt_length)
    rw [h'.absent] at hstays
    cases hstays
  · exact heq
  · have hstays := h'.stays n hlt (Nat.le_of_lt h.lt_length)
    rw [h.absent] at hstays
    cases hstays

theorem JoinedAt.concat (h : JoinedAt cs stream identity n) {c : Change κ}
    (hc : (standing (cs ++ [c]) stream identity).isSome) :
    JoinedAt (cs ++ [c]) stream identity n where
  registers := by
    obtain ⟨callback, hn⟩ := h.registers
    exact ⟨callback, by rw [List.getElem?_append_left h.lt_length, hn]⟩
  absent := by
    rw [List.take_append_of_le_length (Nat.le_of_lt h.lt_length)]
    exact h.absent
  stays k hk hlength := by
    rw [List.length_append, List.length_singleton] at hlength
    rcases Nat.lt_or_eq_of_le hlength with hlt | rfl
    · rw [List.take_append_of_le_length (by omega)]
      exact h.stays k hk (by omega)
    · rwa [List.take_of_length_le (by simp)]

theorem joinedAt_length (callback : κ) (habsent : standing cs stream identity = none) :
    JoinedAt (cs ++ [.register stream identity callback]) stream identity cs.length where
  registers := ⟨callback, List.getElem?_concat_length⟩
  absent := by rwa [List.take_left]
  stays k hk hlength := by
    rw [List.take_of_length_le (by simp; omega), standing_concat]
    simp [Change.concerns, Change.stream, Change.identity, Change.callback?]

/-- Who has a callback has joined at some time.

**Proof sketch.** Induction on the history from its end. The last change is about somebody else,
or it repeats a registration, and then the earlier time counts; or it registers somebody who was
absent, and then it is the time. -/
theorem exists_joinedAt (h : (standing cs stream identity).isSome) :
    ∃ n, JoinedAt cs stream identity n := by
  induction cs using List.reverseRecOn with
  | nil => cases h
  | append_singleton cs c ih =>
    cases hbefore : standing cs stream identity with
    | some callback =>
      obtain ⟨n, hn⟩ := ih (by rw [hbefore]; rfl)
      exact ⟨n, hn.concat h⟩
    | none =>
      -- it was absent, so the last change must have registered it
      rw [standing_concat, hbefore] at h
      split at h
      · next hconcerns =>
        obtain ⟨callback, hcallback⟩ := Option.isSome_iff_exists.1 h
        rw [Change.eq_register_iff.2 ⟨hconcerns, hcallback⟩]
        exact ⟨cs.length, joinedAt_length callback hbefore⟩
      · cases h

theorem Earlier.ne {identity' : String} (h : Earlier cs stream identity identity') :
    identity ≠ identity' := by
  rintro rfl
  obtain ⟨n, n', hn, hn', hlt⟩ := h
  exact Nat.ne_of_lt hlt (joinedAt_unique hn hn')

theorem Earlier.concat {identity' : String} (h : Earlier cs stream identity identity')
    {c : Change κ} (hc : (standing (cs ++ [c]) stream identity).isSome)
    (hc' : (standing (cs ++ [c]) stream identity').isSome) :
    Earlier (cs ++ [c]) stream identity identity' := by
  obtain ⟨n, n', hn, hn', hlt⟩ := h
  exact ⟨n, n', hn.concat hc, hn'.concat hc', hlt⟩

theorem earlier_register {other : String} (callback : κ)
    (hother : (standing cs stream other).isSome) (habsent : standing cs stream identity = none) :
    Earlier (cs ++ [.register stream identity callback]) stream other identity := by
  obtain ⟨n, hn⟩ := exists_joinedAt hother
  refine ⟨n, cs.length, hn.concat ?_, joinedAt_length callback habsent, hn.lt_length⟩
  rw [standing_concat]
  split
  · rfl
  · exact hother

end JoinedAt

namespace Registry

/-! ### Identities of a stream -/

/-- Who listens to a stream, in order. -/
def identities (r : Registry κ) (stream : String) : List String :=
  (r.listeners stream).map (·.identity)

theorem isRegistered_iff {r : Registry κ} {stream identity : String} :
    r.isRegistered stream identity = true ↔ identity ∈ r.identities stream := by
  simp [isRegistered, identities]

theorem mem_identities_iff {r : Registry κ} {stream identity : String} :
    identity ∈ r.identities stream ↔ (r.callback? stream identity).isSome := by
  rw [callback?, Option.isSome_map, List.find?_isSome]
  simp [identities]

theorem map_identity_enter (l : Listener κ) (hs : List (Listener κ)) :
    (enter l hs).map (·.identity) =
      if l.identity ∈ hs.map (·.identity) then hs.map (·.identity)
      else hs.map (·.identity) ++ [l.identity] := by
  induction hs with
  | nil => rfl
  | cons x xs ih =>
    unfold enter
    by_cases hx : x.identity = l.identity
    · simp [hx]
    · simp only [beq_eq_false_iff_ne.2 hx, Bool.false_eq_true, if_false, List.map_cons, ih,
        List.mem_cons, Ne.symm hx, false_or]
      split <;> rfl

theorem identities_register (r : Registry κ) (stream identity : String) (callback : κ)
    (other : String) :
    (r.register stream identity callback).1.identities other =
      if other = stream ∧ identity ∉ r.identities stream then r.identities other ++ [identity]
      else r.identities other := by
  unfold identities
  rw [listeners_register]
  by_cases hs : other = stream
  · subst hs
    rw [if_pos rfl, map_identity_enter]
    by_cases hi : identity ∈ (r.listeners other).map (·.identity) <;> simp [hi]
  · simp [hs]

theorem identities_deregister {r : Registry κ} (h : r.Keyed) (stream identity other : String) :
    (r.deregister stream identity).1.identities other =
      if other = stream then (r.identities stream).filter (· != identity)
      else r.identities other := by
  unfold identities
  rw [listeners_deregister h]
  split
  · rw [List.filter_map]
    rfl
  · rfl

/-! ### Streams with a list -/

/-- No list is empty. -/
def Tidy (r : Registry κ) : Prop := ∀ e ∈ r.streams, e.2 ≠ []

theorem enter_ne_nil (l : Listener κ) (hs : List (Listener κ)) : enter l hs ≠ [] := by
  cases hs with
  | nil => simp [enter]
  | cons x xs =>
    unfold enter
    split <;> simp

theorem mem_amend (stream : String) (l : Listener κ) {es : List (String × List (Listener κ))}
    {e : String × List (Listener κ)} (h : e ∈ amend stream (enter l) es) :
    e ∈ es ∨ e.2 ≠ [] := by
  induction es with
  | nil =>
    obtain rfl := List.mem_singleton.1 h
    exact Or.inr (enter_ne_nil _ _)
  | cons x xs ih =>
    unfold amend at h
    split at h
    · rcases List.mem_cons.1 h with rfl | h
      · exact Or.inr (enter_ne_nil _ _)
      · exact Or.inl (List.mem_cons_of_mem x h)
    · rcases List.mem_cons.1 h with rfl | h
      · exact Or.inl List.mem_cons_self
      · exact (ih h).imp_left (List.mem_cons_of_mem x)

/-- A list that is empty after an addition was there before. -/
theorem mem_streams_register {r : Registry κ} {stream identity : String} {callback : κ}
    {e : String × List (Listener κ)} (h : e ∈ (r.register stream identity callback).1.streams)
    (hempty : e.2 = []) : e ∈ r.streams :=
  (mem_amend stream _ h).resolve_right (not_not_intro hempty)

/-- A list that is empty after the first step of removing was there before, or it is the one
that may have lost a listener. -/
theorem mem_streams_removeListener {r : Registry κ} {stream identity : String}
    {e : String × List (Listener κ)} (h : e ∈ (r.removeListener stream identity).1.streams) :
    e ∈ r.streams ∨ e.1 = stream := by
  obtain ⟨e₀, he₀, rfl⟩ := List.mem_map.1 h
  split
  · next hstream => exact Or.inr (eq_of_beq hstream)
  · exact Or.inl he₀

/-- A list that is empty after the second step of removing was there before, and belongs to
another stream. -/
theorem mem_streams_dropIfEmpty {r : Registry κ} {stream : String}
    {e : String × List (Listener κ)} (h : e ∈ (r.dropIfEmpty stream).streams)
    (hempty : e.2 = []) :
    e ∈ r.streams ∧ e.1 ≠ stream := by
  obtain ⟨he, hkept⟩ := List.mem_filter.1 h
  exact ⟨he, by simpa [hempty] using hkept⟩

theorem Tidy.register {r : Registry κ} (h : r.Tidy) (stream identity : String) (callback : κ) :
    (r.register stream identity callback).1.Tidy :=
  fun e he hempty => h e (mem_streams_register he hempty) hempty

/-- Only the list that has lost a listener can be empty, and it goes with the second step. -/
theorem Tidy.deregister {r : Registry κ} (h : r.Tidy) (stream identity : String) :
    (r.deregister stream identity).1.Tidy := by
  intro e he hempty
  obtain ⟨he, hstream⟩ := mem_streams_dropIfEmpty he hempty
  exact h e ((mem_streams_removeListener he).resolve_right hstream) hempty

theorem mem_streams_of_list? {r : Registry κ} {stream : String} {ls : List (Listener κ)}
    (h : r.list? stream = some ls) : (stream, ls) ∈ r.streams := by
  obtain ⟨e, he, rfl⟩ := Option.map_eq_some_iff.1 h
  have hkey : e.1 = stream := by simpa using List.find?_some he
  rw [← hkey]
  exact List.mem_of_find?_eq_some he

theorem list?_isSome_iff {r : Registry κ} {stream : String} :
    (r.list? stream).isSome ↔ stream ∈ r.streams.map (·.1) := by
  simp [list?]

theorem Tidy.mem_keys_iff {r : Registry κ} (h : r.Tidy) (stream : String) :
    stream ∈ r.streams.map (·.1) ↔ r.listeners stream ≠ [] := by
  rw [← list?_isSome_iff, listeners]
  cases hlist : r.list? stream with
  | none => simp
  | some ls => simpa using h _ (mem_streams_of_list? hlist)

theorem Tidy.isEmpty_iff {r : Registry κ} (h : r.Tidy) :
    r.isEmpty = true ↔ ∀ stream, r.listeners stream = [] := by
  rw [isEmpty, List.isEmpty_iff]
  constructor
  · intro hnone stream
    simp [listeners, list?, hnone]
  · intro hall
    refine List.eq_nil_iff_forall_not_mem.2 fun e he => ?_
    exact (h.mem_keys_iff e.1).1 (List.mem_map_of_mem he) (hall e.1)

theorem list?_register_of_ne (r : Registry κ) {stream other : String} (identity : String)
    (callback : κ) (h : other ≠ stream) :
    (r.register stream identity callback).1.list? other = r.list? other := by
  simp only [list?, register, find?_amend, if_neg h]

theorem list?_dropIfEmpty_of_ne (r : Registry κ) {stream other : String} (h : other ≠ stream) :
    (r.dropIfEmpty stream).list? other = r.list? other := by
  unfold list? dropIfEmpty
  rw [List.find?_filter]
  congr 2
  funext e
  by_cases he : e.1 = other <;> simp [he, h]

theorem list?_deregister_of_ne (r : Registry κ) {stream other : String} (identity : String)
    (h : other ≠ stream) : (r.deregister stream identity).1.list? other = r.list? other := by
  show ((r.removeListener stream identity).1.dropIfEmpty stream).list? other = r.list? other
  rw [list?_dropIfEmpty_of_ne _ h, list?_removeListener, if_neg h]

/-! ### Registry and history -/

/-- A registry after a change, and what the change answers. -/
def change (r : Registry κ) : Change κ → Registry κ × Bool
  | .register stream identity callback => r.register stream identity callback
  | .deregister stream identity => r.deregister stream identity

/-- The registry after some changes. -/
def after (cs : List (Change κ)) : Registry κ := cs.foldl (fun r c => (r.change c).1) {}

theorem after_concat (cs : List (Change κ)) (c : Change κ) :
    after (cs ++ [c]) = ((after cs).change c).1 := by
  simp [after]

theorem answer_change (r : Registry κ) (c : Change κ) :
    (r.change c).2 = r.isRegistered c.stream c.identity := by
  cases c <;> rfl

theorem list?_change_of_ne (r : Registry κ) {c : Change κ} {other : String}
    (h : other ≠ c.stream) : (r.change c).1.list? other = r.list? other := by
  cases c with
  | register stream identity callback => exact r.list?_register_of_ne identity callback h
  | deregister stream identity => exact r.list?_deregister_of_ne identity h

theorem callback?_change {r : Registry κ} (h : r.Keyed) (c : Change κ)
    (stream identity : String) :
    (r.change c).1.callback? stream identity =
      if c.concerns stream identity then c.callback? else r.callback? stream identity := by
  cases c with
  | register stream' identity' callback =>
    rw [change, callback?_register]
    simp only [Change.concerns_iff, Change.stream, Change.identity, Change.callback?]
  | deregister stream' identity' =>
    rw [change, callback?_deregister h]
    simp only [Change.concerns_iff, Change.stream, Change.identity, Change.callback?]

/-- What a registry has of its history: who listens with which callback, and in which order. -/
structure Reflects (r : Registry κ) (cs : List (Change κ)) : Prop where
  keyed : r.Keyed
  tidy : r.Tidy
  callback?_eq : ∀ stream identity, r.callback? stream identity = standing cs stream identity
  ordered : ∀ stream, (r.identities stream).Pairwise (Earlier cs stream)

namespace Reflects

variable {r : Registry κ} {cs : List (Change κ)}

theorem new : Reflects ({} : Registry κ) [] where
  keyed := List.nodup_nil
  tidy _ h := by cases h
  callback?_eq _ _ := rfl
  ordered _ := List.Pairwise.nil

theorem mem_identities_iff (h : r.Reflects cs) {stream identity : String} :
    identity ∈ r.identities stream ↔ (standing cs stream identity).isSome := by
  rw [Registry.mem_identities_iff, h.callback?_eq]

/-- Those who listen after one more change stand in the old order, with a new listener behind
the others. -/
theorem identities_change (h : r.Reflects cs) (c : Change κ) (stream : String) :
    ((r.change c).1.identities stream).Sublist (r.identities stream) ∨
      ∃ identity callback, c = .register stream identity callback ∧
        standing cs stream identity = none ∧
        (r.change c).1.identities stream = r.identities stream ++ [identity] := by
  cases c with
  | register stream' identity callback =>
    rw [change, identities_register]
    split
    · next hnew =>
      obtain ⟨rfl, hnew⟩ := hnew
      refine Or.inr ⟨identity, callback, rfl, ?_, rfl⟩
      rwa [h.mem_identities_iff, Option.not_isSome_iff_eq_none] at hnew
    · exact Or.inl (List.Sublist.refl _)
  | deregister stream' identity =>
    rw [change, identities_deregister h.keyed]
    split
    · next heq =>
      rw [heq]
      exact Or.inl List.filter_sublist
    · exact Or.inl (List.Sublist.refl _)

/-- **One more change.** What a registry has of its history it keeps.

**Proof sketch.** The callbacks follow the last change on both sides. Whoever listens before and
after the change has joined at the same time as before, so the old order stands; and who is new
has joined with this change, behind all others. -/
theorem change (h : r.Reflects cs) (c : Change κ) : (r.change c).1.Reflects (cs ++ [c]) := by
  have hcallback : ∀ stream identity,
      (r.change c).1.callback? stream identity = standing (cs ++ [c]) stream identity := by
    intro stream identity
    rw [callback?_change h.keyed, standing_concat, h.callback?_eq]
  have hpresent : ∀ stream, ∀ identity ∈ (r.change c).1.identities stream,
      (standing (cs ++ [c]) stream identity).isSome := by
    intro stream identity hmem
    rwa [Registry.mem_identities_iff, hcallback] at hmem
  refine ⟨?_, ?_, hcallback, fun stream => ?_⟩
  · cases c with
    | register stream identity callback => exact h.keyed.register stream identity callback
    | deregister stream identity => exact h.keyed.deregister stream identity
  · cases c with
    | register stream identity callback => exact h.tidy.register stream identity callback
    | deregister stream identity => exact h.tidy.deregister stream identity
  · rcases h.identities_change c stream with hsub | ⟨identity, callback, rfl, habsent, happend⟩
    -- nobody is new: a part of the old list is in the old order
    · refine ((h.ordered stream).sublist hsub).imp_of_mem fun ha hb hearlier => ?_
      exact hearlier.concat (hpresent stream _ ha) (hpresent stream _ hb)
    -- somebody is new: the others joined before this change, he joins with it
    · have hstays := hpresent stream
      rw [happend] at hstays ⊢
      refine List.pairwise_append.2 ⟨?_, List.pairwise_singleton _ _, fun a ha b hb => ?_⟩
      · refine (h.ordered stream).imp_of_mem fun ha hb hearlier => ?_
        exact hearlier.concat (hstays _ (List.mem_append_left _ ha))
          (hstays _ (List.mem_append_left _ hb))
      · rw [List.mem_singleton.1 hb]
        exact earlier_register callback (h.mem_identities_iff.1 ha) habsent

theorem after (cs : List (Change κ)) : (after cs).Reflects cs := by
  induction cs using List.reverseRecOn with
  | nil => exact new
  | append_singleton cs c ih =>
    rw [after_concat]
    exact ih.change c

theorem nodup_identities (h : r.Reflects cs) (stream : String) : (r.identities stream).Nodup :=
  (h.ordered stream).imp Earlier.ne

/-- As nobody stands twice in a list, a listener of it is the one that is found there. -/
theorem mem_listeners_iff (h : r.Reflects cs) (stream : String) (l : Listener κ) :
    l ∈ r.listeners stream ↔ standing cs stream l.identity = some l.callback := by
  rw [← h.callback?_eq, callback?, Option.map_eq_some_iff]
  constructor
  · intro hl
    have hsome : ((r.listeners stream).find? (·.identity == l.identity)).isSome :=
      List.find?_isSome.2 ⟨l, hl, by simp⟩
    obtain ⟨l', hl'⟩ := Option.isSome_iff_exists.1 hsome
    have hsame : l' = l :=
      List.inj_on_of_nodup_map (h.nodup_identities stream) (List.mem_of_find?_eq_some hl') hl
        (by simpa using List.find?_some hl')
    exact ⟨l', hl', by rw [hsame]⟩
  · rintro ⟨⟨identity, callback⟩, hl', rfl⟩
    have hidentity : identity = l.identity := by simpa using List.find?_some hl'
    have hmem := List.mem_of_find?_eq_some hl'
    rwa [hidentity] at hmem

end Reflects

/-- **A registry is an ordered dictionary for each stream.** After any changes: those listen to
a stream whose last change on it was a registration, each once and with the callback of that
registration, in the order in which they joined; the streams that have a list are those that
somebody listens to, so there is none exactly if nobody listens anywhere; the next change
answers whether its identity was there, and leaves all other streams as they are.

**Proof sketch.** `Reflects` holds at the start and is kept by each change. -/
theorem ordered_dictionary (cs : List (Change κ)) :
    (∀ stream,
      ((after cs).identities stream).Nodup ∧
      ((after cs).identities stream).Pairwise (Earlier cs stream) ∧
      (∀ l, l ∈ (after cs).listeners stream ↔
        lastChange cs stream l.identity = some (.register stream l.identity l.callback)) ∧
      (stream ∈ (after cs).streams.map (·.1) ↔ (after cs).listeners stream ≠ [])) ∧
    ((after cs).streams.map (·.1)).Nodup ∧
    ((after cs).isEmpty = true ↔ ∀ stream, (after cs).listeners stream = []) ∧
    ∀ c : Change κ,
      (((after cs).change c).2 = true ↔ ∃ callback,
        lastChange cs c.stream c.identity = some (.register c.stream c.identity callback)) ∧
      ∀ other, other ≠ c.stream →
        ((after cs).change c).1.list? other = (after cs).list? other := by
  have h := Reflects.after cs
  refine ⟨fun stream => ⟨h.nodup_identities stream, h.ordered stream, fun l => ?_,
    h.tidy.mem_keys_iff stream⟩, h.keyed, h.tidy.isEmpty_iff,
    fun c => ⟨?_, fun other hother => ?_⟩⟩
  · rw [h.mem_listeners_iff, standing_eq_some_iff]
  · rw [answer_change, isRegistered_iff, h.mem_identities_iff, Option.isSome_iff_exists]
    simp only [standing_eq_some_iff]
  · exact list?_change_of_ne _ hother

/-- One listener gives another callback, leaves and comes back; another stream comes and
goes. -/
private def comings : List (Change Nat) :=
  [.register "depth" "a" 1, .register "depth" "b" 2, .register "depth" "a" 3,
    .register "trade" "a" 4, .deregister "depth" "a", .register "depth" "a" 5,
    .register "ticker" "b" 6, .deregister "ticker" "b"]

/-- Who comes back stands behind those who stayed. -/
theorem ordered_dictionary_come_back :
    (after comings).identities "depth" = ["b", "a"] ∧
      (after comings).callbacks "depth" = [2, 5] ∧
      Earlier comings "depth" "b" "a" ∧
        (after comings).streams.map (·.1) = ["depth", "trade"] ∧
      "trade" ≠ "depth" ∧
      ((after comings).change (.deregister "depth" "b")).1.list? "trade" =
        (after comings).list? "trade" := by
  obtain ⟨hstream, -, -, hchange⟩ := ordered_dictionary comings
  have hidentities : (after comings).identities "depth" = ["b", "a"] := by decide +kernel
  have hordered := (hstream "depth").2.1
  rw [hidentities] at hordered
  exact ⟨hidentities, by decide +kernel, List.rel_of_pairwise_cons hordered (by decide),
    by decide +kernel, by decide, (hchange (.deregister "depth" "b")).2 "trade" (by decide)⟩

end Registry

end BookFeed.Feed

import Mathlib.Data.List.Nodup
import BookFeed.Feed.Registry

set_option autoImplicit false

/-!
# Listeners after changes of a registry

What a registry answers after a listener has been added or removed, for the stream and the
identity in question and for all others. Removing drops the list of a stream that has become
empty; nobody sees that, because no stream has two lists.

## Main definitions

* `BookFeed.Feed.Registry.Keyed` — no stream has two lists.
* `BookFeed.Feed.Registry.callback?` — what is run for an identity.

## Main results

* `BookFeed.Feed.Registry.listeners_register`, `BookFeed.Feed.Registry.listeners_deregister` —
  the listeners of every stream after a change.
* `BookFeed.Feed.Registry.callback?_register`, `BookFeed.Feed.Registry.callback?_deregister` —
  the callback of every identity after a change.
-/

namespace BookFeed.Feed.Registry

variable {κ : Type}

/-- No stream has two lists. -/
def Keyed (r : Registry κ) : Prop := (r.streams.map (·.1)).Nodup

/-- What is run for an identity when an event comes in on a stream, if anything is. -/
def callback? (r : Registry κ) (stream identity : String) : Option κ :=
  ((r.listeners stream).find? (·.identity == identity)).map (·.callback)

/-- A callback that is registered is among those of its stream. -/
theorem mem_callbacks_of_callback? {r : Registry κ} {stream identity : String} {callback : κ}
    (h : r.callback? stream identity = some callback) : callback ∈ r.callbacks stream := by
  obtain ⟨l, hl, rfl⟩ := Option.map_eq_some_iff.1 h
  exact List.mem_map_of_mem (List.mem_of_find?_eq_some hl)

/-- A stream with a callback has listeners. -/
theorem listenerCount_pos_of_callback? {r : Registry κ} {stream identity : String} {callback : κ}
    (h : r.callback? stream identity = some callback) : 0 < r.listenerCount stream := by
  obtain ⟨l, hl, -⟩ := Option.map_eq_some_iff.1 h
  exact List.length_pos_of_mem (List.mem_of_find?_eq_some hl)

/-- A stream has listeners iff something is run for some identity. -/
theorem listenerCount_pos_iff (r : Registry κ) (stream : String) :
    0 < r.listenerCount stream ↔ ∃ identity, (r.callback? stream identity).isSome := by
  constructor
  · intro h
    obtain ⟨l, hl⟩ := List.exists_mem_of_length_pos h
    refine ⟨l.identity, ?_⟩
    rw [callback?, Option.isSome_map, List.find?_isSome]
    exact ⟨l, hl, by simp⟩
  · rintro ⟨identity, h⟩
    obtain ⟨callback, hcallback⟩ := Option.isSome_iff_exists.1 h
    exact listenerCount_pos_of_callback? hcallback

/-! ### Adding -/

/-- The lists of all streams after one has been changed. -/
theorem find?_amend (stream : String) (f : List (Listener κ) → List (Listener κ))
    (es : List (String × List (Listener κ))) (other : String) :
    ((amend stream f es).find? (·.1 == other)).map (·.2) =
      if other = stream then some (f (((es.find? (·.1 == stream)).map (·.2)).getD []))
      else (es.find? (·.1 == other)).map (·.2) := by
  induction es with
  | nil =>
    by_cases h : other = stream
    · simp [amend, h]
    · simp [amend, h, Ne.symm h]
  | cons e es ih =>
    unfold amend
    by_cases he : e.1 = stream
    · by_cases h : other = stream
      · simp [he, h]
      · simp [he, h, Ne.symm h]
    · by_cases h : e.1 = other
      · have hother : other ≠ stream := fun heq => he (h.trans heq)
        simp [h, hother]
      · simp only [beq_eq_false_iff_ne.2 he, Bool.false_eq_true, if_false, List.find?_cons,
          beq_eq_false_iff_ne.2 h]
        exact ih

/-- The listeners of all streams after one has been added. -/
theorem listeners_register (r : Registry κ) (stream identity : String) (callback : κ)
    (other : String) :
    (r.register stream identity callback).1.listeners other =
      if other = stream then enter ⟨identity, callback⟩ (r.listeners stream)
      else r.listeners other := by
  simp only [listeners, list?, register, find?_amend]
  split <;> rfl

/-- The names of the streams with a list after one has been changed. -/
theorem keys_amend (stream : String) (f : List (Listener κ) → List (Listener κ))
    (es : List (String × List (Listener κ))) :
    (amend stream f es).map (·.1) =
      if stream ∈ es.map (·.1) then es.map (·.1) else es.map (·.1) ++ [stream] := by
  induction es with
  | nil => simp [amend]
  | cons e es ih =>
    unfold amend
    by_cases he : e.1 = stream
    · simp [he]
    · simp only [beq_eq_false_iff_ne.2 he, Bool.false_eq_true, if_false, List.map_cons, ih,
        List.mem_cons, Ne.symm he, false_or]
      split <;> rfl

/-- Adding a listener gives no stream a second list. -/
theorem Keyed.register {r : Registry κ} (h : r.Keyed) (stream identity : String) (callback : κ) :
    (r.register stream identity callback).1.Keyed := by
  unfold Keyed Registry.register
  rw [keys_amend]
  split
  · exact h
  · next hnew =>
    refine List.nodup_append.2 ⟨h, List.nodup_singleton _, fun a ha b hb heq => hnew ?_⟩
    rwa [← List.mem_singleton.1 hb, ← heq]

/-- A listener that enters a list is found there, and the others are found as before. -/
theorem find?_enter (l : Listener κ) (hs : List (Listener κ)) (identity : String) :
    (enter l hs).find? (·.identity == identity) =
      if identity = l.identity then some l else hs.find? (·.identity == identity) := by
  induction hs with
  | nil =>
    by_cases h : identity = l.identity
    · simp [enter, h]
    · simp [enter, h, Ne.symm h]
  | cons x xs ih =>
    unfold enter
    by_cases hx : x.identity = l.identity
    · by_cases h : identity = l.identity
      · simp [hx, h]
      · simp [hx, h, Ne.symm h]
    · by_cases h : x.identity = identity
      · have hother : identity ≠ l.identity := fun heq => hx (h.trans heq)
        simp [h, hother]
      · simp only [beq_eq_false_iff_ne.2 hx, Bool.false_eq_true, if_false, List.find?_cons,
          beq_eq_false_iff_ne.2 h]
        exact ih

/-- A listener whose identity is not in a list enters it at the end. -/
theorem enter_of_forall_ne {l : Listener κ} {hs : List (Listener κ)}
    (h : ∀ x ∈ hs, x.identity ≠ l.identity) : enter l hs = hs ++ [l] := by
  induction hs with
  | nil => rfl
  | cons x xs ih =>
    obtain ⟨hx, hxs⟩ := List.forall_mem_cons.1 h
    rw [enter, if_neg (by simpa using hx), ih hxs, List.cons_append]

/-- The callback of every identity after a listener has been added. -/
theorem callback?_register (r : Registry κ) (stream identity : String) (callback : κ)
    (stream' identity' : String) :
    (r.register stream identity callback).1.callback? stream' identity' =
      if stream' = stream ∧ identity' = identity then some callback
      else r.callback? stream' identity' := by
  unfold callback?
  rw [listeners_register]
  by_cases hs : stream' = stream
  · rw [if_pos hs, find?_enter]
    by_cases hi : identity' = identity <;> simp [hs, hi]
  · simp [hs]

/-! ### Removing -/

/-- The lists of all streams after the first step of removing. -/
theorem list?_removeListener (r : Registry κ) (stream identity other : String) :
    (r.removeListener stream identity).1.list? other =
      if other = stream then (r.list? stream).map (·.filter (·.identity != identity))
      else r.list? other := by
  have hkey : (fun e : String × List (Listener κ) => e.1 == other) ∘
      (fun e => if e.1 == stream then (e.1, e.2.filter (·.identity != identity)) else e) =
      fun e => e.1 == other := by
    funext e
    simp only [Function.comp_apply]
    split <;> rfl
  simp only [list?, removeListener, List.find?_map, hkey, Option.map_map]
  by_cases h : other = stream
  · cases hfind : r.streams.find? (fun e => e.1 == other) with
    | none => simp [h, h ▸ hfind]
    | some e =>
      have he : e.1 = stream := by
        rw [← h]
        simpa using List.find?_some hfind
      simp [h, h ▸ hfind, he]
  · cases hfind : r.streams.find? (fun e => e.1 == other) with
    | none => simp [h]
    | some e =>
      have he : e.1 = other := by simpa using List.find?_some hfind
      simp [h, he]

/-- The first step of removing leaves the streams as they are. -/
theorem Keyed.removeListener {r : Registry κ} (h : r.Keyed) (stream identity : String) :
    (r.removeListener stream identity).1.Keyed := by
  have hkeys : (r.removeListener stream identity).1.streams.map (·.1) = r.streams.map (·.1) := by
    simp only [Registry.removeListener, List.map_map]
    refine List.map_congr_left fun e _ => ?_
    simp only [Function.comp_apply]
    split <;> rfl
  unfold Keyed
  rw [hkeys]
  exact h

/-- Nobody sees that the list of a stream without listeners goes. -/
theorem listeners_dropIfEmpty {r : Registry κ} (h : r.Keyed) (stream other : String) :
    (r.dropIfEmpty stream).listeners other = r.listeners other := by
  obtain ⟨es⟩ := r
  simp only [listeners, list?, dropIfEmpty]
  induction es with
  | nil => rfl
  | cons e es ih =>
    obtain ⟨hfresh, hkeyed⟩ := List.nodup_cons.1 h
    rw [List.filter_cons]
    split
    · rw [List.find?_cons, List.find?_cons]
      split
      · rfl
      · exact ih hkeyed
    · next hdrop =>
      have hempty : e.2 = [] := by
        simp only [Bool.not_eq_true', Bool.not_eq_false, Bool.and_eq_true] at hdrop
        exact List.isEmpty_iff.1 hdrop.2
      rw [ih hkeyed, List.find?_cons]
      split
      · next heq =>
        -- the list that goes was the only one of its stream
        have hnone : es.find? (fun x => x.1 == other) = none := by
          refine List.find?_eq_none.2 fun x hx hother => hfresh ?_
          exact List.mem_map.2 ⟨x, hx, (eq_of_beq hother).trans (eq_of_beq heq).symm⟩
        simp [hnone, hempty]
      · rfl

/-- The listeners of all streams after the first step of removing. -/
theorem listeners_removeListener (r : Registry κ) (stream identity other : String) :
    (r.removeListener stream identity).1.listeners other =
      if other = stream then (r.listeners stream).filter (·.identity != identity)
      else r.listeners other := by
  unfold listeners
  rw [list?_removeListener]
  split
  · cases r.list? stream <;> rfl
  · rfl

/-- The listeners of all streams after one has been removed. -/
theorem listeners_deregister {r : Registry κ} (h : r.Keyed) (stream identity other : String) :
    (r.deregister stream identity).1.listeners other =
      if other = stream then (r.listeners stream).filter (·.identity != identity)
      else r.listeners other := by
  have hdrop := listeners_dropIfEmpty (h.removeListener stream identity) stream other
  rw [show (r.deregister stream identity).1 =
    (r.removeListener stream identity).1.dropIfEmpty stream from rfl, hdrop]
  exact listeners_removeListener r stream identity other

/-- Removing a listener gives no stream a second list. -/
theorem Keyed.deregister {r : Registry κ} (h : r.Keyed) (stream identity : String) :
    (r.deregister stream identity).1.Keyed :=
  ((List.filter_sublist.map _).nodup (h.removeListener stream identity))

/-- A listener that leaves a list is not found there, and the others are found as before. -/
theorem find?_leave (identity : String) (hs : List (Listener κ)) (identity' : String) :
    (hs.filter (·.identity != identity)).find? (·.identity == identity') =
      if identity' = identity then none else hs.find? (·.identity == identity') := by
  rw [List.find?_filter]
  split
  · next h =>
    refine List.find?_eq_none.2 fun l _ => ?_
    simp [h]
  · next h =>
    congr 1
    funext l
    by_cases hl : l.identity = identity' <;> simp [hl, h]

/-- The callback of every identity after a listener has been removed. -/
theorem callback?_deregister {r : Registry κ} (h : r.Keyed) (stream identity : String)
    (stream' identity' : String) :
    (r.deregister stream identity).1.callback? stream' identity' =
      if stream' = stream ∧ identity' = identity then none
      else r.callback? stream' identity' := by
  unfold callback?
  rw [listeners_deregister h]
  by_cases hs : stream' = stream
  · rw [if_pos hs, find?_leave]
    by_cases hi : identity' = identity <;> simp [hs, hi]
  · simp [hs]

end BookFeed.Feed.Registry

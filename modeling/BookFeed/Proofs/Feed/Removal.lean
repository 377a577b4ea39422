import BookFeed.Proofs.Feed.History

set_option autoImplicit false

/-!
# Removing in two steps

Removing a listener takes two steps: the listener goes, and then the list of its stream goes if
it is empty at that moment. Others act between the two: they fill the list again, empty it once
more or drop it, and several removals on one stream can be half done at once.

Nobody is lost by this. The second step changes nothing that anybody sees, so what a registry
shows is as if each removal had happened as a whole at its first step, one operation after the
other. A list that is empty is that of a removal which is half done, so none is left over once
all is finished.

## Main definitions

* `BookFeed.Feed.Operation`, `BookFeed.Feed.Answer` — what is done to a registry, and what is
  answered.
* `BookFeed.Feed.Traffic` — a registry that many use at the same time.
* `BookFeed.Feed.Traffic.run` — the steps of many operations in any order.
* `BookFeed.Feed.inTurn` — operations one after the other.

## Main results

* `BookFeed.Feed.Registry.Alike.register`, `BookFeed.Feed.Registry.Alike.removeListener`,
  `BookFeed.Feed.Registry.Alike.dropIfEmpty` — registries that show the same go on doing so.
* `BookFeed.Feed.Traffic.Attended.wake` — a list that is empty is being removed.
* `BookFeed.Feed.Traffic.removal_loses_nobody` — any interleaving shows what the operations in
  turn do.
-/

namespace BookFeed.Feed

variable {κ : Type}

/-! ### Operations -/

/-- What is done to a registry. -/
inductive Operation (κ : Type) where
  /-- Somebody is added or removed. -/
  | change (c : Change κ)
  /-- The list of a stream is copied to dispatch an event. -/
  | copy (stream : String)

/-- What an operation answers. -/
inductive Answer (κ : Type) where
  /-- Whether the identity was there before. -/
  | changed (before : Bool)
  /-- The callbacks that are to be run. -/
  | copied (callbacks : List κ)

namespace Operation

/-- An operation as a whole. -/
def whole (r : Registry κ) : Operation κ → Registry κ × Answer κ
  | .change c => ((r.change c).1, .changed (r.change c).2)
  | .copy stream => (r, .copied (r.callbacks stream))

/-- The first step of an operation, which answers. -/
def first (r : Registry κ) : Operation κ → Registry κ × Answer κ
  | .change (.deregister stream identity) =>
    ((r.removeListener stream identity).1, .changed (r.removeListener stream identity).2)
  | op => op.whole r

/-- The stream whose list has to be looked at in a second step, if there is a second step. -/
def stream? : Operation κ → Option String
  | .change (.deregister stream _) => some stream
  | _ => none

/-- The second step of an operation. -/
def second (r : Registry κ) (op : Operation κ) : Registry κ :=
  match op.stream? with
  | some stream => r.dropIfEmpty stream
  | none => r

end Operation

/-- How far an operation is. -/
inductive Progress where
  /-- It has not begun. -/
  | waiting
  /-- Its first step is done, and there is a second one. -/
  | halfDone
  /-- It is finished. -/
  | finished
deriving DecidableEq, Repr

/-- A registry that is used by many operations at the same time. -/
structure Traffic (ι κ : Type) where
  /-- The registry. -/
  registry : Registry κ := {}
  /-- How far each operation is. -/
  progress : ι → Progress := fun _ => .waiting
  /-- What has been answered. -/
  answers : List (Answer κ) := []

namespace Traffic

variable {ι : Type} [DecidableEq ι]

/-- An operation takes its first step. -/
def enter (ops : ι → Operation κ) (t : Traffic ι κ) (i : ι) : Traffic ι κ where
  registry := ((ops i).first t.registry).1
  progress :=
    Function.update t.progress i (if (ops i).stream?.isSome then .halfDone else .finished)
  answers := t.answers ++ [((ops i).first t.registry).2]

/-- An operation takes its second step. -/
def leave (ops : ι → Operation κ) (t : Traffic ι κ) (i : ι) : Traffic ι κ where
  registry := (ops i).second t.registry
  progress := Function.update t.progress i .finished
  answers := t.answers

/-- An operation takes its next step, if it has one. -/
def wake (ops : ι → Operation κ) (t : Traffic ι κ) (i : ι) : Traffic ι κ :=
  match t.progress i with
  | .waiting => t.enter ops i
  | .halfDone => t.leave ops i
  | .finished => t

/-- A registry after the steps of some operations: each time an operation is named it takes its
next step. -/
def run (ops : ι → Operation κ) (wakes : List ι) : Traffic ι κ := wakes.foldl (wake ops) {}

theorem run_concat (ops : ι → Operation κ) (wakes : List ι) (i : ι) :
    run ops (wakes ++ [i]) = (run ops wakes).wake ops i := by
  simp [run]

end Traffic

/-- A registry after some operations, one after the other and each as a whole, and what they
answer. -/
def inTurn (ops : List (Operation κ)) : Registry κ × List (Answer κ) :=
  ops.foldl (fun s op => ((op.whole s.1).1, s.2 ++ [(op.whole s.1).2])) ({}, [])

theorem inTurn_concat (ops : List (Operation κ)) (op : Operation κ) :
    inTurn (ops ++ [op]) =
      ((op.whole (inTurn ops).1).1, (inTurn ops).2 ++ [(op.whole (inTurn ops).1).2]) := by
  simp [inTurn]

/-! ### What a registry shows -/

namespace Registry

/-- Two registries show the same: every stream has the same listeners in both. -/
structure Alike (r q : Registry κ) : Prop where
  keyed : r.Keyed
  keyed' : q.Keyed
  listeners_eq : ∀ stream, r.listeners stream = q.listeners stream

namespace Alike

variable {r q : Registry κ}

theorem new : Alike ({} : Registry κ) {} := ⟨List.nodup_nil, List.nodup_nil, fun _ => rfl⟩

theorem register (h : r.Alike q) (stream identity : String) (callback : κ) :
    (r.register stream identity callback).1.Alike (q.register stream identity callback).1 where
  keyed := h.keyed.register stream identity callback
  keyed' := h.keyed'.register stream identity callback
  listeners_eq other := by
    rw [listeners_register, listeners_register, h.listeners_eq, h.listeners_eq]

/-- The first step of removing shows what the whole removal does. -/
theorem removeListener (h : r.Alike q) (stream identity : String) :
    (r.removeListener stream identity).1.Alike (q.deregister stream identity).1 where
  keyed := h.keyed.removeListener stream identity
  keyed' := h.keyed'.deregister stream identity
  listeners_eq other := by
    rw [listeners_removeListener, listeners_deregister h.keyed', h.listeners_eq, h.listeners_eq]

/-- The second step of removing shows nothing. -/
theorem dropIfEmpty (h : r.Alike q) (stream : String) : (r.dropIfEmpty stream).Alike q where
  keyed := (List.filter_sublist.map _).nodup h.keyed
  keyed' := h.keyed'
  listeners_eq other := by rw [listeners_dropIfEmpty h.keyed, h.listeners_eq]

theorem isRegistered_eq (h : r.Alike q) (stream identity : String) :
    r.isRegistered stream identity = q.isRegistered stream identity := by
  unfold isRegistered
  rw [h.listeners_eq]

/-- The first step of an operation shows and answers what the whole operation does. -/
theorem first (h : r.Alike q) (op : Operation κ) :
    (op.first r).1.Alike (op.whole q).1 ∧ (op.first r).2 = (op.whole q).2 := by
  cases op with
  | change c =>
    cases c with
    | register stream identity callback =>
      exact ⟨h.register stream identity callback,
        congrArg Answer.changed (h.isRegistered_eq stream identity)⟩
    | deregister stream identity =>
      exact ⟨h.removeListener stream identity,
        congrArg Answer.changed (h.isRegistered_eq stream identity)⟩
  | copy stream =>
    refine ⟨h, congrArg Answer.copied ?_⟩
    unfold callbacks
    rw [h.listeners_eq]

/-- The second step of an operation shows nothing. -/
theorem second (h : r.Alike q) (op : Operation κ) : (op.second r).Alike q := by
  unfold Operation.second
  split
  · exact h.dropIfEmpty _
  · exact h

end Alike

end Registry

namespace Traffic

variable {ι : Type} [DecidableEq ι] {ops : ι → Operation κ} {t : Traffic ι κ}

/-! ### Empty lists -/

/-- A list that is empty is that of a removal which is half done. -/
def Attended (ops : ι → Operation κ) (t : Traffic ι κ) : Prop :=
  ∀ e ∈ t.registry.streams, e.2 = [] → ∃ i, t.progress i = .halfDone ∧
    (ops i).stream? = some e.1

/-- A list that is empty after the first step of an operation was there before, or the operation
has yet to look at it. -/
theorem mem_streams_first (op : Operation κ) (r : Registry κ) {e : String × List (Listener κ)}
    (h : e ∈ (op.first r).1.streams) (hempty : e.2 = []) :
    e ∈ r.streams ∨ op.stream? = some e.1 := by
  cases op with
  | change c =>
    cases c with
    | register stream identity callback =>
      exact Or.inl (Registry.mem_streams_register h hempty)
    | deregister stream identity =>
      exact (Registry.mem_streams_removeListener h).imp_right fun hstream =>
        congrArg some hstream.symm
  | copy stream => exact Or.inl h

/-- A list that is empty after the second step of an operation was there before, and it is not
the one that the operation has looked at. -/
theorem mem_streams_second (op : Operation κ) (r : Registry κ) {e : String × List (Listener κ)}
    (h : e ∈ (op.second r).streams) (hempty : e.2 = []) :
    e ∈ r.streams ∧ op.stream? ≠ some e.1 := by
  unfold Operation.second at h
  split at h
  · next stream hstream =>
    obtain ⟨he, hother⟩ := Registry.mem_streams_dropIfEmpty h hempty
    exact ⟨he, by rw [hstream]; exact fun heq => hother (Option.some.inj heq).symm⟩
  · next hnone => exact ⟨h, by simp [hnone]⟩

/-- An empty list that comes up is that of the removal which has just begun. -/
theorem Attended.enter (h : t.Attended ops) {i : ι} (hi : t.progress i = .waiting) :
    (t.enter ops i).Attended ops := by
  intro e he hempty
  rcases mem_streams_first (ops i) t.registry he hempty with he | hnew
  · obtain ⟨j, hj, hstream⟩ := h e he hempty
    have hne : j ≠ i := by
      rintro rfl
      rw [hi] at hj
      cases hj
    exact ⟨j, (Function.update_of_ne hne _ _).trans hj, hstream⟩
  · exact ⟨i, by simp [Traffic.enter, hnew], hnew⟩

/-- An empty list that is left over is not that of the removal which has just been finished. -/
theorem Attended.leave (h : t.Attended ops) (i : ι) : (t.leave ops i).Attended ops := by
  intro e he hempty
  obtain ⟨he, hother⟩ := mem_streams_second (ops i) t.registry he hempty
  obtain ⟨j, hj, hstream⟩ := h e he hempty
  have hne : j ≠ i := by
    rintro rfl
    exact hother hstream
  exact ⟨j, (Function.update_of_ne hne _ _).trans hj, hstream⟩

/-! ### Operations in turn -/

theorem eraseDups_concat (wakes : List ι) (i : ι) :
    (wakes ++ [i]).eraseDups = if i ∈ wakes then wakes.eraseDups else wakes.eraseDups ++ [i] := by
  rw [List.eraseDups_append]
  by_cases h : i ∈ wakes <;> simp [List.removeAll, h, List.eraseDups_cons]

/-- What holds of a registry while steps interleave: it shows and answers what the operations
that have begun do in turn, and each empty list is being removed. -/
structure Matches (ops : ι → Operation κ) (wakes : List ι) (t : Traffic ι κ) : Prop where
  alike : t.registry.Alike (inTurn (wakes.eraseDups.map ops)).1
  answers_eq : t.answers = (inTurn (wakes.eraseDups.map ops)).2
  waiting_iff : ∀ i, t.progress i = .waiting ↔ i ∉ wakes
  attended : t.Attended ops

namespace Matches

variable {wakes : List ι}

theorem new : ({} : Traffic ι κ).Matches ops [] where
  alike := .new
  answers_eq := rfl
  waiting_iff _ := iff_of_true rfl List.not_mem_nil
  attended _ he := by cases he

/-- Who has woken waits no more. -/
theorem waiting_iff_concat (h : t.Matches ops wakes) (i : ι) {p : Progress} (hp : p ≠ .waiting)
    (j : ι) : Function.update t.progress i p j = .waiting ↔ j ∉ wakes ++ [i] := by
  by_cases hj : j = i
  · subst hj
    simp [hp]
  · rw [Function.update_of_ne hj, h.waiting_iff]
    simp [hj]

/-- An operation that begins is the next one in turn. -/
theorem enter (h : t.Matches ops wakes) {i : ι} (hi : t.progress i = .waiting) :
    (t.enter ops i).Matches ops (wakes ++ [i]) := by
  obtain ⟨halike, hanswer⟩ := h.alike.first (ops i)
  have hturn : (wakes ++ [i]).eraseDups.map ops = wakes.eraseDups.map ops ++ [ops i] := by
    rw [eraseDups_concat, if_neg ((h.waiting_iff i).1 hi), List.map_append, List.map_singleton]
  refine ⟨?_, ?_, h.waiting_iff_concat i (by split <;> decide), h.attended.enter hi⟩
  · rw [hturn, inTurn_concat]
    exact halike
  · rw [hturn, inTurn_concat, ← h.answers_eq, ← hanswer]
    rfl

/-- An operation that has begun is in turn already. -/
theorem eraseDups_of_begun (h : t.Matches ops wakes) {i : ι} (hi : t.progress i ≠ .waiting) :
    (wakes ++ [i]).eraseDups = wakes.eraseDups := by
  have hmem : i ∈ wakes := by
    by_contra hnew
    exact hi ((h.waiting_iff i).2 hnew)
  rw [eraseDups_concat, if_pos hmem]

theorem leave (h : t.Matches ops wakes) {i : ι} (hi : t.progress i ≠ .waiting) :
    (t.leave ops i).Matches ops (wakes ++ [i]) where
  alike := by
    rw [h.eraseDups_of_begun hi]
    exact h.alike.second (ops i)
  answers_eq := by
    rw [h.eraseDups_of_begun hi]
    exact h.answers_eq
  waiting_iff := h.waiting_iff_concat i (by decide)
  attended := h.attended.leave i

theorem idle (h : t.Matches ops wakes) {i : ι} (hi : t.progress i ≠ .waiting) :
    t.Matches ops (wakes ++ [i]) where
  alike := by
    rw [h.eraseDups_of_begun hi]
    exact h.alike
  answers_eq := by
    rw [h.eraseDups_of_begun hi]
    exact h.answers_eq
  waiting_iff j := by
    rw [← h.waiting_iff_concat i hi, Function.update_eq_self]
  attended := h.attended

/-- **One step.** What holds of a registry is kept by the next step of any operation. -/
theorem wake (h : t.Matches ops wakes) (i : ι) :
    (t.wake ops i).Matches ops (wakes ++ [i]) := by
  unfold Traffic.wake
  cases hi : t.progress i with
  | waiting => exact h.enter hi
  | halfDone => exact h.leave (by rw [hi]; decide)
  | finished => exact h.idle (by rw [hi]; decide)

theorem run (ops : ι → Operation κ) (wakes : List ι) : (run ops wakes).Matches ops wakes := by
  induction wakes using List.reverseRecOn with
  | nil => exact new
  | append_singleton wakes i ih =>
    rw [run_concat]
    exact ih.wake i

end Matches

/-- **Removing in two steps loses nobody.** Any number of operations on a registry wake in any
order, and each time one of them wakes it takes its next step. At any time every stream has
those listeners that it has if the operations which have begun are done one after the other, in
the order in which they began and each as a whole; and they have answered the same. Once all
that has been begun is finished, no stream has an empty list.

**Proof sketch.** `Matches` holds at the start and is kept by each step. -/
theorem removal_loses_nobody (ops : ι → Operation κ) (wakes : List ι) :
    (∀ stream, (run ops wakes).registry.listeners stream =
      (inTurn (wakes.eraseDups.map ops)).1.listeners stream) ∧
    (run ops wakes).answers = (inTurn (wakes.eraseDups.map ops)).2 ∧
    ((∀ i ∈ wakes, (run ops wakes).progress i = .finished) →
      ∀ e ∈ (run ops wakes).registry.streams, e.2 ≠ []) := by
  have h := Matches.run ops wakes
  refine ⟨h.alike.listeners_eq, h.answers_eq, fun hfinished e he hempty => ?_⟩
  obtain ⟨i, hi, -⟩ := h.attended e he hempty
  have hbegun : i ∈ wakes := by
    by_contra hnew
    rw [(h.waiting_iff i).2 hnew] at hi
    cases hi
  rw [hfinished i hbegun] at hi
  cases hi

/-- Two listeners come and go, a third one comes, and an event is dispatched. -/
private def comeAndGo : Fin 6 → Operation String
  | 0 => .change (.register "depth" "a" "first")
  | 1 => .change (.deregister "depth" "a")
  | 2 => .change (.register "depth" "b" "second")
  | 3 => .change (.deregister "depth" "b")
  | 4 => .change (.register "depth" "c" "third")
  | 5 => .copy "depth"

/-- Both removals are half done when the first one drops the list, and it is filled again before
the second one looks at it. -/
theorem removal_loses_nobody_dropped_early :
    (∀ i ∈ [0, 1, 2, 5, 3, 1, 4, 3],
      (run comeAndGo [0, 1, 2, 5, 3, 1, 4, 3]).progress i = .finished) ∧
    (run comeAndGo [0, 1, 2, 5, 3, 1]).registry.streams.map (·.1) = [] ∧
    (run comeAndGo [0, 1, 2, 5, 3, 1, 4, 3]).registry.callbacks "depth" = ["third"] ∧
    ∀ e ∈ (run comeAndGo [0, 1, 2, 5, 3, 1, 4, 3]).registry.streams, e.2 ≠ [] := by
  have hfinished : ∀ i ∈ [0, 1, 2, 5, 3, 1, 4, 3],
      (run comeAndGo [0, 1, 2, 5, 3, 1, 4, 3]).progress i = .finished := by
    decide +kernel
  exact ⟨hfinished, by decide +kernel, by decide +kernel,
    (removal_loses_nobody comeAndGo [0, 1, 2, 5, 3, 1, 4, 3]).2.2 hfinished⟩

end Traffic

end BookFeed.Feed

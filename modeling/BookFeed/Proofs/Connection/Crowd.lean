import BookFeed.Proofs.Connection.Holding

set_option autoImplicit false

/-!
# Guards of one stream, step by step

Opening a guard, giving it back and a tick of its timer each consist of steps, and between two
steps of one of them steps of others can come. The guards here all belong to one stream, and
each has an identity of its own. What happens to them is a list of steps, in which each
operation has its steps in their order and each answer is the one that the manager gives.

## Main definitions

* `BookFeed.Connection.Crowd` — guards of one stream.
* `BookFeed.Connection.Crowd.Step` — one step of an operation, or a turn of the link.
* `BookFeed.Connection.Crowd.manager` — the manager after some steps.
* `BookFeed.Connection.Crowd.Possible`, `BookFeed.Connection.Crowd.Interleaving` — steps that
  come in the order in which their operations have them, and answer what the manager answers.
* `BookFeed.Connection.Crowd.Finished` — each operation that has been begun is finished.
* `BookFeed.Connection.Crowd.Listens` — a guard has added its listener and has not removed it.
* `BookFeed.Connection.Crowd.LastRequest` — the last request among some steps.

## Main results

* `BookFeed.Connection.Crowd.Interleaving.prepared` — each step comes behind what has to come
  before it.
* `BookFeed.Connection.Crowd.Interleaving.listenerCount_pos_iff` — who listens, by the steps.
* `BookFeed.Connection.Crowd.LastRequest.mem_active_iff` — whether the stream is wanted, by
  the steps.
* `BookFeed.Connection.Crowd.manager_open`, `BookFeed.Connection.Crowd.manager_release`,
  `BookFeed.Connection.Crowd.manager_tick` — steps in a row are the whole operations.
-/

namespace BookFeed.Connection

open Feed

/-- Guards of one stream, each with an identity of its own, at a manager. -/
structure Crowd (κ : Type) where
  /-- The delays of the manager. -/
  config : Config := {}
  /-- The stream. -/
  stream : String
  /-- The callback of each identity. -/
  callback : String → κ

namespace Crowd

variable {κ : Type}

/-! ### Steps -/

/-- One step of an operation of the guard with an identity, or a turn of the link. The ticks of
a timer are numbered. -/
inductive Step where
  /-- Opening: add the listener. -/
  | register (i : String)
  /-- Opening: ask for the stream. -/
  | ask (i : String)
  /-- Releasing: remove the listener. -/
  | deregister (i : String)
  /-- Releasing: stop the timer and count the listeners that are left; there may be nobody. -/
  | count (i : String) (nobody : Bool)
  /-- Releasing: nobody was left, so tell the server. -/
  | tell (i : String)
  /-- The timer fires. Stopping it later does not stop this tick. -/
  | fire (i : String) (n : Nat)
  /-- Repeating: look whether there is a link, which may be found. -/
  | look (i : String) (n : Nat) (found : Bool)
  /-- Repeating: there was one, so ask again. -/
  | askAgain (i : String) (n : Nat)
  /-- The link changes. -/
  | turn (t : Turn)
deriving DecidableEq, Repr

/-- The method of the request that a step submits, if it submits one. -/
def Step.wish : Step → Option Method
  | .ask _ => some .subscribe
  | .tell _ => some .unsubscribe
  | .askAgain _ _ => some .subscribe
  | _ => none

/-- The guard of an identity. -/
def guard (c : Crowd κ) (i : String) : Guard := ⟨c.stream, i⟩

/-- The manager after a step. -/
def act (c : Crowd κ) (m : Manager κ) : Step → Manager κ
  | .register i => (Pending.step m (.register (c.guard i) (c.callback i))).1
  | .ask i => (Pending.step m (.ask (c.guard i))).1
  | .deregister i => (Pending.step m (.deregister (c.guard i))).1
  | .count i _ => (Pending.step m (.count (c.guard i))).1
  | .tell i => (Pending.step m (.tell (c.guard i))).1
  | .fire _ _ => m
  | .look _ _ _ => (Pending.step m (.look c.stream)).1
  | .askAgain _ _ => (Pending.step m (.askAgain c.stream)).1
  | .turn t => m.turn t

/-- The manager after some steps. -/
def manager (c : Crowd κ) (ss : List Step) : Manager κ := ss.foldl c.act { config := c.config }

theorem manager_concat (c : Crowd κ) (ss : List Step) (s : Step) :
    c.manager (ss ++ [s]) = c.act (c.manager ss) s := by
  simp [manager]

/-- The guard has counted the listeners that are left. -/
def Counted (ss : List Step) (i : String) : Prop := .count i true ∈ ss ∨ .count i false ∈ ss

/-- A tick has looked whether there is a link. -/
def Looked (ss : List Step) (i : String) (n : Nat) : Prop :=
  .look i n true ∈ ss ∨ .look i n false ∈ ss

/-- Whether a step can come after some others: its operation has come to it and has not done it
yet, and it answers what the manager answers. Each guard is opened at most once; its timer fires
from the time it is open until it is stopped. -/
def Possible (c : Crowd κ) (ss : List Step) : Step → Prop
  | .register i => .register i ∉ ss
  | .ask i => .register i ∈ ss ∧ .ask i ∉ ss
  | .deregister i => .ask i ∈ ss ∧ .deregister i ∉ ss
  | .count i nobody => .deregister i ∈ ss ∧ ¬ Counted ss i ∧
      nobody = (Pending.step (c.manager ss) (.count (c.guard i))).2.isSome
  | .tell i => .count i true ∈ ss ∧ .tell i ∉ ss
  | .fire i n => .ask i ∈ ss ∧ ¬ Counted ss i ∧ .fire i n ∉ ss
  | .look i n found => .fire i n ∈ ss ∧ ¬ Looked ss i n ∧
      found = (Pending.step (c.manager ss) (.look c.stream)).2.isSome
  | .askAgain i n => .look i n true ∈ ss ∧ .askAgain i n ∉ ss
  | .turn _ => True

/-- Steps each of which can come after those before it. -/
def Interleaving (c : Crowd κ) (ss : List Step) : Prop :=
  ∀ k (h : k < ss.length), c.Possible (ss.take k) ss[k]

/-- What a step has begun is continued. -/
def Step.Followed (ss : List Step) : Step → Prop
  | .register i => .ask i ∈ ss
  | .deregister i => Counted ss i
  | .count i nobody => nobody = true → .tell i ∈ ss
  | .fire i n => Looked ss i n
  | .look i n found => found = true → .askAgain i n ∈ ss
  | _ => True

/-- Each operation that has been begun is finished. -/
def Finished (ss : List Step) : Prop := ∀ s ∈ ss, s.Followed ss

instance (ss : List Step) (i : String) : Decidable (Counted ss i) :=
  inferInstanceAs (Decidable (_ ∨ _))

instance (ss : List Step) (i : String) (n : Nat) : Decidable (Looked ss i n) :=
  inferInstanceAs (Decidable (_ ∨ _))

instance (c : Crowd κ) (ss : List Step) : DecidablePred (c.Possible ss)
  | .register _ => inferInstanceAs (Decidable (¬ _))
  | .ask _ => inferInstanceAs (Decidable (_ ∧ ¬ _))
  | .deregister _ => inferInstanceAs (Decidable (_ ∧ ¬ _))
  | .count _ _ => inferInstanceAs (Decidable (_ ∧ ¬ _ ∧ _))
  | .tell _ => inferInstanceAs (Decidable (_ ∧ ¬ _))
  | .fire _ _ => inferInstanceAs (Decidable (_ ∧ ¬ _ ∧ ¬ _))
  | .look _ _ _ => inferInstanceAs (Decidable (_ ∧ ¬ _ ∧ _))
  | .askAgain _ _ => inferInstanceAs (Decidable (_ ∧ ¬ _))
  | .turn _ => isTrue trivial

instance (c : Crowd κ) (ss : List Step) : Decidable (c.Interleaving ss) :=
  inferInstanceAs (Decidable (∀ k (h : k < ss.length), c.Possible (ss.take k) ss[k]))

instance (ss : List Step) : DecidablePred (Step.Followed ss)
  | .register _ => inferInstanceAs (Decidable (_ ∈ ss))
  | .deregister i => inferInstanceAs (Decidable (Counted ss i))
  | .count _ _ => inferInstanceAs (Decidable (_ → _))
  | .fire i n => inferInstanceAs (Decidable (Looked ss i n))
  | .look _ _ _ => inferInstanceAs (Decidable (_ → _))
  | .ask _ => isTrue trivial
  | .tell _ => isTrue trivial
  | .askAgain _ _ => isTrue trivial
  | .turn _ => isTrue trivial

instance (ss : List Step) : Decidable (Finished ss) :=
  inferInstanceAs (Decidable (∀ s ∈ ss, s.Followed ss))

/-! ### Runs of steps -/

/-- One more step has to be possible. -/
theorem interleaving_concat {c : Crowd κ} {ss : List Step} {s : Step} :
    c.Interleaving (ss ++ [s]) ↔ c.Interleaving ss ∧ c.Possible ss s := by
  constructor
  · intro h
    refine ⟨fun k hk => ?_, ?_⟩
    · have hstep := h k (by simp; omega)
      rwa [List.take_append_of_le_length (by omega), List.getElem_append_left hk] at hstep
    · simpa using h ss.length (by simp)
  · rintro ⟨hss, hs⟩ k hk
    rcases Nat.lt_or_ge k ss.length with hlt | hge
    · rw [List.take_append_of_le_length (by omega), List.getElem_append_left hlt]
      exact hss k hlt
    · obtain rfl : k = ss.length := by
        rw [List.length_append, List.length_singleton] at hk
        omega
      simpa using hs

/-- What has to have happened before a step. -/
def Step.Prepared (ss : List Step) : Step → Prop
  | .ask i => .register i ∈ ss
  | .deregister i => .ask i ∈ ss
  | .count i _ => .deregister i ∈ ss
  | .tell i => .count i true ∈ ss
  | .fire i _ => .ask i ∈ ss
  | .look i n _ => .fire i n ∈ ss
  | .askAgain i n => .look i n true ∈ ss
  | .register _ => True
  | .turn _ => True

theorem Step.Prepared.concat {ss : List Step} {s : Step} (h : s.Prepared ss) (s' : Step) :
    s.Prepared (ss ++ [s']) := by
  cases s with
  | register i => trivial
  | turn t => trivial
  | ask i | deregister i | count i b | tell i | fire i n | look i n b | askAgain i n =>
    exact List.mem_append_left _ h

/-- Before each step, what has to have happened before it has happened. -/
theorem Interleaving.prepared {c : Crowd κ} {ss : List Step} (h : c.Interleaving ss) :
    ∀ s ∈ ss, s.Prepared ss := by
  induction ss using List.reverseRecOn with
  | nil => simp
  | append_singleton ss s ih =>
    obtain ⟨hss, hs⟩ := interleaving_concat.1 h
    have hnow : s.Prepared ss := by
      cases s with
      | register i => trivial
      | turn t => trivial
      | ask i | deregister i | count i b | tell i | fire i n | look i n b | askAgain i n =>
        exact hs.1
    intro s' hs'
    rcases List.mem_append.1 hs' with hold | hnew
    · exact (ih hss s' hold).concat s
    · rw [List.mem_singleton.1 hnew]
      exact hnow.concat s

/-- Who has counted has removed its listener. -/
theorem Interleaving.deregister_of_counted {c : Crowd κ} {ss : List Step} (h : c.Interleaving ss)
    {i : String} (hc : Counted ss i) : .deregister i ∈ ss :=
  hc.elim (h.prepared _) (h.prepared _)

/-! ### Listeners and wanted streams -/

/-- Only adding and removing listeners changes them. -/
theorem registry_act (c : Crowd κ) (m : Manager κ) (s : Step) :
    (c.act m s).registry = match s with
      | .register i => (m.registry.register c.stream i (c.callback i)).1
      | .deregister i => (m.registry.deregister c.stream i).1
      | _ => m.registry := by
  cases s with
  | ask i | tell i | askAgain i n => exact m.registry_submit _
  | register i | deregister i | count i b | fire i n | look i n b => rfl
  | turn t => exact m.registry_turn t

/-- No stream gets two lists of listeners. -/
theorem keyed_manager (c : Crowd κ) (ss : List Step) : (c.manager ss).registry.Keyed := by
  induction ss using List.reverseRecOn with
  | nil => exact List.nodup_nil
  | append_singleton ss s ih =>
    rw [manager_concat, registry_act]
    cases s with
    | register i => exact ih.register _ _ _
    | deregister i => exact ih.deregister _ _
    | ask i | count i b | tell i | fire i n | look i n b | askAgain i n | turn t => exact ih

/-- The guard has added its listener and has not removed it. -/
def Listens (ss : List Step) (i : String) : Prop := .register i ∈ ss ∧ .deregister i ∉ ss

/-- The callback of an identity is registered from its first step until it is given back. -/
theorem Interleaving.isSome_callback?_iff {c : Crowd κ} {ss : List Step} (h : c.Interleaving ss)
    (i : String) : ((c.manager ss).registry.callback? c.stream i).isSome ↔ Listens ss i := by
  induction ss using List.reverseRecOn with
  | nil => simp [manager, Registry.callback?, Registry.listeners, Registry.list?, Listens]
  | append_singleton ss s ih =>
    obtain ⟨hss, hs⟩ := interleaving_concat.1 h
    have ih := ih hss
    rw [manager_concat, registry_act]
    cases s with
    | register j =>
      -- a guard is opened once, so it cannot have been given back before
      have hfresh : .deregister j ∉ ss := fun hmem =>
        hs (hss.prepared (.ask j) (hss.prepared (.deregister j) hmem))
      rw [Registry.callback?_register]
      by_cases hij : i = j
      · simp [hij, Listens, hfresh]
      · simp [hij, Listens, ih]
    | deregister j =>
      rw [Registry.callback?_deregister (c.keyed_manager ss)]
      by_cases hij : i = j
      · simp [hij, Listens]
      · simp [hij, Listens, ih]
    | ask j | count j b | tell j | fire j n | look j n b | askAgain j n | turn t =>
      simp [Listens, ih]

/-- There are listeners iff some guard listens. -/
theorem Interleaving.listenerCount_pos_iff {c : Crowd κ} {ss : List Step} (h : c.Interleaving ss) :
    0 < (c.manager ss).registry.listenerCount c.stream ↔ ∃ i, Listens ss i := by
  rw [Registry.listenerCount_pos_iff]
  exact exists_congr h.isSome_callback?_iff

/-- Whether the stream is wanted after a step is what the step asks for, if it asks for
anything. -/
theorem mem_active_act (c : Crowd κ) (m : Manager κ) (s : Step) :
    c.stream ∈ (c.act m s).outbox.active ↔
      s.wish.elim (c.stream ∈ m.outbox.active) (· = .subscribe) := by
  cases s with
  | ask i | askAgain i n =>
    simp [act, Pending.step, Step.wish, guard, Manager.mem_active_submit_subscribe]
  | tell i =>
    simp [act, Pending.step, Step.wish, guard, Manager.mem_active_submit_unsubscribe]
  | register i | deregister i | count i b | fire i n | look i n b => rfl
  | turn t => simp [act, Step.wish]

/-- Giving back goes on after the count if it finds nobody. -/
@[simp] theorem isSome_step_count (m : Manager κ) (g : Guard) :
    (Pending.step m (.count g)).2.isSome = decide (m.registry.listenerCount g.stream = 0) := by
  by_cases h : m.registry.listenerCount g.stream = 0 <;> simp [Pending.step, h]

/-- A tick goes on if it finds a link. -/
@[simp] theorem isSome_step_look (m : Manager κ) (stream : String) :
    (Pending.step m (.look stream)).2.isSome = m.outbox.isOpen := by
  cases h : m.outbox.isOpen <;> simp [Pending.step, h]

/-- If the count finds nobody, nobody listens. -/
theorem Interleaving.not_listens_of_count {c : Crowd κ} {ss : List Step} {r : String}
    (h : c.Interleaving (ss ++ [.count r true])) (i : String) : ¬ Listens ss i := by
  obtain ⟨hss, -, -, hnobody⟩ := interleaving_concat.1 h
  intro hlistens
  have hpos := hss.listenerCount_pos_iff.2 ⟨i, hlistens⟩
  simp [guard, Nat.ne_of_gt hpos] at hnobody

/-- If the count finds somebody, somebody listens. -/
theorem Interleaving.exists_listens_of_count {c : Crowd κ} {ss : List Step} {r : String}
    (h : c.Interleaving (ss ++ [.count r false])) : ∃ i, Listens ss i := by
  obtain ⟨hss, -, -, hnobody⟩ := interleaving_concat.1 h
  refine hss.listenerCount_pos_iff.1 (Nat.pos_of_ne_zero fun hzero => ?_)
  simp [guard, hzero] at hnobody

/-! ### The last request -/

/-- The last request among some steps is `s`, and it comes behind the steps `before`. -/
structure LastRequest (ss before : List Step) (s : Step) : Prop where
  /-- It is a request. -/
  request : s.wish ≠ none
  /-- None comes behind it. -/
  silent : ∃ behind, ss = before ++ s :: behind ∧ ∀ s' ∈ behind, s'.wish = none

theorem LastRequest.concat_self {ss : List Step} {s : Step} (h : s.wish ≠ none) :
    LastRequest (ss ++ [s]) ss s :=
  ⟨h, [], rfl, by simp⟩

/-- A request stays the last one if none comes. -/
theorem LastRequest.concat {ss before : List Step} {s s' : Step} (h : LastRequest ss before s)
    (hs' : s'.wish = none) : LastRequest (ss ++ [s']) before s := by
  obtain ⟨hs, behind, rfl, hsilent⟩ := h
  refine ⟨hs, behind ++ [s'], by simp, ?_⟩
  rw [List.forall_mem_append, List.forall_mem_singleton]
  exact ⟨hsilent, hs'⟩

theorem LastRequest.mem_of_mem_before {ss before : List Step} {s s' : Step}
    (h : LastRequest ss before s) (hs' : s' ∈ before) : s' ∈ ss := by
  obtain ⟨-, behind, rfl, -⟩ := h
  exact List.mem_append_left _ hs'

/-- The last request decides whether the stream is wanted. -/
theorem LastRequest.mem_active_iff (c : Crowd κ) {ss before : List Step} {s : Step}
    (h : LastRequest ss before s) :
    c.stream ∈ (c.manager ss).outbox.active ↔ s.wish = some .subscribe := by
  obtain ⟨hs, behind, rfl, hsilent⟩ := h
  obtain ⟨method, hmethod⟩ := Option.ne_none_iff_exists'.1 hs
  induction behind using List.reverseRecOn with
  | nil =>
    rw [manager_concat, mem_active_act, hmethod]
    simp
  | append_singleton behind s' ih =>
    rw [List.forall_mem_append, List.forall_mem_singleton] at hsilent
    rw [← List.cons_append, ← List.append_assoc, manager_concat, mem_active_act, hsilent.2,
      Option.elim_none]
    exact ih hsilent.1

/-! ### Steps in a row -/

/-- The steps of opening, in a row, open the guard. -/
theorem manager_open (c : Crowd κ) (ss : List Step) (i : String) :
    c.manager (ss ++ [.register i, .ask i]) =
      ((c.manager ss).subscribe c.stream i (c.callback i)).1 := by
  simp [manager, act, Pending.step, Manager.subscribe, guard]

/-- The steps of giving back, in a row, release the guard. -/
theorem manager_release {c : Crowd κ} {ss : List Step} {i : String} {nobody : Bool}
    (h : c.Interleaving (ss ++ [.deregister i] ++ [.count i nobody])) :
    c.manager (ss ++ [.deregister i] ++ [.count i nobody] ++ if nobody then [.tell i] else []) =
      (c.manager ss).release (c.guard i) := by
  obtain ⟨-, -, -, hnobody⟩ := interleaving_concat.1 h
  rw [manager_concat, isSome_step_count] at hnobody
  have hcount : (nobody = true) =
      (((c.manager ss).deregister c.stream i).1.registry.listenerCount c.stream = 0) := by
    rw [hnobody]
    exact decide_eq_true_eq
  -- both sides now branch on the answer of the count
  simp only [Manager.release, guard, ← hcount]
  cases nobody with
  | true => simp [manager, act, Pending.step, guard]
  | false => simp [manager, act, Pending.step, guard]

/-- The steps of a tick, in a row, repeat the wish. -/
theorem manager_tick {c : Crowd κ} {ss : List Step} {i : String} {n : Nat} {found : Bool}
    (h : c.Interleaving (ss ++ [.fire i n] ++ [.look i n found])) :
    c.manager (ss ++ [.fire i n] ++ [.look i n found] ++ if found then [.askAgain i n] else []) =
      (c.manager ss).repeatSubscription c.stream := by
  obtain ⟨-, -, -, hfound⟩ := interleaving_concat.1 h
  rw [manager_concat, isSome_step_look] at hfound
  have hopen : found = (c.manager ss).outbox.isOpen := hfound
  rw [Manager.repeatSubscription, ← hopen]
  cases found with
  | true => simp [manager, act, Pending.step]
  | false => simp [manager, act, Pending.step]

end Crowd

end BookFeed.Connection

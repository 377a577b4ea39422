import BookFeed.Proofs.Feed.History

set_option autoImplicit false

/-!
# Callbacks that change the registry

A callback may change the registry from which it is being run: it registers and deregisters
itself and others, on this stream and on others, and may let each change depend on what it
remembers, on what the changes before have answered and on the registry that they have left.
Dispatching walks through a copy of the list that the stream had at the beginning, so none of
this changes who is run: those on the copy are, each once and in order, even if they have been
removed or replaced meanwhile, and nobody else is. What the callbacks do to the registry adds up
in the order in which they are run.

## Main definitions

* `BookFeed.Feed.Reaction` — what a callback does when it is run.
* `BookFeed.Feed.Dispatching` — a registry, what callbacks remember, and which have been run.
* `BookFeed.Feed.Dispatching.dispatch` — an event for the listeners of a stream.

## Main results

* `BookFeed.Feed.Dispatching.run_perform` — what a callback leaves.
* `BookFeed.Feed.Dispatching.run_dispatch` — dispatching calls those who listen at the
  beginning.
* `BookFeed.Feed.Dispatching.dispatched_to_first_listeners` — who is run, what is answered,
  and what becomes of the registry.
-/

namespace BookFeed.Feed

variable {κ ω : Type}

/-! ### Reactions -/

/-- What a callback does when it is run: changes of the registry, one after the other. Each may
depend on what the one before has answered and on the registry that it has left. -/
inductive Reaction (κ ω : Type) where
  /-- Nothing more; this is what callbacks remember from now on. -/
  | done (memory : ω)
  /-- A change, and what follows it. -/
  | change (c : Change κ) (next : Bool → Registry κ → Reaction κ ω)

namespace Reaction

/-- The changes that are made if the registry is `r` at the beginning. -/
def changes (r : Registry κ) : Reaction κ ω → List (Change κ)
  | .done _ => []
  | .change c next => c :: (next (r.change c).2 (r.change c).1).changes (r.change c).1

/-- What callbacks remember at the end if the registry is `r` at the beginning. -/
def memory (r : Registry κ) : Reaction κ ω → ω
  | .done memory => memory
  | .change c next => (next (r.change c).2 (r.change c).1).memory (r.change c).1

end Reaction

/-- The registry after some more changes. -/
def Registry.changeAll (r : Registry κ) (cs : List (Change κ)) : Registry κ :=
  cs.foldl (fun r c => (r.change c).1) r

theorem Registry.changeAll_append (r : Registry κ) (cs ds : List (Change κ)) :
    r.changeAll (cs ++ ds) = (r.changeAll cs).changeAll ds := List.foldl_append

/-! ### Dispatching -/

/-- A registry that callbacks change while they are run. -/
structure Dispatching (κ ω : Type) where
  /-- The registry. -/
  registry : Registry κ
  /-- What callbacks remember. -/
  memory : ω
  /-- The callbacks that have been run, each with the changes that it has made. -/
  runs : List (κ × List (Change κ)) := []

namespace Dispatching

/-- Make the changes of a reaction one by one; the answer lists them. -/
def perform : Reaction κ ω → StateM (Dispatching κ ω) (List (Change κ))
  | .done memory => do
    modify ({ · with memory })
    return []
  | .change c next => do
    let (registry, answer) := (← get).registry.change c
    modify ({ · with registry })
    return c :: (← perform (next answer registry))

/-- Run a callback: it reacts to what it remembers and to the registry that it finds. -/
def runCallback (react : κ → ω → Registry κ → Reaction κ ω) (callback : κ) :
    StateM (Dispatching κ ω) Unit := do
  let d ← get
  let changes ← perform (react callback d.memory d.registry)
  modify fun d => { d with runs := d.runs ++ [(callback, changes)] }

/-- Dispatch an event to the listeners of a stream. -/
def dispatch (react : κ → ω → Registry κ → Reaction κ ω) (stream : String) :
    StateM (Dispatching κ ω) (Except UnknownStream Nat) := do
  (← get).registry.dispatch stream (runCallback react)

/-- The state after a callback has been run. -/
def call (react : κ → ω → Registry κ → Reaction κ ω) (d : Dispatching κ ω)
    (callback : κ) :
    Dispatching κ ω :=
  let reaction := react callback d.memory d.registry
  { registry := d.registry.changeAll (reaction.changes d.registry)
    memory := reaction.memory d.registry
    runs := d.runs ++ [(callback, reaction.changes d.registry)] }

/-- What a callback leaves: its changes, one after the other. -/
theorem run_perform (reaction : Reaction κ ω) (d : Dispatching κ ω) :
    (perform reaction).run d =
      (reaction.changes d.registry,
        { d with
          registry := d.registry.changeAll (reaction.changes d.registry)
          memory := reaction.memory d.registry }) := by
  induction reaction generalizing d with
  | done memory => rfl
  | change c next ih =>
    obtain ⟨registry, memory, runs⟩ := d
    have hstep : (perform (.change c next)).run ⟨registry, memory, runs⟩ =
        let later := (perform (next (registry.change c).2 (registry.change c).1)).run
          ⟨(registry.change c).1, memory, runs⟩
        (c :: later.1, later.2) := rfl
    rw [hstep, ih]
    rfl

theorem run_runCallback (react : κ → ω → Registry κ → Reaction κ ω) (callback : κ)
    (d : Dispatching κ ω) : (runCallback react callback).run d = ((), d.call react callback) := by
  simp only [runCallback, StateT.run_bind, StateT.run_get, pure_bind]
  rw [run_perform]
  rfl

theorem run_forM_runCallback (react : κ → ω → Registry κ → Reaction κ ω)
    (callbacks : List κ) (d : Dispatching κ ω) :
    (callbacks.forM (runCallback react)).run d = ((), callbacks.foldl (call react) d) := by
  induction callbacks generalizing d with
  | nil => rfl
  | cons callback callbacks ih =>
    rw [List.forM_eq_forM, List.forM_cons, StateT.run_bind, run_runCallback, List.foldl_cons,
      ← ih]
    rfl

/-- Those who listen at the beginning are called, whatever they change. -/
theorem run_dispatch (react : κ → ω → Registry κ → Reaction κ ω) (stream : String)
    (d : Dispatching κ ω) :
    (dispatch react stream).run d =
      (if d.registry.listeners stream = [] then .error ⟨stream⟩
        else .ok (d.registry.listenerCount stream),
        (d.registry.callbacks stream).foldl (call react) d) := by
  simp only [dispatch, StateT.run_bind, StateT.run_get, pure_bind, Registry.dispatch,
    Registry.callbacks, Registry.listenerCount]
  cases d.registry.listeners stream with
  | nil => rfl
  | cons l ls =>
    rw [List.map_cons]
    dsimp only
    rw [StateT.run_bind, run_forM_runCallback]
    simp [pure]
    rfl

/-- Callbacks that are called one after the other: each is run once and makes the changes that
it chooses on the registry which those before it have left.

**Proof sketch.** Induction on the callbacks. The first one acts on the registry as it is, and
the others on the one that it leaves; its changes come before theirs. -/
theorem foldl_call (react : κ → ω → Registry κ → Reaction κ ω) (callbacks : List κ)
    (d : Dispatching κ ω) :
    ∃ runs : List (κ × List (Change κ)),
      (callbacks.foldl (call react) d).runs = d.runs ++ runs ∧
      runs.map (·.1) = callbacks ∧
      (callbacks.foldl (call react) d).registry =
        d.registry.changeAll (runs.flatMap (·.2)) ∧
      ∀ before run after, runs = before ++ run :: after →
        ∃ memory, run.2 =
          (react run.1 memory (d.registry.changeAll (before.flatMap (·.2)))).changes
          (d.registry.changeAll (before.flatMap (·.2))) := by
  induction callbacks generalizing d with
  | nil => exact ⟨[], by simp, rfl, rfl, by simp⟩
  | cons callback callbacks ih =>
    obtain ⟨runs, hruns, hcallbacks, hregistry, hreacts⟩ := ih (d.call react callback)
    set changes := (react callback d.memory d.registry).changes d.registry with hchanges
    have hfirst : (d.call react callback).registry = d.registry.changeAll changes := rfl
    refine ⟨(callback, changes) :: runs, ?_, by rw [List.map_cons, hcallbacks], ?_, ?_⟩
    · rw [List.foldl_cons, hruns]
      simp [call, changes]
    · rw [List.foldl_cons, hregistry, hfirst, List.flatMap_cons, Registry.changeAll_append]
    · rintro before run after heq
      cases before with
      | nil =>
        obtain ⟨rfl, -⟩ := List.cons_eq_cons.1 heq
        exact ⟨d.memory, hchanges⟩
      | cons first before =>
        obtain ⟨rfl, hrest⟩ := List.cons_eq_cons.1 heq
        rw [List.flatMap_cons, Registry.changeAll_append, ← hfirst]
        exact hreacts before run after hrest

/-- **An event goes to those who listen when it comes.** Whatever the callbacks do to the
registry, those are run who listen to the stream at the beginning, each once and in the order of
the list, and their number is the answer. The registry in the end is the first one with their
changes in that order, where each of them chooses its changes on the registry that those before
it have left. There is an error exactly if nobody listens at the beginning, and then nothing
happens.

**Proof sketch.** Dispatching calls the callbacks of the first list one after the other. -/
theorem dispatched_to_first_listeners (react : κ → ω → Registry κ → Reaction κ ω)
    (stream : String) (d : Dispatching κ ω) :
    ∃ (answer : Except UnknownStream Nat) (d' : Dispatching κ ω)
        (runs : List (κ × List (Change κ))),
      (dispatch react stream).run d = (answer, d') ∧
      d'.runs = d.runs ++ runs ∧
      runs.map (·.1) = (d.registry.listeners stream).map (·.callback) ∧
      d'.registry = d.registry.changeAll (runs.flatMap (·.2)) ∧
      (∀ before run after, runs = before ++ run :: after →
        ∃ memory, run.2 =
          (react run.1 memory (d.registry.changeAll (before.flatMap (·.2)))).changes
          (d.registry.changeAll (before.flatMap (·.2)))) ∧
      (d.registry.listeners stream ≠ [] → answer = .ok (d.registry.listeners stream).length) ∧
      (answer = .error ⟨stream⟩ ↔ d.registry.listeners stream = []) ∧
      (d.registry.listeners stream = [] → d' = d) := by
  obtain ⟨runs, hruns, hcallbacks, hregistry, hreacts⟩ :=
    foldl_call react (d.registry.callbacks stream) d
  refine ⟨_, _, runs, run_dispatch react stream d, hruns, hcallbacks, hregistry, hreacts, ?_, ?_,
    ?_⟩
  · intro hlistened
    rw [if_neg hlistened]
    rfl
  · by_cases hlistened : d.registry.listeners stream = [] <;> simp [hlistened]
  · intro hnobody
    simp [Registry.callbacks, hnobody]

/-- A callback that removes itself, gives the next one another callback and adds a third one. -/
private def upheaval : String → Unit → Registry String → Reaction String Unit
  | "once", _, _ =>
    .change (.deregister "depth" "a") fun _ _ =>
      .change (.register "depth" "b" "new") fun _ _ =>
        .change (.register "depth" "c" "late") fun _ _ => .done ()
  | _, _, _ => .done ()

/-- The first listener is that callback. -/
private def beforeUpheaval : Dispatching String Unit where
  registry := .after [.register "depth" "a" "once", .register "depth" "b" "old"]
  memory := ()

/-- The callback that has been replaced is still run, and the one that has been added is not. -/
example :
    ((dispatch upheaval "depth").run beforeUpheaval).2.runs.map (·.1) = ["once", "old"] ∧
      ((dispatch upheaval "depth").run beforeUpheaval).2.registry.callbacks "depth" =
        ["new", "late"] := by
  decide +kernel

end Dispatching

end BookFeed.Feed

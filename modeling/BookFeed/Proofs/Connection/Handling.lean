import BookFeed.Connection.Manager

set_option autoImplicit false

/-!
# What becomes of a text

A text that is handled is counted, then processed and then counted once more for what has become
of it. The callbacks of its stream are run one after the other, on whatever state the caller
keeps: they may change the manager in it, but which of them are run and what is counted was
settled before the first one.

## Main definitions

* `BookFeed.Connection.Manager.deliveries` — the callbacks that are run for a text.
* `BookFeed.Connection.Manager.outcome` — what processing a text answers.

## Main results

* `BookFeed.Connection.Manager.run_process`, `BookFeed.Connection.Manager.run_handle` —
  processing and handling a text, for callbacks that change any state.
-/

namespace BookFeed.Connection

open Feed

namespace Manager

variable {κ σ : Type}

/-- The callbacks that are run for a text, with its event. -/
def deliveries (m : Manager κ) (text : String) : List (κ × Event) :=
  match decode text with
  | .ok (some i) => (m.registry.callbacks i.stream).map (·, i.event)
  | _ => []

/-- What processing a text answers: the number of callbacks that are run, or why there are
none. -/
def outcome (m : Manager κ) (text : String) : Except FrameError Nat :=
  match decode text with
  | .error e => .error (.decode e)
  | .ok none => .ok 0
  | .ok (some i) =>
    match m.registry.callbacks i.stream with
    | [] => .error (.unknownStream ⟨i.stream⟩)
    | cs => .ok cs.length

/-- Counting leaves the listeners as they are. -/
theorem registry_tally (m : Manager κ) (x : Except FrameError Nat) :
    (m.tally x).registry = m.registry := by
  unfold tally
  split <;> rfl

/-- Counting leaves queue, wanted streams and link as they are. -/
theorem outbox_tally (m : Manager κ) (x : Except FrameError Nat) :
    (m.tally x).outbox = m.outbox := by
  unfold tally
  split <;> rfl

/-- Counting leaves the record of what links have taken as it is. -/
theorem written_tally (m : Manager κ) (x : Except FrameError Nat) :
    (m.tally x).written = m.written := by
  unfold tally
  split <;> rfl

/-- Callbacks are run one after the other, each on the state that the one before has left. -/
theorem run_forM_modify (act : κ → σ → σ) (callbacks : List κ) (s : σ) :
    (callbacks.forM (fun c => modify (act c)) : StateM σ Unit).run s =
      ((), callbacks.foldl (fun s c => act c s) s) := by
  induction callbacks generalizing s with
  | nil => rfl
  | cons c cs ih =>
    have hstep : ((c :: cs).forM (fun c => modify (act c)) : StateM σ Unit).run s =
        (cs.forM (fun c => modify (act c)) : StateM σ Unit).run (act c s) := rfl
    rw [hstep, ih, List.foldl_cons]

/-- Processing a text runs the callbacks of its stream and nothing else. -/
theorem run_process (m : Manager κ) (act : κ → Event → σ → σ) (text : String) (s : σ) :
    (m.process text (fun c e => modify (act c e)) : StateM σ _).run s =
      (m.outcome text, (m.deliveries text).foldl (fun s d => act d.1 d.2 s) s) := by
  unfold process outcome deliveries
  cases decode text with
  | error e => rfl
  | ok inbound =>
    cases inbound with
    | none => rfl
    | some i =>
      dsimp only
      unfold Registry.dispatch
      cases m.registry.callbacks i.stream with
      | nil => rfl
      | cons c cs =>
        dsimp only
        rw [bind_assoc, StateT.run_bind, run_forM_modify, List.foldl_map]
        rfl

/-- Handling a text counts it, runs the callbacks of its stream, and counts what became of it.
`look` finds the manager in the state and `change` changes it there. -/
theorem run_handle (look : σ → Manager κ) (change : (Manager κ → Manager κ) → σ → σ)
    (act : κ → Event → σ → σ) (text : String) (s : σ) :
    (handle (do return look (← get)) (fun f => modify (change f)) (fun c e => modify (act c e))
        text : StateM σ Unit).run s =
      ((), change (tally · ((look (change received s)).outcome text))
        (((look (change received s)).deliveries text).foldl (fun s d => act d.1 d.2 s)
          (change received s))) := by
  simp only [handle, StateT.run_bind, StateT.run_modify, StateT.run_get, pure_bind, bind_assoc]
  rw [run_process]
  rfl

end Manager

end BookFeed.Connection

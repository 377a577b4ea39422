import BookFeed.Proofs.Connection.Tasks

set_option autoImplicit false

/-!
# Starting and shutting down at the same time

Several callers start and shut down one client, and their steps come in any order between those
of its tasks. At any time at most one task should be at work, and while a task reads a link that
has become ready, the manager should be open and hold that link.

Shutting down empties the slot before the task in it has ended. From then on the task is known
only to the caller that waits for it, and nobody who starts or shuts down waits for that caller.
Three races come of this, and nothing else breaks the two properties:

* a task begins although another one is at work, because a start has found the slot empty and
  has taken the flag back;
* a task that begins with the flag raised closes the manager, although another one reads;
* a caller ends shutting down and closes the manager, although a task reads that it did not wait
  for.

If no caller begins to start or to shut down while another one is shutting down, none of them
happens.

## Main definitions

* `BookFeed.Connection.Overlap`, `BookFeed.Connection.Overlap.run` — a client and the callers
  that are shutting it down.
* `BookFeed.Connection.Overlap.Sound` — the two properties.
* `BookFeed.Connection.Overlap.Race` — the three races.
* `BookFeed.Connection.Overlap.TakesTurns` — callers that wait for each other.

## Main results

* `BookFeed.Connection.Overlap.Sound.advance` — a step that is no race keeps the two
  properties.
* `BookFeed.Connection.Overlap.Race.not_sound` — a race breaks one of them.
* `BookFeed.Connection.Overlap.InTurn.not_race` — callers that wait for each other cause no
  race.
* `BookFeed.Connection.Overlap.sound_iff_no_race` — the three races, and nothing else.
* `BookFeed.Connection.Overlap.crowded_and_cut_off` — races that happen.
-/

namespace BookFeed.Connection

variable {κ : Type}

/-! ### Callers -/

/-- A client and the callers that are shutting it down. -/
structure Overlap (κ : Type) where
  /-- The client. -/
  client : Client κ
  /-- What each caller that is shutting down waits for: the task that it took out of the slot,
  or nothing if the slot was empty. -/
  waiting : List (Option Nat) := []
  /-- The links that have become ready. -/
  usable : List Nat := []

namespace Overlap

/-- The steps of callers and tasks. -/
inductive Step (κ : Type) where
  /-- A caller starts the client. -/
  | start
  /-- A caller begins to shut down. -/
  | requestStop
  /-- One of the callers that are shutting down ends that, if what it waits for has ended. -/
  | finishStop (caller : Nat)
  /-- A task wakes. -/
  | wake (task : Nat) (w : Wake)
  /-- A text is handled, and callbacks make some calls. -/
  | handle (text : String) (calls : List (Call κ))
  /-- A caller uses the manager. -/
  | call (c : Call κ)
  /-- A link takes nothing any more. -/
  | refuse (link : Nat)

/-- Whether a step begins to start or to shut down. -/
def Step.isRequest : Step κ → Bool
  | .start => true
  | .requestStop => true
  | _ => false

/-- A client that has not been started. -/
def new (config : Config) : Overlap κ where
  client := .idle config

/-- Change the manager. -/
def changeManager (o : Overlap κ) (f : Manager κ → Manager κ) : Overlap κ :=
  { o with client := { o.client with manager := f o.client.manager } }

/-- A caller ends shutting down, if what it waits for has ended. -/
def finishStop (o : Overlap κ) (caller : Nat) : Overlap κ :=
  match o.waiting[caller]? with
  | some task =>
    if o.client.canFinishStop task then
      { o with client := o.client.finishStop, waiting := o.waiting.eraseIdx caller }
    else o
  | none => o

theorem finishStop_cases (o : Overlap κ) (caller : Nat) :
    o.finishStop caller = o ∨
    ∃ task, o.waiting[caller]? = some task ∧ o.client.canFinishStop task = true ∧
      o.finishStop caller =
        { o with client := o.client.finishStop, waiting := o.waiting.eraseIdx caller } := by
  unfold finishStop
  split
  · next task hwaiting =>
    split
    · next hended => exact Or.inr ⟨task, hwaiting, hended, rfl⟩
    · exact Or.inl rfl
  · exact Or.inl rfl

/-- A task wakes. -/
def wake (o : Overlap κ) (task : Nat) (w : Wake) : Overlap κ :=
  { o with client := o.client.wake task w, usable := o.usable ++ o.client.readied task w }

/-- A client and its callers after a step. A link that becomes ready gets the next number. -/
def advance (o : Overlap κ) : Step κ → Overlap κ
  | .start => { o with client := o.client.start }
  | .requestStop =>
    { o with client := o.client.requestStop.1, waiting := o.waiting ++ [o.client.requestStop.2] }
  | .finishStop caller => o.finishStop caller
  | .wake task w => o.wake task (w.numbered (o.client.manager.connections + 1))
  | .handle text calls =>
    o.changeManager fun m => (m.received.callAll calls).tally (m.received.outcome text)
  | .call c => o.changeManager (·.call c)
  | .refuse link => o.changeManager (·.stop link)

/-- A client and its callers after some steps. -/
def run (o : Overlap κ) (ss : List (Step κ)) : Overlap κ := ss.foldl advance o

/-- What should hold at any time. -/
structure Sound (o : Overlap κ) : Prop where
  /-- At most one task is at work. -/
  one : ∀ i j,
    (o.client.stageOf i).isWorking = true → (o.client.stageOf j).isWorking = true → i = j
  /-- While a link that has become ready is read, the manager is open and holds that link. -/
  held : ∀ i link, o.client.stageOf i = .reading link → link ∈ o.usable →
    o.client.manager.outbox.phase = .opened ∧ o.client.manager.heldLink = some link

/-- The ways in which starting and shutting down at the same time goes wrong. -/
inductive Race (o : Overlap κ) : Step κ → Prop
  /-- A task begins although another one is at work. -/
  | overtakes (i j : Nat) (hspawned : o.client.stageOf i = .spawned)
      (hraised : o.client.stop.raised = false) (hworking : (o.client.stageOf j).isWorking = true) :
      Race o (.wake i .begin)
  /-- A task that begins with the flag raised closes the manager although another one reads. -/
  | cuts (i j link : Nat) (hspawned : o.client.stageOf i = .spawned)
      (hraised : o.client.stop.raised = true) (hreading : o.client.stageOf j = .reading link)
      (husable : link ∈ o.usable) : Race o (.wake i .begin)
  /-- A caller ends shutting down and closes the manager although a task reads. -/
  | closes (caller j link : Nat) (task : Option Nat) (hwaiting : o.waiting[caller]? = some task)
      (hended : o.client.canFinishStop task = true) (hreading : o.client.stageOf j = .reading link)
      (husable : link ∈ o.usable) : Race o (.finishStop caller)

/-- No caller begins to start or to shut down while another one is shutting down. -/
def TakesTurns (o : Overlap κ) (ss : List (Step κ)) : Prop :=
  ∀ n s, ss[n]? = some s → s.isRequest = true → (o.run (ss.take n)).waiting = []

/-- One more step of a run. -/
theorem run_take_succ (o : Overlap κ) {ss : List (Step κ)} {n : Nat} {s : Step κ}
    (hs : ss[n]? = some s) : o.run (ss.take (n + 1)) = (o.run (ss.take n)).advance s := by
  rw [List.take_add_one, hs, run, run, List.foldl_append]
  rfl

/-- What holds at first and is kept by the steps of a run holds at any time. -/
theorem run_induction {P : Overlap κ → Prop} {o : Overlap κ} {ss : List (Step κ)} (h : P o)
    (hstep : ∀ n s,
      ss[n]? = some s → P (o.run (ss.take n)) → P ((o.run (ss.take n)).advance s))
    (n : Nat) : P (o.run (ss.take n)) := by
  induction n with
  | zero => exact h
  | succ n ih =>
    cases hs : ss[n]? with
    | some s =>
      rw [run_take_succ o hs]
      exact hstep n s hs ih
    | none =>
      have hlen := List.getElem?_eq_none_iff.1 hs
      rw [List.take_of_length_le hlen] at ih
      rw [List.take_of_length_le (Nat.le_succ_of_le hlen)]
      exact ih

/-! ### The numbers of links -/

/-- Links that have become ready have been counted. -/
def Numbered (o : Overlap κ) : Prop := ∀ link ∈ o.usable, link ≤ o.client.manager.connections

theorem link_of_numbered {w : Wake} {n : Nat} {s : Sink} (h : w.numbered n = .connected s) :
    s.link = n := by
  cases w with
  | connected s' =>
    cases h
    rfl
  | _ => cases h

theorem Numbered.changeManager {o : Overlap κ} (h : o.Numbered) {f : Manager κ → Manager κ}
    (hf : o.client.manager.SameLink (f o.client.manager)) : (o.changeManager f).Numbered := by
  intro link hlink
  exact hf.connections ▸ h link hlink

theorem Numbered.wake {o : Overlap κ} (h : o.Numbered) (task : Nat) {w : Wake}
    (hw : ∀ s, w = .connected s → s.link = o.client.manager.connections + 1) :
    (o.wake task w).Numbered := by
  have hwoken := o.client.woken_wake task w
  unfold Numbered Overlap.wake
  generalize o.client.wake task w = c' at hwoken
  intro link hlink
  cases hwoken with
  | rests hreadied hc =>
    rw [hc]
    exact h link (by simpa [hreadied] using hlink)
  | begins hstage hraised hstages hmanager | declines hstage hraised hstages hmanager =>
    rw [hmanager]
    exact h link (by simpa [Client.readied] using hlink)
  | links s hstage hstages hmanager =>
    rw [hmanager]
    have hcount : (o.client.manager.ready s).connections = o.client.manager.connections + 1 := rfl
    rcases List.mem_append.1 hlink with hlink | hlink
    · exact hcount ▸ Nat.le_succ_of_le (h link hlink)
    · exact Nat.le_of_eq ((Client.mem_readied hlink).1.trans (hw s rfl))
  | leaves stage hreadied hstage hstages hreading hconnections =>
    rw [hconnections]
    exact h link (by simpa [hreadied] using hlink)

theorem Numbered.advance {o : Overlap κ} (h : o.Numbered) (s : Step κ) :
    (o.advance s).Numbered := by
  cases s with
  | start => simpa [Numbered, Overlap.advance, Client.start_manager] using h
  | requestStop => exact h
  | finishStop caller =>
    rcases o.finishStop_cases caller with hstop | ⟨task, -, -, hstop⟩ <;>
      rw [Overlap.advance, hstop] <;> exact h
  | wake task w => exact h.wake task fun _ => link_of_numbered
  | handle text calls => exact h.changeManager (Manager.sameLink_handled _ _ _)
  | call c => exact h.changeManager (Manager.sameLink_callAll _ [c])
  | refuse link => exact h.changeManager (Manager.sameLink_stop _ _)

/-! ### Steps that are no race -/

/-- One task that reads a ready link only while it is held is all right on its own. -/
theorem Sound.of_alone {o : Overlap κ} (task : Nat)
    (halone : ∀ j, (o.client.stageOf j).isWorking = true → j = task)
    (hheld : ∀ link, o.client.stageOf task = .reading link → link ∈ o.usable →
      o.client.manager.outbox.phase = .opened ∧ o.client.manager.heldLink = some link) :
    o.Sound where
  one i j hi hj := (halone i hi).trans (halone j hj).symm
  held i link hi hlink := by
    obtain rfl : i = task := halone i (by rw [hi]; rfl)
    exact hheld link hi hlink

/-- If no ready link is read, the manager may be in any state. -/
theorem Sound.of_unread {o o' : Overlap κ} (h : o.Sound)
    (hworking : ∀ j, (o'.client.stageOf j).isWorking = true →
      o'.client.stageOf j = o.client.stageOf j)
    (hunread : ∀ j link, o'.client.stageOf j = .reading link → link ∉ o'.usable) :
    o'.Sound where
  one i j hi hj := h.one i j (hworking i hi ▸ hi) (hworking j hj ▸ hj)
  held i link hi hlink := absurd hlink (hunread i link hi)

/-- What is sound stays so as long as no other task works, no other link becomes ready, and the
same link is held. -/
theorem Sound.of_same {o o' : Overlap κ} (h : o.Sound)
    (hworking : ∀ j, (o'.client.stageOf j).isWorking = true →
      o'.client.stageOf j = o.client.stageOf j)
    (husable : o'.usable = o.usable) (hlink : o.client.manager.SameLink o'.client.manager) :
    o'.Sound where
  one i j hi hj := h.one i j (hworking i hi ▸ hi) (hworking j hj ▸ hj)
  held i link hi hmem := by
    have hbefore : o.client.stageOf i = .reading link := by
      rw [← hworking i (by rw [hi]; rfl), hi]
    rw [hlink.phase, hlink.heldLink]
    exact h.held i link hbefore (husable ▸ hmem)

theorem Sound.wake {o : Overlap κ} (h : o.Sound) (hnumbered : o.Numbered) (task : Nat) {w : Wake}
    (hw : ∀ s, w = .connected s → s.link = o.client.manager.connections + 1)
    (hrace : ¬ o.Race (.wake task w)) : (o.wake task w).Sound := by
  have hwoken := o.client.woken_wake task w
  unfold Overlap.wake
  generalize o.client.wake task w = c' at hwoken
  -- whoever works after the step has worked before it, or is the task that has woken
  have hothers (j : Nat) (hj : (c'.stageOf j).isWorking = true) (hne : j ≠ task) :
      (o.client.stageOf j).isWorking = true := by rwa [← hwoken.stageOf_ne hne]
  have halone (hworking : (o.client.stageOf task).isWorking = true) (j : Nat)
      (hj : (c'.stageOf j).isWorking = true) : j = task := by
    by_contra hne
    exact hne (h.one j task (hothers j hj hne) hworking)
  cases hwoken with
  | rests hreadied hc =>
    subst hc
    exact h.of_same (fun _ _ => rfl) (by simp [hreadied]) ⟨rfl, rfl, rfl⟩
  | begins hstage hraised hstages hmanager =>
    refine .of_alone task (fun j hj => ?_) fun link hreading => ?_
    · by_contra hne
      exact hrace (.overtakes task j hstage hraised (hothers j hj hne))
    · simp [hstages] at hreading
  | declines hstage hraised hstages hmanager =>
    have hworking (j : Nat) (hj : (c'.stageOf j).isWorking = true) :
        c'.stageOf j = o.client.stageOf j := by
      by_cases hne : j = task
      · rw [hne, hstages, Function.update_self] at hj
        cases hj
      · rw [hstages, Function.update_of_ne hne]
    refine h.of_unread hworking fun j link hreading hlink => ?_
    have hbefore : o.client.stageOf j = .reading link := by
      rw [← hworking j (by rw [hreading]; rfl), hreading]
    exact hrace (.cuts task j link hstage hraised hbefore (by simpa [Client.readied] using hlink))
  | links s hstage hstages hmanager =>
    refine .of_alone task (halone (by rw [hstage]; rfl)) fun link hreading hlink => ?_
    obtain rfl : s.link = link := by simpa [hstages] using hreading
    dsimp only at hlink ⊢
    rcases List.mem_append.1 hlink with hold | hnew
    · -- the number of a new link is not that of an old one
      have hle := hnumbered s.link hold
      rw [hw s rfl] at hle
      omega
    · rw [hmanager]
      exact Manager.serves_of_makesReady (Client.mem_readied hnew).2
  | leaves stage hreadied hstage hstages hreading hconnections =>
    refine .of_alone task (halone hstage) fun link hlink => ?_
    rw [hstages, Function.update_self] at hlink
    exact absurd hlink (hreading link)

theorem Sound.advance {o : Overlap κ} (h : o.Sound) (hnumbered : o.Numbered) {s : Step κ}
    (hrace : ¬ o.Race s) : (o.advance s).Sound := by
  cases s with
  | start =>
    unfold Overlap.advance Client.start
    dsimp only
    split
    · exact h
    · refine h.of_same (fun j hj => ?_) rfl ⟨rfl, rfl, rfl⟩
      by_cases hne : j = o.client.tasks.length
      · simp [hne, Client.stageOf_launch, Stage.isWorking] at hj
      · dsimp only
        rw [Client.stageOf_launch, Function.update_of_ne hne]
  | requestStop => exact h.of_same (fun _ _ => rfl) rfl ⟨rfl, rfl, rfl⟩
  | finishStop caller =>
    rcases o.finishStop_cases caller with hstop | ⟨task, hwaiting, hended, hstop⟩
    · rw [Overlap.advance, hstop]
      exact h
    · rw [Overlap.advance, hstop]
      exact h.of_unread (fun _ _ => rfl) fun j link hreading hlink =>
        hrace (.closes caller j link task hwaiting hended hreading hlink)
  | wake task w =>
    refine h.wake hnumbered task (fun _ => link_of_numbered) fun hrace' => hrace ?_
    cases w with
    | connected s => cases hrace'
    | _ => exact hrace'
  | handle text calls =>
    exact h.of_same (fun _ _ => rfl) rfl (Manager.sameLink_handled _ _ _)
  | call c => exact h.of_same (fun _ _ => rfl) rfl (Manager.sameLink_callAll _ [c])
  | refuse link => exact h.of_same (fun _ _ => rfl) rfl (Manager.sameLink_stop _ _)

/-- A race leaves two tasks at work, or a manager that is closed while a link is read. -/
theorem Race.not_sound {o : Overlap κ} {s : Step κ} (h : o.Race s) : ¬ (o.advance s).Sound := by
  intro hsound
  cases h with
  | overtakes i j hspawned hraised hworking =>
    have hne : j ≠ i := by
      rintro rfl
      rw [hspawned] at hworking
      cases hworking
    have hstages := (Client.wake_begin hspawned).1
    rw [hraised] at hstages
    refine hne (hsound.one j i ?_ ?_)
    · show ((o.client.wake i .begin).stageOf j).isWorking = true
      rwa [hstages, Function.update_of_ne hne]
    · show ((o.client.wake i .begin).stageOf i).isWorking = true
      rw [hstages, Function.update_self]
      rfl
  | cuts i j link hspawned hraised hreading husable =>
    have hne : j ≠ i := by
      rintro rfl
      rw [hspawned] at hreading
      cases hreading
    obtain ⟨hstages, hmanager⟩ := Client.wake_begin hspawned
    rw [hraised] at hstages hmanager
    have hstill : (o.client.wake i .begin).stageOf j = .reading link := by
      rw [hstages, Function.update_of_ne hne, hreading]
    have hopen : (o.client.wake i .begin).manager.outbox.phase = .opened :=
      (hsound.held j link hstill (List.mem_append_left _ husable)).1
    rw [hmanager] at hopen
    cases hopen
  | closes caller j link task hwaiting hended hreading husable =>
    have hstop : o.advance (.finishStop caller) =
        { o with client := o.client.finishStop, waiting := o.waiting.eraseIdx caller } := by
      simp [Overlap.advance, Overlap.finishStop, hwaiting, hended]
    rw [hstop] at hsound
    cases (hsound.held j link hreading husable).1

/-! ### Callers that take turns -/

/-- A task that has not ended is the one in the slot, or the one that the only caller waits
for. -/
def InTurn (o : Overlap κ) : Prop :=
  ∀ i, o.client.stageOf i ≠ .finished →
    (o.waiting = [] ∧ o.client.slot = some i) ∨ o.waiting = [some i]

theorem InTurn.eq {o : Overlap κ} (h : o.InTurn) {i j : Nat}
    (hi : o.client.stageOf i ≠ .finished) (hj : o.client.stageOf j ≠ .finished) : i = j := by
  rcases h i hi with ⟨hwaiting, hslot⟩ | hwaiting
  · rcases h j hj with ⟨-, hslot'⟩ | hwaiting'
    · exact Option.some.inj (hslot.symm.trans hslot')
    · simp [hwaiting] at hwaiting'
  · rcases h j hj with ⟨hwaiting', -⟩ | hwaiting'
    · simp [hwaiting] at hwaiting'
    · simpa [hwaiting] using hwaiting'

/-- A caller can end shutting down only when no task is left. -/
theorem InTurn.stageOf_of_ended {o : Overlap κ} (h : o.InTurn) {caller : Nat} {task : Option Nat}
    (hwaiting : o.waiting[caller]? = some task) (hended : o.client.canFinishStop task = true)
    (i : Nat) : o.client.stageOf i = .finished := by
  by_contra hi
  rcases h i hi with ⟨hnobody, -⟩ | honly
  · simp [hnobody] at hwaiting
  · have htask : task = some i := by
      rw [honly] at hwaiting
      exact (List.mem_singleton.1 (List.mem_of_getElem? hwaiting))
    rw [htask] at hended
    exact hi (Client.isFinished_iff.1 hended)

/-- Callers that wait for each other cause no race. -/
theorem InTurn.not_race {o : Overlap κ} (h : o.InTurn) (s : Step κ) : ¬ o.Race s := by
  intro hrace
  cases hrace with
  | overtakes i j hspawned hraised hworking =>
    have hij : i = j :=
      h.eq (by rw [hspawned]; nofun) fun hj => by rw [hj] at hworking; cases hworking
    rw [← hij, hspawned] at hworking
    cases hworking
  | cuts i j link hspawned hraised hreading husable =>
    have hij : i = j := h.eq (by rw [hspawned]; nofun) (by rw [hreading]; nofun)
    rw [hij, hreading] at hspawned
    cases hspawned
  | closes caller j link task hwaiting hended hreading husable =>
    rw [h.stageOf_of_ended hwaiting hended j] at hreading
    cases hreading

theorem InTurn.start {o : Overlap κ} (h : o.InTurn) (hwaiting : o.waiting = []) :
    (o.advance .start).InTurn := by
  unfold Overlap.advance Client.start
  dsimp only
  split
  · exact h
  · next hrunning =>
    intro i hi
    by_cases hne : i = o.client.tasks.length
    · exact Or.inl ⟨hwaiting, by rw [hne]; rfl⟩
    · -- a task that had not ended would have been running
      dsimp only at hi
      rw [Client.stageOf_launch, Function.update_of_ne hne] at hi
      rcases h i hi with ⟨-, hslot⟩ | honly
      · have hended : o.client.isFinished i = true := by
          simpa [Client.isRunning, hslot] using hrunning
        exact absurd (Client.isFinished_iff.1 hended) hi
      · simp [hwaiting] at honly

theorem InTurn.advance {o : Overlap κ} (h : o.InTurn) {s : Step κ}
    (hs : s.isRequest = true → o.waiting = []) : (o.advance s).InTurn := by
  cases s with
  | start => exact h.start (hs rfl)
  | requestStop =>
    intro i hi
    have hwaiting := hs rfl
    rcases h i hi with ⟨-, hslot⟩ | honly
    · exact Or.inr (by simp [Overlap.advance, Client.requestStop, hwaiting, hslot])
    · simp [hwaiting] at honly
  | finishStop caller =>
    rcases o.finishStop_cases caller with hstop | ⟨task, hwaiting, hended, hstop⟩
    · rw [Overlap.advance, hstop]
      exact h
    · rw [Overlap.advance, hstop]
      exact fun i hi => absurd (h.stageOf_of_ended hwaiting hended i) hi
  | wake task w =>
    intro i hi
    have hwoken := o.client.woken_wake task (w.numbered (o.client.manager.connections + 1))
    have hslot := o.client.slot_wake task (w.numbered (o.client.manager.connections + 1))
    exact (h i fun hended => hi (hwoken.stageOf_of_finished hended)).imp_left
      fun hidle => ⟨hidle.1, hslot.trans hidle.2⟩
  | handle text calls => exact h
  | call c => exact h
  | refuse link => exact h

/-! ### Runs -/

instance (o : Overlap κ) (ss : List (Step κ)) : Decidable (o.TakesTurns ss) :=
  decidable_of_iff
    (∀ n (h : n < ss.length), ss[n].isRequest = true → (o.run (ss.take n)).waiting = [])
    ⟨fun hturns n s hs hrequest => by
      obtain ⟨hn, rfl⟩ := List.getElem?_eq_some_iff.1 hs
      exact hturns n hn hrequest,
    fun hturns n hn => hturns n _ (List.getElem?_eq_getElem hn)⟩

theorem sound_new (config : Config) : (new config : Overlap κ).Sound where
  one i j hi := by simp [new, Client.idle, Client.stageOf, Stage.isWorking] at hi
  held i link hi := by simp [new, Client.idle, Client.stageOf] at hi

/-- As long as no step is a race, what should hold does. -/
theorem sound_run (config : Config) {ss : List (Step κ)}
    (hrace : ∀ n s, ss[n]? = some s → ¬ ((new config).run (ss.take n)).Race s) (n : Nat) :
    ((new config).run (ss.take n)).Sound := by
  have hboth : ((new config).run (ss.take n)).Sound ∧
      ((new config).run (ss.take n)).Numbered := by
    refine run_induction (P := fun o => o.Sound ∧ o.Numbered) ⟨sound_new config, nofun⟩ ?_ n
    intro n s hs ⟨hsound, hnumbered⟩
    exact ⟨hsound.advance hnumbered (hrace n s hs), hnumbered.advance s⟩
  exact hboth.1

/-- Callers that take turns leave at most one task. -/
theorem TakesTurns.inTurn {config : Config} {ss : List (Step κ)}
    (h : (new config).TakesTurns ss) (n : Nat) : ((new config).run (ss.take n)).InTurn := by
  refine run_induction (fun i hi => ?_) (fun n s hs hturn => hturn.advance (h n s hs)) n
  simp [new, Client.idle, Client.stageOf] at hi

/-- **Starting and shutting down at the same time.** At all times of a run at most one task is
at work, and while a link that has become ready is read the manager is open and holds it,
exactly if no step of the run is a race. Callers that take turns cause no race. -/
theorem sound_iff_no_race (config : Config) (ss : List (Step κ)) :
    ((∀ n, ((new config).run (ss.take n)).Sound) ↔
      ∀ n s, ss[n]? = some s → ¬ ((new config).run (ss.take n)).Race s) ∧
    ((new config).TakesTurns ss → ∀ n, ((new config).run (ss.take n)).Sound) := by
  refine ⟨⟨fun hsound n s hs hrace => hrace.not_sound ?_, sound_run config⟩,
    fun hturns => ?_⟩
  · rw [← run_take_succ _ hs]
    exact hsound (n + 1)
  · exact sound_run config fun n s _ => (hturns.inTurn n).not_race s

/-- A client is started, shut down and started again. -/
def restart : List (Step Unit) :=
  [.start, .wake 0 .begin, .wake 0 (.connected ⟨0, none⟩), .requestStop, .wake 0 .stopSeen,
    .finishStop 0, .start, .wake 1 .begin, .wake 1 (.connected ⟨0, none⟩)]

theorem sound_restart :
    ((new {}).run restart).client.stageOf 1 = .reading 2 ∧ (new {}).TakesTurns restart ∧
      ∀ n, ((new {}).run (restart.take n)).Sound :=
  ⟨rfl, by decide, (sound_iff_no_race {} restart).2 (by decide)⟩

/-- A client is shut down before its task has run for the first time, and started again before
the task has looked at the flag. -/
def startWhileStopping : List (Step Unit) :=
  [.start, .requestStop, .start, .wake 0 .begin, .wake 1 .begin, .wake 0 (.connected ⟨0, none⟩),
    .wake 1 (.connected ⟨0, none⟩)]

/-- A client is shut down and, when its task has ended, started again; then the caller that has
shut it down goes on. -/
def stopAfterStart : List (Step Unit) :=
  [.start, .wake 0 .begin, .wake 0 (.connected ⟨0, none⟩), .requestStop, .wake 0 .stopSeen,
    .start, .wake 1 .begin, .wake 1 (.connected ⟨0, none⟩), .finishStop 0]

/-- Both properties break: two tasks read links that have become ready, and only the later link
is held; a task reads a link that has become ready, and the manager is closed and holds none. -/
theorem crowded_and_cut_off :
    (((new {}).run startWhileStopping).client.stageOf 0 = .reading 1 ∧
      ((new {}).run startWhileStopping).client.stageOf 1 = .reading 2 ∧
      ((new {}).run startWhileStopping).usable = [1, 2] ∧
      ((new {}).run startWhileStopping).client.manager.heldLink = some 2) ∧
    (((new {}).run stopAfterStart).client.stageOf 1 = .reading 2 ∧
      ((new {}).run stopAfterStart).usable = [1, 2] ∧
      ((new {}).run stopAfterStart).client.manager.outbox.phase = .closed ∧
      ((new {}).run stopAfterStart).client.manager.heldLink = none) ∧
    ¬ ((new {}).run startWhileStopping).Sound ∧ ¬ ((new {}).run stopAfterStart).Sound := by
  refine ⟨⟨rfl, rfl, rfl, rfl⟩, ⟨rfl, rfl, rfl, rfl⟩, fun hsound => ?_,
    fun hsound => ?_⟩
  · exact absurd (hsound.one 0 1 rfl rfl) (by decide)
  · cases (hsound.held 1 2 rfl (by decide)).1

end Overlap

end BookFeed.Connection

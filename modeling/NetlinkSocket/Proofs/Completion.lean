import Mathlib.Algebra.Order.BigOperators.Group.List
import Mathlib.Algebra.Order.Group.Nat
import NetlinkSocket.Proofs.Draining
import NetlinkSocket.Proofs.Fates

/-!
Draining ends. Every step of a run lowers a weight that the queue, the table of registrations and
the suspended work carry together, so no run can be prolonged beyond the weight it starts with.
What is called is counted apart: an item is called once, and a worker is called for a
registration that was there or that a script makes.
-/

namespace NetlinkSocket

inductive Walk {σ ε : Type} (advance : σ → Option σ) (told : σ → List ε) :
    σ → List ε → Nat → σ → Prop
  | stay (m : σ) : Walk advance told m [] 0 m
  | step {m n last : σ} {es : List ε} {k : Nat} : advance m = some n →
      Walk advance told n es k last → Walk advance told m (told m ++ es) (k + 1) last

/-- No walk is longer than the bound, and every walk can be completed to the one end. -/
structure Stops {σ ε : Type} (advance : σ → Option σ) (told : σ → List ε) (start : σ)
    (bound : Nat) (events : List ε) (stop : σ) : Prop where
  bounded : ∀ es k m, Walk advance told start es k m → k ≤ bound
  completed : ∀ es k m, Walk advance told start es k m →
    ∃ rest j, Walk advance told m rest j stop ∧ es ++ rest = events
  last : advance stop = none

/-- A run that follows its steps to the end, where a weight falls with every step. -/
structure Falling {σ ε : Type} (advance : σ → Option σ) (told : σ → List ε) (run : σ → σ)
    (events : σ → List ε) (weight : σ → Nat) : Prop where
  falls : ∀ m n, advance m = some n → weight n < weight m
  ends : ∀ m, advance m = none → run m = m ∧ events m = []
  follows : ∀ m n, advance m = some n → run m = run n ∧ events m = told m ++ events n

section

variable {σ ε : Type} {advance : σ → Option σ} {told : σ → List ε} {m n stop : σ}
  {es all : List ε} {j k : Nat}

theorem Walk.complete (h : Walk advance told m es k n) (whole : Walk advance told m all j stop)
    (last : advance stop = none) :
    ∃ rest i, Walk advance told n rest i stop ∧ es ++ rest = all := by
  induction h generalizing all j with
  | stay => exact ⟨all, j, whole, rfl⟩
  | step first _ ih =>
    cases whole with
    | stay => simp [first] at last
    | step first' others =>
      obtain rfl := Option.some.inj (first.symm.trans first')
      obtain ⟨rest, i, walk, rfl⟩ := ih others
      exact ⟨rest, i, walk, List.append_assoc _ _ _⟩

theorem Walk.keeps (h : Walk advance told m es k n) (P : List ε → σ → Prop) (first : P [] m)
    (step : ∀ es m n, P es m → advance m = some n → P (es ++ told m) n) : P es n := by
  suffices ∀ before, P before m → P (before ++ es) n by simpa using this [] first
  clear first
  induction h with
  | stay => simp
  | step next _ ih =>
    intro before holds
    rw [← List.append_assoc]
    exact ih _ (step _ _ _ holds next)

namespace Falling

variable {run : σ → σ} {events : σ → List ε} {weight : σ → Nat}

theorem walk_le (f : Falling advance told run events weight) (h : Walk advance told m es k n) :
    k + weight n ≤ weight m := by
  induction h with
  | stay => omega
  | step first _ ih =>
    have := f.falls _ _ first
    omega

theorem walk_run (f : Falling advance told run events weight) (m : σ) :
    ∃ k, Walk advance told m (events m) k (run m) ∧ advance (run m) = none := by
  induction hw : weight m using Nat.strong_induction_on generalizing m with
  | _ w ih =>
    cases h : advance m with
    | none =>
      obtain ⟨same, silent⟩ := f.ends m h
      rw [same, silent]
      exact ⟨0, .stay m, h⟩
    | some n =>
      obtain ⟨k, walk, last⟩ := ih _ (hw ▸ f.falls m n h) n rfl
      obtain ⟨same, told_first⟩ := f.follows m n h
      rw [same, told_first]
      exact ⟨k + 1, .step h walk, last⟩

theorem stops (f : Falling advance told run events weight) (m : σ) :
    Stops advance told m (weight m) (events m) (run m) := by
  obtain ⟨k, whole, last⟩ := f.walk_run m
  constructor
  case bounded =>
    intro es j n walk
    have := f.walk_le walk
    omega
  case completed => exact fun es j n walk => walk.complete whole last
  case last => exact last

end Falling

end

namespace WorkQueue

variable {α : Type}

namespace Machine

variable {m n : Machine α} {calls : List (Call α)}

theorem falling :
    Falling (ε := Event α) advance emitted run events weight where
  falls _ _ := weight_advance
  ends m h := ⟨by rw [run, h], by rw [events, h]⟩
  follows m n h := ⟨by rw [run, h], by rw [events, h]⟩

theorem starts_advance (h : m.advance = some n) :
    (starts m.emitted).length + Item.sizeAll n.queue.items = Item.sizeAll m.queue.items := by
  obtain ⟨count, below, item, rest, -, hq, hq', -, he, -⟩ |
    ⟨count, label, below, -, hq, hq', -, he, -⟩ := advance_cases h
  · have size := item.size_eq
    have one : starts m.emitted = [item] := by
      rw [he]
      cases item.drains <;>
        simp [starts, List.filterMap_cons, Event.started?, List.filterMap_map, Function.comp_def]
    rw [one, hq, hq', Item.sizeAll_append, Item.sizeAll, List.length_singleton]
    omega
  · rw [he, hq', hq]
    rfl

theorem stopped (h : m.advance = none) (hs : Stacked m.frames calls) :
    m.frames = [.draining m.count] ∧ m.queue.items = [] := by
  cases hq : m.queue.next? with
  | some taken =>
    obtain ⟨_, count, below, _, hf, -⟩ := hs.top
    simp [advance, hf, hq] at h
  | none =>
    refine ⟨?_, next?_eq_none.mp hq⟩
    cases hf : m.frames with
    | nil =>
      rw [hf] at hs
      cases hs
    | cons frame below =>
      rw [hf] at hs
      cases hs with
      | outermost count => simp [Machine.count, hf]
      | nested => simp [advance, hf, hq] at h

end Machine

structure Returns (q : WorkQueue (Item α)) : Prop where
  stops : Stops Machine.advance Machine.emitted q.entering (3 * Item.sizeAll q.items + 1)
    q.entering.events q.entering.run
  returned : q.entering.run.frames = [.draining q.drain.1]
  emptied : q.drain.2.2.items = []
  /-- At every moment an item of the trees there were is called or waits in a tree. -/
  called : ∀ es k m, Walk Machine.advance Machine.emitted q.entering es k m →
    (starts es).length + Item.sizeAll m.queue.items = Item.sizeAll q.items
  all : (starts q.entering.events).length = Item.sizeAll q.items

theorem returns (q : WorkQueue (Item α)) : q.Returns := by
  obtain ⟨k, whole, last⟩ := Machine.falling.walk_run q.entering
  have called : ∀ es k m, Walk Machine.advance Machine.emitted q.entering es k m →
      (starts es).length + Item.sizeAll m.queue.items = Item.sizeAll q.items := by
    intro es k m walk
    refine walk.keeps (fun es m => (starts es).length + Item.sizeAll m.queue.items =
      Item.sizeAll q.items) (Nat.zero_add _) fun es m n sum h => ?_
    have := Machine.starts_advance h
    rw [starts_append, List.length_append]
    omega
  obtain ⟨calls, stacked⟩ : ∃ calls, Stacked q.entering.run.frames calls :=
    whole.keeps (fun _ m => ∃ calls, Stacked m.frames calls) ⟨_, .outermost 0⟩
      fun _ m n ⟨_, hs⟩ h => (Machine.accepts_advance h hs).imp fun _ => And.left
  obtain ⟨returned, emptied⟩ := Machine.stopped last stacked
  constructor
  case stops => exact Machine.falling.stops q.entering
  case returned => exact returned
  case emptied => exact emptied
  case called => exact called
  case all => simpa [emptied, Item.sizeAll] using called _ _ _ whole

end WorkQueue

namespace Notifier

namespace Command

mutual

def registrations : Command → Nat
  | register _ script => 1 + registrationsAll script
  | _ => 0

def registrationsAll : List Command → Nat
  | [] => 0
  | c :: rest => registrations c + registrationsAll rest

end

end Command

namespace Desk

def workers (d : Desk) : List (List Command) :=
  (d.notifier.pending.map fun r => r.worker) ++ d.queue.items.map Prod.snd

/-- The calls there can be of these workers and of those that their scripts register. -/
def due (workers : List (List Command)) : Nat :=
  workers.length + (workers.map Command.registrationsAll).sum

theorem due_le_of_sublist {ws ws' : List (List Command)} (h : ws.Sublist ws') :
    due ws ≤ due ws' :=
  Nat.add_le_add h.length_le ((h.map _).sum_le_sum fun _ _ => Nat.zero_le _)

theorem due_perm {ws ws' : List (List Command)} (h : ws.Perm ws') : due ws = due ws' := by
  rw [due, due, h.length_eq, (h.map _).sum_eq]

theorem due_apply (d : Desk) (c : Command) :
    due (d.apply c).2.workers ≤ due d.workers + c.registrations := by
  cases c with
  | register subject script =>
    by_cases full : d.notifier.capacity ≤ d.notifier.pending.length
    · simp [apply, Notifier.register, full]
    · simp only [apply, Notifier.register, full, if_false, workers, due, Command.registrations,
        List.map_append, List.map_cons, List.map_nil, List.length_append, List.length_cons,
        List.length_nil, List.sum_append, List.sum_cons, List.sum_nil]
      omega
  | withdraw key =>
    have kept : (d.apply (.withdraw key)).2.workers.Sublist d.workers :=
      (List.filter_sublist.map _).append_right _
    exact Nat.le_add_right_of_le (due_le_of_sublist kept)
  | signal subject =>
    -- a signal only moves workers from the notifier to the queue
    have moved : (d.apply (.signal subject)).2.workers.Perm d.workers := by
      let fired := d.notifier.pending.filter fun r => decide (r.subject = subject)
      let others := d.notifier.pending.filter fun r => !decide (r.subject = subject)
      have parts : (fired ++ others).Perm d.notifier.pending := List.filter_append_perm _ _
      calc (d.apply (.signal subject)).2.workers
        _ = (others.map fun r => r.worker) ++ d.queue.items.map Prod.snd ++
            fired.map fun r => r.worker := by
          simp [workers, apply, Notifier.signal, others, fired, Function.comp_def]
        List.Perm _ ((fired.map fun r => r.worker) ++
            ((others.map fun r => r.worker) ++ d.queue.items.map Prod.snd)) :=
          List.perm_append_comm
        List.Perm _ d.workers := by
          rw [← List.append_assoc, ← List.map_append]
          exact (parts.map _).append_right _
    exact (due_perm moved).le
  | count => exact Nat.le_refl _
  | describe => exact Nat.le_refl _
  | run => exact Nat.le_refl _
  | unreadable reason => exact Nat.le_refl _

end Desk

def Frame.registrations : Frame → Nat
  | draining _ => 0
  | performing _ rest _ => Command.registrationsAll rest

namespace Machine

variable {m n : Machine}

theorem falling : Falling advance told run events weight where
  falls _ _ := weight_advance
  ends m h := ⟨by rw [run, h], by rw [events, h]⟩
  follows m n h := ⟨by rw [run, h], by rw [events, h]⟩

def due (m : Machine) : Nat :=
  Desk.due m.desk.workers + (m.frames.map Frame.registrations).sum

theorem calls_advance (h : m.advance = some n) : (calls m.told).length + n.due ≤ m.due := by
  unfold advance at h
  split at h
  · rename_i count below hf
    split at h
    · rename_i key script queue hq
      have items := WorkQueue.items_of_next? hq
      obtain rfl := Option.some.inj h
      simp only [due, Desk.due, Desk.workers, told, hf, hq, items, calls, Event.called?,
        Frame.registrations, List.filterMap_cons, List.filterMap_nil, List.map_append,
        List.map_cons, List.length_append, List.length_cons, List.length_nil, List.sum_append,
        List.sum_cons]
      omega
    · rename_i hq
      obtain rfl := Option.some.inj h
      simp [due, told, hf, hq, calls, List.filterMap_cons, Event.called?, Frame.registrations]
    · cases h
  · rename_i hf
    obtain rfl := Option.some.inj h
    simp [due, told, hf, calls, Frame.registrations]
  · rename_i hf
    obtain rfl := Option.some.inj h
    simp [due, told, hf, calls, Frame.registrations, Command.registrationsAll,
      Command.registrations]
  · rename_i key c rest answers below notRun hf
    obtain rfl := Option.some.inj h
    have applied := Desk.due_apply m.desk c
    have uncalled : calls m.told = [] := by
      cases c <;> first
        | exact (notRun rfl).elim
        | simp [told, hf, calls, Event.called?]
    simp only [uncalled, due, hf, Frame.registrations, List.map_cons, List.sum_cons,
      Command.registrationsAll, List.length_nil]
    omega
  · cases h

end Machine

structure Desk.Returns (d : Desk) : Prop where
  stops : Stops Machine.advance Machine.told d.entering (d.weight + 1) d.entering.events
    d.entering.run
  returned : d.entering.run.frames = [.draining d.drain.1]
  emptied : d.drain.2.2.queue.items = []
  called : ∀ es k m, Walk Machine.advance Machine.told d.entering es k m →
    (calls es).length ≤ due d.workers
  fired : (d.drain.2.1.map Prod.fst).Perm ((calls d.entering.events).map Prod.fst)

theorem Desk.returns (d : Desk) : d.Returns := by
  obtain ⟨k, whole, last⟩ := Machine.falling.walk_run d.entering
  have ends := d.entering.ends_run (.outermost 0)
  have nested : Nested d.entering.run.frames :=
    whole.keeps (fun _ m => Nested m.frames) (.outermost 0) fun _ m n holds h =>
      (Machine.advance_tells h).nested holds
  obtain ⟨-, count, frames⟩ := Machine.stopped last nested
  constructor
  case stops => exact Machine.falling.stops d.entering
  case returned =>
    have counted : d.drain.1 = d.entering.run.count := rfl
    rw [counted, Machine.count, frames]
  case emptied => exact ends.emptied
  case called =>
    intro es k m walk
    have sum := walk.keeps (fun es m => (calls es).length + m.due ≤ due d.workers)
      (by simp [Machine.due, entering, Frame.registrations, calls]) fun es m n sum h => by
        have := Machine.calls_advance h
        rw [calls_append, List.length_append]
        omega
    omega
  case fired =>
    have fired : d.drain.2.1 = d.entering.run.fired := rfl
    rw [fired]
    simpa [Machine.begun, entering, Frame.key?, List.filterMap_cons] using ends.fired

/-- A worker that registers and signals another for its own subject, and runs it itself. -/
example :
    let d := ((Desk.ofCapacity 1).apply
      (.register ⟨1⟩ [.register ⟨1⟩ [.count], .signal ⟨1⟩, .run])).2
    Desk.due d.workers = 2 ∧ (calls (d.apply (.signal ⟨1⟩)).2.entering.events).length = 2 := by
  decide +kernel

end Notifier

theorem drains_return :
    (∀ (α : Type) (q : WorkQueue (WorkQueue.Item α)), q.Returns) ∧
      ∀ d : Notifier.Desk, d.Returns :=
  ⟨fun _ q => q.returns, fun d => d.returns⟩

end NetlinkSocket

import Mathlib.Algebra.GroupWithZero.Nat
import Mathlib.Data.List.Induction
import NetlinkSocket.WorkQueue.Nested

/-!
The order in which a queue starts its items, and what drains count, however deep they are
nested. A run is told event by event; ledgers of the queue and of the open drains accept every
such tale, and all that is said about runs is read off from them.
-/

namespace NetlinkSocket.WorkQueue

variable {α : Type}

inductive Order (α : Type)
  | submit (item : Item α)
  | run

inductive Event (α : Type)
  | submitted (item : Item α)
  | started (item : Item α)
  | entered (caller : Option α)
  | returned (caller : Option α) (count : Nat) (pending : Bool)

namespace Event

def submitted? : Event α → Option (Item α)
  | submitted item => some item
  | _ => none

def started? : Event α → Option (Item α)
  | started item => some item
  | _ => none

def counted? : Event α → Option Nat
  | returned _ count _ => some count
  | _ => none

def isEntered : Event α → Bool
  | entered _ => true
  | _ => false

def note? : Event α → Option (Note α)
  | started item => some (.started item.label)
  | returned (some label) count pending => some (.drained label count pending)
  | _ => none

end Event

def submissions (es : List (Event α)) : List (Item α) :=
  es.filterMap Event.submitted?

def starts (es : List (Event α)) : List (Item α) :=
  es.filterMap Event.started?

def counts (es : List (Event α)) : List Nat :=
  es.filterMap Event.counted?

def InDrain (es : List (Event α)) : Prop :=
  (counts es).length < es.countP Event.isEntered

/-- Every drain that is entered returns, and no other does. -/
inductive Complete : List (Event α) → Prop
  | nil : Complete []
  | submitted {item es} : Complete es → Complete (.submitted item :: es)
  | started {item es} : Complete es → Complete (.started item :: es)
  | call {caller inner callee count pending es} : Complete inner → Complete es →
      Complete (.entered caller :: (inner ++ .returned callee count pending :: es))

namespace Machine

def emitted (m : Machine α) : List (Event α) :=
  match m.frames, m.queue.next? with
  | .draining _ :: _, some (item, _) =>
    .started item ::
      (item.children.map .submitted ++ if item.drains then [.entered (some item.label)] else [])
  | .draining count :: .waiting label :: _, none =>
    [.returned (some label) count m.queue.hasPending]
  | _, _ => []

def events (m : Machine α) : List (Event α) :=
  match _h : m.advance with
  | none => []
  | some n => m.emitted ++ n.events
termination_by m.weight
decreasing_by exact weight_advance _h

end Machine

def entering (q : WorkQueue (Item α)) : Machine α :=
  ⟨q, [.draining 0], []⟩

def perform (q : WorkQueue (Item α)) : Order α → List (Event α) × WorkQueue (Item α)
  | .submit item => ([.submitted item], q.submit item)
  | .run =>
    let (count, _, rest) := q.drain
    (.entered none :: (q.entering.events ++ [.returned none count rest.hasPending]), rest)

def history (orders : List (Order α)) : List (Event α) × WorkQueue (Item α) :=
  orders.foldl
    (fun told order =>
      let (es, rest) := told.2.perform order
      (told.1 ++ es, rest))
    ([], .empty)

section

variable {xs ys : List (Event α)}

@[simp] theorem starts_append : starts (xs ++ ys) = starts xs ++ starts ys :=
  List.filterMap_append

end

structure Call (α : Type) where
  caller : Option α
  count : Nat

structure Ledger (α : Type) where
  queue : List (Item α)
  calls : List (Call α)

namespace Ledger

/-- Items are taken from the front of the queue by the innermost drain; a drain returns its own
count and only when nothing is left. -/
inductive Accepts : Ledger α → Event α → Ledger α → Prop
  | submitted {queue calls} (item : Item α) :
      Accepts ⟨queue, calls⟩ (.submitted item) ⟨queue ++ [item], calls⟩
  | started {queue calls} (item : Item α) (c : Call α) :
      Accepts ⟨item :: queue, c :: calls⟩ (.started item) ⟨queue, ⟨c.caller, c.count + 1⟩ :: calls⟩
  | entered {queue calls} (caller : Option α) :
      Accepts ⟨queue, calls⟩ (.entered caller) ⟨queue, ⟨caller, 0⟩ :: calls⟩
  | returned {calls} (c : Call α) :
      Accepts ⟨[], c :: calls⟩ (.returned c.caller c.count false) ⟨[], calls⟩

inductive AcceptsAll : Ledger α → List (Event α) → Ledger α → Prop
  | nil {b} : AcceptsAll b [] b
  | cons {b c d e es} : Accepts b e c → AcceptsAll c es d → AcceptsAll b (e :: es) d

variable {b c d : Ledger α} {e : Event α} {es xs ys : List (Event α)}

theorem Accepts.all (h : b.Accepts e c) : b.AcceptsAll [e] c :=
  .cons h .nil

theorem AcceptsAll.append (h : b.AcceptsAll xs c) (h' : c.AcceptsAll ys d) :
    b.AcceptsAll (xs ++ ys) d := by
  induction h with
  | nil => exact h'
  | cons first _ ih => exact .cons first (ih h')

theorem AcceptsAll.split (h : b.AcceptsAll (xs ++ ys) d) :
    ∃ c, b.AcceptsAll xs c ∧ c.AcceptsAll ys d := by
  induction xs generalizing b with
  | nil => exact ⟨b, .nil, h⟩
  | cons x xs ih =>
    cases h with
    | cons first others =>
      obtain ⟨c, before, after⟩ := ih others
      exact ⟨c, .cons first before, after⟩

theorem AcceptsAll.submit (items : List (Item α)) :
    b.AcceptsAll (items.map .submitted) ⟨b.queue ++ items, b.calls⟩ := by
  induction items generalizing b with
  | nil => simpa using AcceptsAll.nil
  | cons item items ih =>
    refine .cons (.submitted item) ?_
    simpa using ih (b := ⟨b.queue ++ [item], b.calls⟩)

theorem AcceptsAll.fifo (h : b.AcceptsAll es d) :
    b.queue ++ submissions es = starts es ++ d.queue := by
  induction h with
  | nil => simp [submissions, starts]
  | cons first _ ih =>
    cases first <;>
      simp_all [submissions, starts, List.filterMap_cons, Event.submitted?, Event.started?]

theorem AcceptsAll.depth (h : b.AcceptsAll es d) :
    b.calls.length + es.countP Event.isEntered = d.calls.length + (counts es).length := by
  induction h with
  | nil => simp [counts]
  | cons first _ ih =>
    cases first <;>
      simp_all [counts, List.filterMap_cons, Event.counted?, Event.isEntered, List.countP_cons] <;>
      omega

/-- The drains around a complete part of the run stand still but for the innermost, which counts
what was started there and not counted by the drains within. -/
theorem AcceptsAll.within {k : Call α} {calls : List (Call α)} (h : b.AcceptsAll es d)
    (whole : Complete es) (hb : b.calls = k :: calls) :
    ∃ count, d.calls = ⟨k.caller, count⟩ :: calls ∧
      k.count + (starts es).length = count + (counts es).sum := by
  induction whole generalizing b d k calls with
  | nil =>
    cases h
    exact ⟨k.count, hb, by simp [starts, counts]⟩
  | submitted _ ih =>
    cases h with
    | cons first others =>
      cases first
      exact ih others hb
  | started _ ih =>
    cases h with
    | cons first others =>
      cases first
      obtain ⟨rfl, rfl⟩ := List.cons.inj hb
      obtain ⟨count, last, sum⟩ := ih others rfl
      refine ⟨count, last, ?_⟩
      simp only [starts, counts, List.filterMap_cons, Event.started?, Event.counted?,
        List.length_cons] at sum ⊢
      omega
  | call _ _ ih ih' =>
    cases h with
    | cons first others =>
      cases first with
      | entered caller =>
      obtain ⟨c, before, after⟩ := others.split
      obtain ⟨n, hc, inner⟩ := ih before rfl
      cases after with
      | cons last rest =>
        cases last with
        | returned callee =>
        obtain ⟨rfl, rfl⟩ := List.cons.inj hc
        obtain ⟨count, last, outer⟩ := ih' rest hb
        refine ⟨count, last, ?_⟩
        simp only [starts, counts, List.filterMap_cons, List.filterMap_append, Event.started?,
          Event.counted?, List.length_append, List.sum_append, List.sum_cons] at inner outer ⊢
        omega

def Closing : Nat → List (Event α) → Prop
  | 0, es => Complete es
  | depth + 1, es => ∃ ys caller n pending zs,
      es = ys ++ .returned caller n pending :: zs ∧ Complete ys ∧ Closing depth zs

theorem Closing.prepend {depth : Nat} (xs : List (Event α)) (h : Closing depth es)
    (more : ∀ {ys : List (Event α)}, Complete ys → Complete (xs ++ ys)) :
    Closing depth (xs ++ es) := by
  cases depth with
  | zero => exact more h
  | succ depth =>
    obtain ⟨ys, caller, n, pending, zs, rfl, inner, rest⟩ := h
    exact ⟨xs ++ ys, caller, n, pending, zs, by simp, more inner, rest⟩

theorem Closing.enter {depth : Nat} (caller : Option α) (h : Closing (depth + 1) es) :
    Closing depth (.entered caller :: es) := by
  obtain ⟨ys, callee, n, pending, zs, rfl, inner, rest⟩ := h
  have whole : Closing depth ((.entered caller :: (ys ++ [.returned callee n pending])) ++ zs) :=
    rest.prepend _ fun h => by simpa using Complete.call inner h
  simpa using whole

theorem AcceptsAll.closing (h : b.AcceptsAll es d) (hd : d.calls = []) :
    Closing b.calls.length es := by
  induction h with
  | nil => rw [hd]; exact Complete.nil
  | cons first _ ih =>
    have rest := ih hd
    cases first with
    | submitted item => exact rest.prepend [.submitted item] fun h => .submitted h
    | started item c => exact rest.prepend [.started item] fun h => .started h
    | entered caller => exact rest.enter caller
    | returned c => exact ⟨[], c.caller, c.count, false, _, rfl, .nil, rest⟩

end Ledger

inductive Stacked : List (Frame α) → List (Call α) → Prop
  | outermost (count : Nat) : Stacked [.draining count] [⟨none, count⟩]
  | nested {below calls} (count : Nat) (label : α) : Stacked below calls →
      Stacked (.draining count :: .waiting label :: below) (⟨some label, count⟩ :: calls)

theorem Stacked.top {frames : List (Frame α)} {calls : List (Call α)} (h : Stacked frames calls) :
    ∃ caller count below others, frames = .draining count :: below ∧
      calls = ⟨caller, count⟩ :: others ∧
      ∀ n, Stacked (.draining n :: below) (⟨caller, n⟩ :: others) := by
  cases h with
  | outermost count => exact ⟨none, count, [], [], rfl, rfl, .outermost⟩
  | nested count label below =>
    exact ⟨some label, count, _, _, rfl, rfl, fun n => .nested n label below⟩

namespace Machine

variable {m n : Machine α} {calls : List (Call α)}

theorem advance_cases (h : m.advance = some n) :
    (∃ count below item rest, m.frames = .draining count :: below ∧
      m.queue.items = item :: rest ∧ n.queue.items = rest ++ item.children ∧
      n.frames = (if item.drains then [.draining 0, .waiting item.label] else []) ++
        .draining (count + 1) :: below ∧
      m.emitted = .started item :: (item.children.map .submitted ++
        if item.drains then [.entered (some item.label)] else []) ∧
      n.notes = m.notes ++ [.started item.label]) ∨
    (∃ count label below, m.frames = .draining count :: .waiting label :: below ∧
      m.queue.items = [] ∧ n.queue = m.queue ∧ n.frames = below ∧
      m.emitted = [.returned (some label) count false] ∧
      n.notes = m.notes ++ [.drained label count false]) := by
  unfold advance at h
  split at h
  · rename_i count below item rest hf hq
    cases h
    refine .inl ⟨count, below, item, rest.items, hf, items_of_next? hq, rfl, ?_, ?_, rfl⟩
    · split <;> rfl
    · simp only [emitted, hf, hq]
  · rename_i count label below hf hq
    have empty := next?_eq_none.mp hq
    cases h
    refine .inr ⟨count, label, below, hf, empty, rfl, rfl, ?_, ?_⟩
    · simp only [emitted, hf, hq, hasPending, empty, List.isEmpty_nil, Bool.not_true]
    · simp only [hasPending, empty, List.isEmpty_nil, Bool.not_true]
  · cases h

theorem accepts_advance (h : m.advance = some n) (hs : Stacked m.frames calls) :
    ∃ others, Stacked n.frames others ∧
      Ledger.AcceptsAll ⟨m.queue.items, calls⟩ m.emitted ⟨n.queue.items, others⟩ := by
  obtain ⟨count, below, item, rest, hf, hq, hq', hf', he, -⟩ |
    ⟨count, label, below, hf, hq, hq', hf', he, -⟩ := advance_cases h
  · obtain ⟨caller, count', below', others, hf'', rfl, further⟩ := hs.top
    obtain ⟨⟨rfl⟩, rfl⟩ := List.cons.inj (hf.symm.trans hf'')
    rw [hf', hq', he, hq]
    have taken : Ledger.AcceptsAll ⟨item :: rest, ⟨caller, count⟩ :: others⟩
        (.started item :: item.children.map .submitted)
        ⟨rest ++ item.children, ⟨caller, count + 1⟩ :: others⟩ :=
      .cons (.started item ⟨caller, count⟩) (.submit item.children)
    cases item.drains with
    | true =>
      refine ⟨⟨some item.label, 0⟩ :: ⟨caller, count + 1⟩ :: others,
        .nested 0 item.label (further (count + 1)), ?_⟩
      simpa using taken.append (Ledger.Accepts.entered (some item.label)).all
    | false => exact ⟨⟨caller, count + 1⟩ :: others, further (count + 1), by simpa using taken⟩
  · rw [hf] at hs
    cases hs with
    | nested _ _ outer =>
      rw [hf', hq', he, hq]
      exact ⟨_, outer, (Ledger.Accepts.returned ⟨some label, count⟩).all⟩

theorem accepts_run (m : Machine α) (hs : Stacked m.frames calls) :
    m.run.queue.items = [] ∧
      Ledger.AcceptsAll ⟨m.queue.items, calls⟩ m.events ⟨[], [⟨none, m.run.count⟩]⟩ := by
  fun_induction run m generalizing calls with
  | case1 m last =>
    rw [events, last]
    obtain ⟨caller, count, below, others, hf, rfl, -⟩ := hs.top
    have empty : m.queue.next? = none := by
      cases hq : m.queue.next? with
      | none => rfl
      | some taken => simp [advance, hf, hq] at last
    have items := next?_eq_none.mp empty
    rw [hf] at hs
    cases hs with
    | outermost =>
      have counted : m.count = count := by simp only [Machine.count, hf]
      rw [items, counted]
      exact ⟨rfl, .nil⟩
    | nested => simp [advance, hf, empty] at last
  | case2 m n h ih =>
    rw [events, h]
    obtain ⟨others, hs', first⟩ := accepts_advance h hs
    obtain ⟨items, rest⟩ := ih hs'
    exact ⟨items, first.append rest⟩

theorem notes_run (m : Machine α) : m.run.notes = m.notes ++ m.events.filterMap Event.note? := by
  fun_induction run m with
  | case1 m last =>
    rw [events, last]
    simp
  | case2 m n h ih =>
    rw [ih, events.eq_def m, h]
    obtain ⟨_, _, item, _, _, _, _, _, he, hn⟩ | ⟨_, _, _, _, _, _, _, he, hn⟩ := advance_cases h
    · rw [he, hn]
      cases item.drains <;> simp [Event.note?, List.filterMap_cons, List.filterMap_map]
    · simp [he, hn, Event.note?]

end Machine

/-- A drain answers the notes of its own events, so the events below add nothing to what it tells. -/
theorem drain_notes (q : WorkQueue (Item α)) :
    q.drain.2.1 = q.entering.events.filterMap Event.note? := by
  change q.entering.run.notes = _
  rw [Machine.notes_run]
  rfl

theorem perform_accepts (q : WorkQueue (Item α)) (order : Order α) :
    Ledger.AcceptsAll ⟨q.items, []⟩ (q.perform order).1 ⟨(q.perform order).2.items, []⟩ := by
  cases order with
  | submit item => exact (Ledger.Accepts.submitted item).all
  | run =>
    obtain ⟨items, events⟩ := Machine.accepts_run q.entering (.outermost 0)
    change Ledger.AcceptsAll _ (.entered none :: (q.entering.events ++
      [.returned none q.entering.run.count q.entering.run.queue.hasPending]))
      ⟨q.entering.run.queue.items, []⟩
    rw [hasPending, items]
    exact .cons (.entered none)
      (events.append (Ledger.Accepts.returned ⟨none, q.entering.run.count⟩).all)

theorem history_append_singleton (orders : List (Order α)) (order : Order α) :
    history (orders ++ [order]) =
      ((history orders).1 ++ ((history orders).2.perform order).1,
        ((history orders).2.perform order).2) := by
  simp [history]

theorem history_accepts (orders : List (Order α)) :
    Ledger.AcceptsAll ⟨[], []⟩ (history orders).1 ⟨(history orders).2.items, []⟩ := by
  induction orders using List.reverseRecOn with
  | nil => exact .nil
  | append_singleton orders order ih =>
    rw [history_append_singleton]
    exact ih.append (perform_accepts _ order)

def Begets (es : List (Event α)) : Prop :=
  ∀ xs item ys, es = xs ++ .started item :: ys → item.children.map .submitted <+: ys

theorem Begets.nil : Begets ([] : List (Event α)) := by
  intro xs item ys h
  simp at h

theorem Begets.append {es fs : List (Event α)} (h : Begets es) (h' : Begets fs) :
    Begets (es ++ fs) := by
  intro xs item ys split
  obtain ⟨as, rfl, hfs⟩ | ⟨bs, hes, hbs⟩ := List.append_eq_append_iff.mp split
  · exact h' as item ys hfs
  · cases bs with
    | nil => exact h' [] item ys hbs.symm
    | cons b bs =>
      obtain ⟨rfl, rfl⟩ := List.cons.inj hbs
      exact (h xs item bs hes).trans (List.prefix_append bs fs)

theorem Begets.of_not_started {es : List (Event α)} (h : ∀ item, .started item ∉ es) :
    Begets es := by
  rintro xs item ys rfl
  exact absurd (List.mem_append_right xs List.mem_cons_self) (h item)

theorem Begets.started {item : Item α} {es : List (Event α)}
    (h : item.children.map .submitted <+: es) (others : ∀ other, .started other ∉ es) :
    Begets (.started item :: es) := by
  intro xs other ys split
  cases xs with
  | nil =>
    obtain ⟨⟨rfl⟩, rfl⟩ := List.cons.inj split
    exact h
  | cons x xs => exact Begets.of_not_started others xs other ys (List.cons.inj split).2

namespace Machine

theorem begets_events (m : Machine α) : Begets m.events := by
  fun_induction events m with
  | case1 => exact .nil
  | case2 m n h ih =>
    refine .append ?_ ih
    obtain ⟨_, _, item, _, _, _, _, _, he, -⟩ | ⟨_, _, _, _, _, _, _, he, -⟩ := advance_cases h
    · rw [he]
      refine .started (List.prefix_append _ _) fun other => ?_
      cases item.drains <;> simp
    · exact he ▸ .of_not_started (by simp)

end Machine

theorem perform_begets (q : WorkQueue (Item α)) (order : Order α) :
    Begets (q.perform order).1 := by
  cases order with
  | submit item => exact .of_not_started (by simp [perform])
  | run =>
    have enters : Begets [Event.entered (none : Option α)] := .of_not_started (by simp)
    exact enters.append (q.entering.begets_events.append (.of_not_started (by simp)))

theorem history_begets (orders : List (Order α)) : Begets (history orders).1 := by
  induction orders using List.reverseRecOn with
  | nil => exact .nil
  | append_singleton orders order ih =>
    rw [history_append_singleton]
    exact ih.append (perform_begets _ order)

/-- What holds of the events of a queue, whatever its items submit and whether they drain it. -/
structure Orderly (es : List (Event α)) (left : WorkQueue (Item α)) : Prop where
  inOrder : ∀ xs, xs <+: es → starts xs <+: submissions xs
  left : submissions es = starts es ++ left.items
  during : ∀ xs item ys, es = xs ++ .started item :: ys → InDrain xs
  children : Begets es
  emptied : ∀ xs caller n pending ys, es = xs ++ .returned caller n pending :: ys →
    pending = false ∧ starts xs = submissions xs
  returns : ∀ xs caller ys, es = xs ++ .entered caller :: ys →
    ∃ inner n zs, ys = inner ++ .returned caller n false :: zs ∧ Complete inner
  counted : ∀ xs caller inner callee n pending ys,
    es = xs ++ .entered caller :: (inner ++ .returned callee n pending :: ys) → Complete inner →
      callee = caller ∧ (starts inner).length = n + (counts inner).sum

namespace Ledger

variable {b d : Ledger α} {es : List (Event α)} {left : WorkQueue (Item α)}

theorem AcceptsAll.called {caller callee : Option α} {n : Nat} {pending : Bool}
    {inner : List (Event α)}
    (h : b.AcceptsAll (.entered caller :: (inner ++ .returned callee n pending :: es)) d)
    (whole : Complete inner) :
    callee = caller ∧ pending = false ∧ (starts inner).length = n + (counts inner).sum := by
  cases h with
  | cons first others =>
    cases first
    obtain ⟨c, before, after⟩ := others.split
    obtain ⟨count, hc, sum⟩ := before.within whole rfl
    cases after with
    | cons last _ =>
      cases last
      obtain ⟨rfl, -⟩ := List.cons.inj hc
      exact ⟨rfl, rfl, by simpa using sum⟩

theorem AcceptsAll.orderly (h : AcceptsAll ⟨[], []⟩ es ⟨left.items, []⟩) (hb : Begets es) :
    Orderly es left where
  inOrder := by
    rintro xs ⟨ys, rfl⟩
    obtain ⟨c, before, -⟩ := h.split
    exact ⟨c.queue, before.fifo.symm⟩
  left := h.fifo
  during := by
    rintro xs item ys rfl
    obtain ⟨c, before, after⟩ := h.split
    have depth := before.depth
    cases after with
    | cons first _ =>
      cases first
      simp only [InDrain, List.length_nil, List.length_cons] at depth ⊢
      omega
  children := hb
  emptied := by
    rintro xs caller n pending ys rfl
    obtain ⟨c, before, after⟩ := h.split
    have fifo := before.fifo
    cases after with
    | cons first _ =>
      cases first
      exact ⟨rfl, by simpa using fifo.symm⟩
  returns := by
    rintro xs caller ys rfl
    obtain ⟨c, -, after⟩ := h.split
    have call := after
    cases after with
    | cons first others =>
      have closing := others.closing rfl
      cases first
      obtain ⟨inner, callee, n, pending, zs, rfl, whole, -⟩ := closing
      obtain ⟨rfl, rfl, -⟩ := call.called whole
      exact ⟨inner, n, zs, rfl, whole⟩
  counted := by
    rintro xs caller inner callee n pending ys rfl whole
    obtain ⟨c, -, after⟩ := h.split
    obtain ⟨same, -, sum⟩ := after.called whole
    exact ⟨same, sum⟩

end Ledger

theorem history_orderly (orders : List (Order α)) :
    Orderly (history orders).1 (history orders).2 :=
  (history_accepts orders).orderly (history_begets orders)

example :
    counts (history
      [.submit (.mk 1 [.mk 2 [] false, .mk 3 [.mk 4 [] false] true] true),
        .submit (.mk 5 [] false), .run]).1 = [1, 3, 1] := by
  decide +kernel

end NetlinkSocket.WorkQueue

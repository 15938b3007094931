import Mathlib.Data.List.Induction
import NetlinkSocket.Notifier.Script

/-!
Runs of scripts told event by event: what was answered and what was called, at whatever depth of
nested workers. The notifier and the queue at every moment are a function of what was told before,
and allow what is told next.
-/

namespace NetlinkSocket.Notifier

inductive Event
  | answered (command : Command) (answer : Answer)
  | called (job : Job)

def Event.called? : Event → Option Job
  | called job => some job
  | _ => none

def calls (es : List Event) : List Job :=
  es.filterMap Event.called?

namespace Desk

def after (d : Desk) : Event → Desk
  | .answered c _ => (d.apply c).2
  | .called _ => { d with queue := ⟨d.queue.items.tail⟩ }

/-- What may be told at a desk: the answer the desk gives, the oldest job, and the end of a run
only when nothing is queued. -/
def Allows (d : Desk) : Event → Prop
  | .answered .run _ => d.queue.items = []
  | .answered c a => a = (d.apply c).1
  | .called job => d.queue.items.head? = some job

def AllowsAll (d : Desk) (es : List Event) : Prop :=
  ∀ xs e ys, es = xs ++ e :: ys → (xs.foldl after d).Allows e

end Desk

namespace Machine

def told (m : Machine) : List Event :=
  match m.frames with
  | .draining count :: below =>
    match m.desk.queue.next?, below with
    | some (job, _), _ => [.called job]
    | none, .performing _ _ _ :: _ => [.answered .run (.number count)]
    | none, _ => []
  | .performing _ [] _ :: _ => []
  | .performing _ (.run :: _) _ :: _ => []
  | .performing _ (c :: _) _ :: _ => [.answered c (m.desk.apply c).1]
  | [] => []

def events (m : Machine) : List Event :=
  match _h : m.advance with
  | none => []
  | some n => m.told ++ n.events
termination_by m.weight
decreasing_by exact weight_advance _h

end Machine

namespace Desk

def entering (d : Desk) : Machine :=
  ⟨d, [.draining 0], []⟩

def events (d : Desk) (c : Command) : List Event :=
  match c with
  | .run => d.entering.events ++ [.answered .run (d.perform .run).1]
  | c => [.answered c (d.perform c).1]

end Desk

def history (capacity : Nat) (script : List Command) : List Event × List Fired × Desk :=
  script.foldl
    (fun told c =>
      let (_, fired, later) := told.2.2.perform c
      (told.1 ++ told.2.2.events c, told.2.1 ++ fired, later))
    ([], [], .ofCapacity capacity)

def deskAt (capacity : Nat) (es : List Event) : Desk :=
  es.foldl Desk.after (.ofCapacity capacity)

theorem deskAt_append_singleton (capacity : Nat) (es : List Event) (e : Event) :
    deskAt capacity (es ++ [e]) = (deskAt capacity es).after e := by
  simp [deskAt]

namespace Desk

variable {d : Desk} {xs ys : List Event}

theorem AllowsAll.nil : d.AllowsAll [] := by
  intro xs e ys h
  simp at h

theorem AllowsAll.single {e : Event} (h : d.Allows e) : d.AllowsAll [e] := by
  intro xs f ys split
  cases xs with
  | nil =>
    obtain ⟨rfl, -⟩ := List.cons.inj split
    exact h
  | cons x xs => simp at split

theorem AllowsAll.append (h : d.AllowsAll xs) (h' : (xs.foldl after d).AllowsAll ys) :
    d.AllowsAll (xs ++ ys) := by
  intro as e bs split
  obtain ⟨cs, rfl, hys⟩ | ⟨cs, hxs, hcs⟩ := List.append_eq_append_iff.mp split
  · rw [List.foldl_append]
    exact h' cs e bs hys
  · cases cs with
    | nil =>
      obtain rfl : as = xs := by simpa using hxs.symm
      exact h' [] e bs hcs.symm
    | cons c cs =>
      obtain ⟨rfl, rfl⟩ := List.cons.inj hcs
      exact h as e cs hxs

theorem AllowsAll.before (h : d.AllowsAll (xs ++ ys)) : d.AllowsAll xs := by
  rintro as e bs rfl
  exact h as e (bs ++ ys) (by simp)

theorem AllowsAll.rest (h : d.AllowsAll (xs ++ ys)) : (xs.foldl after d).AllowsAll ys := by
  rintro as e bs rfl
  rw [← List.foldl_append]
  exact h (xs ++ as) e bs (by simp)

end Desk

inductive Nested : List Frame → Prop
  | outermost (count : Nat) : Nested [.draining count]
  | working {count below} (key : Nat) (rest : List Command) (answers : List Answer) :
      Nested (.draining count :: below) →
      Nested (.performing key rest answers :: .draining count :: below)
  | running {key rest answers below} (count : Nat) : Nested (.performing key rest answers :: below) →
      Nested (.draining count :: .performing key rest answers :: below)

namespace Nested

variable {count key : Nat} {rest : List Command} {answers : List Answer} {below : List Frame}

theorem recount (h : Nested (.draining count :: below)) (n : Nat) :
    Nested (.draining n :: below) := by
  cases h with
  | outermost => exact .outermost n
  | running _ work => exact .running n work

theorem rework (h : Nested (.performing key rest answers :: below)) (left : List Command)
    (more : List Answer) : Nested (.performing key left more :: below) := by
  cases h with
  | working _ _ _ run => exact .working key left more run

end Nested

def Frame.key? : Frame → Option Nat
  | draining _ => none
  | performing key _ _ => some key

namespace Machine

variable {m n : Machine}

def begun (m : Machine) : List Nat :=
  m.fired.map Prod.fst ++ m.frames.filterMap Frame.key?

structure Tells (m n : Machine) : Prop where
  desk : n.desk = m.told.foldl Desk.after m.desk
  allowed : m.desk.AllowsAll m.told
  nested : Nested m.frames → Nested n.frames
  begun : n.begun.Perm (m.begun ++ (calls m.told).map Prod.fst)

theorem advance_tells (h : m.advance = some n) : Tells m n := by
  unfold advance at h
  split at h
  · rename_i count below hf
    split at h
    · rename_i below _ _ key script queue hq
      have items := WorkQueue.items_of_next? hq
      obtain rfl := Option.some.inj h
      have ht : m.told = [.called (key, script)] := by simp only [told, hf, hq]
      exact {
        desk := by simp [ht, Desk.after, items]
        allowed := ht ▸ .single (by simp [Desk.Allows, items])
        nested := fun whole => .working key script [] ((hf ▸ whole).recount (count + 1))
        begun := by
          simp only [Machine.begun, ht, hf, calls, Event.called?, Frame.key?, List.filterMap_cons,
            List.filterMap_nil, List.map_cons, List.map_nil, List.append_assoc]
          exact List.Perm.append_left _ (List.perm_append_singleton _ _).symm }
    · rename_i key rest answers below hq
      obtain rfl := Option.some.inj h
      have ht : m.told = [.answered .run (.number count)] := by simp only [told, hf, hq]
      exact {
        desk := by simp [ht, Desk.after, Desk.apply]
        allowed := ht ▸ .single (WorkQueue.next?_eq_none.mp hq)
        nested := fun whole => by
          rw [hf] at whole
          cases whole with
          | running _ work => exact work.rework _ _
        begun := by
          simp [Machine.begun, ht, hf, calls, Event.called?, Frame.key?, List.filterMap_cons] }
    · cases h
  · rename_i key answers below hf
    obtain rfl := Option.some.inj h
    have ht : m.told = [] := by simp only [told, hf]
    exact {
      desk := by simp [ht]
      allowed := ht ▸ .nil
      nested := fun whole => by
        rw [hf] at whole
        cases whole with
        | working _ _ _ run => exact run
      begun := by
        simp [Machine.begun, ht, hf, calls, Frame.key?] }
  · rename_i key rest answers below hf
    obtain rfl := Option.some.inj h
    have ht : m.told = [] := by simp only [told, hf]
    exact {
      desk := by simp [ht]
      allowed := ht ▸ .nil
      nested := fun whole => .running 0 ((hf ▸ whole).rework _ _)
      begun := by
        simp [Machine.begun, ht, hf, calls, Frame.key?, List.filterMap_cons] }
  · rename_i key c rest answers below notRun hf
    obtain rfl := Option.some.inj h
    have ht : m.told = [.answered c (m.desk.apply c).1] := by
      cases c <;> first | exact (notRun rfl).elim | simp only [told, hf]
    have allowed : m.desk.Allows (.answered c (m.desk.apply c).1) := by
      cases c <;> first | exact (notRun rfl).elim | rfl
    exact {
      desk := by simp [ht, Desk.after]
      allowed := ht ▸ .single allowed
      nested := fun whole => (hf ▸ whole).rework _ _
      begun := by
        simp [Machine.begun, ht, hf, calls, Event.called?, Frame.key?, List.filterMap_cons] }
  · cases h

theorem stopped (h : m.advance = none) (whole : Nested m.frames) :
    m.desk.queue.items = [] ∧ ∃ count, m.frames = [.draining count] := by
  unfold advance at h
  split at h
  · rename_i count below hf
    split at h
    · cases h
    · cases h
    · rename_i hq alone
      refine ⟨WorkQueue.next?_eq_none.mp hq, count, ?_⟩
      rw [hf] at whole
      cases whole with
      | outermost => exact hf
      | running => exact (alone _ _ _ _ rfl).elim
  · cases h
  · cases h
  · cases h
  · rename_i hf
    rw [hf] at whole
    cases whole

structure Ends (m : Machine) : Prop where
  desk : m.run.desk = m.events.foldl Desk.after m.desk
  allowed : m.desk.AllowsAll m.events
  emptied : m.run.desk.queue.items = []
  fired : (m.run.fired.map Prod.fst).Perm (m.begun ++ (calls m.events).map Prod.fst)

theorem ends_run (m : Machine) (whole : Nested m.frames) : Ends m := by
  fun_induction run m with
  | case1 m last =>
    have none_told : m.events = [] := by rw [events, last]
    have ended : m.run = m := by rw [run, last]
    obtain ⟨emptied, count, frames⟩ := stopped last whole
    constructor
    · rw [ended, none_told]
      rfl
    · exact none_told ▸ .nil
    · rw [ended]
      exact emptied
    · simp [ended, none_told, begun, frames, Frame.key?, calls, List.filterMap_cons]
  | case2 m n h ih =>
    have told_first : m.events = m.told ++ n.events := by rw [events, h]
    have goes_on : m.run = n.run := by rw [run, h]
    have first := advance_tells h
    have others := ih (first.nested whole)
    constructor
    · rw [goes_on, others.desk, told_first, List.foldl_append, first.desk]
    · exact told_first ▸ first.allowed.append (first.desk ▸ others.allowed)
    · exact goes_on ▸ others.emptied
    · rw [goes_on, told_first, calls, List.filterMap_append, List.map_append, ← List.append_assoc]
      exact others.fired.trans (first.begun.append_right _)

end Machine

namespace Desk

structure Tells (d : Desk) (c : Command) : Prop where
  desk : (d.perform c).2.2 = (d.events c).foldl after d
  allowed : d.AllowsAll (d.events c)
  fired : ((d.perform c).2.1.map Prod.fst).Perm ((calls (d.events c)).map Prod.fst)

theorem tells_perform (d : Desk) (c : Command) : d.Tells c := by
  by_cases isRun : c = .run
  · subst isRun
    have run := d.entering.ends_run (.outermost 0)
    have told : d.events .run = d.entering.events ++ [.answered .run (d.perform .run).1] := rfl
    constructor
    · rw [told, List.foldl_append]
      exact run.desk
    · exact told ▸ run.allowed.append (.single (run.desk ▸ run.emptied))
    · have fired : (d.perform .run).2.1 = d.entering.run.fired := rfl
      rw [fired, told, calls, List.filterMap_append]
      simpa [Machine.begun, entering, Frame.key?, Event.called?, calls, List.filterMap_cons]
        using run.fired
  · cases c <;> first | exact (isRun rfl).elim | exact ⟨rfl, .single rfl, .refl _⟩

end Desk

/-- What is told of a script is what happened: it leads to the desk there is, is allowed at every
moment, and calls those who fired. -/
structure Telling (capacity : Nat) (script : List Command) : Prop where
  desk : (history capacity script).2.2 = deskAt capacity (history capacity script).1
  allowed : (Desk.ofCapacity capacity).AllowsAll (history capacity script).1
  fired : ((history capacity script).2.1.map Prod.fst).Perm
    ((calls (history capacity script).1).map Prod.fst)

theorem history_append_singleton (capacity : Nat) (script : List Command) (c : Command) :
    history capacity (script ++ [c]) =
      ((history capacity script).1 ++ (history capacity script).2.2.events c,
        (history capacity script).2.1 ++ ((history capacity script).2.2.perform c).2.1,
        ((history capacity script).2.2.perform c).2.2) := by
  simp [history]

theorem telling (capacity : Nat) (script : List Command) : Telling capacity script := by
  induction script using List.reverseRecOn with
  | nil => exact ⟨rfl, .nil, .refl _⟩
  | append_singleton script c ih =>
    have next := (history capacity script).2.2.tells_perform c
    have here := ih.desk
    have allowed := next.allowed
    rw [here] at allowed
    constructor
    · rw [history_append_singleton, deskAt, List.foldl_append]
      exact next.desk.trans (by rw [← deskAt, ← here])
    · rw [history_append_singleton, here]
      exact ih.allowed.append allowed
    · rw [history_append_singleton, calls, List.filterMap_append, List.map_append, List.map_append]
      exact ih.fired.append next.fired

end NetlinkSocket.Notifier

import NetlinkSocket.Notifier
import NetlinkSocket.WorkQueue

/-!
Workers that use the notifier they were registered with. A worker performs a script of the same
commands that its owner has, so that a run inside a script suspends the script and the runs
around it. The stack of what is suspended is explicit; a run ends because every script is
performed at most once. A command that could not be read takes its place in a script and is
answered by the reason.
-/

namespace NetlinkSocket.Notifier

inductive Command
  | register (subject : ConnectionId) (script : List Command)
  | withdraw (key : Nat)
  | signal (subject : ConnectionId)
  | count
  | describe
  | run
  | unreadable (reason : String)
  deriving Inhabited

inductive Answer
  | key (key : Nat)
  | found (wasPending : Bool)
  | number (n : Nat)
  | text (s : String)
  | failed (failure : Failure)
  | unreadable (reason : String)
  deriving DecidableEq, Repr

namespace Command

mutual

def size : Command → Nat
  | register _ script => 1 + sizeAll script
  | _ => 1

def sizeAll : List Command → Nat
  | [] => 0
  | c :: rest => size c + sizeAll rest

end

end Command

abbrev Job := Nat × List Command

structure Desk where
  notifier : Notifier (List Command)
  queue : WorkQueue Job

namespace Desk

def ofCapacity (capacity : Nat) : Desk := ⟨Notifier.ofCapacity capacity, .empty⟩

def pendingSize (rs : List (Registration (List Command))) : Nat :=
  match rs with
  | [] => 0
  | r :: rest => 4 * Command.sizeAll r.worker + 3 + pendingSize rest

def queuedSize (jobs : List Job) : Nat :=
  match jobs with
  | [] => 0
  | j :: rest => 4 * Command.sizeAll j.2 + 3 + queuedSize rest

def weight (d : Desk) : Nat :=
  pendingSize d.notifier.pending + queuedSize d.queue.items

def apply (d : Desk) : Command → Answer × Desk
  | .register subject script =>
    match d.notifier.register subject script with
    | (.error f, notifier) => (.failed f, { d with notifier })
    | (.ok key, notifier) => (.key key, { d with notifier })
  | .withdraw key =>
    (.found (d.notifier.isPending key), { d with notifier := d.notifier.withdraw key })
  | .signal subject =>
    let (fired, notifier) := d.notifier.signal subject
    (.number fired.length,
      { notifier, queue := d.queue.submitAll (fired.map fun r => (r.key, r.worker)) })
  | .count => (.number d.notifier.count, d)
  | .describe => (.text d.notifier.text, d)
  | .run => (.number 0, d)
  | .unreadable reason => (.unreadable reason, d)

theorem pendingSize_append (xs ys : List (Registration (List Command))) :
    pendingSize (xs ++ ys) = pendingSize xs + pendingSize ys := by
  induction xs with
  | nil => simp [pendingSize]
  | cons x xs ih => simp only [List.cons_append, pendingSize, ih]; omega

theorem queuedSize_append (xs ys : List Job) :
    queuedSize (xs ++ ys) = queuedSize xs + queuedSize ys := by
  induction xs with
  | nil => simp [queuedSize]
  | cons x xs ih => simp only [List.cons_append, queuedSize, ih]; omega

theorem pendingSize_filter (p : Registration (List Command) → Bool)
    (rs : List (Registration (List Command))) : pendingSize (rs.filter p) ≤ pendingSize rs := by
  induction rs with
  | nil => simp
  | cons r rs ih =>
    simp only [List.filter_cons]
    split <;> simp only [pendingSize] <;> omega

theorem queuedSize_map (rs : List (Registration (List Command))) :
    queuedSize (rs.map fun r => (r.key, r.worker)) ≤ pendingSize rs := by
  induction rs with
  | nil => simp [queuedSize]
  | cons r rs ih => simp only [List.map_cons, queuedSize, pendingSize]; omega

theorem pendingSize_filter_add_filter (p : Registration (List Command) → Bool)
    (rs : List (Registration (List Command))) :
    pendingSize (rs.filter p) + pendingSize (rs.filter fun r => !p r) = pendingSize rs := by
  induction rs with
  | nil => simp [pendingSize]
  | cons r rs ih =>
    simp only [List.filter_cons]
    cases p r <;> simp [pendingSize] <;> omega

theorem weight_apply (d : Desk) (c : Command) :
    (d.apply c).2.weight < d.weight + 4 * c.size := by
  cases c with
  | register subject script =>
    by_cases full : d.notifier.capacity ≤ d.notifier.pending.length
    · simp only [apply, Notifier.register, full, if_true, weight, Command.size]
      omega
    · simp only [apply, Notifier.register, full, if_false, weight, pendingSize_append, pendingSize,
        Command.size]
      omega
  | withdraw key =>
    have := pendingSize_filter (fun r => r.key != key) d.notifier.pending
    simp only [apply, Notifier.withdraw, weight, Command.size]
    omega
  | signal subject =>
    have h := pendingSize_filter_add_filter (fun r => decide (r.subject = subject))
      d.notifier.pending
    have hq := queuedSize_map (d.notifier.pending.filter fun r => decide (r.subject = subject))
    simp only [apply, Notifier.signal, weight, WorkQueue.submitAll, queuedSize_append,
      Command.size, ne_eq, decide_not] at *
    omega
  | count => simp [apply, Command.size]
  | describe => simp [apply, Command.size]
  | run => simp [apply, Command.size]
  | unreadable reason => simp [apply, Command.size]

end Desk

inductive Frame
  | draining (count : Nat)
  | performing (key : Nat) (rest : List Command) (answers : List Answer)

def Frame.weight : Frame → Nat
  | draining _ => 1
  | performing _ rest _ => 4 * Command.sizeAll rest + 2

abbrev Fired := Nat × List Answer

structure Machine where
  desk : Desk
  frames : List Frame
  fired : List Fired

namespace Machine

/-- One step of the innermost run or script; none once the outermost run finds the queue
empty. -/
def advance (m : Machine) : Option Machine :=
  match m.frames with
  | .draining count :: below =>
    match m.desk.queue.next?, below with
    | some ((key, script), queue), _ =>
      some { m with
        desk := { m.desk with queue }
        frames := .performing key script [] :: .draining (count + 1) :: below }
    | none, .performing key rest answers :: below =>
      some { m with frames := .performing key rest (answers ++ [.number count]) :: below }
    | none, _ => none
  | .performing key [] answers :: below =>
    some { m with frames := below, fired := m.fired ++ [(key, answers)] }
  | .performing key (.run :: rest) answers :: below =>
    some { m with frames := .draining 0 :: .performing key rest answers :: below }
  | .performing key (c :: rest) answers :: below =>
    let applied := m.desk.apply c
    some { m with
      desk := applied.2
      frames := .performing key rest (answers ++ [applied.1]) :: below }
  | [] => none

def stackWeight : List Frame → Nat
  | [] => 0
  | frame :: below => frame.weight + stackWeight below

def weight (m : Machine) : Nat :=
  m.desk.weight + stackWeight m.frames

theorem weight_advance {m n : Machine} (h : m.advance = some n) : n.weight < m.weight := by
  unfold advance at h
  split at h
  · rename_i count below hf
    split at h
    · rename_i key script queue _ hq
      have hi := WorkQueue.items_of_next? hq
      cases h
      simp only [weight, stackWeight, Desk.weight, hf, hi, Frame.weight,
        Desk.queuedSize]
      omega
    · rename_i hq
      cases h
      simp only [weight, stackWeight, hf, Frame.weight]
      omega
    · cases h
  · rename_i hf
    cases h
    simp only [weight, stackWeight, hf, Frame.weight]
    omega
  · rename_i hf
    cases h
    simp only [weight, stackWeight, hf, Frame.weight, Command.sizeAll, Command.size]
    omega
  · rename_i key c rest answers below _ hf
    have hc := Desk.weight_apply m.desk c
    obtain rfl := Option.some.inj h
    simp only [weight, stackWeight, hf, Frame.weight, Command.sizeAll]
    omega
  · cases h

def run (m : Machine) : Machine :=
  match _h : m.advance with
  | none => m
  | some n => run n
termination_by m.weight
decreasing_by exact weight_advance _h

def count (m : Machine) : Nat :=
  match m.frames with
  | .draining count :: _ => count
  | _ => 0

end Machine

def Desk.drain (d : Desk) : Nat × List Fired × Desk :=
  let m := Machine.run ⟨d, [.draining 0], []⟩
  (m.count, m.fired, m.desk)

def Desk.perform (d : Desk) (c : Command) : Answer × List Fired × Desk :=
  match c with
  | .run =>
    let (count, fired, d) := d.drain
    (.number count, fired, d)
  | c =>
    let (answer, d) := d.apply c
    (answer, [], d)

end NetlinkSocket.Notifier

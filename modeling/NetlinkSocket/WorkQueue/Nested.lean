import NetlinkSocket.WorkQueue

/-!
Work items that submit further items and may drain the queue they run from. A drain inside an
item suspends the drains around it, so a run keeps a stack of them; it ends because an item
leaves behind less than itself.
-/

namespace NetlinkSocket.WorkQueue

/-- An item submits its children in order and then, if it drains, runs what is pending. -/
inductive Item (α : Type)
  | mk (label : α) (children : List (Item α)) (drains : Bool)
  deriving Inhabited

namespace Item

variable {α : Type}

def label : Item α → α
  | mk label _ _ => label

def children : Item α → List (Item α)
  | mk _ children _ => children

def drains : Item α → Bool
  | mk _ _ drains => drains

mutual

def size : Item α → Nat
  | mk _ children _ => 1 + sizeAll children

def sizeAll : List (Item α) → Nat
  | [] => 0
  | item :: rest => size item + sizeAll rest

end

theorem size_eq (item : Item α) : item.size = 1 + sizeAll item.children := by
  cases item; rw [size, children]

theorem sizeAll_append (xs ys : List (Item α)) : sizeAll (xs ++ ys) = sizeAll xs + sizeAll ys := by
  induction xs with
  | nil => simp [sizeAll]
  | cons x xs ih => simp only [List.cons_append, sizeAll, ih]; omega

end Item

inductive Note (α : Type)
  | started (label : α)
  | drained (label : α) (count : Nat) (pending : Bool)
  deriving DecidableEq, Repr

inductive Frame (α : Type)
  | draining (count : Nat)
  | waiting (label : α)
  deriving DecidableEq, Repr

structure Machine (α : Type) where
  queue : WorkQueue (Item α)
  frames : List (Frame α)
  notes : List (Note α)

namespace Machine

variable {α : Type}

/-- One step of the innermost drain; none once the outermost drain finds the queue empty. -/
def advance (m : Machine α) : Option (Machine α) :=
  match m.frames, m.queue.next? with
  | .draining count :: below, some (item, rest) =>
    let frames := .draining (count + 1) :: below
    some
      { queue := rest.submitAll item.children
        frames := if item.drains then .draining 0 :: .waiting item.label :: frames else frames
        notes := m.notes ++ [.started item.label] }
  | .draining count :: .waiting label :: below, none =>
    some { m with frames := below, notes := m.notes ++ [.drained label count m.queue.hasPending] }
  | _, _ => none

def weight (m : Machine α) : Nat :=
  3 * Item.sizeAll m.queue.items + m.frames.length

theorem weight_advance {m n : Machine α} (h : m.advance = some n) : n.weight < m.weight := by
  unfold advance at h
  split at h
  · rename_i count below item rest hf hq
    have hi := items_of_next? hq
    have hs := item.size_eq
    cases h
    simp only [weight, hf, hi, submitAll, Item.sizeAll, Item.sizeAll_append]
    split <;> simp only [List.length_cons] <;> omega
  · rename_i hf hq
    cases h
    simp only [weight, hf, List.length_cons]
    omega
  · cases h

def run (m : Machine α) : Machine α :=
  match _h : m.advance with
  | none => m
  | some n => run n
termination_by m.weight
decreasing_by exact weight_advance _h

def count (m : Machine α) : Nat :=
  match m.frames with
  | .draining count :: _ => count
  | _ => 0

end Machine

def drain {α : Type} (q : WorkQueue (Item α)) : Nat × List (Note α) × WorkQueue (Item α) :=
  let m := Machine.run ⟨q, [.draining 0], []⟩
  (m.count, m.notes, m.queue)

end NetlinkSocket.WorkQueue

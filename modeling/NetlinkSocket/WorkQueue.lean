/-!
Deferred work in the order of its submission.
-/

namespace NetlinkSocket

structure WorkQueue (ι : Type) where
  items : List ι

namespace WorkQueue

variable {ι : Type}

def empty : WorkQueue ι := ⟨[]⟩

instance : Inhabited (WorkQueue ι) := ⟨empty⟩

def submit (q : WorkQueue ι) (item : ι) : WorkQueue ι :=
  ⟨q.items ++ [item]⟩

def submitAll (q : WorkQueue ι) (items : List ι) : WorkQueue ι :=
  ⟨q.items ++ items⟩

def next? (q : WorkQueue ι) : Option (ι × WorkQueue ι) :=
  match q.items with
  | [] => none
  | item :: rest => some (item, ⟨rest⟩)

def hasPending (q : WorkQueue ι) : Bool :=
  !q.items.isEmpty

@[simp] theorem items_submitAll (q : WorkQueue ι) (items : List ι) :
    (q.submitAll items).items = q.items ++ items := rfl

theorem items_of_next? {q rest : WorkQueue ι} {item : ι} (h : q.next? = some (item, rest)) :
    q.items = item :: rest.items := by
  unfold next? at h
  split at h
  · cases h
  · cases h; assumption

theorem next?_eq_none {q : WorkQueue ι} : q.next? = none ↔ q.items = [] := by
  unfold next?
  split <;> simp_all

end WorkQueue

end NetlinkSocket

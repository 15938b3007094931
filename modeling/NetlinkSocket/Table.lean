/-!
Finite maps as lists of entries, at most one for each key.
-/

namespace NetlinkSocket

structure Table (κ α : Type) where
  entries : List (κ × α)

namespace Table

variable {κ α : Type}

def empty : Table κ α := ⟨[]⟩

instance : Inhabited (Table κ α) := ⟨empty⟩

variable [DecidableEq κ]

def get? (t : Table κ α) (k : κ) : Option α :=
  (t.entries.find? fun e => e.1 = k).map Prod.snd

def has (t : Table κ α) (k : κ) : Bool :=
  (t.get? k).isSome

def erase (t : Table κ α) (k : κ) : Table κ α :=
  ⟨t.entries.filter fun e => e.1 ≠ k⟩

/-- An entry takes the place of the one with its key, or else the last place. -/
def put (k : κ) (a : α) : List (κ × α) → List (κ × α)
  | [] => [(k, a)]
  | e :: es => if e.1 = k then (k, a) :: es else e :: put k a es

def insert (t : Table κ α) (k : κ) (a : α) : Table κ α :=
  ⟨put k a t.entries⟩

@[simp] theorem get?_empty (k : κ) : (empty : Table κ α).get? k = none := rfl

theorem find?_put (k : κ) (a : α) (es : List (κ × α)) (l : κ) :
    (put k a es).find? (fun e => e.1 = l) =
      if l = k then some (k, a) else es.find? fun e => e.1 = l := by
  induction es with
  | nil => by_cases h : l = k <;> simp [put, h, eq_comm]
  | cons e es ih =>
    by_cases key : e.1 = k <;> by_cases h : l = k <;>
      simp_all [put, List.find?_cons, eq_comm (a := k)]

@[simp] theorem get?_insert_self (t : Table κ α) (k : κ) (a : α) :
    (t.insert k a).get? k = some a := by
  simp [get?, insert, find?_put]

@[simp] theorem get?_erase_self (t : Table κ α) (k : κ) : (t.erase k).get? k = none := by
  simp [get?, erase]

theorem get?_erase_of_ne (t : Table κ α) {k l : κ} (h : l ≠ k) :
    (t.erase k).get? l = t.get? l := by
  simp only [get?, erase, List.find?_filter]
  congr 2
  funext e
  by_cases he : e.1 = l
  · subst he; simp [h]
  · simp [he]

theorem get?_insert_of_ne (t : Table κ α) {k l : κ} (h : l ≠ k) (a : α) :
    (t.insert k a).get? l = t.get? l := by
  simp [get?, insert, find?_put, h]

def ofList (entries : List (κ × α)) : Table κ α :=
  entries.foldl (fun t e => t.insert e.1 e.2) empty

end Table

end NetlinkSocket

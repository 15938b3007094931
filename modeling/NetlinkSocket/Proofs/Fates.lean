import Mathlib.Data.List.Nodup
import NetlinkSocket.Proofs.Scripts

/-!
What becomes of a registration: it is pending, withdrawn, queued or called, and never two of
them. One step of a desk keeps the account of all keys given out, and so does every run.
-/

namespace NetlinkSocket.Notifier

namespace Event

def issued? : Event → Option Nat
  | answered (.register _ _) (.key key) => some key
  | _ => none

def withdrawn? : Event → Option Nat
  | answered (.withdraw key) (.found true) => some key
  | _ => none

def isRegister : Event → Bool
  | answered (.register _ _) _ => true
  | _ => false

end Event

def issued (es : List Event) : List Nat :=
  es.filterMap Event.issued?

def withdrawn (es : List Event) : List Nat :=
  es.filterMap Event.withdrawn?

section

variable {xs ys : List Event}

@[simp] theorem withdrawn_append : withdrawn (xs ++ ys) = withdrawn xs ++ withdrawn ys :=
  List.filterMap_append

@[simp] theorem calls_append : calls (xs ++ ys) = calls xs ++ calls ys :=
  List.filterMap_append

end

namespace Desk

def pendingKeys (d : Desk) : List Nat :=
  d.notifier.pending.map fun r => r.key

def queuedKeys (d : Desk) : List Nat :=
  d.queue.items.map Prod.fst

variable {d : Desk}

theorem isPending_iff (d : Desk) (key : Nat) :
    d.notifier.isPending key = true ↔ key ∈ d.pendingKeys := by
  simp [isPending, pendingKeys]

theorem after_withdraw_absent {key : Nat} {a : Answer} (h : d.notifier.isPending key = false) :
    d.after (.answered (.withdraw key) a) = d := by
  have others : d.notifier.pending.filter (fun r => r.key != key) = d.notifier.pending := by
    simpa [isPending, bne_iff_ne] using h
  simp only [after, apply, Notifier.withdraw, others]

end Desk

def Signalled (capacity : Nat) (es : List Event) (job : Job) : Prop :=
  ∃ xs subject answer ys, es = xs ++ .answered (.signal subject) answer :: ys ∧
    ⟨job.1, subject, job.2⟩ ∈ (deskAt capacity xs).notifier.pending

theorem Signalled.later {capacity : Nat} {xs : List Event} {job : Job}
    (h : Signalled capacity xs job) (ys : List Event) : Signalled capacity (xs ++ ys) job := by
  obtain ⟨as, subject, answer, bs, rfl, pending⟩ := h
  exact ⟨as, subject, answer, bs ++ ys, by simp, pending⟩

/-- What holds between a desk and what was told before. -/
structure Standing (capacity : Nat) (es : List Event) (d : Desk) : Prop where
  desk : deskAt capacity es = d
  slots : d.notifier.capacity = capacity
  room : d.notifier.pending.length ≤ capacity
  next : d.notifier.nextKey = (issued es).length + 1
  numbered : issued es = List.range' 1 (issued es).length
  bounded : (issued es).length ≤ es.countP Event.isRegister
  ordered : d.pendingKeys.Pairwise (· < ·)
  places : (d.pendingKeys ++ d.queuedKeys ++ withdrawn es ++ (calls es).map Prod.fst).Perm
    (issued es)
  registered : ∀ r ∈ d.notifier.pending,
    .answered (.register r.subject r.worker) (.key r.key) ∈ es
  signalled : ∀ job ∈ d.queue.items, Signalled capacity es job

namespace Standing

variable {capacity : Nat} {es : List Event} {d : Desk}

theorem start (capacity : Nat) : Standing capacity [] (.ofCapacity capacity) where
  desk := rfl
  slots := rfl
  room := Nat.zero_le capacity
  next := rfl
  numbered := rfl
  bounded := Nat.le_refl 0
  ordered := .nil
  places := .refl []
  registered _ hr := absurd hr List.not_mem_nil
  signalled _ hj := absurd hj List.not_mem_nil

theorem key_lt (s : Standing capacity es d) {r : Registration (List Command)}
    (h : r ∈ d.notifier.pending) : r.key < d.notifier.nextKey := by
  have pending : r.key ∈ d.pendingKeys := List.mem_map_of_mem h
  have mem : r.key ∈ issued es := s.places.subset (by simp [pending])
  rw [s.numbered, List.mem_range'_1] at mem
  rw [s.next]
  omega

theorem rearrange (s : Standing capacity es d) {e : Event} (unissued : e.issued? = none)
    (slots : (d.after e).notifier.capacity = d.notifier.capacity)
    (next : (d.after e).notifier.nextKey = d.notifier.nextKey)
    (kept : (d.after e).notifier.pending.Sublist d.notifier.pending)
    (places : ((d.after e).pendingKeys ++ (d.after e).queuedKeys ++ withdrawn (es ++ [e]) ++
      (calls (es ++ [e])).map Prod.fst).Perm
        (d.pendingKeys ++ d.queuedKeys ++ withdrawn es ++ (calls es).map Prod.fst))
    (queued : ∀ job ∈ (d.after e).queue.items,
      job ∈ d.queue.items ∨ Signalled capacity (es ++ [e]) job) :
    Standing capacity (es ++ [e]) (d.after e) := by
  have issues : issued (es ++ [e]) = issued es := by simp [issued, unissued]
  exact {
    desk := by rw [deskAt_append_singleton, s.desk]
    slots := slots.trans s.slots
    room := Nat.le_trans kept.length_le s.room
    next := by rw [next, issues, s.next]
    numbered := issues ▸ s.numbered
    bounded := by
      rw [issues, List.countP_append]
      exact Nat.le_add_right_of_le s.bounded
    ordered := s.ordered.sublist (kept.map _)
    places := issues ▸ places.trans s.places
    registered := fun r hr => List.mem_append_left _ (s.registered r (kept.subset hr))
    signalled := fun job hj => (queued job hj).elim (fun old => (s.signalled job old).later _) id }

theorem idle (s : Standing capacity es d) {e : Event} (desk : d.after e = d)
    (hi : e.issued? = none) (hw : e.withdrawn? = none) (hc : e.called? = none) :
    Standing capacity (es ++ [e]) (d.after e) := by
  have withdraws : withdrawn (es ++ [e]) = withdrawn es := by simp [withdrawn, hw]
  have called : calls (es ++ [e]) = calls es := by simp [calls, hc]
  refine s.rearrange hi ?_ ?_ ?_ ?_ ?_ <;> rw [desk]
  · rw [withdraws, called]
  · exact fun job => .inl

theorem register (s : Standing capacity es d) {subject : ConnectionId} {script : List Command}
    {a : Answer} (allowed : d.Allows (.answered (.register subject script) a)) :
    Standing capacity (es ++ [.answered (.register subject script) a])
      (d.after (.answered (.register subject script) a)) := by
  by_cases full : d.notifier.capacity ≤ d.notifier.pending.length
  · obtain rfl : a = .failed .slotsExhausted := by
      simpa [Desk.Allows, Desk.apply, Notifier.register, full] using allowed
    exact s.idle (by simp [Desk.after, Desk.apply, Notifier.register, full]) rfl rfl rfl
  · obtain rfl : a = .key d.notifier.nextKey := by
      simpa [Desk.Allows, Desk.apply, Notifier.register, full] using allowed
    have later : d.after (.answered (.register subject script) (.key d.notifier.nextKey)) =
        { d with
          notifier := { d.notifier with
            nextKey := d.notifier.nextKey + 1
            pending := d.notifier.pending ++ [⟨d.notifier.nextKey, subject, script⟩] } } := by
      simp [Desk.after, Desk.apply, Notifier.register, full]
    have issues : issued (es ++ [.answered (.register subject script) (.key d.notifier.nextKey)]) =
        issued es ++ [d.notifier.nextKey] := by
      simp [issued, Event.issued?]
    have slots := s.slots
    constructor
    · rw [deskAt_append_singleton, s.desk]
    · rw [later, slots]
    · rw [later, List.length_append, List.length_singleton]
      omega
    · rw [later, issues, List.length_append, s.next, List.length_singleton]
    · rw [issues, List.length_append, List.length_singleton, List.range'_1_concat, ← s.numbered,
        s.next, Nat.add_comm]
    · rw [issues, List.length_append, List.countP_append]
      exact Nat.add_le_add s.bounded (Nat.le_refl 1)
    · rw [later, Desk.pendingKeys, List.map_append]
      refine List.pairwise_append.mpr ⟨s.ordered, by simp, ?_⟩
      simpa using fun r hr => s.key_lt hr
    · rw [later, issues, List.perm_iff_count]
      intro key
      have moved := List.perm_iff_count.mp s.places key
      simp only [Desk.pendingKeys, Desk.queuedKeys, withdrawn_append, calls_append,
        List.map_append, List.count_append] at moved ⊢
      simp [withdrawn, calls, List.filterMap_cons, Event.withdrawn?, Event.called?] at moved ⊢
      omega
    · rw [later]
      intro r hr
      obtain hr | hr := List.mem_append.mp hr
      · exact List.mem_append_left _ (s.registered r hr)
      · obtain rfl := List.mem_singleton.mp hr
        simp
    · rw [later]
      exact fun job hj => (s.signalled job hj).later _

theorem withdraw (s : Standing capacity es d) {key : Nat} {a : Answer}
    (allowed : d.Allows (.answered (.withdraw key) a)) :
    Standing capacity (es ++ [.answered (.withdraw key) a])
      (d.after (.answered (.withdraw key) a)) := by
  obtain rfl : a = .found (d.notifier.isPending key) := allowed
  cases pending : d.notifier.isPending key with
  | false => exact s.idle (Desk.after_withdraw_absent pending) rfl rfl rfl
  | true =>
    have mem : key ∈ d.pendingKeys := (d.isPending_iff key).mp pending
    have keys : (d.after (.answered (.withdraw key) (.found true))).pendingKeys =
        d.pendingKeys.erase key := by
      rw [List.Nodup.erase_eq_filter (s.ordered.imp Nat.ne_of_lt)]
      simp [Desk.pendingKeys, Desk.after, Desk.apply, Notifier.withdraw, List.filter_map,
        Function.comp_def]
    refine s.rearrange rfl rfl rfl List.filter_sublist ?_ fun job => .inl
    rw [keys, List.perm_iff_count]
    intro k
    have moved := List.perm_iff_count.mp (List.perm_cons_erase mem) k
    simp only [Desk.queuedKeys, withdrawn_append, calls_append, List.map_append,
      List.count_append] at moved ⊢
    simp [withdrawn, calls, List.filterMap_cons, Event.withdrawn?, Event.called?, Desk.after,
      Desk.apply, List.count_cons] at moved ⊢
    omega

theorem signal (s : Standing capacity es d) (subject : ConnectionId) (a : Answer) :
    Standing capacity (es ++ [.answered (.signal subject) a])
      (d.after (.answered (.signal subject) a)) := by
  refine s.rearrange rfl rfl rfl List.filter_sublist ?_ ?_
  · rw [List.perm_iff_count]
    intro k
    have split := List.perm_iff_count.mp ((List.filter_append_perm
      (fun r : Registration (List Command) => decide (r.subject = subject))
      d.notifier.pending).map fun r => r.key) k
    simp only [Desk.pendingKeys, Desk.queuedKeys, withdrawn_append, calls_append,
      List.map_append, List.count_append] at split ⊢
    simp [withdrawn, calls, List.filterMap_cons, Event.withdrawn?, Event.called?, Desk.after,
      Desk.apply, Notifier.signal, Function.comp_def] at split ⊢
    omega
  · intro job hj
    obtain old | fired := List.mem_append.mp hj
    · exact .inl old
    · obtain ⟨r, hr, rfl⟩ := List.mem_map.mp fired
      obtain ⟨pending, rfl⟩ := mem_fired.mp hr
      exact .inr ⟨es, r.subject, a, [], rfl, s.desk ▸ pending⟩

theorem call (s : Standing capacity es d) {job : Job} (allowed : d.Allows (.called job)) :
    Standing capacity (es ++ [.called job]) (d.after (.called job)) := by
  obtain ⟨queue, items⟩ : ∃ queue, d.queue.items = job :: queue := by
    cases items : d.queue.items with
    | nil => simp [Desk.Allows, items] at allowed
    | cons first queue =>
      obtain rfl : first = job := by simpa [Desk.Allows, items] using allowed
      exact ⟨queue, rfl⟩
  refine s.rearrange rfl rfl rfl (List.Sublist.refl _) ?_ fun other hj =>
    .inl (List.mem_of_mem_tail hj)
  rw [List.perm_iff_count]
  intro k
  simp only [Desk.pendingKeys, Desk.queuedKeys, withdrawn_append, calls_append, List.map_append,
    List.count_append]
  simp [withdrawn, calls, List.filterMap_cons, Event.withdrawn?, Event.called?, Desk.after, items,
    List.count_cons]
  omega

theorem step (s : Standing capacity es d) {e : Event} (allowed : d.Allows e) :
    Standing capacity (es ++ [e]) (d.after e) := by
  cases e with
  | called job => exact s.call allowed
  | answered c a =>
    cases c with
    | register subject script => exact s.register allowed
    | withdraw key => exact s.withdraw allowed
    | signal subject => exact s.signal subject a
    | count => exact s.idle rfl rfl rfl rfl
    | describe => exact s.idle rfl rfl rfl rfl
    | run => exact s.idle rfl rfl rfl rfl
    | unreadable reason => exact s.idle rfl rfl rfl rfl

theorem of_allowed (h : (Desk.ofCapacity capacity).AllowsAll es) :
    Standing capacity es (deskAt capacity es) := by
  induction es using List.reverseRecOn with
  | nil => exact .start capacity
  | append_singleton es e ih =>
    rw [deskAt_append_singleton]
    exact (ih h.before).step (h es e [] rfl)

end Standing

theorem Desk.AllowsAll.queue {d : Desk} {es : List Event} (h : d.AllowsAll es) :
    d.queue.items <+: calls es ++ (es.foldl after d).queue.items := by
  induction es using List.reverseRecOn with
  | nil => exact List.prefix_refl _
  | append_singleton es e ih =>
    refine (ih h.before).trans ?_
    have allowed := h es e [] rfl
    rw [calls_append, List.foldl_append, List.append_assoc]
    refine (List.prefix_append_right_inj _).mpr ?_
    cases e with
    | called job =>
      cases items : (es.foldl after d).queue.items with
      | nil => simp [Allows, items] at allowed
      | cons first queue =>
        obtain rfl : first = job := by simpa [Allows, items] using allowed
        simp [calls, Event.called?, after, items]
    | answered c a =>
      cases c with
      | register subject script =>
        by_cases full : (es.foldl after d).notifier.capacity ≤
            (es.foldl after d).notifier.pending.length <;>
          simp [calls, List.filterMap_cons, Event.called?, after, apply, Notifier.register, full]
      | _ => simp [calls, List.filterMap_cons, Event.called?, after, apply]

structure Fates (capacity : Nat) (es : List Event) : Prop where
  numbered : ∀ xs, xs <+: es → issued xs = List.range' 1 (issued xs).length ∧
    (issued xs).length ≤ xs.countP Event.isRegister
  /-- The keys given out are those pending, queued, withdrawn and called, each key once. -/
  places : ∀ xs, xs <+: es →
    let keys := (deskAt capacity xs).pendingKeys ++ (deskAt capacity xs).queuedKeys ++
      withdrawn xs ++ (calls xs).map Prod.fst
    keys.Nodup ∧ keys.Perm (issued xs)
  registers : ∀ xs subject script a ys,
    es = xs ++ .answered (.register subject script) a :: ys →
      let d := deskAt capacity xs
      let later := deskAt capacity (xs ++ [.answered (.register subject script) a])
      d.notifier.pending.length = capacity ∧
        (∃ failure : Failure, failure.errno = .outOfMemory ∧ a = .failed failure) ∧ later = d ∨
      d.notifier.pending.length < capacity ∧ a = .key ((issued xs).length + 1) ∧
        later.notifier.pending = d.notifier.pending ++ [⟨(issued xs).length + 1, subject, script⟩]
  withdraws : ∀ xs key a ys, es = xs ++ .answered (.withdraw key) a :: ys →
    let d := deskAt capacity xs
    key ∈ d.pendingKeys ∧ a = .found true ∧ key ∉ (calls es).map Prod.fst ∨
    key ∉ d.pendingKeys ∧ a = .found false ∧
      deskAt capacity (xs ++ [.answered (.withdraw key) a]) = d
  /-- A signal moves the workers of its subject to the end of the queue, the oldest first. -/
  signals : ∀ xs subject a ys, es = xs ++ .answered (.signal subject) a :: ys →
    let d := deskAt capacity xs
    let later := deskAt capacity (xs ++ [.answered (.signal subject) a])
    let fired := d.notifier.pending.filter fun r => r.subject = subject
    a = .number fired.length ∧ (fired.map fun r => r.key).Pairwise (· < ·) ∧
      later.notifier.pending = d.notifier.pending.filter (fun r => r.subject ≠ subject) ∧
      later.queue.items = d.queue.items ++ fired.map fun r => (r.key, r.worker)
  called : ∀ xs job ys, es = xs ++ .called job :: ys →
    (∃ subject, .answered (.register subject job.2) (.key job.1) ∈ xs) ∧
      Signalled capacity xs job ∧ job.1 ∉ (calls xs).map Prod.fst ∧ job.1 ∉ (calls ys).map Prod.fst
  kept : ∀ xs ys zs, es = xs ++ ys ++ zs →
    (deskAt capacity xs).queue.items <+: calls ys ++ (deskAt capacity (xs ++ ys)).queue.items
  drained : ∀ xs a ys, es = xs ++ .answered .run a :: ys → (deskAt capacity xs).queue.items = []

namespace Standing

variable {capacity : Nat} {es : List Event} {d : Desk}

theorem nodup (s : Standing capacity es d) :
    (d.pendingKeys ++ d.queuedKeys ++ withdrawn es ++ (calls es).map Prod.fst).Nodup := by
  rw [s.places.nodup_iff, s.numbered]
  exact List.nodup_range'

theorem not_called_of_withdrawn (s : Standing capacity es d) {key : Nat}
    (h : key ∈ withdrawn es) : key ∉ (calls es).map Prod.fst := fun called =>
  (List.nodup_append.mp s.nodup).2.2 key (List.mem_append_right _ h) key called rfl

end Standing

theorem Signalled.registered {capacity : Nat} {es : List Event} {job : Job}
    (h : (Desk.ofCapacity capacity).AllowsAll es) (signalled : Signalled capacity es job) :
    ∃ subject, .answered (.register subject job.2) (.key job.1) ∈ es := by
  obtain ⟨xs, subject, answer, ys, rfl, pending⟩ := signalled
  exact ⟨subject, List.mem_append_left _ ((Standing.of_allowed h.before).registered _ pending)⟩

namespace Desk.AllowsAll

variable {capacity : Nat} {es : List Event}

theorem fates (h : (Desk.ofCapacity capacity).AllowsAll es) : Fates capacity es where
  numbered := by
    rintro xs ⟨ys, rfl⟩
    have s := Standing.of_allowed h.before
    exact ⟨s.numbered, s.bounded⟩
  places := by
    rintro xs ⟨ys, rfl⟩
    have s := Standing.of_allowed h.before
    exact ⟨s.nodup, s.places⟩
  registers := by
    rintro xs subject script a ys rfl
    have s := Standing.of_allowed h.before
    have slots := s.slots
    have room := s.room
    obtain rfl := h xs _ ys rfl
    rw [deskAt_append_singleton]
    by_cases full : (deskAt capacity xs).notifier.capacity ≤
        (deskAt capacity xs).notifier.pending.length
    · refine .inl ⟨by omega, ⟨.slotsExhausted, rfl, ?_⟩, ?_⟩
      · simp [← deskAt.eq_def, apply, Notifier.register, full]
      · simp [after, apply, Notifier.register, full]
    · refine .inr ⟨by omega, ?_, ?_⟩
      · simp [← deskAt.eq_def, apply, Notifier.register, full, s.next]
      · simp [after, apply, Notifier.register, full, s.next]
  withdraws := by
    rintro xs key a ys rfl
    have s := Standing.of_allowed h.before
    have whole := Standing.of_allowed h
    obtain rfl : a = .found ((deskAt capacity xs).notifier.isPending key) := h xs _ ys rfl
    cases pending : (deskAt capacity xs).notifier.isPending key with
    | true =>
      refine .inl ⟨(isPending_iff _ key).mp pending, rfl, ?_⟩
      rw [pending] at whole
      exact whole.not_called_of_withdrawn (by simp [withdrawn, Event.withdrawn?])
    | false =>
      refine .inr ⟨fun mem => ?_, rfl, ?_⟩
      · simp [(isPending_iff _ key).mpr mem] at pending
      · rw [deskAt_append_singleton, after_withdraw_absent pending]
  signals := by
    rintro xs subject a ys rfl
    have s := Standing.of_allowed h.before
    obtain rfl := h xs _ ys rfl
    rw [deskAt_append_singleton]
    exact ⟨rfl, s.ordered.sublist (List.filter_sublist.map _), rfl, rfl⟩
  called := by
    rintro xs job ys rfl
    have s := Standing.of_allowed h.before
    have whole := Standing.of_allowed h
    have queued : job ∈ (deskAt capacity xs).queue.items := List.mem_of_mem_head? (h xs _ ys rfl)
    have signalled := s.signalled job queued
    have once := (List.nodup_append.mp whole.nodup).2.1
    refine ⟨signalled.registered h.before, signalled, ?_⟩
    have cut : (calls (xs ++ .called job :: ys)).map Prod.fst =
        (calls xs).map Prod.fst ++ job.1 :: (calls ys).map Prod.fst := by
      simp [calls, Event.called?]
    rw [cut, List.nodup_middle, List.nodup_cons, List.mem_append, not_or] at once
    exact once.1
  kept := by
    rintro xs ys zs rfl
    have := h.before.rest.queue
    rwa [← List.foldl_append] at this
  drained := by
    rintro xs a ys rfl
    exact h xs _ ys rfl

end Desk.AllowsAll

theorem history_fates (capacity : Nat) (script : List Command) :
    (history capacity script).2.2 = deskAt capacity (history capacity script).1 ∧
      ((history capacity script).2.1.map Prod.fst).Perm
        ((calls (history capacity script).1).map Prod.fst) ∧
      Fates capacity (history capacity script).1 := by
  have told := telling capacity script
  exact ⟨told.desk, told.fired, told.allowed.fates⟩

example :
    (calls (history 3
      [.register ⟨1⟩ [.withdraw 3, .register ⟨1⟩ [.withdraw 1], .signal ⟨1⟩, .run],
        .register ⟨2⟩ [], .register ⟨1⟩ [], .signal ⟨1⟩, .signal ⟨2⟩, .run]).1).map Prod.fst =
      [1, 3, 2, 4] := by
  decide +kernel

end NetlinkSocket.Notifier

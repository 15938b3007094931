import NetlinkSocket.Proofs.Interleaving.Wakeups

/-!
The alerts of an interface after any run. Whoever waits for a response is registered while there is
none, and once there is one, either the wakeup is about to be called or it was called.
-/

namespace NetlinkSocket

namespace Interface

variable {i : Interface} {taken : List (Nat × Wakeup)}

def registrations (i : Interface) (key : Nat) : List (Registration Wakeup) :=
  i.notifier.pending.filter (·.key = key)

def jobs (i : Interface) (taken : List (Nat × Wakeup)) (key : Nat) : List (Nat × Wakeup) :=
  (i.queue.items ++ taken).filter (·.1 = key)

theorem filter_wakeups (key : Nat) : (i.wakeups taken).filter (·.1 = key) =
    (i.registrations key).map (fun r => (r.key, r.worker)) ++ i.jobs taken key := by
  simp only [wakeups, registrations, jobs, List.append_assoc, List.filter_append, List.filter_map]
  rfl

theorem Keyed.places {isHeld : Nat → Prop} (k : i.Keyed taken isHeld) {key : Nat} {w : Wakeup}
    (he : (key, w) ∈ i.wakeups taken) :
    (∃ r ∈ i.notifier.pending, r.key = key ∧ r.worker = w ∧ i.registrations key = [r] ∧
      i.jobs taken key = []) ∨ i.registrations key = [] ∧ i.jobs taken key = [(key, w)] := by
  have once : (i.wakeups taken).filter (·.1 = key) = [(key, w)] := by
    refine List.perm_singleton.1 ((List.perm_ext_iff_of_nodup ?_ (List.nodup_singleton _)).2 ?_)
    · exact (List.Nodup.of_map _ k.nodup).filter _
    · intro e
      rw [List.mem_filter, List.mem_singleton, decide_eq_true_eq]
      constructor
      · exact fun ⟨mem, same⟩ => k.unique mem he same
      · rintro rfl
        exact ⟨he, rfl⟩
  rw [filter_wakeups] at once
  rcases List.append_eq_singleton_iff.1 once with ⟨none, job⟩ | ⟨one, none⟩
  · exact .inr ⟨List.map_eq_nil_iff.1 none, job⟩
  · obtain ⟨r, only, entry⟩ := List.map_eq_singleton_iff.1 one
    have mem : r ∈ i.notifier.pending := by
      have known : r ∈ i.registrations key := by simp [only]
      exact (List.mem_filter.1 known).1
    obtain ⟨same, worker⟩ := Prod.mk.inj entry
    exact .inl ⟨r, mem, same, worker, only, none⟩

theorem no_places {key : Nat} (gone : ∀ e ∈ i.wakeups taken, e.1 ≠ key) :
    i.registrations key = [] ∧ i.jobs taken key = [] := by
  have none : (i.wakeups taken).filter (·.1 = key) = [] := by
    simpa [List.filter_eq_nil_iff] using gone
  rw [filter_wakeups, List.append_eq_nil_iff, List.map_eq_nil_iff] at none
  exact none

end Interface

/-- A registration was made for a connection: by the poll that it is armed with, or by a reader that
sleeps on it. -/
def View.Awaits (v : View) (name : String) (r : Registration Wakeup) (c : Nat) : Prop :=
  (∃ poll, ((v.net name).connection c).armed = some poll ∧ poll.key = r.key ∧
    r.worker = .poll c) ∨ ∃ s, r.worker = .reader s ∧ v.Sleeps name s r.key c

namespace View

variable {v : View} {name : String} {c : Nat}

theorem Watched.awaits (w : v.Watched) {r : Registration Wakeup}
    (mem : r ∈ (v.net name).notifier.pending) : ∃ c, v.Awaits name r c := by
  cases worker : r.worker with
  | poll c =>
    obtain ⟨⟨poll, armed, key⟩, -⟩ := (w.keyed name).pending_poll r mem c worker
    exact ⟨c, .inl ⟨poll, armed, key, worker⟩⟩
  | reader s =>
    have waits : (r.key, .reader s) ∈ (v.net name).wakeups (v.takenOf name) :=
      worker ▸ Interface.wakeups_of_pending mem
    obtain ⟨c, asleep⟩ := (w.readers name).reader r.key s waits
    exact ⟨c, .inr ⟨s, worker, asleep⟩⟩

theorem Watched.unanswered (w : v.Watched) {r : Registration Wakeup}
    (mem : r ∈ (v.net name).notifier.pending) (awaits : v.Awaits name r c) :
    r.subject = ((v.net name).connection c).id ∧ ((v.net name).connection c).responses = [] := by
  rcases awaits with ⟨-, -, -, worker⟩ | ⟨s, worker, asleep⟩
  · exact ((w.keyed name).pending_poll r mem c worker).2
  · exact (w.readers name).pending_reader r mem s worker c asleep

theorem Watched.awaits_lt (w : v.Watched) {r : Registration Wakeup} (awaits : v.Awaits name r c) :
    c < (v.net name).connections.length := by
  rcases awaits with ⟨poll, armed, -⟩ | ⟨s, -, asleep⟩
  · exact Interface.lt_of_armed armed
  · exact (w.readers name).within s r.key c asleep

end View

namespace Concurrent

variable {t : Concurrent} {name : String}

/-- A registration tells connections apart by identities only as long as these do not wrap around.
A connection that nobody refers to is gone, and its poll with it. -/
structure Alerts (t : Concurrent) (name : String) : Prop where
  awaited : ∀ r ∈ (t.net name).notifier.pending, ∃ c, t.view.Awaits name r c
  unanswered : ∀ r ∈ (t.net name).notifier.pending, ∀ c, t.view.Awaits name r c →
    r.subject = ((t.net name).connection c).id ∧ ((t.net name).connection c).responses = []
  unregistered : (t.net name).connections.length < Interface.identities →
    ∀ c, ((t.net name).connection c).responses ≠ [] → ∀ r ∈ (t.net name).notifier.pending,
      r.subject ≠ ((t.net name).connection c).id
  armed : ∀ c poll, t.isHeld name c = true → ((t.net name).connection c).armed = some poll →
    (t.net name).registrations poll.key =
        [⟨poll.key, ((t.net name).connection c).id, .poll c⟩] ∧
      ((t.net name).connection c).responses = [] ∧
      (t.net name).jobs (t.view.takenOf name) poll.key = [] ∨
    (t.net name).registrations poll.key = [] ∧
      (t.net name).jobs (t.view.takenOf name) poll.key = [(poll.key, .poll c)]
  asleep : ∀ s key c, t.view.Sleeps name s key c →
    ((t.net name).registrations key = [⟨key, ((t.net name).connection c).id, .reader s⟩] ∧
      ((t.net name).connection c).responses = [] ∧
      (t.net name).jobs (t.view.takenOf name) key = [] ∧ t.signals.permits s = 0) ∨
    ((t.net name).registrations key = [] ∧
      (t.net name).jobs (t.view.takenOf name) key = [(key, .reader s)] ∧
      t.signals.permits s = 0) ∨
    ((t.net name).registrations key = [] ∧ (t.net name).jobs (t.view.takenOf name) key = [] ∧
      t.signals.permits s = 1)
  settled : (t.net name).queue.items = [] → t.view.takenOf name = [] →
    (∀ s key c, t.view.Sleeps name s key c → t.signals.permits s = 0) →
    ∀ c, ((t.net name).connection c).responses ≠ [] →
      (t.isHeld name c = true → ((t.net name).connection c).armed = none) ∧
        ∀ s key, ¬t.view.Sleeps name s key c

theorem alerts_run (fresh : t.IsFresh) (actions : List Action) (name : String) :
    (t.run actions).Alerts name := by
  have w := watched_run fresh actions
  have k := w.keyed name
  have r := w.readers name
  constructor
  case awaited => exact fun r mem => w.awaits mem
  case unanswered => exact fun r mem c => w.unanswered mem
  case unregistered =>
    intro few c responses r mem same
    obtain ⟨d, awaits⟩ := w.awaits mem
    obtain ⟨subject, empty⟩ := w.unanswered mem awaits
    have within : c < ((t.run actions).net name).connections.length := by
      refine Nat.lt_of_not_le fun beyond => responses ?_
      rw [Interface.connection_of_le beyond]
      rfl
    have one := (books_run fresh actions few).id_injective within (w.awaits_lt awaits)
      (same.symm.trans subject)
    exact responses (one ▸ empty)
  case armed =>
    intro c poll held armed
    rcases k.places (k.armed_wakeup c poll armed held) with
      ⟨reg, mem, key, worker, only, none⟩ | places
    · obtain ⟨-, subject, empty⟩ := k.pending_poll reg mem c worker
      cases reg
      cases key
      cases worker
      cases subject
      exact .inl ⟨only, empty, none⟩
    · exact .inr places
  case asleep =>
    intro s key c asleep
    rcases r.sleeping s key c asleep with ⟨waits, none⟩ | ⟨gone, posted⟩
    · rcases k.places waits with ⟨reg, mem, same, worker, only, idle⟩ | ⟨unregistered, job⟩
      · obtain ⟨subject, empty⟩ := r.pending_reader reg mem s worker c (same ▸ asleep)
        cases reg
        cases same
        cases worker
        cases subject
        exact .inl ⟨only, empty, idle, none⟩
      · exact .inr (.inl ⟨unregistered, job, none⟩)
    · obtain ⟨unregistered, idle⟩ := Interface.no_places gone
      exact .inr (.inr ⟨unregistered, idle, posted⟩)
  case settled =>
    intro quiet idle unposted c responses
    -- with nothing queued and nothing taken, a wakeup that is known is pending
    have pending {e : Nat × Wakeup}
        (he : e ∈ ((t.run actions).net name).wakeups ((t.run actions).view.takenOf name)) :
        ∃ r ∈ ((t.run actions).net name).notifier.pending, (r.key, r.worker) = e := by
      simpa [Interface.mem_wakeups, quiet, idle] using he
    constructor
    · intro held
      cases armed : (((t.run actions).net name).connection c).armed with
      | none => rfl
      | some poll =>
        obtain ⟨reg, mem, entry⟩ := pending (k.armed_wakeup c poll armed held)
        exact absurd (k.pending_poll reg mem c (congrArg Prod.snd entry)).2.2 responses
    · intro s key asleep
      rcases r.sleeping s key c asleep with ⟨waits, -⟩ | ⟨-, posted⟩
      · obtain ⟨reg, mem, entry⟩ := pending waits
        obtain ⟨same, worker⟩ := Prod.mk.inj entry
        exact absurd (r.pending_reader reg mem s worker c (same ▸ asleep)).2 responses
      · exact absurd ((unposted s key c asleep).symm.trans posted) (by decide)

/-- A poll and a reader wait on one connection when a response comes; the wakeup of the poll is
about to be called and that of the reader is queued. -/
def pollAndReader : List Action :=
  [.step (.register 16 "nl"), .step (.socket 0 16 3 0),
    .step (.descriptor 0 (Flags.single .readable) 0), .step (.arm 0 0), .get (.socket 0), .goOn 0,
    .step (.push (.socket 0) [1]), .take "nl"]

theorem alerts_pollAndReader :
    (let t := (start .withRoute [("nl", Interface.defaultLimits, [])]).run pollAndReader;
      ((t.net "nl").connection 0).responses = [[1]] ∧
        ((t.net "nl").connection 0).armed = some ⟨0, 0, 1⟩ ∧
        t.view.taken = [("nl", 1, .poll 0)] ∧ (t.net "nl").queue.items = [(2, .reader 1)]) ∧
      ((start .withRoute [("nl", Interface.defaultLimits, [])]).run pollAndReader).Alerts "nl" :=
  ⟨by decide +kernel, alerts_run (isFresh_start _ _) _ _⟩

end Concurrent

end NetlinkSocket

import NetlinkSocket.Proofs.Interleaving.Waiting
import NetlinkSocket.Proofs.Signals

/-!
Whose semaphore is whose. A semaphore is known by a number that descriptors share, or it belongs to
one waiting call and to those who wake that call.
-/

namespace NetlinkSocket

open Concurrent (Action)

namespace View

variable {v later : View} {a : Action}

/-- A semaphore that descriptors share. -/
def Public (v : View) (s : Nat) : Prop :=
  ∃ number, (number, s) ∈ v.semaphores.entries

def Owns (v : View) (n s : Nat) : Prop :=
  ∃ call : Call, v.calls[n]? = some call ∧ call.stage.semaphore? = some s

def Polls (v : View) (name : String) (c slot s : Nat) : Prop :=
  ∃ (n : Nat) (call : Call) (fd : PollDescriptor), v.calls[n]? = some call ∧
    call.interface = name ∧ call.connection = c ∧ call.stage = .polling fd ∧
      fd.slot = slot ∧ fd.semaphore = s

def Sleeps (v : View) (name : String) (s key c : Nat) : Prop :=
  ∃ (n : Nat) (call : Call) (sink : Sink), v.calls[n]? = some call ∧ call.interface = name ∧
    call.connection = c ∧ call.stage = .sleeping sink s key

def Woken (v : View) (name : String) (key : Nat) : Prop :=
  ∃ (n : Nat) (call : Call) (sink : Sink), v.calls[n]? = some call ∧ call.interface = name ∧
    call.stage = .woken sink key

structure Assigned (v : View) : Prop where
  public_lt : ∀ s, v.Public s → s < v.signals.semaphores.length
  described : ∀ e ∈ v.descriptors.entries,
    e.2.slot < v.signals.slots.length ∧ v.Public e.2.semaphore
  owned_lt : ∀ n s, v.Owns n s → s < v.signals.semaphores.length
  hidden : ∀ n s, v.Owns n s → ¬v.Public s
  distinct : ∀ n m s, v.Owns n s → v.Owns m s → n = m
  slot_lt : ∀ (n : Nat) (call : Call) (fd : PollDescriptor), v.calls[n]? = some call →
    call.stage = .polling fd → fd.slot < v.signals.slots.length
  armed : ∀ name c poll, ((v.net name).connection c).armed = some poll →
    poll.slot < v.signals.slots.length ∧ (v.Public poll.semaphore ∨
      v.signals.permits poll.semaphore = 0 ∧ v.Polls name c poll.slot poll.semaphore)

/-! Calls by their places -/

structure Advanced (v later : View) (n : Nat) (call : Call) (stage : Stage) : Prop where
  found : v.calls[n]? = some call
  calls : later.calls = v.calls.modify n fun call => { call with stage }

theorem Advanced.getElem?_eq_some {n m : Nat} {call other : Call} {stage : Stage}
    (moved : Advanced v later n call stage) : later.calls[m]? = some other ↔
      m ≠ n ∧ v.calls[m]? = some other ∨ m = n ∧ other = { call with stage } := by
  rw [moved.calls, List.getElem?_modify]
  by_cases same : m = n
  · subst same
    simp [moved.found, eq_comm]
  · simp [same, Ne.symm same]

theorem Advanced.polling {n m : Nat} {call other : Call} {stage : Stage} {fd : PollDescriptor}
    (moved : Advanced v later n call stage) (away : ∀ fd, stage ≠ .polling fd)
    (found : later.calls[m]? = some other) (here : other.stage = .polling fd) :
    v.calls[m]? = some other := by
  rcases moved.getElem?_eq_some.1 found with ⟨-, old⟩ | ⟨-, rfl⟩
  · exact old
  · exact absurd here (away fd)

theorem getElem?_append_eq_some {calls : List Call} {new other : Call} {m : Nat} :
    (calls ++ [new])[m]? = some other ↔
      calls[m]? = some other ∨ m = calls.length ∧ other = new := by
  rw [List.getElem?_append]
  split
  · rename_i within
    simp [Nat.ne_of_lt within]
  · rename_i beyond
    rw [List.getElem?_eq_none (l := calls) (Nat.le_of_not_lt beyond)]
    by_cases last : m = calls.length
    · simp [last, eq_comm]
    · rw [List.getElem?_eq_none (by simp; omega)]
      simp [last]

theorem Polls.owns {name : String} {c slot s : Nat} (polls : v.Polls name c slot s) :
    ∃ n, v.Owns n s := by
  obtain ⟨n, call, fd, found, -, -, here, -, rfl⟩ := polls
  exact ⟨n, call, found, by rw [here]; rfl⟩

theorem Sleeps.owns {name : String} {s key c : Nat} (asleep : v.Sleeps name s key c) :
    ∃ n, v.Owns n s := by
  obtain ⟨n, call, sink, found, -, -, here⟩ := asleep
  exact ⟨n, call, found, by rw [here]; rfl⟩

namespace Undisturbed

variable (calm : Undisturbed v later)
include calm

theorem owns_iff (n s : Nat) : later.Owns n s ↔ v.Owns n s := by
  refine exists_congr fun call => and_congr_left fun owned => calm.calls n call ?_
  cases h : call.stage <;> simp [h, Stage.semaphore?, Stage.waits] at owned ⊢

theorem polls_iff (name : String) (c slot s : Nat) :
    later.Polls name c slot s ↔ v.Polls name c slot s := by
  refine exists_congr fun n => exists_congr fun call => exists_congr fun fd =>
    and_congr_left fun rest => calm.calls n call ?_
  rw [rest.2.2.1]
  rfl

theorem sleeps_iff (name : String) (s key c : Nat) :
    later.Sleeps name s key c ↔ v.Sleeps name s key c := by
  refine exists_congr fun n => exists_congr fun call => exists_congr fun sink =>
    and_congr_left fun rest => calm.calls n call ?_
  rw [rest.2.2]
  rfl

theorem woken_iff (name : String) (key : Nat) : later.Woken name key ↔ v.Woken name key := by
  refine exists_congr fun n => exists_congr fun call => exists_congr fun sink =>
    and_congr_left fun rest => calm.calls n call ?_
  rw [rest.2]
  rfl

end Undisturbed

section

variable {n : Nat} {call : Call} {stage : Stage} (moved : Advanced v later n call stage)
include moved

theorem owns_advanced {m s : Nat} (owned : later.Owns m s) :
    m ≠ n ∧ v.Owns m s ∨ m = n ∧ stage.semaphore? = some s := by
  obtain ⟨other, found, has⟩ := owned
  rcases moved.getElem?_eq_some.1 found with ⟨ne, old⟩ | ⟨same, rfl⟩
  · exact .inl ⟨ne, other, old, has⟩
  · exact .inr ⟨same, has⟩

theorem polls_advanced {name : String} {c slot s : Nat} (polls : v.Polls name c slot s) :
    call.stage.semaphore? = some s ∨ later.Polls name c slot s := by
  obtain ⟨m, other, fd, found, interface, connection, here, same_slot, same⟩ := polls
  by_cases mine : m = n
  · subst mine
    cases moved.found.symm.trans found
    rw [here]
    exact .inl (congrArg some same)
  · exact .inr ⟨m, other, fd, moved.getElem?_eq_some.2 (.inl ⟨mine, found⟩), interface, connection,
      here, same_slot, same⟩

theorem sleeps_advanced {name : String} {s key c : Nat} :
    later.Sleeps name s key c ↔
      (∃ m, m ≠ n ∧ ∃ (other : Call) (sink : Sink), v.calls[m]? = some other ∧
        other.interface = name ∧ other.connection = c ∧ other.stage = .sleeping sink s key) ∨
      call.interface = name ∧ call.connection = c ∧ ∃ sink, stage = .sleeping sink s key := by
  constructor
  · rintro ⟨m, other, sink, found, interface, connection, here⟩
    rcases moved.getElem?_eq_some.1 found with ⟨ne, old⟩ | ⟨-, rfl⟩
    · exact .inl ⟨m, ne, other, sink, old, interface, connection, here⟩
    · exact .inr ⟨interface, connection, sink, here⟩
  · rintro (⟨m, ne, other, sink, old, rest⟩ | ⟨interface, connection, sink, here⟩)
    · exact ⟨m, other, sink, moved.getElem?_eq_some.2 (.inl ⟨ne, old⟩), rest⟩
    · exact ⟨n, _, sink, moved.getElem?_eq_some.2 (.inr ⟨rfl, rfl⟩), interface, connection, here⟩

theorem sleeps_advanced_of_awake (before : ∀ sink s key, call.stage ≠ .sleeping sink s key)
    {name : String} {s key c : Nat} : later.Sleeps name s key c ↔ v.Sleeps name s key c ∨
      call.interface = name ∧ call.connection = c ∧ ∃ sink, stage = .sleeping sink s key := by
  rw [sleeps_advanced moved]
  refine or_congr_left ⟨fun ⟨m, _, rest⟩ => ⟨m, rest⟩, ?_⟩
  rintro ⟨m, other, sink, found, interface, connection, here⟩
  refine ⟨m, ?_, other, sink, found, interface, connection, here⟩
  rintro rfl
  cases moved.found.symm.trans found
  exact before sink s key here

theorem sleeps_unchanged (before : ∀ sink s key, call.stage ≠ .sleeping sink s key)
    (after : ∀ sink s key, stage ≠ .sleeping sink s key) (name : String) (s key c : Nat) :
    later.Sleeps name s key c ↔ v.Sleeps name s key c := by
  rw [sleeps_advanced_of_awake moved before]
  refine or_iff_left ?_
  rintro ⟨-, -, sink, here⟩
  exact after sink s key here

theorem woken_advanced {name : String} {key : Nat} (awake : later.Woken name key) :
    v.Woken name key ∨ call.interface = name ∧ ∃ sink, stage = .woken sink key := by
  obtain ⟨m, other, sink, found, interface, here⟩ := awake
  rcases moved.getElem?_eq_some.1 found with ⟨-, old⟩ | ⟨-, rfl⟩
  · exact .inl ⟨m, other, sink, old, interface, here⟩
  · exact .inr ⟨interface, sink, here⟩

theorem woken_unchanged (after : ∀ sink key, stage ≠ .woken sink key) {name : String} {key : Nat}
    (awake : later.Woken name key) : v.Woken name key := by
  rcases woken_advanced moved awake with old | ⟨-, sink, here⟩
  · exact old
  · exact absurd here (after sink key)

end

section

variable {new : Call} {fd : PollDescriptor} (calls : later.calls = v.calls ++ [new])
  (polling : new.stage = .polling fd)
include calls polling

theorem sleeps_appended (name : String) (s key c : Nat) :
    later.Sleeps name s key c ↔ v.Sleeps name s key c := by
  constructor
  · rintro ⟨m, other, sink, found, interface, connection, here⟩
    rw [calls] at found
    rcases getElem?_append_eq_some.1 found with old | ⟨-, rfl⟩
    · exact ⟨m, other, sink, old, interface, connection, here⟩
    · rw [polling] at here
      cases here
  · rintro ⟨m, other, sink, found, rest⟩
    exact ⟨m, other, sink, calls ▸ getElem?_append_eq_some.2 (.inl found), rest⟩

theorem woken_appended (name : String) (key : Nat) (awake : later.Woken name key) :
    v.Woken name key := by
  obtain ⟨m, other, sink, found, interface, here⟩ := awake
  rw [calls] at found
  rcases getElem?_append_eq_some.1 found with old | ⟨-, rfl⟩
  · exact ⟨m, other, sink, old, interface, here⟩
  · rw [polling] at here
    cases here

end

namespace Assigned

variable (g : v.Assigned)
include g

theorem of_fewer (signals : later.signals.semaphores.length = v.signals.semaphores.length)
    (slots : later.signals.slots.length = v.signals.slots.length)
    (semaphores : later.semaphores = v.semaphores) (descriptors : later.descriptors = v.descriptors)
    (owns : ∀ n s, later.Owns n s → v.Owns n s)
    (polling : ∀ (n : Nat) (call : Call) (fd : PollDescriptor), later.calls[n]? = some call →
      call.stage = .polling fd → v.calls[n]? = some call)
    (armed : ∀ name c poll, ((later.net name).connection c).armed = some poll →
      ((v.net name).connection c).armed = some poll ∨
        poll.slot < v.signals.slots.length ∧ v.Public poll.semaphore)
    (unposted : ∀ name c poll, ((later.net name).connection c).armed = some poll →
      v.signals.permits poll.semaphore = 0 → v.Polls name c poll.slot poll.semaphore →
      later.signals.permits poll.semaphore = 0 ∧ later.Polls name c poll.slot poll.semaphore) :
    later.Assigned where
  public_lt s := by
    simpa only [Public, semaphores, signals] using g.public_lt s
  described e := by
    simpa only [Public, semaphores, descriptors, slots] using g.described e
  owned_lt n s owned := by
    rw [signals]
    exact g.owned_lt n s (owns n s owned)
  hidden n s owned := by
    simpa only [Public, semaphores] using g.hidden n s (owns n s owned)
  distinct n m s one two := g.distinct n m s (owns n s one) (owns m s two)
  slot_lt n call fd found here := by
    rw [slots]
    exact g.slot_lt n call fd (polling n call fd found here) here
  armed name c poll h := by
    have kept (shared : v.Public poll.semaphore) : later.Public poll.semaphore := by
      simpa only [Public, semaphores] using shared
    rcases armed name c poll h with old | ⟨slot, shared⟩
    · obtain ⟨slot, shared | ⟨none, polls⟩⟩ := g.armed name c poll old
      · exact ⟨slots ▸ slot, .inl (kept shared)⟩
      · exact ⟨slots ▸ slot, .inr (unposted name c poll h none polls)⟩
    · exact ⟨slots ▸ slot, .inl (kept shared)⟩

theorem armed_lt {name : String} {c : Nat} {poll : ArmedPoll}
    (armed : ((v.net name).connection c).armed = some poll) :
    poll.slot < v.signals.slots.length ∧ poll.semaphore < v.signals.semaphores.length := by
  obtain ⟨slot, shared | ⟨-, polls⟩⟩ := g.armed name c poll armed
  · exact ⟨slot, g.public_lt _ shared⟩
  · obtain ⟨n, owned⟩ := polls.owns
    exact ⟨slot, g.owned_lt n _ owned⟩

theorem described_ne {key : Int} {fd : PollDescriptor} {n s : Nat}
    (found : v.descriptors.get? key = some fd) (owned : v.Owns n s) : s ≠ fd.semaphore := by
  rintro rfl
  exact g.hidden n _ owned (g.described _ (Table.mem_of_get? found)).2

/-- The armed poll of a private semaphore waits unposted, so a permit there belongs to no poll that
is armed. -/
theorem ne_of_posted {name : String} {c s : Nat} {poll : ArmedPoll}
    (armed : ((v.net name).connection c).armed = some poll) (hidden : ¬v.Public s)
    (posted : v.signals.permits s ≠ 0) : poll.semaphore ≠ s := by
  rintro rfl
  rcases (g.armed name c poll armed).2 with shared | ⟨none, -⟩
  · exact hidden shared
  · exact posted none

omit g in
theorem armed_setNet {name : String} {i : Interface} (net : later.net = (v.setNet name i).net)
    (fewer : ∀ d poll, (i.connection d).armed = some poll →
      ((v.net name).connection d).armed = some poll)
    (other : String) (c : Nat) (poll : ArmedPoll)
    (h : ((later.net other).connection c).armed = some poll) :
    ((v.net other).connection c).armed = some poll := by
  rw [net] at h
  by_cases here : other = name
  · subst here
    exact fewer c poll (by simpa using h)
  · simpa [here] using h

theorem calm (undisturbed : Undisturbed v later)
    (armed : ∀ name c poll, ((later.net name).connection c).armed = some poll →
      ((v.net name).connection c).armed = some poll) : later.Assigned := by
  refine g.of_fewer (by rw [undisturbed.signals]) (by rw [undisturbed.signals])
    undisturbed.semaphores undisturbed.descriptors (fun n s => (undisturbed.owns_iff n s).1)
    (fun n call fd found here => ?_) (fun name c poll h => .inl (armed name c poll h))
    fun name c poll _ none polls => ⟨?_, ?_⟩
  · exact (undisturbed.calls n call (by rw [here]; rfl)).1 found
  · rwa [undisturbed.signals]
  · exact (undisturbed.polls_iff name c _ _).2 polls

theorem advance {n s : Nat} {call : Call} {stage : Stage} {signals : Signals}
    (moved : Advanced v later n call stage) (owned : call.stage.semaphore? = some s)
    (silent : stage.semaphore? = none) (taken : v.signals.take? s = some signals)
    (rest : later = { v with signals, calls := later.calls }) : later.Assigned := by
  obtain ⟨posted, others, semaphores, slots⟩ := Signals.take?_eq_some taken
  have hidden := g.hidden n s ⟨call, moved.found, owned⟩
  have now : later.signals = signals := by rw [rest]
  refine g.of_fewer (by rw [now, semaphores]) (by rw [now, slots]) (by rw [rest]) (by rw [rest])
    (fun m t h => ?_) (fun m other fd found here => ?_) (fun name c poll h => ?_)
    fun name c poll h none polls => ?_
  · rcases owns_advanced moved h with ⟨-, old⟩ | ⟨-, has⟩
    · exact old
    · rw [silent] at has
      cases has
  · refine moved.polling (fun fd waits => ?_) found here
    rw [waits] at silent
    cases silent
  · rw [rest] at h
    exact .inl h
  · have before : ((v.net name).connection c).armed = some poll := by
      rw [rest] at h
      exact h
    have ne := g.ne_of_posted before hidden (by omega)
    refine ⟨by rw [now, others _ ne, none], ?_⟩
    rcases polls_advanced moved polls with mine | still
    · rw [owned] at mine
      exact absurd (Option.some.inj mine).symm ne
    · exact still

theorem tryWait {key : Int} {fd : PollDescriptor} {signals : Signals}
    (found : v.descriptors.get? key = some fd)
    (taken : v.signals.take? fd.semaphore = some signals) : Assigned { v with signals } := by
  obtain ⟨-, others, semaphores, slots⟩ := Signals.take?_eq_some taken
  refine g.of_fewer (by rw [semaphores]) (by rw [slots]) rfl rfl (fun _ _ h => h)
    (fun _ _ _ h _ => h) (fun _ _ _ h => .inl h) fun name c poll h none polls => ⟨?_, polls⟩
  obtain ⟨n, owned⟩ := polls.owns
  exact (others _ (g.described_ne found owned)).trans none

omit g in
theorem armed_setNet_arm {name : String} {c : Nat} {fd : PollDescriptor} {i : Interface}
    {before signals : Signals} (net : later.net = (v.setNet name i).net)
    (made : (v.net name).arm before c fd = (.ok (), i, signals)) {other : String} {d : Nat}
    {poll : ArmedPoll} (h : ((later.net other).connection d).armed = some poll) :
    ((v.net other).connection d).armed = some poll ∨ other = name ∧ d = c ∧
      poll.slot = fd.slot ∧ poll.semaphore = fd.semaphore ∧ signals = before := by
  rw [net] at h
  by_cases here : other = name
  · subst here
    have h : (i.connection d).armed = some poll := by simpa using h
    rcases Interface.armed_arm made h with old | new
    · exact .inl old
    · exact .inr ⟨rfl, new⟩
  · exact .inl (by simpa [here] using h)

theorem arm {name : String} {c : Nat} {fdKey : Int} {fd : PollDescriptor} {i : Interface}
    {signals : Signals} (found : v.descriptors.get? fdKey = some fd)
    (made : (v.net name).arm v.signals c fd = (.ok (), i, signals)) :
    Assigned { v.setNet name i with signals } := by
  obtain ⟨semaphores, slots, others⟩ := Interface.signals_arm made
  obtain ⟨slot, shared⟩ := g.described _ (Table.mem_of_get? found)
  refine g.of_fewer semaphores slots rfl rfl (fun _ _ h => h) (fun _ _ _ h _ => h)
    (fun other d poll h => ?_) fun other d poll h none polls => ⟨?_, polls⟩
  · rcases armed_setNet_arm (v := v) rfl made h with old | ⟨-, -, same_slot, same, -⟩
    · exact .inl old
    · exact .inr ⟨same_slot ▸ slot, same ▸ shared⟩
  · obtain ⟨n, owned⟩ := polls.owns
    exact (others _ (g.described_ne found owned)).trans none

theorem of_own {n : Nat} (semaphores : later.signals.semaphores.length =
      v.signals.semaphores.length + 1)
    (slots : v.signals.slots.length ≤ later.signals.slots.length)
    (table : later.semaphores = v.semaphores) (descriptors : later.descriptors = v.descriptors)
    (owns : ∀ m s, later.Owns m s → v.Owns m s ∨ m = n ∧ s = v.signals.semaphores.length)
    (polling : ∀ (m : Nat) (call : Call) (fd : PollDescriptor), later.calls[m]? = some call →
      call.stage = .polling fd → v.calls[m]? = some call ∨ fd.slot < later.signals.slots.length)
    (permits : ∀ s, s < v.signals.semaphores.length →
      later.signals.permits s = v.signals.permits s)
    (polls : ∀ name c slot s, v.Polls name c slot s → later.Polls name c slot s)
    (armed : ∀ name c poll, ((later.net name).connection c).armed = some poll →
      ((v.net name).connection c).armed = some poll ∨
        poll.slot < later.signals.slots.length ∧ later.signals.permits poll.semaphore = 0 ∧
          later.Polls name c poll.slot poll.semaphore) : later.Assigned := by
  have public_iff (s : Nat) : later.Public s ↔ v.Public s := by simp only [Public, table]
  constructor
  · intro s shared
    rw [semaphores]
    exact Nat.lt_succ_of_lt (g.public_lt s ((public_iff s).1 shared))
  · intro e he
    rw [descriptors] at he
    obtain ⟨slot, shared⟩ := g.described e he
    exact ⟨Nat.lt_of_lt_of_le slot slots, (public_iff _).2 shared⟩
  · intro m s owned
    rw [semaphores]
    rcases owns m s owned with old | ⟨-, rfl⟩
    · exact Nat.lt_succ_of_lt (g.owned_lt m s old)
    · exact Nat.lt_succ_self _
  · intro m s owned shared
    have shared := (public_iff s).1 shared
    rcases owns m s owned with old | ⟨-, rfl⟩
    · exact g.hidden m s old shared
    · exact Nat.lt_irrefl _ (g.public_lt _ shared)
  · intro m l s one two
    rcases owns m s one with old | ⟨rfl, rfl⟩ <;> rcases owns l _ two with old' | ⟨rfl, same⟩
    · exact g.distinct m l s old old'
    · exact absurd (same ▸ g.owned_lt m s old) (Nat.lt_irrefl _)
    · exact absurd (g.owned_lt l _ old') (Nat.lt_irrefl _)
    · rfl
  · intro m call fd found here
    rcases polling m call fd found here with old | slot
    · exact Nat.lt_of_lt_of_le (g.slot_lt m call fd old here) slots
    · exact slot
  · intro name c poll h
    rcases armed name c poll h with old | ⟨slot, fresh⟩
    · obtain ⟨slot, shared | ⟨none, waits⟩⟩ := g.armed name c poll old
      · exact ⟨Nat.lt_of_lt_of_le slot slots, .inl ((public_iff _).2 shared)⟩
      · obtain ⟨m, owned⟩ := waits.owns
        exact ⟨Nat.lt_of_lt_of_le slot slots, .inr ⟨(permits _ (g.owned_lt m _ owned)).trans none,
          polls _ _ _ _ waits⟩⟩
    · exact ⟨slot, .inr fresh⟩

theorem poll {key : Int} {events : Events} {name : String} {c : Nat} {fd : PollDescriptor}
    {i : Interface} {signals : Signals}
    (own : fd = ⟨events, v.signals.newSlot.1, v.signals.newSemaphore.1⟩)
    (made : (v.net name).arm v.signals.newSlot.2.newSemaphore.2 c fd = (.ok (), i, signals)) :
    Assigned { v.setNet name i with
      signals, calls := v.calls ++ [⟨key, name, c, .polling fd⟩] } := by
  obtain ⟨semaphores, slots, others⟩ := Interface.signals_arm made
  have semaphores : signals.semaphores.length = v.signals.semaphores.length + 1 := by
    rw [semaphores]
    simp [Signals.newSemaphore, Signals.newSlot]
  have slots : signals.slots.length = v.signals.slots.length + 1 := by
    rw [slots]
    simp [Signals.newSemaphore, Signals.newSlot]
  have fresh : fd.semaphore = v.signals.semaphores.length := by rw [own]; rfl
  have slot : fd.slot < signals.slots.length := by
    rw [slots, own]
    exact Nat.lt_succ_self _
  have grown : v.signals.slots.length ≤ signals.slots.length := by omega
  refine g.of_own (n := v.calls.length) semaphores grown rfl rfl ?_ ?_ ?_ ?_ ?_
  · rintro m s ⟨call, found, has⟩
    rcases getElem?_append_eq_some.1 found with old | ⟨last, rfl⟩
    · exact .inl ⟨call, old, has⟩
    · exact .inr ⟨last, (Option.some.inj has).symm.trans fresh⟩
  · intro m call other found here
    rcases getElem?_append_eq_some.1 found with old | ⟨-, rfl⟩
    · exact .inl old
    · cases here
      exact .inr slot
  · intro s within
    have ne : s ≠ fd.semaphore := by omega
    rw [others s ne, Signals.permits_newSemaphore, Signals.permits_newSlot]
  · rintro other d slot s ⟨m, call, waits, found, rest⟩
    exact ⟨m, call, waits, getElem?_append_eq_some.2 (.inl found), rest⟩
  · intro other d poll h
    rcases armed_setNet_arm (v := v) rfl made h with old | ⟨rfl, rfl, same_slot, same, unposted⟩
    · exact .inl old
    · refine .inr ⟨same_slot ▸ slot, ?_, v.calls.length, _, fd,
        getElem?_append_eq_some.2 (.inr ⟨rfl, rfl⟩), rfl, rfl, rfl, same_slot.symm, same.symm⟩
      change signals.permits poll.semaphore = 0
      rw [unposted, same, fresh, Signals.permits_newSemaphore]
      exact Signals.permits_of_le (Nat.le_refl _)

theorem register {n : Nat} {call : Call} {sink : Sink} {key : Nat} {name : String} {i : Interface}
    (moved : Advanced v later n call (.sleeping sink v.signals.newSemaphore.1 key))
    (here : call.stage = .entering sink)
    (armed : ∀ d, (i.connection d).armed = ((v.net name).connection d).armed)
    (rest : later = { v.setNet name i with
      signals := v.signals.newSemaphore.2, calls := later.calls }) : later.Assigned := by
  have now : later.signals = v.signals.newSemaphore.2 := by rw [rest]
  refine g.of_own (n := n) (by simp [now, Signals.newSemaphore])
    (by simp [now, Signals.newSemaphore]) (by rw [rest]; rfl) (by rw [rest]; rfl) ?_ ?_ ?_ ?_ ?_
  · intro m s owned
    rcases owns_advanced moved owned with ⟨-, old⟩ | ⟨same, has⟩
    · exact .inl old
    · exact .inr ⟨same, (Option.some.inj has).symm⟩
  · intro m other fd found polling
    refine .inl (moved.polling (fun fd waits => ?_) found polling)
    cases waits
  · intro s _
    rw [now, Signals.permits_newSemaphore]
  · intro other d slot s polls
    rcases polls_advanced moved polls with mine | still
    · rw [here] at mine
      cases mine
    · exact still
  · intro other d poll h
    refine .inl (armed_setNet (by rw [rest]) (fun d poll => ?_) other d poll h)
    exact fun h => (armed d).symm.trans h

theorem describe {key number : Int} {events : Events} {semaphore : Nat}
    (known : v.semaphores.get? number = some semaphore) :
    Assigned { v with
      signals := v.signals.newSlot.2
      descriptors := v.descriptors.insert key ⟨events, v.signals.newSlot.1, semaphore⟩ } := by
  have slots : v.signals.newSlot.2.slots.length = v.signals.slots.length + 1 := by
    simp [Signals.newSlot]
  refine ⟨g.public_lt, fun e he => ?_, g.owned_lt, g.hidden, g.distinct, ?_, ?_⟩
  · rcases Table.mem_insert he with rfl | old
    · exact ⟨slots ▸ Nat.lt_succ_self _, number, Table.mem_of_get? known⟩
    · obtain ⟨slot, shared⟩ := g.described e old
      exact ⟨slots ▸ Nat.lt_succ_of_lt slot, shared⟩
  · intro n call fd found here
    exact slots ▸ Nat.lt_succ_of_lt (g.slot_lt n call fd found here)
  · intro name c poll h
    obtain ⟨slot, rest⟩ := g.armed name c poll h
    exact ⟨slots ▸ Nat.lt_succ_of_lt slot, rest⟩

theorem describeAnew {key number : Int} {events : Events}
    (unknown : v.semaphores.get? number = none) :
    Assigned { v with
      signals := v.signals.newSlot.2.newSemaphore.2
      semaphores := v.semaphores.insert number v.signals.newSemaphore.1
      descriptors :=
        v.descriptors.insert key ⟨events, v.signals.newSlot.1, v.signals.newSemaphore.1⟩ } := by
  have slots : v.signals.newSlot.2.newSemaphore.2.slots.length = v.signals.slots.length + 1 := by
    simp [Signals.newSlot, Signals.newSemaphore]
  have semaphores : v.signals.newSlot.2.newSemaphore.2.semaphores.length =
      v.signals.semaphores.length + 1 := by
    simp [Signals.newSlot, Signals.newSemaphore]
  have public_iff (s : Nat) :
      (∃ n, (n, s) ∈ (v.semaphores.insert number v.signals.newSemaphore.1).entries) ↔
        v.Public s ∨ s = v.signals.newSemaphore.1 := by
    constructor
    · rintro ⟨n, mem⟩
      rcases Table.mem_insert mem with new | old
      · exact .inr (Prod.mk.inj new).2
      · exact .inl ⟨n, old⟩
    · rintro (⟨n, old⟩ | rfl)
      · rw [Table.insert_of_get?_eq_none unknown]
        exact ⟨n, List.mem_append_left _ old⟩
      · exact ⟨number, Table.mem_of_get? (Table.get?_insert_self _ _ _)⟩
  refine ⟨fun s shared => ?_, fun e he => ?_, fun n s owned => ?_, fun n s owned shared => ?_,
    g.distinct, fun n call fd found here => ?_, fun name c poll h => ?_⟩
  · rcases (public_iff s).1 shared with old | rfl
    · exact semaphores ▸ Nat.lt_succ_of_lt (g.public_lt s old)
    · exact semaphores ▸ Nat.lt_succ_self _
  · rcases Table.mem_insert he with rfl | old
    · exact ⟨slots ▸ Nat.lt_succ_self _, (public_iff _).2 (.inr rfl)⟩
    · obtain ⟨slot, shared⟩ := g.described e old
      exact ⟨slots ▸ Nat.lt_succ_of_lt slot, (public_iff _).2 (.inl shared)⟩
  · exact semaphores ▸ Nat.lt_succ_of_lt (g.owned_lt n s owned)
  · rcases (public_iff s).1 shared with old | rfl
    · exact g.hidden n s owned old
    · exact Nat.lt_irrefl _ (g.owned_lt n _ owned)
  · exact slots ▸ Nat.lt_succ_of_lt (g.slot_lt n call fd found here)
  · obtain ⟨slot, shared | ⟨none, polls⟩⟩ := g.armed name c poll h
    · exact ⟨slots ▸ Nat.lt_succ_of_lt slot, .inl ((public_iff _).2 (.inl shared))⟩
    · refine ⟨slots ▸ Nat.lt_succ_of_lt slot, .inr ⟨?_, polls⟩⟩
      change v.signals.newSlot.2.newSemaphore.2.permits poll.semaphore = 0
      rw [Signals.permits_newSemaphore]
      exact none

theorem polls_unique {name other : String} {c d slot slot' s : Nat}
    (one : v.Polls name c slot s) (two : v.Polls other d slot' s) :
    name = other ∧ c = d ∧ slot = slot' := by
  obtain ⟨n, call, fd, found, rfl, rfl, here, rfl, own⟩ := one
  obtain ⟨m, call', fd', found', rfl, rfl, here', rfl, own'⟩ := two
  have same := g.distinct n m s ⟨call, found, by rw [here]; exact congrArg some own⟩
    ⟨call', found', by rw [here']; exact congrArg some own'⟩
  subst same
  cases found.symm.trans found'
  rw [here] at here'
  cases here'
  exact ⟨rfl, rfl, rfl⟩

theorem not_polls_of_sleeps {name other : String} {c d slot s key : Nat}
    (asleep : v.Sleeps name s key c) : ¬v.Polls other d slot s := by
  rintro ⟨m, call', fd, found', -, -, here', -, own⟩
  obtain ⟨n, call, sink, found, -, -, here⟩ := asleep
  have same := g.distinct n m s ⟨call, found, by rw [here]; rfl⟩
    ⟨call', found', by rw [here']; exact congrArg some own⟩
  subst same
  cases found.symm.trans found'
  rw [here] at here'
  cases here'

theorem sleeps_ne {n s t key c : Nat} {name : String} {call : Call}
    (found : v.calls[n]? = some call) (owned : call.stage.semaphore? = some s)
    (awake : ∀ sink s key, call.stage ≠ .sleeping sink s key) (asleep : v.Sleeps name t key c) :
    t ≠ s := by
  rintro rfl
  obtain ⟨m, other, sink, found', -, -, here⟩ := asleep
  have same := g.distinct n m t ⟨call, found, owned⟩ ⟨other, found', by rw [here]; rfl⟩
  subst same
  cases found.symm.trans found'
  exact awake _ _ _ here

theorem armed_ne_of_sleeps {name other : String} {c d s key : Nat} {poll : ArmedPoll}
    (armed : ((v.net name).connection c).armed = some poll) (asleep : v.Sleeps other s key d) :
    poll.semaphore ≠ s := by
  rintro rfl
  rcases (g.armed name c poll armed).2 with shared | ⟨-, polls⟩
  · obtain ⟨n, owned⟩ := asleep.owns
    exact g.hidden n _ owned shared
  · exact g.not_polls_of_sleeps asleep polls

theorem sleeps_unique {name other : String} {s key l c d : Nat}
    (one : v.Sleeps name s key c) (two : v.Sleeps other s l d) :
    name = other ∧ key = l ∧ c = d := by
  obtain ⟨n, call, sink, found, rfl, rfl, here⟩ := one
  obtain ⟨m, call', sink', found', rfl, rfl, here'⟩ := two
  have same := g.distinct n m s ⟨call, found, by rw [here]; rfl⟩ ⟨call', found', by rw [here']; rfl⟩
  subst same
  cases found.symm.trans found'
  rw [here] at here'
  cases here'
  exact ⟨rfl, rfl, rfl⟩

theorem sleeps_awoken {n semaphore key : Nat} {call : Call} {sink : Sink} {stage : Stage}
    (moved : Advanced v later n call stage) (here : call.stage = .sleeping sink semaphore key)
    (awake : ∀ sink s key, stage ≠ .sleeping sink s key) {name : String} {s k c : Nat} :
    later.Sleeps name s k c ↔ v.Sleeps name s k c ∧ s ≠ semaphore := by
  rw [sleeps_advanced moved]
  constructor
  · rintro (⟨m, ne, other, sink', found, interface, connection, stage⟩ | ⟨-, -, sink', now⟩)
    · refine ⟨⟨m, other, sink', found, interface, connection, stage⟩, ?_⟩
      rintro rfl
      exact ne (g.distinct m n s ⟨other, found, by rw [stage]; rfl⟩
        ⟨call, moved.found, by rw [here]; rfl⟩)
    · exact absurd now (awake sink' s k)
  · rintro ⟨⟨m, other, sink', found, interface, connection, stage⟩, ne⟩
    refine .inl ⟨m, ?_, other, sink', found, interface, connection, stage⟩
    rintro rfl
    cases moved.found.symm.trans found
    rw [here] at stage
    cases stage
    exact ne rfl

/-- The call of a wakeup posts the semaphore of the poll it disarms, or that of a sleeper. -/
theorem fire {n : Nat} {name : String} {key : Nat} {w : Wakeup}
    (sleeper : ∀ s, w = .reader s → ∃ c, v.Sleeps name s key c) :
    Assigned { v.setNet name ((v.net name).fire v.signals (v.isHeld name) key w).2.1 with
      signals := ((v.net name).fire v.signals (v.isHeld name) key w).2.2
      taken := v.taken.eraseIdx n } := by
  cases w with
  | reader semaphore =>
    obtain ⟨c, asleep⟩ := sleeper semaphore rfl
    refine g.of_fewer (Signals.length_post _ _) rfl rfl rfl (fun _ _ h => h) (fun _ _ _ h _ => h)
      (fun other d poll h => .inl (armed_setNet (v := v) rfl (fun _ _ h => h) other d poll h))
      fun other d poll h none polls => ⟨?_, polls⟩
    have ne : poll.semaphore ≠ semaphore := by
      rintro rfl
      exact g.not_polls_of_sleeps asleep polls
    exact (Signals.permits_post_of_ne _ ne).trans none
  | poll c =>
    rcases Interface.fire_poll (i := v.net name) (s := v.signals) (c := c) (v.isHeld name) key with
      ⟨poll, -, armed, -, fired⟩ | ⟨-, fired⟩
    · rw [fired]
      have left (d : Nat) (other : ArmedPoll) (h : (((v.net name).update c fun k =>
          { k with armed := none }).connection d).armed = some other) :
          d ≠ c ∧ ((v.net name).connection d).armed = some other := by
        rw [Interface.connection_update _ (Interface.lt_of_armed armed)] at h
        split at h
        · cases h
        · exact ⟨‹_›, h⟩
      have semaphores : ((v.signals.addToSlot poll.slot (Flags.single .readable)).post
          poll.semaphore).semaphores.length = v.signals.semaphores.length :=
        Signals.length_post _ _
      have slots : ((v.signals.addToSlot poll.slot (Flags.single .readable)).post
          poll.semaphore).slots.length = v.signals.slots.length :=
        Signals.length_addToSlot _ _ _
      refine g.of_fewer semaphores slots rfl rfl (fun _ _ h => h)
        (fun _ _ _ h _ => h) (fun other d poll h => .inl (armed_setNet (v := v) rfl
          (fun d other h => (left d other h).2) other d poll h))
        fun other d mine h none polls => ⟨?_, polls⟩
      have ne : mine.semaphore ≠ poll.semaphore := by
        intro same
        rcases (g.armed name c poll armed).2 with shared | ⟨-, posted⟩
        · obtain ⟨m, owned⟩ := polls.owns
          exact g.hidden m _ owned (same ▸ shared)
        · obtain ⟨rfl, rfl, -⟩ := g.polls_unique polls (same ▸ posted)
          exact (left d mine (by simpa using h)).1 rfl
      exact (Signals.permits_post_of_ne _ ne).trans none
    · rw [fired]
      exact g.of_fewer rfl rfl rfl rfl (fun _ _ h => h) (fun _ _ _ h _ => h)
        (fun other d poll h => .inl (armed_setNet (v := v) rfl (fun _ _ h => h) other d poll h))
        fun _ _ _ _ none polls => ⟨none, polls⟩

end Assigned

end View

end NetlinkSocket

import NetlinkSocket.Stub

/-!
A family of any kind under watch: what is asked of it to make and to end handles, and what is
logged, is written down, and nothing else about it changes. Each call that makes or ends a handle
has one law, which says what it came to and what was written down.
-/

namespace NetlinkSocket

def Handle.attachedTo {κ : Type} (name : String) (h : Handle κ) : Bool :=
  h.family = name && h.connection.isSome

/-- A call of a family that a handle is made or ended by, or a line for the log. -/
inductive FamilyEvent (κ : Type)
  | setup (family : String) (before after : Handle κ)
  | addReference (family : String) (h : Handle κ)
  | close (family : String) (before after : Handle κ)
  | logged (line : LogLine)

namespace FamilyEvent

variable {κ : Type}

@[simp] def attaches (name : String) : FamilyEvent κ → Bool
  | setup family _ after => family = name && after.connection.isSome
  | _ => false

@[simp] def references (name : String) : FamilyEvent κ → Bool
  | addReference family _ => family = name
  | _ => false

@[simp] def detaches (name : String) : FamilyEvent κ → Bool
  | close family before _ => family = name && before.connection.isSome
  | _ => false

def isClose : FamilyEvent κ → Bool
  | close .. => true
  | _ => false

def gained (name : String) (events : List (FamilyEvent κ)) : Nat :=
  events.countP (attaches name) + events.countP (references name)

def lost (name : String) (events : List (FamilyEvent κ)) : Nat :=
  events.countP (detaches name)

section

variable (name : String) (event : FamilyEvent κ) (events later : List (FamilyEvent κ))

@[simp] theorem gained_nil : gained name ([] : List (FamilyEvent κ)) = 0 :=
  rfl

@[simp] theorem lost_nil : lost name ([] : List (FamilyEvent κ)) = 0 :=
  rfl

@[simp] theorem gained_cons : gained name (event :: events) =
    (event.attaches name).toNat + (event.references name).toNat + gained name events := by
  unfold gained
  rw [List.countP_cons, List.countP_cons]
  cases event.attaches name <;> cases event.references name <;> simp <;> omega

@[simp] theorem lost_cons :
    lost name (event :: events) = (event.detaches name).toNat + lost name events := by
  unfold lost
  rw [List.countP_cons]
  cases event.detaches name <;> simp [Nat.add_comm]

@[simp] theorem gained_append :
    gained name (events ++ later) = gained name events + gained name later := by
  simp only [gained, List.countP_append]
  omega

@[simp] theorem lost_append :
    lost name (events ++ later) = lost name events + lost name later := by
  simp only [lost, List.countP_append]

end

end FamilyEvent

namespace Family

variable {σ κ : Type}

/-- A family whose calls return, and hand back a handle of the family they were given one of. -/
structure Tame (f : Family σ κ) : Prop where
  setup_family : ∀ h number s, (f.setup h number s).2.1.family = h.family
  close_family : ∀ h s, (f.close h s).2.1.family = h.family
  setup_returns : ∀ h number s fault, (f.setup h number s).1 ≠ .error (.faulted fault)
  close_returns : ∀ h s fault, (f.close h s).1 ≠ .error (.faulted fault)
  addReference_returns : ∀ h s, (f.addReference h s).1 = .ok ()

def unwatched {α : Type} (r : α × σ) (events : List (FamilyEvent κ)) :
    α × σ × List (FamilyEvent κ) :=
  (r.1, r.2, events)

def unwatch {α : Type} (r : α × σ × List (FamilyEvent κ)) : α × σ :=
  (r.1, r.2.1)

def watched (name : String) (f : Family σ κ) : Family (σ × List (FamilyEvent κ)) κ where
  setup h number w :=
    let r := f.setup h number w.1
    (r.1, r.2.1, r.2.2, w.2 ++ [.setup name h r.2.1])
  capabilities := f.capabilities
  addReference h w :=
    let r := f.addReference h w.1
    (r.1, r.2, w.2 ++ [.addReference name h])
  bind h address pid w := unwatched (f.bind h address pid w.1) w.2
  name h buffer w := unwatched (f.name h buffer w.1) w.2
  peerName h buffer w := unwatched (f.peerName h buffer w.1) w.2
  listen h backlog w := unwatched (f.listen h backlog w.1) w.2
  connect h address w := unwatched (f.connect h address w.1) w.2
  accept h buffer w := unwatched (f.accept h buffer w.1) w.2
  arm h fd w := unwatched (f.arm h fd w.1) w.2
  disarm h fd w := unwatched (f.disarm h fd w.1) w.2
  send h message flags w := unwatched (f.send h message flags w.1) w.2
  sendTo h message flags destination w := unwatched (f.sendTo h message flags destination w.1) w.2
  receive h buffer flags sender w := unwatched (f.receive h buffer flags sender w.1) w.2
  close h w :=
    let r := f.close h w.1
    (r.1, r.2.1, r.2.2, w.2 ++ [.close name h r.2.1])
  log line w := (f.log line w.1, w.2 ++ [.logged line])

section

variable (name : String) (f : Family σ κ) (h : Handle κ) (number : Int32) (line : LogLine) (s : σ)
  (events : List (FamilyEvent κ))

@[simp] theorem setup_watched : (f.watched name).setup h number (s, events) =
    ((f.setup h number s).1, (f.setup h number s).2.1, (f.setup h number s).2.2,
      events ++ [.setup name h (f.setup h number s).2.1]) :=
  rfl

@[simp] theorem addReference_watched : (f.watched name).addReference h (s, events) =
    ((f.addReference h s).1, (f.addReference h s).2, events ++ [.addReference name h]) :=
  rfl

@[simp] theorem close_watched : (f.watched name).close h (s, events) =
    ((f.close h s).1, (f.close h s).2.1, (f.close h s).2.2,
      events ++ [.close name h (f.close h s).2.1]) :=
  rfl

@[simp] theorem log_watched :
    (f.watched name).log line (s, events) = (f.log line s, events ++ [.logged line]) :=
  rfl

end

def ending (name : String) (f : Family σ κ) (h : Handle κ) (s : σ) :
    σ × List (FamilyEvent κ) :=
  match h.connection with
  | none => (s, [])
  | some _ =>
    match f.close h s with
    | (.error (.failed failure), after, s) =>
      (f.log (.discardFailed failure) s, [.close name h after, .logged (.discardFailed failure)])
    | (_, after, s) => (s, [.close name h after])

theorem ending_detached (name : String) (f : Family σ κ) {h : Handle κ} (s : σ)
    (detached : h.connection = none) : f.ending name h s = (s, []) := by
  unfold ending
  rw [detached]

theorem countP_ending (name : String) (f : Family σ κ) {h : Handle κ} (s : σ)
    (attached : h.connection ≠ none) :
    (f.ending name h s).2.countP FamilyEvent.isClose = 1 := by
  unfold ending
  cases connection : h.connection with
  | none => exact absurd connection attached
  | some c => dsimp only; split <;> rfl

theorem gained_ending (name family : String) (f : Family σ κ) (h : Handle κ) (s : σ) :
    FamilyEvent.gained name (f.ending family h s).2 = 0 := by
  unfold ending
  cases h.connection with
  | none => rfl
  | some c => dsimp only; split <;> rfl

theorem lost_ending (name : String) (f : Family σ κ) (h : Handle κ) (s : σ) :
    FamilyEvent.lost name (f.ending h.family h s).2 = (h.attachedTo name).toNat := by
  unfold ending Handle.attachedTo
  cases attached : h.connection with
  | none => simp
  | some c => dsimp only; split <;> simp [FamilyEvent.detaches, attached]

end Family

namespace Handle

variable {σ κ : Type} {f : Family σ κ} (name : String) (h : Handle κ) (s : σ)
  (events : List (FamilyEvent κ))

theorem duplicate_watched (tame : f.Tame) :
    h.duplicate (f.watched name) (s, events) =
      match h.connection with
      | none => (.error (.failed .notOpen), s, events)
      | some _ => (.ok h, (f.addReference h s).2, events ++ [.addReference name h]) := by
  unfold duplicate
  cases h.connection with
  | none => rfl
  | some c => simp only [Family.addReference_watched, tame.addReference_returns]

theorem discard_watched (tame : f.Tame) :
    h.discard (f.watched name) (s, events) =
      (.ok (), (f.ending name h s).1, events ++ (f.ending name h s).2) := by
  unfold discard Family.ending
  cases h.connection with
  | none => simp
  | some c =>
    have returns := tame.close_returns h s
    simp only [Family.close_watched]
    cases closed : f.close h s with
    | mk outcome rest =>
      rw [closed] at returns
      cases outcome with
      | ok u => rfl
      | error stop =>
        cases stop with
        | failed failure => simp
        | faulted fault => exact absurd rfl (returns fault)

theorem close_watched (tame : f.Tame) :
    h.close (f.watched name) (s, events) =
      ((f.close h s).1, (f.ending name (f.close h s).2.1 (f.close h s).2.2).1,
        events ++ .close name h (f.close h s).2.1 ::
          (f.ending name (f.close h s).2.1 (f.close h s).2.2).2) := by
  simp [close, discard_watched name _ _ _ tame]

/-! A watched family does what the family does. -/

theorem duplicate_faithful :
    h.duplicate f s = Family.unwatch (h.duplicate (f.watched name) (s, events)) := by
  unfold duplicate
  cases h.connection with
  | none => rfl
  | some c =>
    rw [Family.addReference_watched]
    cases counted : f.addReference h s with
    | mk outcome later => cases outcome <;> rfl

theorem discard_faithful :
    h.discard f s = Family.unwatch (h.discard (f.watched name) (s, events)) := by
  unfold discard
  cases h.connection with
  | none => rfl
  | some c =>
    rw [Family.close_watched]
    cases closed : f.close h s with
    | mk outcome rest =>
      cases outcome with
      | ok u => rfl
      | error stop => cases stop <;> rfl

theorem close_faithful :
    h.close f s = Family.unwatch (h.close (f.watched name) (s, events)) := by
  unfold close
  rw [Family.close_watched]
  cases closed : f.close h s with
  | mk outcome rest =>
    obtain ⟨after, later⟩ := rest
    simp only
    rw [discard_faithful (f := f) name after later (events ++ [.close name h after])]
    cases after.discard (f.watched name) (later, events ++ [.close name h after]) with
    | mk told w => cases told <;> rfl

end Handle

def requested? {κ : Type} (registry : Table AddressFamily String) (domain type : Int32) :
    Option (Handle κ) :=
  (AddressFamily.ofNumber? domain).bind fun domain =>
    (registry.get? domain).bind fun name =>
      (SocketType.ofNumber? (type &&& SocketType.mask)).map fun kind =>
        ⟨domain, kind, Flags.truncate (type &&& ~~~SocketType.mask).toBitVec, name, none⟩

def Handle.requestLine {κ : Type} (h : Handle κ) (protocol : Int32) : LogLine :=
  .socketRequested h.domain h.type h.flags protocol

section Opening

variable {σ κ : Type} (families : String → Family σ κ) (registry : Table AddressFamily String)
  (domain type protocol : Int32) (s : σ)

theorem openSocket_refused (unknown : requested? (κ := κ) registry domain type = none) :
    ∃ failure, ∀ {σ : Type} (families : String → Family σ κ) (s : σ),
      openSocket families registry domain type protocol s = (.error (.failed failure), s) := by
  unfold requested? at unknown
  unfold openSocket
  cases known : AddressFamily.ofNumber? domain with
  | none => exact ⟨_, fun _ _ => rfl⟩
  | some d =>
    simp only [known, Option.bind_some] at unknown ⊢
    cases registered : registry.get? d with
    | none => exact ⟨_, fun _ _ => rfl⟩
    | some name =>
      simp only [registered, Option.bind_some] at unknown ⊢
      cases kind : SocketType.ofNumber? (type &&& SocketType.mask) with
      | none => exact ⟨_, fun _ _ => rfl⟩
      | some k => simp [kind] at unknown

theorem openSocket_requested {h : Handle κ} (known : requested? registry domain type = some h) :
    openSocket families registry domain type protocol s =
      match (families h.family).setup h protocol
        ((families h.family).log (h.requestLine protocol) s) with
      | (.ok (), h, s) => (.ok h, s)
      | (.error stop, after, s) =>
        match after.discard (families h.family) s with
        | (.error later, s) => (.error later, s)
        | (.ok (), s) => (.error stop, s) := by
  unfold requested? at known
  obtain ⟨d, hd, known⟩ := Option.bind_eq_some_iff.mp known
  obtain ⟨name, registered, known⟩ := Option.bind_eq_some_iff.mp known
  obtain ⟨kind, hk, made⟩ := Option.map_eq_some_iff.mp known
  subst made
  simp only [openSocket, hd, registered, hk]
  rfl

def watchedAll (name : String) : Family (σ × List (FamilyEvent κ)) κ :=
  (families name).watched name

variable (events : List (FamilyEvent κ))

theorem openSocket_watched {h : Handle κ} (tame : (families h.family).Tame)
    (known : requested? registry domain type = some h) :
    openSocket (watchedAll families) registry domain type protocol (s, events) =
      match (families h.family).setup h protocol
        ((families h.family).log (h.requestLine protocol) s) with
      | (.ok (), after, s) =>
        (.ok after, s,
          events ++ [.logged (h.requestLine protocol), .setup h.family h after])
      | (.error stop, after, s) =>
        (.error stop, ((families h.family).ending h.family after s).1,
          events ++ .logged (h.requestLine protocol) :: .setup h.family h after ::
            ((families h.family).ending h.family after s).2) := by
  rw [openSocket_requested (watchedAll families) registry domain type protocol _ known]
  simp only [watchedAll, Family.log_watched, Family.setup_watched,
    Handle.discard_watched _ _ _ _ tame]
  cases made : (families h.family).setup h protocol
      ((families h.family).log (h.requestLine protocol) s) with
  | mk outcome rest => cases outcome <;> simp

theorem openSocket_faithful :
    openSocket families registry domain type protocol s =
      Family.unwatch
        (openSocket (watchedAll families) registry domain type protocol (s, events)) := by
  cases known : requested? (κ := κ) registry domain type with
  | none =>
    obtain ⟨failure, refused⟩ := openSocket_refused registry domain type protocol known
    rw [refused, refused]
    rfl
  | some h =>
    rw [openSocket_requested _ _ _ _ _ _ known, openSocket_requested _ _ _ _ _ _ known]
    simp only [watchedAll, Family.log_watched, Family.setup_watched]
    cases made : (families h.family).setup h protocol
        ((families h.family).log (h.requestLine protocol) s) with
    | mk outcome rest =>
      obtain ⟨after, later⟩ := rest
      cases outcome with
      | ok u => rfl
      | error stop =>
        simp only
        rw [Handle.discard_faithful (f := families h.family) h.family after later (events ++
          [.logged (h.requestLine protocol)] ++ [.setup h.family h after])]
        cases after.discard ((families h.family).watched h.family) (later,
            events ++ [.logged (h.requestLine protocol)] ++ [.setup h.family h after]) with
        | mk told w => cases told <;> rfl

end Opening

end NetlinkSocket

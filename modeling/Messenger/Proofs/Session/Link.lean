import Mathlib.Logic.Relation
import Messenger.Session.Run

/-!
Looking after the link leaves all that is not the link's as it is. A publish is noted before
the link is looked after.
-/

namespace Messenger

/-- What listeners are told of the link. -/
def Callback.ofLink : Callback → Bool
  | .event (.error _) => true
  | .event (.connection _) => true
  | _ => false

/-- What is noted while the link is looked after. -/
def Entry.ofLink : Entry → Bool
  | .stamped _ _ => true
  | .keysAsked _ _ => true
  | .attempted _ _ => true
  | .subscribed _ _ => true
  | .told callback => callback.ofLink
  | _ => false

/-- One journal goes on the other with entries of one kind. -/
def Adds (kind : Entry → Bool) (first last : List Entry) : Prop :=
  ∃ more, last = first ++ more ∧ ∀ entry ∈ more, kind entry = true

namespace Adds

variable {kind : Entry → Bool} {first middle last : List Entry}

theorem of_eq (same : last = first) : Adds kind first last :=
  ⟨[], by rw [same, List.append_nil], fun _ member => absurd member List.not_mem_nil⟩

theorem one {entry : Entry} (added : last = first ++ [entry]) (isKind : kind entry = true) :
    Adds kind first last :=
  ⟨[entry], added, List.forall_mem_singleton.mpr isKind⟩

theorem trans (start : Adds kind first middle) (rest : Adds kind middle last) :
    Adds kind first last := by
  obtain ⟨early, earlyEq, earlyKind⟩ := start
  obtain ⟨late, lateEq, lateKind⟩ := rest
  refine ⟨early ++ late, by rw [lateEq, earlyEq, List.append_assoc], ?_⟩
  intro entry member
  exact (List.mem_append.mp member).elim (earlyKind entry) (lateKind entry)

theorem imp {wider : Entry → Bool} (adds : Adds kind first last)
    (widens : ∀ entry, kind entry = true → wider entry = true) : Adds wider first last := by
  obtain ⟨more, grown, isKind⟩ := adds
  exact ⟨more, grown, fun entry member => widens entry (isKind entry member)⟩

theorem of_mem_drop (adds : Adds kind first last) {entry : Entry}
    (member : entry ∈ last.drop first.length) : kind entry = true := by
  obtain ⟨more, rfl, isKind⟩ := adds
  rw [List.drop_left] at member
  exact isKind entry member

end Adds

namespace Session

variable {W : Type}

def withLinkOf (session other : Session W) : Session W :=
  { session with
    outside := other.outside
    clock := other.clock
    connected := other.connected
    reconnectSpent := other.reconnectSpent
    bootstrapped := other.bootstrapped
    generation := other.generation
    listeners := other.listeners
    journal := other.journal }

/-- What opening an account does before it connects. -/
def adopt (session : Session W) (account : Account) (owner : Owner) (resume : Bool) :
    Session W :=
  let fresh :=
    RestoreMachine.new session.config.contactsPageSize session.config.messagesPageSize
  { session with
    account := some account
    owner
    restore := if resume then session.restore else fresh
    reconnectSpent := false
    bootstrapped := false
    connected := false }.note (.opened account owner)

/-- No attempt was made after the one whose events count now. -/
def Numbered (session : Session W) : Prop :=
  ∀ generation options, .attempted generation options ∈ session.journal →
    generation ≤ session.generation

variable [Surroundings W]

/-- What looking after the link asks of the surroundings. -/
inductive Serves : W → W → Prop where
  | wallMillis (outside : W) (now : Nat) :
      Serves outside (Surroundings.wallMillis outside now).2
  | randomBytes (outside : W) (count : Nat) :
      Serves outside (Surroundings.randomBytes outside count).2
  | connect (outside : W) (generation : Nat) (options : ConnectOptions) :
      Serves outside (Surroundings.connect outside generation options).2
  | publish (outside : W) (publish : Publish) :
      Serves outside (Surroundings.publish outside publish).2
  | subscribe (outside : W) (topics : List String) :
      Serves outside (Surroundings.subscribe outside topics).2

/-- The publish has been handed to the link, and its outcome is noted. -/
def sent (session : Session W) (publish : Publish) : Session W :=
  { session with outside := (Surroundings.publish session.outside publish).2 }.note
    (.published publish session.now (Surroundings.publish session.outside publish).1)

structure LinkOnly (first last : Session W) : Prop where
  rest : last = first.withLinkOf last
  journal : Adds Entry.ofLink first.journal last.journal
  numbered : first.Numbered → last.Numbered
  outside : Relation.ReflTransGen Serves first.outside last.outside

namespace LinkOnly

variable {first middle last : Session W}

theorem of_fields (rest : last = first.withLinkOf last)
    (journal : last.journal = first.journal) (later : first.generation ≤ last.generation)
    (outside : Relation.ReflTransGen Serves first.outside last.outside) :
    LinkOnly first last :=
  ⟨rest, .of_eq journal, fun numbered generation options member =>
    Nat.le_trans (numbered generation options (journal ▸ member)) later, outside⟩

theorem refl (session : Session W) : LinkOnly session session :=
  of_fields rfl rfl (Nat.le_refl _) .refl

theorem trans (start : LinkOnly first middle) (rest : LinkOnly middle last) :
    LinkOnly first last := by
  refine ⟨?_, start.journal.trans rest.journal, rest.numbered ∘ start.numbered,
    start.outside.trans rest.outside⟩
  calc
    last = middle.withLinkOf last := rest.rest
    _ = (first.withLinkOf middle).withLinkOf last := by rw [← start.rest]
    _ = first.withLinkOf last := rfl

theorem noting (entry : Entry) (rest : last = first.withLinkOf last)
    (journal : last.journal = first.journal ++ [entry]) (quiet : entry.ofLink = true)
    (same : last.generation = first.generation)
    (current : ∀ generation options, entry = .attempted generation options →
      generation ≤ last.generation)
    (outside : Relation.ReflTransGen Serves first.outside last.outside) :
    LinkOnly first last := by
  refine ⟨rest, .one journal quiet, fun numbered generation options member => ?_, outside⟩
  rw [journal] at member
  cases List.mem_append.mp member with
  | inl before => exact same ▸ numbered generation options before
  | inr now => exact current generation options (List.mem_singleton.mp now).symm

theorem tell (session : Session W) {callback : Callback} (ofLink : callback.ofLink = true) :
    LinkOnly session (session.tell callback) :=
  noting (.told callback) rfl rfl ofLink rfl nofun .refl

theorem report (session : Session W) (error : SessionError) :
    LinkOnly session (session.report error) :=
  tell session rfl

/-- Listeners are told the status, and the session has the connection so or so. -/
theorem status (session : Session W) (connected : Bool) (status : ConnectionStatus) :
    LinkOnly session ({ session with connected }.notify (.connection status)) := by
  have turned : LinkOnly session { session with connected } :=
    of_fields rfl rfl (Nat.le_refl _) .refl
  exact turned.trans (tell _ rfl)

theorem bootstrapped (session : Session W) :
    LinkOnly session { session with bootstrapped := true } :=
  of_fields rfl rfl (Nat.le_refl _) .refl

theorem uniqueTime (session : Session W) : LinkOnly session session.uniqueTime.1 :=
  noting (.stamped (Surroundings.wallMillis session.outside session.now).1
    session.uniqueTime.2) rfl rfl rfl rfl nofun (.single (.wallMillis _ _))

theorem attempt (session : Session W) (endpoint : Endpoint) (username password : String) :
    LinkOnly session (session.attempt endpoint username password).1 := by
  have begun : LinkOnly session { session with
      outside := (session.randomBytes 8).1.outside
      generation := session.generation + 1 } :=
    of_fields rfl rfl (Nat.le_succ _) (.single (.randomBytes _ 8))
  have told := begun.trans
    (tell _ (rfl : (Callback.event (.connection .connecting)).ofLink = true))
  exact told.trans (noting (.attempted (session.generation + 1) {
    endpoint, username, password
    clientId := "switchboard_" ++ Hexadecimal.writeBytes (session.randomBytes 8).2
    keepAlive := session.config.keepAlive }) rfl rfl rfl rfl
      (by rintro _ _ ⟨⟩; exact Nat.le_refl _) (.single (.connect _ _ _)))

theorem connect (session : Session W) : LinkOnly session session.connect.1 := by
  unfold Session.connect
  split
  · exact refl session
  · rename_i account _
    split
    · exact refl session
    · have asked : LinkOnly session
          (session.uniqueTime.1.note (.keysAsked account.seed session.uniqueTime.2)) :=
        (uniqueTime session).trans (noting _ rfl rfl rfl rfl nofun .refl)
      dsimp only
      split
      · exact asked
      · exact asked.trans (attempt _ _ _ _)

theorem reconnectOnce (session : Session W) : LinkOnly session session.reconnectOnce := by
  unfold Session.reconnectOnce
  split
  · exact refl session
  · have spent : LinkOnly session
        { session with reconnectSpent := true, bootstrapped := false } :=
      of_fields rfl rfl (Nat.le_refl _) .refl
    have connected := spent.trans (connect _)
    split
    · rename_i result
      rw [result] at connected
      exact connected
    · rename_i result
      rw [result] at connected
      exact connected.trans (report _ _)

theorem linkFailed (session : Session W) (error : SessionError) :
    LinkOnly session (session.linkFailed error) :=
  (report session error).trans (reconnectOnce _)

theorem connectionFailed (session : Session W) (reason : String) :
    LinkOnly session (session.connectionFailed reason) := by
  have fallen : LinkOnly session { session with connected := false } :=
    of_fields rfl rfl (Nat.le_refl _) .refl
  have told := (fallen.trans (report _ (.connect reason))).trans (status _ false .disconnected)
  exact told.trans (reconnectOnce _)

theorem connectionLost (session : Session W) (reason : String) :
    LinkOnly session (session.connectionLost reason) :=
  (status session false .disconnected).trans (linkFailed _ (.connectionLost reason))

theorem publish (session : Session W) (publish : Publish) :
    LinkOnly (session.sent publish) (session.publish publish) := by
  unfold Session.publish
  dsimp only
  split
  · rename_i sent
    unfold Session.sent
    rw [sent]
    exact refl _
  · rename_i refused
    unfold Session.sent
    rw [refused]
    exact linkFailed _ _

theorem subscribe (session : Session W) (topics : List String) :
    LinkOnly session (session.subscribe topics) := by
  have noted (outcome : Except LinkError Unit) : LinkOnly session
      ({ session with outside := (Surroundings.subscribe session.outside topics).2 }.note
        (.subscribed topics outcome)) :=
    noting _ rfl rfl rfl rfl nofun (.single (.subscribe _ _))
  unfold Session.subscribe
  dsimp only
  split
  · exact noted _
  · exact (noted _).trans (linkFailed _ _)

end LinkOnly

theorem openAccount_link (session : Session W) (account : Account) (owner : Owner)
    (resume : Bool) :
    LinkOnly (session.adopt account owner resume)
      (session.openAccount account owner resume).1 := by
  unfold openAccount
  extract_lets fresh live
  have connected : LinkOnly (session.adopt account owner resume) live.connect.1 :=
    LinkOnly.connect live
  split
  · rename_i result
    rw [result] at connected
    exact connected
  · rename_i result
    rw [result] at connected
    exact connected.trans (.connectionFailed _ _)
  · rename_i result
    rw [result] at connected
    exact connected

end Session

end Messenger

import Messenger.Proofs.Session.Away

/-!
How a session tends its connection. Whatever happens to it comes to small steps, and most of
them are away from the connection. The others take an account over, make an attempt for it,
raise the connection, let it fall or close it, and change the address of the broker. What a
run keeps to is what these steps may rely on.
-/

namespace Messenger

/-- What a run keeps to. -/
structure Discipline where
  /-- Operations, events and wake-ups wait for the agenda. -/
  ordered : Bool := false
  /-- Events come from attempts that were made. -/
  genuine : Bool := false
  /-- No caller supplies an address. -/
  settled : Bool := false

/-- The link did not take a request. -/
def Entry.refuses : Entry → Bool
  | .published _ _ (.error _) => true
  | .subscribed _ (.error _) => true
  | _ => false

/-- What becomes of the live account. -/
def Entry.holds (account : Option Account) : Entry → Option Account
  | .opened account _ => some account
  | .disconnected => none
  | .told (.event (.mixerChanged host)) => account.map fun account => { account with mixer := host }
  | _ => account

/-- The account that was opened last, if it was not closed, with its broker. -/
def holder (journal : List Entry) : Option Account :=
  journal.foldl Entry.holds none

theorem Entry.holds_of_away {entry : Entry} (away : entry.ofConnection = false)
    (account : Option Account) : entry.holds account = account := by
  cases entry with
  | opened account owner => cases away
  | disconnected => cases away
  | told callback =>
      cases callback with
      | event event =>
          cases event with
          | mixerChanged host => cases away
          | _ => rfl
      | _ => rfl
  | _ => rfl

theorem holder_append (journal : List Entry) {more : List Entry}
    (plain : ∀ entry ∈ more, ∀ account, entry.holds account = account) :
    holder (journal ++ more) = holder journal := by
  rw [holder, List.foldl_append, ← holder]
  generalize holder journal = account
  induction more with
  | nil => rfl
  | cons entry rest induction =>
      have ⟨first, others⟩ := List.forall_mem_cons.mp plain
      rw [List.foldl_cons, first]
      exact induction others

/-- As far as only openings change what is looked at, the holder has it from before, or from
the last of them. -/
theorem held_since {β : Type} (view : Account → β) {entries : List Entry}
    {before : Option Account} {account : Account}
    (kept : ∀ entry ∈ entries, entry.isOpening = false → ∀ before account,
      entry.holds before = some account → before.map view = some (view account))
    (held : entries.foldl Entry.holds before = some account) :
    (∀ entry ∈ entries, entry.isOpening = false) ∧ before.map view = some (view account) ∨
      ∃ early opened owner late, entries = early ++ .opened opened owner :: late ∧
        (∀ entry ∈ late, entry.isOpening = false) ∧ view opened = view account := by
  induction entries generalizing before with
  | nil => exact Or.inl ⟨List.forall_mem_nil _, congrArg _ held⟩
  | cons entry rest induction =>
      have ⟨now, later⟩ := List.forall_mem_cons.mp kept
      rcases induction later held with
        ⟨unopened, same⟩ | ⟨early, opened, owner, late, split, unopened, same⟩
      · cases opens : entry.isOpening with
        | true =>
            cases entry with
            | opened opened owner =>
                exact Or.inr ⟨[], opened, owner, rest, rfl, unopened, Option.some.inj same⟩
            | _ => cases opens
        | false =>
            obtain ⟨next, holds, sameNext⟩ := Option.map_eq_some_iff.mp same
            exact Or.inl ⟨List.forall_mem_cons.mpr ⟨opens, unopened⟩,
              sameNext ▸ now opens before next holds⟩
      · exact Or.inr ⟨entry :: early, opened, owner, late, congrArg _ split, unopened, same⟩

namespace Session

variable {W : Type} [Surroundings W]

/-- The user name and the password are what the core derives from a seed at a time. -/
def Derived (W : Type) [Surroundings W] (seed : String) (network : Network) (time : UInt64)
    (options : ConnectOptions) : Prop :=
  ∃ outside : W,
    Surroundings.publicKey outside seed time network = .ok options.username ∧
      Surroundings.signature outside seed time network = .ok options.password

/-- An attempt for the live account, with its keys and to where it has its broker. -/
structure Dials (live : Account) (options : ConnectOptions) (first last : Session W) :
    Prop where
  rest : last = { first.withAffairsOf last with generation := first.generation + 1 }
  account : last.account = first.account
  spent : last.reconnectSpent = first.reconnectSpent
  lives : first.account = some live
  resolves : Endpoint.parse live.mixer first.config = .ok options.endpoint
  grows : ∃ wall time, Derived W live.seed live.network time options ∧
    Grows [.stamped wall time, .keysAsked live.seed time,
      .told (.event (.connection .connecting)), .attempted (first.generation + 1) options]
      first last

namespace Dials

variable {live : Account} {options : ConnectOptions} {first last : Session W}

theorem config (dials : Dials live options first last) : last.config = first.config :=
  (congrArg Session.config dials.rest :)

theorem lastOpening (dials : Dials live options first last) :
    last.lastOpening = first.lastOpening :=
  (congrArg Session.lastOpening dials.rest :)

theorem connected (dials : Dials live options first last) :
    last.connected = first.connected :=
  (congrArg Session.connected dials.rest :)

theorem generation (dials : Dials live options first last) :
    last.generation = first.generation + 1 :=
  (congrArg Session.generation dials.rest :)

theorem farewell (dials : Dials live options first last) : last.farewell = first.farewell :=
  (congrArg Session.farewell dials.rest :)

end Dials

theorem credentials_ok {session : Session W} {account : Account} {time : UInt64}
    {username password : String}
    (derives : session.credentials account time = .ok (username, password)) :
    Surroundings.publicKey session.outside account.seed time account.network = .ok username ∧
      Surroundings.signature session.outside account.seed time account.network =
        .ok password := by
  unfold credentials at derives
  split at derives
  · cases derives
  · rename_i publicKey
    split at derives
    · cases derives
    · rename_i signature
      cases derives
      exact ⟨publicKey, signature⟩

theorem attempt_grows (session : Session W) (endpoint : Endpoint)
    (username password : String) :
    ∃ options : ConnectOptions,
      options.endpoint = endpoint ∧ options.username = username ∧
        options.password = password ∧
          Grows [.told (.event (.connection .connecting)),
            .attempted (session.generation + 1) options] session
            (session.attempt endpoint username password).1 := by
  refine ⟨{
    endpoint, username, password
    clientId := "switchboard_" ++ Hexadecimal.writeBytes (session.randomBytes 8).2
    keepAlive := session.config.keepAlive }, rfl, rfl, rfl, ?_⟩
  have told : Grows [.told (.event (.connection .connecting))] session
      (session.notify (.connection .connecting)) := .tell session _
  exact told.trans (.noting rfl rfl rfl)

/-- An attempt is made, or there is an error that is not the link's. -/
theorem connect_cases_of {session last : Session W} {outcome : Except SessionError Unit}
    (done : session.connect = (last, outcome)) :
    (∃ error, outcome = .error error ∧ (∀ reason, error ≠ .connect reason) ∧
      Away session last) ∨
    ∃ account options, Dials account options session last := by
  unfold connect at done
  split at done
  · cases done
    exact Or.inl ⟨_, rfl, nofun, .refl session⟩
  · rename_i account lives
    split at done
    · cases done
      exact Or.inl ⟨_, rfl, nofun, .refl session⟩
    · rename_i endpoint resolves
      dsimp only at done
      split at done
      · cases done
        exact Or.inl ⟨_, rfl, nofun, (Away.uniqueTime session).trans (.note _ rfl rfl)⟩
      · rename_i username password derives
        obtain ⟨publicKey, signature⟩ := credentials_ok derives
        obtain rfl : (Session.attempt _ endpoint username password).1 = last :=
          congrArg Prod.fst done
        obtain ⟨options, rfl, rfl, rfl, attempts⟩ := attempt_grows
          (session.uniqueTime.1.note (.keysAsked account.seed session.uniqueTime.2)) endpoint
          username password
        have stamped : Grows [.stamped (Surroundings.wallMillis session.outside session.now).1
            session.uniqueTime.2] session session.uniqueTime.1 := .noting rfl rfl rfl
        have asked : Grows [.keysAsked account.seed session.uniqueTime.2] session.uniqueTime.1
            (session.uniqueTime.1.note (.keysAsked account.seed session.uniqueTime.2)) :=
          .note _ rfl
        exact Or.inr ⟨account, options, rfl, rfl, rfl, lives, resolves, _, _,
          ⟨_, publicKey, signature⟩, (stamped.trans asked).trans attempts⟩

theorem connect_cases (session : Session W) :
    Away session session.connect.1 ∨
      ∃ account options, Dials account options session session.connect.1 := by
  rcases connect_cases_of (Prod.eta session.connect).symm with ⟨-, -, -, away⟩ | dials
  · exact Or.inl away
  · exact Or.inr dials

theorem connected_connect (session : Session W) :
    session.connect.1.connected = session.connected := by
  rcases session.connect_cases with away | ⟨_, _, dials⟩
  · exact away.connected
  · exact dials.connected

/-- A request was refused, and that was reported just now. -/
def Refused (session : Session W) : Prop :=
  ∃ early entry error, entry.refuses = true ∧
    session.journal = early ++ [entry, .told (.event (.error error))]

/-- What a session does about its connection. -/
inductive Tends (discipline : Discipline) : Session W → Session W → Prop where
  | away {first last : Session W} (away : Away first last) : Tends discipline first last
  | listen (session : Session W) : Tends discipline session session.addListener
  | supply (session : Session W) (params : OpeningParams)
      (free : discipline.settled = false) :
      Tends discipline session { session with lastOpening := some params }
  | rehost (session : Session W) (host : String) :
      Tends discipline session (session.onLspHost host)
  | adopt (session : Session W) {account : Account} (owner : Owner) (resume : Bool)
      (down : session.connected = false)
      (known : session.lastOpening.map (·.address) = some account.mixer) :
      Tends discipline session (session.adopt account owner resume)
  | dial (session : Session W) (down : session.connected = false) :
      Tends discipline session session.connect.1
  /-- The one automatic reconnect, of a connection that may still be up. -/
  | replace (session : Session W) (unspent : session.reconnectSpent = false)
      (refused : session.Refused) :
      Tends discipline session
        { session with reconnectSpent := true, bootstrapped := false }.connect.1
  | rise (session : Session W)
      (made : discipline.genuine = true →
        session.journal.any (·.isAttempt session.generation) = true) :
      Tends discipline session
        ({ session with connected := true }.notify (.connection .connected))
  | fall (session : Session W)
      (done : discipline.ordered = true → session.connected = true → session.farewell = []) :
      Tends discipline session
        ({ session with connected := false }.notify (.connection .disconnected))
  | promise (session : Session W) (up : session.connected = true) :
      Tends discipline session (session.lastly (.connection .connected))
  | depart (session : Session W) {event : Event} {farewell : List Event}
      (next : session.farewell = event :: farewell) :
      Tends discipline session ({ session with farewell }.notify event)
  | close (session : Session W)
      (done : discipline.ordered = true → session.connected = true → session.farewell = []) :
      Tends discipline session session.disconnect

abbrev Tending (discipline : Discipline) : Session W → Session W → Prop :=
  Relation.ReflTransGen (Tends discipline)

variable {discipline : Discipline}

namespace Tending

variable {first middle last : Session W}

theorem one (tends : Tends discipline first last) : Tending discipline first last :=
  Relation.ReflTransGen.single tends

theorem away (away : Away first last) : Tending discipline first last :=
  one (.away away)

theorem reconnectOnce (session : Session W)
    (refused : session.connected = true → session.Refused) :
    Tending discipline session session.reconnectOnce := by
  unfold Session.reconnectOnce
  split
  · exact Relation.ReflTransGen.refl
  · rename_i may
    have unspent : session.reconnectSpent = false := by
      rw [Bool.or_eq_true, not_or] at may
      exact Bool.eq_false_iff.mpr may.2
    have dialled : Tending discipline session
        { session with reconnectSpent := true, bootstrapped := false }.connect.1 := by
      by_cases up : session.connected = true
      · exact one (.replace session unspent (refused up))
      · exact (away (.spendReconnect session)).tail (.dial _ (Bool.eq_false_iff.mpr up))
    split
    · rename_i result
      rw [result] at dialled
      exact dialled
    · rename_i result
      rw [result] at dialled
      exact dialled.trans (away (.report _ _))

theorem linkFailed (session : Session W) (error : SessionError)
    (refused : session.connected = true →
      ∃ early entry, entry.refuses = true ∧ session.journal = early ++ [entry]) :
    Tending discipline session (session.linkFailed error) := by
  refine (away (.report session error)).trans (reconnectOnce _ fun up => ?_)
  obtain ⟨early, entry, refuses, noted⟩ := refused up
  refine ⟨early, entry, error, refuses, ?_⟩
  change session.journal ++ _ = _
  rw [noted, List.append_assoc]
  rfl

theorem connectionFailed (session : Session W) (reason : String)
    (done : discipline.ordered = true → session.connected = true → session.farewell = []) :
    Tending discipline session (session.connectionFailed reason) := by
  have told := (away (.report session (.connect reason))).tail (.fall _ done)
  exact told.trans (reconnectOnce _ nofun)

theorem connectionLost (session : Session W) (reason : String)
    (done : discipline.ordered = true → session.connected = true → session.farewell = []) :
    Tending discipline session (session.connectionLost reason) :=
  (one (.fall session done)).trans (linkFailed _ (.connectionLost reason) nofun)

theorem publish (session : Session W) (publish : Publish) :
    Tending discipline session (session.publish publish) := by
  have noted (outside : W) (outcome : Except LinkError Unit) : Tending discipline session
      ({ session with outside }.note (.published publish session.now outcome)) :=
    away ((Away.withOutside session outside).trans (.note _ rfl rfl))
  unfold Session.publish
  dsimp only
  split
  · exact noted _ _
  · rename_i refused
    exact (noted _ _).trans
      (linkFailed _ _ fun _ => ⟨session.journal, _, by rw [refused]; rfl, rfl⟩)

theorem subscribe (session : Session W) (topics : List String) :
    Tending discipline session (session.subscribe topics) := by
  have noted (outside : W) (outcome : Except LinkError Unit) : Tending discipline session
      ({ session with outside }.note (.subscribed topics outcome)) :=
    away ((Away.withOutside session outside).trans (.note _ rfl rfl))
  unfold Session.subscribe
  dsimp only
  split
  · exact noted _ _
  · rename_i refused
    exact (noted _ _).trans
      (linkFailed _ _ fun _ => ⟨session.journal, _, by rw [refused]; rfl, rfl⟩)

theorem onConnected (session : Session W)
    (made : discipline.genuine = true →
      session.journal.any (·.isAttempt session.generation) = true) :
    Tending discipline session session.onConnected := by
  have risen := one (.rise session made)
  unfold Session.onConnected
  dsimp only
  split
  · exact risen
  · have marked (session : Session W) : Away session { session with bootstrapped := true } :=
      .of_silent rfl rfl id rfl rfl
    exact risen.trans (away ((marked _).trans (.enqueue _ _)))

theorem change {concern : Concern} (other : concern ∉ [.opening, .promising, .linking])
    (change : Change first concern last) : Tending discipline first last := by
  by_cases touches : concern ∈ [.broker, .publishing, .subscribing]
  · cases change with
    | rehost host => exact one (.rehost first host)
    | publish request => exact publish first request
    | subscribe topics => exact subscribe first topics
    | _ => exact absurd touches (by decide)
  · exact away (.of_change (List.not_mem_append touches other) change)

theorem changes {concerns : List Concern}
    (others : ∀ concern ∈ concerns, concern ∉ [.opening, .promising, .linking])
    (changes : Changes concerns first last) : Tending discipline first last :=
  changes.lift (Tending discipline) (fun _ => .refl) .trans
    fun member => change (others _ member)

theorem reported {result : Session W × Except SessionError Unit}
    (tending : Tending discipline first result.1) :
    Tending discipline first (Session.reported result).1 :=
  tending.trans (changes (by decide) (.reported result))

theorem apply (session : Session W) (bundle : Bundle) (context : DispatchContext) :
    Tending discipline session (session.apply bundle context) := by
  cases live : session.hasSession with
  | true =>
      exact (away (.note session rfl rfl)).trans
        (changes (by decide) (.apply live bundle context))
  | false =>
      rw [apply_closed live]
      exact away (.report session _)

theorem step (session : Session W) : Tending discipline session session.step := by
  unfold Session.step
  split
  · rename_i work agenda _
    have taken : Away session { session with agenda } := .of_silent rfl rfl id rfl rfl
    cases work with
    | dispatch bundle context => exact (away taken).trans (apply _ bundle context)
    | call call => exact (away taken).trans (changes (by decide) (.callThenApply _ _ _))
    | inbound topic payload =>
        exact (away taken).trans (changes (by decide) (.callThenApply _ _ _))
    | bootstrap resumePaging =>
        exact (away taken).trans (changes (by decide) (.bootstrap _ resumePaging))
  · rename_i next
    exact one (.depart session next)
  · exact Relation.ReflTransGen.refl

theorem receive (session : Session W) (generation : Nat) (event : LinkEvent)
    (genuine : discipline.genuine = true →
      session.isGenuine (.receive generation event) = true)
    (done : discipline.ordered = true → session.farewell = []) :
    Tending discipline session (session.receive generation event) := by
  unfold Session.receive
  split
  · rename_i current
    cases event with
    | connected => exact onConnected session fun asked => current ▸ genuine asked
    | connectionFailed reason =>
        exact connectionFailed session reason fun ordered _ => done ordered
    | connectionLost reason =>
        exact connectionLost session reason fun ordered _ => done ordered
    | message topic payload => exact away (.enqueue session _)
  · exact Relation.ReflTransGen.refl

theorem wake (session : Session W) : Tending discipline session session.wake :=
  changes (by decide) (.wake session)

theorem openAccount (session : Session W) {account : Account} (owner : Owner) (resume : Bool)
    (down : session.connected = false)
    (known : session.lastOpening.map (·.address) = some account.mixer) :
    Tending discipline session (session.openAccount account owner resume).1 := by
  unfold Session.openAccount
  extract_lets fresh live
  have adopted : Tending discipline session live := one (.adopt session owner resume down known)
  have dialled := adopted.tail (.dial live rfl)
  have down : live.connect.1.connected = false := connected_connect live
  split
  · rename_i result
    rw [result] at dialled
    exact dialled
  · rename_i result
    rw [result] at dialled down
    exact dialled.trans (connectionFailed _ _ fun _ up => absurd (down.symm.trans up) (by decide))
  · rename_i result
    rw [result] at dialled
    exact dialled

theorem supplied (session : Session W) (params : OpeningParams)
    (pendingRestore : Option Mnemonic) (free : discipline.settled = false) :
    Tending discipline session { session with lastOpening := some params, pendingRestore } := by
  have spent : Away session { session with pendingRestore } := .of_silent rfl rfl id rfl rfl
  exact (away spent).tail (.supply _ params free)

theorem tryRestoreAccount (session : Session W) (params : RestoreParams)
    (free : discipline.settled = false) :
    Tending discipline session (session.tryRestoreAccount params).1 := by
  unfold Session.tryRestoreAccount
  split
  · exact Relation.ReflTransGen.refl
  · rename_i down
    split
    · exact Relation.ReflTransGen.refl
    · dsimp only
      split
      · exact away (.of_silent rfl rfl id rfl rfl)
      · exact (supplied session _ none free).trans
          (openAccount _ _ _ (Bool.eq_false_iff.mpr down) rfl)

theorem createFrom (session : Session W) (mnemonic : Mnemonic) (displayName mixer : String)
    (inviteCode : Option String) (down : session.connected = false)
    (free : discipline.settled = false) :
    Tending discipline session
      (session.createFrom mnemonic displayName mixer inviteCode).1 := by
  have resolved := Away.of_changes (by decide) (.resolveInvite session mixer inviteCode)
  unfold Session.createFrom
  split
  · exact Relation.ReflTransGen.refl
  · split
    · rename_i result
      rw [result] at resolved
      exact away resolved
    · rename_i result
      rw [result] at resolved
      exact (away resolved).trans ((supplied _ _ _ free).trans
        (openAccount _ _ _ (resolved.connected.trans down) rfl))

theorem tryCreateAccount (session : Session W) (displayName mixer : String)
    (inviteCode : Option String) (free : discipline.settled = false) :
    Tending discipline session
      (session.tryCreateAccount displayName mixer inviteCode).1 := by
  unfold Session.tryCreateAccount
  split
  · exact Relation.ReflTransGen.refl
  · rename_i down
    split
    · exact tryRestoreAccount session _ free
    · have drawn : Away session (session.randomBytes 16).1 := .withOutside session _
      dsimp only
      split
      · exact away drawn
      · exact (away (drawn.trans (.tell _ rfl))).trans
          (createFrom _ _ _ _ _ (Bool.eq_false_iff.mpr down) free)

theorem reprime (session : Session W) (up : session.connected = true) :
    Tending discipline session session.reprime := by
  obtain ⟨asked, shown, same⟩ := Changes.reprime_eq session
  have shown := Away.of_changes (by decide) shown
  rw [same]
  exact (away shown).tail (.promise asked (shown.connected.trans up))

/-- The caller's address is the session's already, or may be supplied. -/
theorem tryStart {session : Session W} {params : OpeningParams} (owner : Owner)
    (resume : Bool)
    (supplied : Tending discipline session { session with lastOpening := some params }) :
    Tending discipline session (session.tryStart params owner resume).1 := by
  unfold Session.tryStart
  dsimp only
  split
  · rename_i up
    exact supplied.trans (reprime _ up)
  · rename_i down
    split
    · exact supplied
    · exact supplied.trans (openAccount _ _ _ (Bool.eq_false_iff.mpr down) rfl)

theorem reconnect (session : Session W)
    (done : discipline.ordered = true → session.farewell = []) :
    Tending discipline session session.reconnect.1 := by
  unfold Session.reconnect
  split
  · rename_i up
    have asked := (Away.enqueue session (.call .readMarkers)).trans
      (.enqueue _ (.call .muteLevels))
    exact (away asked).tail (.promise _ up)
  · split
    · exact reported .refl
    · rename_i params known
      have same : { session.disconnect with lastOpening := some params } =
          session.disconnect := by
        rw [← known]
        rfl
      have closed : Tending discipline session session.disconnect :=
        one (.close session fun ordered _ => done ordered)
      exact reported (closed.trans
        (tryStart _ _ (same.symm ▸ Relation.ReflTransGen.refl)))

theorem perform (session : Session W) (operation : Operation)
    (free : discipline.settled = true → (Move.perform (W := W) operation).begins = false)
    (done : discipline.ordered = true → session.farewell = []) :
    Tending discipline session (session.perform operation).1 := by
  have supplies (begins : (Move.perform (W := W) operation).begins = true) :
      discipline.settled = false :=
    Bool.eq_false_iff.mpr fun settled => absurd (begins.symm.trans (free settled)) (by decide)
  cases operation with
  | addListener => exact one (.listen session)
  | beginRestore mnemonic => exact away (.of_silent rfl rfl id rfl rfl)
  | createAccount displayName mixer inviteCode =>
      exact reported (tryCreateAccount session displayName mixer inviteCode (supplies rfl))
  | restoreAccount params => exact reported (tryRestoreAccount session params (supplies rfl))
  | start address mnemonic owner =>
      exact reported (tryStart owner false (one (.supply session _ (supplies rfl))))
  | reconnect => exact reconnect session done
  | disconnect => exact one (.close session fun ordered _ => done ordered)
  | payInvoice invoice => exact reported (changes (by decide) (.tryPayInvoice session invoice))
  | cancelRestore => exact away (.cancelRestore session)
  | dispatch bundle context => exact away (.accept session bundle context)
  | _ => exact reported (changes (by decide) (.execute session _))

end Tending

/-- What the discipline asks of a move. -/
def Heeds (discipline : Discipline) (session : Session W) (next : Move W) : Prop :=
  (discipline.ordered = true → session.permits next = true) ∧
    (discipline.genuine = true → session.isGenuine next = true) ∧
      (discipline.settled = true → next.begins = false)

omit [Surroundings W] in
theorem farewell_of_isIdle {session : Session W} (idle : session.isIdle = true) :
    session.farewell = [] :=
  List.isEmpty_iff.mp ((Bool.and_eq_true _ _).mp idle).2

theorem move_tending {session : Session W} {next : Move W}
    (heeds : Heeds discipline session next) :
    Tending discipline session (session.move next) := by
  obtain ⟨ordered, genuine, settled⟩ := heeds
  cases next with
  | perform operation =>
      exact .perform session operation settled
        fun asked => farewell_of_isIdle (ordered asked)
  | receive generation event =>
      exact .receive session generation event genuine
        fun asked => farewell_of_isIdle (ordered asked)
  | wake => exact .wake session
  | step => exact .step session
  | advance millis => exact .away (.of_silent rfl rfl id rfl rfl)
  | surround outside => exact .away (.withOutside session outside)

/-- Nothing that a session does about its connection breaks the property. -/
def Tended (discipline : Discipline) (property : Session W → Prop) : Prop :=
  ∀ ⦃first last : Session W⦄, Tends discipline first last → property first → property last

namespace Tended

variable {property : Session W → Prop} {first last : Session W}

theorem tending (tended : Tended discipline property)
    (tending : Tending discipline first last) (start : property first) : property last := by
  induction tending with
  | refl => exact start
  | tail _ tends induction => exact tended tends induction

theorem move (tended : Tended discipline property) {next : Move W} (start : property first)
    (heeds : Heeds discipline first next) : property (first.move next) :=
  tended.tending (move_tending heeds) start

theorem reaches (tended : Tended { ordered := true } property)
    (reached : Reaches first last) (start : property first) : property last := by
  induction reached with
  | here => exact start
  | after next _ permitted induction =>
      exact tended.move induction ⟨fun _ => permitted, nofun, nofun⟩

theorem unfolds (tended : Tended { genuine := true } property)
    (unfolds : Unfolds first last) (start : property first) : property last := by
  induction unfolds with
  | here => exact start
  | after next _ genuine induction =>
      exact tended.move induction ⟨nofun, fun _ => genuine, nofun⟩

theorem moves {settled : Bool} (tended : Tended { settled } property)
    {moves : List (Move W)} (start : property first)
    (unsupplied : settled = true → ∀ next ∈ moves, next.begins = false) :
    property (moves.foldl Session.move first) := by
  induction moves generalizing first with
  | nil => exact start
  | cons next rest induction =>
      have now (asked : settled = true) := List.forall_mem_cons.mp (unsupplied asked)
      exact induction (tended.move start ⟨nofun, nofun, fun asked => (now asked).1⟩)
        fun asked => (now asked).2

end Tended

/-- Whose session it is, as far as the journal tells. -/
structure Followed (session : Session W) : Prop where
  account : session.account.map Account.enduring =
    (holder session.journal).map Account.enduring
  farewell : ∀ event ∈ session.farewell, event = .connection .connected

omit [Surroundings W] in
theorem followed_new (config : Config) (outside : W) : (new config outside).Followed :=
  ⟨rfl, nofun⟩

namespace Followed

variable {first last : Session W}

omit [Surroundings W] in
theorem plain (followed : first.Followed) {more : List Entry}
    (account : last.account.map Account.enduring = first.account.map Account.enduring)
    (journal : last.journal = first.journal ++ more)
    (plain : ∀ entry ∈ more, ∀ account, entry.holds account = account)
    (farewell : ∀ event ∈ last.farewell, event = .connection .connected) :
    last.Followed where
  account := by rw [account, journal, holder_append _ plain, followed.account]
  farewell := farewell

omit [Surroundings W] in
theorem away (followed : first.Followed) (away : Away first last) : last.Followed := by
  obtain ⟨more, grows, apart⟩ := away.grows
  exact followed.plain away.account grows.journal
    (fun entry member => Entry.holds_of_away (apart entry member))
    (away.farewell ▸ followed.farewell)

omit [Surroundings W] in
theorem holder (followed : first.Followed) {live : Account}
    (lives : first.account = some live) :
    ∃ account, holder first.journal = some account ∧ account.enduring = live.enduring := by
  have same := followed.account
  rw [lives] at same
  exact Option.map_eq_some_iff.mp same.symm

theorem dials (followed : first.Followed) {live : Account} {options : ConnectOptions}
    (dials : Dials live options first last) : last.Followed := by
  obtain ⟨wall, time, -, grows⟩ := dials.grows
  refine followed.plain (congrArg _ dials.account) grows.journal ?_
    (dials.farewell ▸ followed.farewell)
  simp [Entry.holds]

theorem connect (followed : first.Followed) : first.connect.1.Followed := by
  rcases first.connect_cases with away | ⟨_, _, dials⟩
  · exact followed.away away
  · exact followed.dials dials

end Followed

theorem tended_followed (discipline : Discipline) : Tended discipline (@Followed W) := by
  intro first last tends followed
  have told (session : Session W) (status : ConnectionStatus) (followed : session.Followed) :
      (session.notify (.connection status)).Followed :=
    followed.plain rfl rfl (List.forall_mem_singleton.mpr fun _ => rfl) followed.farewell
  cases tends with
  | away away => exact followed.away away
  | listen => exact ⟨followed.account, followed.farewell⟩
  | supply params free => exact ⟨followed.account, followed.farewell⟩
  | rehost host =>
      refine ⟨?_, followed.farewell⟩
      have moved (account : Option Account) :
          (account.map fun account => { account with mixer := host }).map Account.enduring =
            (account.map Account.enduring).map fun account => { account with mixer := host } := by
        cases account <;> rfl
      have grown : holder (first.onLspHost host).journal =
          (holder first.journal).map fun account => { account with mixer := host } :=
        List.foldl_append
      rw [grown, moved, ← followed.account, ← moved]
      rfl
  | adopt owner resume down known =>
      refine ⟨?_, followed.farewell⟩
      change _ = (holder (first.journal ++ _)).map _
      rw [holder, List.foldl_append]
      rfl
  | dial down => exact followed.connect
  | replace unspent refused => exact (followed.away (.spendReconnect first)).connect
  | rise made => exact told _ _ ⟨followed.account, followed.farewell⟩
  | fall done => exact told _ _ ⟨followed.account, followed.farewell⟩
  | promise up =>
      exact ⟨followed.account, List.forall_mem_append.mpr
        ⟨followed.farewell, List.forall_mem_singleton.mpr rfl⟩⟩
  | depart next =>
      have ⟨same, others⟩ := List.forall_mem_cons.mp (next ▸ followed.farewell)
      subst same
      exact told _ _ ⟨followed.account, others⟩
  | close done =>
      refine ⟨?_, followed.farewell⟩
      rw [disconnect_journal, holder, List.foldl_append]
      rfl

end Session

end Messenger

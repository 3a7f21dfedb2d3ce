import Messenger.Proofs.Session.Slight
import Messenger.Proofs.Session.Tending

/-!
What a session does, one deed at a time. What is not slight is taken apart as far as it can
be, so that a deed draws at most one time and gives it to one purpose, and either goes on
with the restore or changes the owner's user state, but not both.
-/

namespace Messenger

/-- How those behave who use a session. -/
structure Conduct where
  /-- Operations, events and wake-ups wait for the agenda. -/
  ordered : Bool := false
  /-- The caller requests no restore. -/
  sparing : Bool := false

namespace Session

variable {W : Type}

/-- An initial setup succeeds, and its bundle is put on the agenda. -/
def setUpFor (session : Session W) (account : Account) (device : String)
    (inviteCode : Option String) (bundle : Bundle) (wall : UInt64) (outside : W) : Session W :=
  (session.asked account (.initialSetup device inviteCode) (.ok bundle) wall outside).accept
    bundle {}

variable [Surroundings W]

inductive Deed (conduct : Conduct) : Session W → Session W → Prop where
  | slight {first last : Session W} (slight : Slight first last) : Deed conduct first last
  | promise (session : Session W) :
      Deed conduct session (session.lastly (.connection .connected))
  | depart (session : Session W) {event : Event} {farewell : List Event}
      (next : session.farewell = event :: farewell) :
      Deed conduct session ({ session with farewell }.notify event)
  | take (session : Session W) {work : Work} {agenda : List Work}
      (next : session.agenda = work :: agenda)
      (vain : work.restores = true → session.account = none) :
      Deed conduct session { session with agenda }
  /-- A call from the head of the agenda, or else one that fetches nothing for a restore. -/
  | ask (session : Session W) {agenda : List Work} {account : Account} {call : CoreCall}
      {answer : Except String Bundle} (wall : UInt64) (outside : W)
      (origin : session.agenda = .call call :: agenda ∨
        session.agenda = agenda ∧ call.restores = false)
      (lives : session.account = some account)
      (plain : ∀ bundle, answer = .ok bundle → call.isSetUp = false) :
      Deed conduct session ({ session with agenda }.asked account call answer wall outside)
  | setUp (session : Session W) {account : Account} {device : String}
      {inviteCode : Option String} {bundle : Bundle} (wall : UInt64) (outside : W)
      (resumePaging : Bool) (lives : session.account = some account) :
      Deed conduct session
        ((session.setUpFor account device inviteCode bundle wall outside).enterRestore
          account.restoring resumePaging)
  | keys (session : Session W) (seed : String) (wall : UInt64) (outside : W) :
      Deed conduct session ((session.drawn wall outside).note
        (.keysAsked seed (session.clock.next wall)))
  | attempt (session : Session W) {before : List Entry} {seed : String} {network : Network}
      {time : UInt64} {options : ConnectOptions} (generation : Nat)
      (ready : session.journal =
        before ++ [.keysAsked seed time, .told (.event (.connection .connecting))])
      (derived : Derived W seed network time options) :
      Deed conduct session (session.note (.attempted generation options))
  | setUserState (session : Session W) (userState : UserState) :
      Deed conduct session (session.setUserState userState)
  | answer (session : Session W) {input : RestoreInput} (answers : input.isAnswer = true) :
      Deed conduct session (session.advanceRestore (session.restore.handle input))
  | cancel (session : Session W) : Deed conduct session session.cancelRestore
  | adopt (session : Session W) {account : Account} (owner : Owner) (resume : Bool)
      (unasked : conduct.sparing = true →
        account.restoring = (resume && session.restore.isRestoring)) :
      Deed conduct session (session.adopt account owner resume)
  | close (session : Session W) (done : conduct.ordered = true → session.agenda = []) :
      Deed conduct session session.disconnect

abbrev Deeds (conduct : Conduct) : Session W → Session W → Prop :=
  Relation.ReflTransGen (Deed conduct)

variable {conduct : Conduct}

namespace Deeds

variable {first middle last : Session W}

theorem one (deed : Deed conduct first last) : Deeds conduct first last :=
  Relation.ReflTransGen.single deed

theorem slight (slight : Slight first last) : Deeds conduct first last :=
  one (.slight slight)

/-- The attempt is made right after it was told. -/
theorem attempt_eq (session : Session W) (endpoint : Endpoint) (username password : String) :
    ∃ (options : ConnectOptions) (outside : W),
      options.username = username ∧ options.password = password ∧
        (session.attempt endpoint username password).1 =
          ({ session with outside, generation := session.generation + 1 }.notify
            (.connection .connecting)).note (.attempted (session.generation + 1) options) := by
  refine ⟨_, _, ?_, ?_, rfl⟩ <;> rfl

theorem connect (session : Session W) : Deeds conduct session session.connect.1 := by
  unfold Session.connect
  split
  · exact Relation.ReflTransGen.refl
  · rename_i account _
    split
    · exact Relation.ReflTransGen.refl
    · rename_i endpoint _
      have keyed : Deeds conduct session
          (session.uniqueTime.1.note (.keysAsked account.seed session.uniqueTime.2)) :=
        one (.keys session account.seed _ _)
      dsimp only
      split
      · exact keyed
      · rename_i username password derives
        obtain ⟨publicKey, signature⟩ := credentials_ok derives
        obtain ⟨options, outside, rfl, rfl, attempts⟩ := attempt_eq
          (session.uniqueTime.1.note (.keysAsked account.seed session.uniqueTime.2)) endpoint
          username password
        rw [attempts]
        have numbered (session : Session W) (generation : Nat) :
            Slight session { session with outside, generation } := .of_silent rfl rfl rfl
        have told (session : Session W) (generation : Nat) : Slight session
            ({ session with outside, generation }.notify (.connection .connecting)) :=
          (numbered session generation).trans (.notify _ rfl)
        exact (keyed.trans (slight (told _ _))).tail
          (.attempt _ _ (List.append_assoc _ _ _) ⟨_, publicKey, signature⟩)

theorem reconnectOnce (session : Session W) :
    Deeds conduct session session.reconnectOnce := by
  unfold Session.reconnectOnce
  split
  · exact Relation.ReflTransGen.refl
  · have spent : Slight session
        { session with reconnectSpent := true, bootstrapped := false } :=
      .of_silent rfl rfl rfl
    have connected : Deeds conduct session
        { session with reconnectSpent := true, bootstrapped := false }.connect.1 :=
      (slight spent).trans (connect _)
    split
    · rename_i result
      rw [result] at connected
      exact connected
    · rename_i result
      rw [result] at connected
      exact connected.trans (slight (.report _ _))

theorem linkFailed (session : Session W) (error : SessionError) :
    Deeds conduct session (session.linkFailed error) :=
  (slight (.report session error)).trans (reconnectOnce _)

theorem connectionFailed (session : Session W) (reason : String) :
    Deeds conduct session (session.connectionFailed reason) := by
  have fallen : Slight session { session with connected := false } := .of_silent rfl rfl rfl
  have told := (fallen.trans (.report _ (.connect reason))).trans
    (.notify _ (rfl : (Callback.event (.connection .disconnected)).stored? = none))
  exact (slight told).trans (reconnectOnce _)

theorem connectionLost (session : Session W) (reason : String) :
    Deeds conduct session (session.connectionLost reason) := by
  have fallen : Slight session { session with connected := false } := .of_silent rfl rfl rfl
  have told := fallen.trans
    (.notify _ (rfl : (Callback.event (.connection .disconnected)).stored? = none))
  exact (slight told).trans (linkFailed _ _)

theorem publish (session : Session W) (publish : Publish) :
    Deeds conduct session (session.publish publish) := by
  have noted (outside : W) (outcome : Except LinkError Unit) : Slight session
      ({ session with outside }.note (.published publish session.now outcome)) :=
    (Slight.withOutside session outside).trans (.note _ rfl)
  unfold Session.publish
  dsimp only
  split
  · exact slight (noted _ _)
  · exact (slight (noted _ _)).trans (linkFailed _ _)

theorem subscribe (session : Session W) (topics : List String) :
    Deeds conduct session (session.subscribe topics) := by
  have noted (outside : W) (outcome : Except LinkError Unit) : Slight session
      ({ session with outside }.note (.subscribed topics outcome)) :=
    (Slight.withOutside session outside).trans (.note _ rfl)
  unfold Session.subscribe
  dsimp only
  split
  · exact slight (noted _ _)
  · exact (slight (noted _ _)).trans (linkFailed _ _)

theorem onConnected (session : Session W) : Deeds conduct session session.onConnected := by
  have risen : Slight session { session with connected := true } := .of_silent rfl rfl rfl
  have told := risen.trans
    (.notify _ (rfl : (Callback.event (.connection .connected)).stored? = none))
  unfold Session.onConnected
  dsimp only
  split
  · exact slight told
  · have marked (session : Session W) : Slight session { session with bootstrapped := true } :=
      .of_silent rfl rfl rfl
    exact slight ((told.trans (marked _)).trans (.enqueue _ rfl))

theorem change {concern : Concern} (other : concern ∉ [.calling, .following, .linking])
    (change : Change first concern last) : Deeds conduct first last := by
  cases isSlight : concern.isSlight with
  | true => exact slight (.of_change isSlight change)
  | false =>
      cases change with
      | setUserState userState => exact one (.setUserState first userState)
      | counted counts =>
          exact one (.answer first (rfl : (RestoreInput.counts counts).isAnswer = true))
      | paged messages topic known =>
          exact one (.answer first (rfl : (RestoreInput.batch messages topic).isAnswer = true))
      | publish request => exact publish first request
      | subscribe topics => exact subscribe first topics
      | ask call answer wall outside lives => exact absurd (by decide) other
      | enterRestore restoring resumePaging => exact absurd (by decide) other
      | cancelRestore => exact one (.cancel first)
      | promise => exact one (.promise first)
      | link link => exact absurd (by decide) other
      | _ => cases isSlight

theorem changes {concerns : List Concern}
    (others : ∀ concern ∈ concerns, concern ∉ [.calling, .following, .linking])
    (changes : Changes concerns first last) : Deeds conduct first last :=
  changes.lift (Deeds conduct) (fun _ => .refl) .trans fun member => change (others _ member)

theorem reported {result : Session W × Except SessionError Unit}
    (deeds : Deeds conduct first result.1) :
    Deeds conduct first (Session.reported result).1 :=
  deeds.trans (changes (by decide) (.reported result))

theorem apply (session : Session W) (bundle : Bundle) (context : DispatchContext) :
    Deeds conduct session (session.apply bundle context) := by
  cases live : session.hasSession with
  | true =>
      exact (slight (.note session rfl)).trans
        (changes (by decide) (.apply live bundle context))
  | false =>
      rw [apply_closed live]
      exact slight (.report session _)

theorem ask {session last : Session W} {agenda : List Work} {call : CoreCall}
    {outcome : Except SessionError (Bundle × UInt64)}
    (origin : session.agenda = .call call :: agenda ∨
      session.agenda = agenda ∧ call.restores = false)
    (plain : ∀ result, outcome = .ok result → call.isSetUp = false)
    (ran : { session with agenda }.runCall call = (last, outcome)) :
    Deeds conduct session last := by
  rcases runCall_cases ran with
    ⟨dead, rfl, -⟩ | ⟨account, answer, wall, outside, lives, rfl, answers⟩
  · rcases origin with next | ⟨rfl, -⟩
    · exact one (.take session next fun _ => dead)
    · exact Relation.ReflTransGen.refl
  · refine one (.ask session wall outside origin lives fun bundle answered => ?_)
    obtain ⟨time, succeeded⟩ := (answers bundle).mp answered
    exact plain _ succeeded

theorem callThenApply {session : Session W} {agenda : List Work} {call : CoreCall}
    (context : DispatchContext)
    (origin : session.agenda = .call call :: agenda ∨
      session.agenda = agenda ∧ call.restores = false) (plain : call.isSetUp = false) :
    Deeds conduct session ({ session with agenda }.callThenApply call context) := by
  unfold Session.callThenApply
  split
  · rename_i ran
    exact (ask origin (fun _ _ => plain) ran).trans (slight (.report _ _))
  · rename_i ran
    exact (ask origin (fun _ _ => plain) ran).trans (slight (.accept _ _ _))

theorem execute (session : Session W) {call : CoreCall} (plain : call.isSetUp = false)
    (apart : call.restores = false) : Deeds conduct session (session.execute call).1 := by
  unfold Session.execute
  split
  · rename_i ran
    exact ask (Or.inr ⟨rfl, apart⟩) (fun _ _ => plain) ran
  · rename_i ran
    exact (ask (Or.inr ⟨rfl, apart⟩) (fun _ _ => plain) ran).trans (slight (.accept _ _ _))

theorem tryPayInvoice (session : Session W) (invoice : String) :
    Deeds conduct session (session.tryPayInvoice invoice).1 := by
  unfold Session.tryPayInvoice
  split
  · exact Relation.ReflTransGen.refl
  · split
    · rename_i ran
      exact ask (Or.inr ⟨rfl, rfl⟩) (fun _ _ => rfl) ran
    · rename_i paid _ _ ran
      have tracked (liveness : Liveness) : Slight paid { paid with liveness } :=
        .of_silent rfl rfl rfl
      exact (ask (Or.inr ⟨rfl, rfl⟩) (fun _ _ => rfl) ran).trans
        (slight ((tracked _).trans (.accept _ _ _)))

theorem bootstrap (session : Session W) (resumePaging : Bool) :
    Deeds conduct session (session.bootstrap resumePaging) := by
  unfold Session.bootstrap
  split
  · exact slight (.report session _)
  · rename_i account lives
    split
    · rename_i ran
      exact (ask (Or.inr ⟨rfl, rfl⟩) (fun _ succeeded => by cases succeeded) ran).trans
        (slight (.report _ _))
    · rename_i bundle time ran
      rcases runCall_cases ran with
        ⟨-, -, refused⟩ | ⟨asking, answer, wall, outside, known, rfl, answers⟩
      · cases refused
      · -- the account that asks for the restore is the one that the core was called for
        obtain rfl : account = asking := Option.some.inj (lives.symm.trans known)
        obtain rfl := (answers bundle).mpr ⟨time, rfl⟩
        exact one (.setUp session wall outside resumePaging lives)

theorem step {session : Session W} (tame : session.Tame) :
    Deeds conduct session session.step := by
  unfold Session.step
  split
  · rename_i work agenda next
    have taken (plain : work.restores = false) : Deeds conduct session { session with agenda } :=
      one (.take session next fun restores => absurd (plain.symm.trans restores) (by decide))
    cases work with
    | dispatch bundle context => exact (taken rfl).trans (apply _ bundle context)
    | call call =>
        exact callThenApply {} (Or.inl next) (tame (.call call) (next ▸ List.mem_cons_self))
    | inbound topic payload =>
        exact (taken rfl).trans (callThenApply _ (Or.inr ⟨rfl, rfl⟩) rfl)
    | bootstrap resumePaging => exact (taken rfl).trans (bootstrap _ resumePaging)
  · rename_i next
    exact one (.depart session next)
  · exact Relation.ReflTransGen.refl

theorem receive (session : Session W) (generation : Nat) (event : LinkEvent) :
    Deeds conduct session (session.receive generation event) := by
  unfold Session.receive
  split
  · cases event with
    | connected => exact onConnected session
    | connectionFailed reason => exact connectionFailed session reason
    | connectionLost reason => exact connectionLost session reason
    | message topic payload => exact slight (.enqueue session rfl)
  · exact Relation.ReflTransGen.refl

theorem wake (session : Session W) : Deeds conduct session session.wake :=
  changes (by decide) (.wake session)

theorem openAccount (session : Session W) {account : Account} (owner : Owner) (resume : Bool)
    (unasked : conduct.sparing = true →
      account.restoring = (resume && session.restore.isRestoring)) :
    Deeds conduct session (session.openAccount account owner resume).1 := by
  unfold Session.openAccount
  extract_lets fresh live
  have adopted : Deeds conduct session live := one (.adopt session owner resume unasked)
  have connected := adopted.trans (connect live)
  split
  · rename_i result
    rw [result] at connected
    exact connected
  · rename_i result
    rw [result] at connected
    exact connected.trans (connectionFailed _ _)
  · rename_i result
    rw [result] at connected
    exact connected

theorem tryRestoreAccount (session : Session W) (params : RestoreParams)
    (wanted : conduct.sparing = true → session.pendingRestore = none) :
    Deeds conduct session (session.tryRestoreAccount params).1 := by
  unfold Session.tryRestoreAccount
  split
  · exact Relation.ReflTransGen.refl
  · split
    · exact Relation.ReflTransGen.refl
    · rename_i mnemonic pending
      have requested : conduct.sparing = true → False := fun sparing =>
        absurd ((wanted sparing).symm.trans pending) nofun
      dsimp only
      split
      · exact slight (.of_silent rfl rfl rfl)
      · have supplied (opening : Option OpeningParams) : Slight session
            { session with pendingRestore := none, lastOpening := opening } :=
          .of_silent rfl rfl rfl
        exact (slight (supplied _)).trans
          (openAccount _ _ _ fun sparing => (requested sparing).elim)

theorem createFrom (session : Session W) (mnemonic : Mnemonic) (displayName mixer : String)
    (inviteCode : Option String) :
    Deeds conduct session
      (session.createFrom mnemonic displayName mixer inviteCode).1 := by
  have resolved : Deeds conduct session (session.resolveInvite mixer inviteCode).1 :=
    changes (by decide) (.resolveInvite session mixer inviteCode)
  have supplied (session : Session W) (lastOpening : Option OpeningParams) :
      Slight session { session with lastOpening } := .of_silent rfl rfl rfl
  unfold Session.createFrom
  split
  · exact Relation.ReflTransGen.refl
  · split
    · rename_i result
      rw [result] at resolved
      exact resolved
    · rename_i result
      rw [result] at resolved
      exact (resolved.trans (slight (supplied _ _))).trans
        (openAccount _ _ _ fun _ => (Bool.false_and _).symm)

theorem tryCreateAccount (session : Session W) (displayName mixer : String)
    (inviteCode : Option String)
    (wanted : conduct.sparing = true → session.pendingRestore = none) :
    Deeds conduct session
      (session.tryCreateAccount displayName mixer inviteCode).1 := by
  unfold Session.tryCreateAccount
  split
  · exact Relation.ReflTransGen.refl
  · split
    · exact tryRestoreAccount session _ wanted
    · have drawn : Slight session (session.randomBytes 16).1 := .withOutside session _
      dsimp only
      split
      · exact slight drawn
      · exact (slight (drawn.trans (.notify _ rfl))).trans (createFrom _ _ _ _ _)

/-- Opening an account again goes on with its restore, and asks for none. -/
theorem tryStart (session : Session W) (params : OpeningParams) (owner : Owner)
    (resume : Bool) : Deeds conduct session (session.tryStart params owner resume).1 := by
  have supplied (lastOpening : Option OpeningParams) :
      Slight session { session with lastOpening } := .of_silent rfl rfl rfl
  unfold Session.tryStart
  dsimp only
  split
  · exact (slight (supplied _)).trans (changes (by decide) (.reprime _))
  · split
    · exact slight (supplied _)
    · exact (slight (supplied _)).trans (openAccount _ _ _ fun _ => rfl)

theorem reconnect (session : Session W)
    (done : conduct.ordered = true → session.agenda = []) :
    Deeds conduct session session.reconnect.1 := by
  rcases session.reconnect_cases with asked | ⟨params, -, reopens⟩
  · exact changes (by decide) asked
  · have closed : Deeds conduct session session.disconnect := one (.close session done)
    rw [reopens]
    exact reported (closed.trans (tryStart _ _ _ _))

end Deeds

/-- A restore is requested, as long as the words for it are there. -/
def requestsRestore (session : Session W) : Move W → Bool
  | .perform (.restoreAccount _) => true
  | .perform (.createAccount ..) => session.pendingRestore.isSome
  | _ => false

/-- What the conduct asks of a move. -/
def Suits (conduct : Conduct) (session : Session W) (next : Move W) : Prop :=
  (conduct.ordered = true → session.permits next = true) ∧
    (conduct.sparing = true → session.requestsRestore next = false)

omit [Surroundings W] in
theorem agenda_of_isIdle {session : Session W} (idle : session.isIdle = true) :
    session.agenda = [] :=
  List.isEmpty_iff.mp ((Bool.and_eq_true _ _).mp idle).1

theorem perform_deeds {session : Session W} {operation : Operation}
    (suits : session.Suits conduct (.perform operation)) :
    Deeds conduct session (session.perform operation).1 := by
  obtain ⟨ordered, sparing⟩ := suits
  have done (asked : conduct.ordered = true) : session.agenda = [] :=
    agenda_of_isIdle (ordered asked)
  cases operation with
  | addListener => exact .slight (.of_silent rfl rfl rfl)
  | beginRestore mnemonic => exact .slight (.of_silent rfl rfl rfl)
  | createAccount displayName mixer inviteCode =>
      exact .reported (.tryCreateAccount session displayName mixer inviteCode fun asked =>
        Option.not_isSome_iff_eq_none.mp (Bool.eq_false_iff.mp (sparing asked)))
  | restoreAccount params =>
      exact .reported (.tryRestoreAccount session params fun asked => nomatch sparing asked)
  | start address mnemonic owner => exact .reported (.tryStart session _ owner false)
  | reconnect => exact .reconnect session done
  | disconnect => exact .one (.close session done)
  | payInvoice invoice => exact .reported (.tryPayInvoice session invoice)
  | cancelRestore => exact .one (.cancel session)
  | dispatch bundle context => exact .slight (.accept session bundle context)
  | _ => exact .reported (.execute session rfl rfl)

theorem move_deeds {session : Session W} (tame : session.Tame) {next : Move W}
    (suits : session.Suits conduct next) : Deeds conduct session (session.move next) := by
  cases next with
  | perform operation => exact perform_deeds suits
  | receive generation event => exact .receive session generation event
  | wake => exact .wake session
  | step => exact .step tame
  | advance millis => exact .slight (.of_silent rfl rfl rfl)
  | surround outside => exact .slight (.withOutside session outside)

/-- No deed breaks the property. -/
def Steady (conduct : Conduct) (property : Session W → Prop) : Prop :=
  ∀ ⦃first last : Session W⦄, Deed conduct first last → property first → property last

namespace Steady

variable {property : Session W → Prop} {first last : Session W}

theorem deeds (steady : Steady conduct property) (deeds : Deeds conduct first last)
    (start : property first) : property last := by
  induction deeds with
  | refl => exact start
  | tail _ deed induction => exact steady deed induction

theorem move (steady : Steady conduct property) (tame : first.Tame) {next : Move W}
    (suits : first.Suits conduct next) (start : property first) :
    property (first.move next) :=
  steady.deeds (move_deeds tame suits) start

/-- Whatever is done to a session, and whenever. -/
theorem moves (steady : Steady {} property) (tame : first.Tame) (start : property first)
    (moves : List (Move W)) : property (moves.foldl Session.move first) := by
  induction moves generalizing first with
  | nil => exact start
  | cons next rest induction =>
      exact induction (tame.move next) (steady.move tame ⟨nofun, nofun⟩ start)

end Steady

end Session

end Messenger

import Messenger.Proofs.Session.Minor
import Messenger.Proofs.Session.Settlement
import Messenger.Session.Journal

/-!
What ties the parts of a session together. Only a live account has a connection, and a
restore that is under way is one that the account asks for. Without an account nothing
waits for a confirmation. And the restore has seen no message that the owner's index does
not count.
-/

namespace Messenger

def Entry.isAttempt (generation : Nat) : Entry → Bool
  | .attempted other _ => other == generation
  | _ => false

/-- What coherence does not see. -/
def Concern.isAside : Concern → Bool
  | .news => true
  | .dashboard => true
  | .errands => true
  | .calling => true
  | .accepting => true
  | .opening => true
  | .promising => true
  | .inbox => true
  | .waking => true
  | _ => false

namespace Session

variable {W : Type}

structure Coherent (session : Session W) : Prop where
  connected : session.connected = true → session.hasSession = true
  restoring : session.restore.isRestoring = true →
    ∀ account ∈ session.account, account.restoring = true
  closed : session.hasSession = false →
    session.liveness = ∅ ∧ session.settlements = ∅ ∧
      session.dashboard.inFlightInvite = none
  highest : ∀ highest ∈ session.restore.highestIndex,
    ∃ last ∈ session.owner.messageLastIndex, highest ≤ last

/-- Every event comes from an attempt to connect that was made. -/
def isGenuine (session : Session W) : Move W → Bool
  | .receive generation _ => session.journal.any (·.isAttempt generation)
  | _ => true

/-- Moves in any order, also before the agenda is done. -/
inductive Unfolds [Surroundings W] (initial : Session W) : Session W → Prop where
  | here : Unfolds initial initial
  | after {session : Session W} (next : Move W) : Unfolds initial session →
      session.isGenuine next = true → Unfolds initial (session.move next)

def genuineAll [Surroundings W] (session : Session W) : List (Move W) → Bool
  | [] => true
  | next :: rest => session.isGenuine next && (session.move next).genuineAll rest

theorem Unfolds.moves [Surroundings W] {initial session : Session W}
    (unfolds : Unfolds initial session) {moves : List (Move W)}
    (genuine : session.genuineAll moves = true) :
    Unfolds initial (moves.foldl move session) := by
  induction moves generalizing session with
  | nil => exact unfolds
  | cons next rest induction =>
      obtain ⟨first, others⟩ := (Bool.and_eq_true _ _).mp genuine
      exact induction (unfolds.after next first) others

theorem attempted_of_isGenuine {session : Session W} {generation : Nat} {event : LinkEvent}
    (genuine : session.isGenuine (.receive generation event) = true) :
    ∃ options, .attempted generation options ∈ session.journal := by
  obtain ⟨entry, member, attempt⟩ := List.any_eq_true.mp genuine
  cases entry with
  | attempted other options =>
      obtain rfl : other = generation := beq_iff_eq.mp attempt
      exact ⟨options, member⟩
  | _ => cases attempt

/-- Coherent, and without an account no event counts. -/
structure Sound (session : Session W) : Prop extends Coherent session where
  numbered : session.Numbered
  superseded : session.hasSession = false →
    ∀ options, .attempted session.generation options ∉ session.journal

/-- What is left to show as long as there is an account. -/
structure Living (session : Session W) : Prop where
  live : session.hasSession = true
  restoring : session.restore.isRestoring = true →
    ∀ account ∈ session.account, account.restoring = true
  highest : ∀ highest ∈ session.restore.highestIndex,
    ∃ last ∈ session.owner.messageLastIndex, highest ≤ last
  numbered : session.Numbered

theorem Living.sound {session : Session W} (living : session.Living) : session.Sound := by
  have open_ {goal : Prop} (closed : session.hasSession = false) : goal :=
    absurd (living.live.symm.trans closed) (by decide)
  exact ⟨⟨fun _ => living.live, living.restoring, open_, living.highest⟩,
    living.numbered, open_⟩

theorem Sound.living {session : Session W} (sound : session.Sound)
    (live : session.hasSession = true) : session.Living :=
  ⟨live, sound.restoring, sound.highest, sound.numbered⟩

theorem attempted_of_adds {first last : List Entry} {generation : Nat}
    {options : ConnectOptions} (journal : Adds (·.attempt?.isNone) first last)
    (member : .attempted generation options ∈ last) :
    .attempted generation options ∈ first := by
  obtain ⟨more, rfl, plain⟩ := journal
  cases List.mem_append.mp member with
  | inl before => exact before
  | inr now => cases plain _ now

theorem adds_told (journal : List Entry) (callbacks : List Callback) :
    Adds (·.attempt?.isNone) journal (journal ++ callbacks.map .told) := by
  refine ⟨_, rfl, fun entry member => ?_⟩
  obtain ⟨callback, -, rfl⟩ := List.mem_map.mp member
  rfl

theorem isSome_accountAfter (session : Session W) (actions : List RestoreAction) :
    (session.accountAfter actions).isSome = session.hasSession := by
  unfold accountAfter endRestore
  split
  · exact Option.isSome_map
  · rfl

theorem Numbered.of_adds {first last : Session W} (numbered : first.Numbered)
    (journal : Adds (·.attempt?.isNone) first.journal last.journal)
    (later : first.generation ≤ last.generation) : last.Numbered :=
  fun generation options member =>
    Nat.le_trans (numbered generation options (attempted_of_adds journal member)) later

structure Aside (first last : Session W) : Prop where
  account : last.account = first.account
  restore : last.restore = first.restore
  messageLastIndex : last.owner.messageLastIndex = first.owner.messageLastIndex
  connected : last.connected = first.connected
  generation : last.generation = first.generation
  liveness : last.liveness = first.liveness
  settlements : last.settlements = first.settlements
  inFlightInvite : last.dashboard.inFlightInvite = first.dashboard.inFlightInvite
  journal : Adds (·.attempt?.isNone) first.journal last.journal

namespace Aside

variable {first middle last : Session W}

theorem refl (session : Session W) : Aside session session :=
  ⟨rfl, rfl, rfl, rfl, rfl, rfl, rfl, rfl, .of_eq rfl⟩

theorem trans (start : Aside first middle) (rest : Aside middle last) :
    Aside first last where
  account := rest.account.trans start.account
  restore := rest.restore.trans start.restore
  messageLastIndex := rest.messageLastIndex.trans start.messageLastIndex
  connected := rest.connected.trans start.connected
  generation := rest.generation.trans start.generation
  liveness := rest.liveness.trans start.liveness
  settlements := rest.settlements.trans start.settlements
  inFlightInvite := rest.inFlightInvite.trans start.inFlightInvite
  journal := start.journal.trans rest.journal

theorem note (session : Session W) {entry : Entry} (plain : entry.attempt?.isNone = true) :
    Aside session (session.note entry) :=
  ⟨rfl, rfl, rfl, rfl, rfl, rfl, rfl, rfl, .one rfl plain⟩

theorem notify (session : Session W) (event : Event) :
    Aside session (session.notify event) :=
  ⟨rfl, rfl, rfl, rfl, rfl, rfl, rfl, rfl, .one rfl rfl⟩

variable [Surroundings W]

theorem of_change {concern : Concern} (aside : concern.isAside = true)
    (change : Change first concern last) : Aside first last := by
  cases change with
  | notify news => exact notify first _
  | display dashboard invite => exact ⟨rfl, rfl, rfl, rfl, rfl, rfl, rfl, invite, .of_eq rfl⟩
  | errand isErrand => exact ⟨rfl, rfl, rfl, rfl, rfl, rfl, rfl, rfl, .of_eq rfl⟩
  | ask call answer wall outside lives =>
      exact ⟨rfl, rfl, rfl, rfl, rfl, rfl, rfl, rfl,
        (Adds.one rfl rfl).trans (.one rfl rfl)⟩
  | accept bundle context => exact ⟨rfl, rfl, rfl, rfl, rfl, rfl, rfl, rfl, .one rfl rfl⟩
  | supply outside lastOpening pendingRestore =>
      exact ⟨rfl, rfl, rfl, rfl, rfl, rfl, rfl, rfl, .of_eq rfl⟩
  | promise => exact ⟨rfl, rfl, rfl, rfl, rfl, rfl, rfl, rfl, .of_eq rfl⟩
  | arrive topic payload => exact ⟨rfl, rfl, rfl, rfl, rfl, rfl, rfl, rfl, .of_eq rfl⟩
  | wake next => exact ⟨rfl, rfl, rfl, rfl, rfl, rfl, rfl, rfl, .one rfl rfl⟩
  | _ => cases aside

theorem of_changes {concerns : List Concern}
    (aside : ∀ concern ∈ concerns, concern.isAside = true)
    (changes : Changes concerns first last) : Aside first last :=
  changes.lift Aside refl trans fun member change => of_change (aside _ member) change

end Aside

theorem Sound.aside {first last : Session W} (sound : first.Sound)
    (aside : Aside first last) :
    last.Sound := by
  have same : last.hasSession = first.hasSession := congrArg Option.isSome aside.account
  constructor
  case toCoherent =>
    constructor
    case connected => rw [aside.connected, same]; exact sound.connected
    case restoring => rw [aside.restore, aside.account]; exact sound.restoring
    case closed =>
      rw [same, aside.liveness, aside.settlements, aside.inFlightInvite]
      exact sound.closed
    case highest => rw [aside.restore, aside.messageLastIndex]; exact sound.highest
  case numbered =>
    exact sound.numbered.of_adds aside.journal (Nat.le_of_eq aside.generation.symm)
  case superseded =>
    intro closed options member
    rw [aside.generation] at member
    exact sound.superseded (same ▸ closed) options (attempted_of_adds aside.journal member)

namespace Living

variable {first last : Session W}

theorem aside (living : first.Living) (aside : Aside first last) : last.Living :=
  (living.sound.aside aside).living
    ((congrArg Option.isSome aside.account).trans living.live)

theorem link [Surroundings W] (living : first.Living) (link : LinkOnly first last) :
    last.Living := by
  have account : last.account = first.account := (congrArg Session.account link.rest :)
  have restore : last.restore = first.restore := (congrArg Session.restore link.rest :)
  have owner : last.owner = first.owner := (congrArg Session.owner link.rest :)
  constructor
  case live => exact (congrArg Option.isSome account).trans living.live
  case restoring => rw [restore, account]; exact living.restoring
  case highest => rw [restore, owner]; exact living.highest
  case numbered => exact link.numbered living.numbered

theorem advanceRestore (living : first.Living) {step : RestoreMachine × List RestoreAction}
    (goesOn : step.1.isRestoring = true →
      .finished ∉ step.2 ∧ ∀ account ∈ first.account, account.restoring = true)
    (highest : ∀ highest ∈ step.1.highestIndex,
      ∃ last ∈ first.owner.messageLastIndex, highest ≤ last) :
    (first.advanceRestore step).Living := by
  rw [advanceRestore_eq]
  constructor
  case live => exact (isSome_accountAfter first step.2).trans living.live
  case restoring =>
    intro restoring account lives
    obtain ⟨unfinished, asked⟩ := goesOn restoring
    unfold accountAfter at lives
    rw [if_neg unfinished] at lives
    exact asked account lives
  case highest => exact highest
  case numbered => exact living.numbered.of_adds (adds_told _ _) (Nat.le_refl _)

theorem absorb (living : first.Living) (bundle : Bundle) (context : DispatchContext) :
    (first.absorb bundle context).Living := by
  obtain ⟨callbacks, same⟩ := first.absorb_eq bundle context
  rw [same]
  exact (living.aside (.note first rfl)).aside
    ⟨rfl, rfl, rfl, rfl, rfl, rfl, rfl, rfl, adds_told _ callbacks⟩

variable [Surroundings W]

theorem sent (living : first.Living) (publish : Publish) : (first.sent publish).Living :=
  ⟨living.live, living.restoring, living.highest,
    living.numbered.of_adds (.one rfl rfl) (Nat.le_refl _)⟩

theorem change (living : first.Living) {concern : Concern} (quiet : concern.isQuiet = true)
    (change : Change first concern last) : last.Living := by
  cases aside : concern.isAside with
  | true => exact living.aside (.of_change aside change)
  | false =>
      cases change with
      | shown delivers =>
          exact ⟨living.live, living.restoring, living.highest,
            living.numbered.of_adds (.one rfl rfl) (Nat.le_refl _)⟩
      | @raiseIndex index higher =>
          refine ⟨living.live, living.restoring, fun highest seen => ⟨index, rfl, ?_⟩,
            living.numbered⟩
          obtain ⟨last, known, le⟩ := living.highest highest seen
          rw [Option.mem_def.mp known] at higher
          exact UInt64.le_trans le (Word.le_of_not_le (of_decide_eq_false higher))
      | counted counts =>
          refine living.advanceRestore (fun restoring => ?_) ?_
          · rw [RestoreMachine.onCounts_isRestoring] at restoring
            obtain ⟨before, unfinished⟩ := (Bool.and_eq_true _ _).mp restoring
            exact ⟨of_decide_eq_true unfinished, living.restoring before⟩
          · rw [RestoreMachine.onCounts_highestIndex]
            exact living.highest
      | paged messages topic known =>
          refine living.advanceRestore (fun restoring => ?_) fun highest seen => ?_
          · rw [RestoreMachine.onBatch_isRestoring] at restoring
            obtain ⟨before, unfinished⟩ := (Bool.and_eq_true _ _).mp restoring
            exact ⟨of_decide_eq_true unfinished, living.restoring before⟩
          · cases RestoreMachine.mem_highestIndex_onBatch seen with
            | inl before => exact living.highest highest before
            | inr brought =>
                obtain ⟨last, some, le⟩ := Option.any_eq_true _ _ |>.mp (known highest brought)
                exact ⟨last, some, of_decide_eq_true le⟩
      | rehost host =>
          refine ⟨?_, fun restoring account lives => ?_, living.highest,
            living.numbered.of_adds (.one rfl rfl) (Nat.le_refl _)⟩
          · exact Option.isSome_map.trans living.live
          · obtain ⟨before, asked, rfl⟩ := Option.map_eq_some_iff.mp lives
            exact living.restoring restoring before asked
      | release key context =>
          unfold release
          split
          · exact ⟨living.live, living.restoring, living.highest, living.numbered⟩
          · exact ⟨living.live, living.restoring, living.highest, living.numbered⟩
      | publish publish => exact (living.sent publish).link (.publish first publish)
      | subscribe topics => exact living.link (.subscribe first topics)
      | link link => exact living.link link
      | track key timestamp =>
          exact ⟨living.live, living.restoring, living.highest, living.numbered⟩
      | complete tracked =>
          exact ⟨living.live, living.restoring, living.highest, living.numbered⟩
      | carryInvite inFlightInvite =>
          exact ⟨living.live, living.restoring, living.highest, living.numbered⟩
      | park bundle => exact ⟨living.live, living.restoring, living.highest, living.numbered⟩
      | delay bundle context =>
          exact ⟨living.live, living.restoring, living.highest, living.numbered⟩
      | setUserState userState => cases quiet
      | enterRestore restoring resumePaging => cases quiet
      | cancelRestore => cases quiet
      | _ => cases aside

theorem changes (living : first.Living) {concerns : List Concern}
    (changes : Changes concerns first last)
    (quiet : ∀ concern ∈ concerns, concern.isQuiet = true) : last.Living := by
  induction changes with
  | refl => exact living
  | tail _ change induction =>
      obtain ⟨concern, member, change⟩ := change
      exact induction.change (quiet concern member) change

omit [Surroundings W] in
theorem mem_highestIndex_enterRestore {session : Session W} {restoring resumePaging : Bool}
    {highest : UInt64}
    (seen : highest ∈ (session.enterRestore restoring resumePaging).restore.highestIndex) :
    highest ∈ session.restore.highestIndex ∨ highest ∈ session.owner.messageLastIndex := by
  unfold enterRestore at seen
  split at seen
  · split at seen
    · rw [followAll_eq] at seen
      exact Or.inl seen
    · exact Or.inl seen
  · split at seen
    · rw [advanceRestore_eq] at seen
      exact Or.inl seen
    · rw [advanceRestore_eq] at seen
      exact RestoreMachine.mem_highestIndex_beginSync seen

omit [Surroundings W] in
theorem enterRestore (living : first.Living) {account : Account}
    (lives : first.account = some account) (resumePaging : Bool) :
    (first.enterRestore account.restoring resumePaging).Living := by
  obtain ⟨step, entered, goesOn, unfinished⟩ :=
    first.enterRestore_eq account.restoring resumePaging
  have machine : (first.enterRestore account.restoring resumePaging).restore = step.1 := by
    rw [entered, advanceRestore_eq]
  rw [entered]
  refine living.advanceRestore (fun restoring => ⟨unfinished, ?_⟩) fun highest seen => ?_
  · intro other same
    obtain rfl : account = other := Option.some.inj (lives.symm.trans same)
    rw [goesOn] at restoring
    cases (Bool.or_eq_true _ _).mp restoring with
    | inl before => exact living.restoring before account lives
    | inr asked => exact asked
  · rw [← machine] at seen
    cases mem_highestIndex_enterRestore seen with
    | inl before => exact living.highest highest before
    | inr known => exact ⟨highest, known, UInt64.le_refl highest⟩

end Living

section Opening

variable {session : Session W}

theorem Sound.adopt (sound : session.Sound) (account : Account) (owner : Owner) :
    (session.adopt account owner false).Living where
  live := rfl
  restoring := nofun
  highest := nofun
  numbered := sound.numbered.of_adds (.one rfl rfl) (Nat.le_refl _)

theorem Sound.adopt_again (sound : session.Sound) {account : Account}
    (goesOn : account.restoring = session.restore.isRestoring) :
    (session.adopt account session.owner true).Living where
  live := rfl
  restoring := by
    rintro restoring _ ⟨⟩
    exact goesOn.trans restoring
  highest := sound.highest
  numbered := sound.numbered.of_adds (.one rfl rfl) (Nat.le_refl _)

variable [Surroundings W]

theorem Sound.openAccount (sound : session.Sound) (account : Account) (owner : Owner) :
    (session.openAccount account owner false).1.Sound :=
  ((sound.adopt account owner).link (openAccount_link session account owner false)).sound

/-- No attempt has the number that closing a connection takes. -/
theorem Sound.disconnect (sound : session.Sound) : session.disconnect.Sound := by
  have numbered : session.disconnect.Numbered := by
    refine sound.numbered.of_adds ⟨_, session.disconnect_journal, ?_⟩ (Nat.le_succ _)
    simp [Entry.attempt?]
  constructor
  case toCoherent => exact ⟨nofun, nofun, fun _ => ⟨rfl, rfl, rfl⟩, sound.highest⟩
  case numbered => exact numbered
  case superseded =>
    intro _ options member
    rw [disconnect_journal] at member
    cases List.mem_append.mp member with
    | inl before => exact absurd (sound.numbered _ options before) (Nat.not_succ_le_self _)
    | inr now => simp at now

theorem Sound.mayOpen {last : Session W} (sound : session.Sound)
    (mayOpen : MayOpen false session last) : last.Sound := by
  obtain ⟨middle, changes, rfl | ⟨account, owner, rfl⟩⟩ := mayOpen
  · exact sound.aside (.of_changes (by decide) changes)
  · exact (sound.aside (.of_changes (by decide) changes)).openAccount account owner

/-- An account that is opened again goes on with the restore that is under way. -/
theorem Sound.tryStart_again (sound : session.Sound) (params : OpeningParams) :
    (session.tryStart params session.owner true).1.Sound := by
  have supplied := Changes.supply session (some params)
  have kept := sound.aside (.of_changes (by decide) supplied)
  unfold Session.tryStart
  dsimp only
  split
  · exact kept.aside (.of_changes (by decide) (.reprime _))
  · split
    · exact kept
    · exact ((kept.adopt_again rfl).link (openAccount_link _ _ _ true)).sound

theorem Sound.reported {result : Session W × Except SessionError Unit}
    (sound : result.1.Sound) : (Session.reported result).1.Sound :=
  sound.aside (.of_changes (by decide) (.reported result))

theorem Sound.reconnect (sound : session.Sound) : session.reconnect.1.Sound := by
  rcases session.reconnect_cases with changes | ⟨params, -, reopens⟩
  · exact sound.aside (.of_changes (by decide) changes)
  · rw [reopens]
    exact (sound.disconnect.tryStart_again params).reported

omit [Surroundings W] in
theorem Sound.cancelRestore (sound : session.Sound) : session.cancelRestore.Sound := by
  unfold Session.cancelRestore
  split
  · exact sound
  · have same : (session.endRestore.accountAfter session.restore.cancel.2).isSome =
        session.hasSession :=
      (isSome_accountAfter _ _).trans Option.isSome_map
    rw [advanceRestore_eq]
    constructor
    case toCoherent =>
      constructor
      case connected => exact fun connected => same.trans (sound.connected connected)
      case restoring =>
        intro restoring
        rw [RestoreMachine.cancel_isRestoring] at restoring
        cases restoring
      case closed => exact fun closed => sound.closed (same.symm.trans closed)
      case highest =>
        rw [RestoreMachine.cancel_highestIndex]
        exact sound.highest
    case numbered => exact sound.numbered.of_adds (adds_told _ _) (Nat.le_refl _)
    case superseded =>
      intro closed options member
      exact sound.superseded (same.symm.trans closed) options
        (attempted_of_adds (adds_told _ _) member)

theorem live_of_answered {last : Session W} {call : CoreCall} {answer : Bundle × UInt64}
    (result : session.runCall call = (last, .ok answer)) : last.hasSession = true := by
  rcases runCall_cases result with ⟨-, -, refused⟩ | ⟨account, -, -, -, lives, rfl, -⟩
  · cases refused
  · exact congrArg Option.isSome lives

theorem Sound.tryPayInvoice (sound : session.Sound) (invoice : String) :
    (session.tryPayInvoice invoice).1.Sound := by
  unfold Session.tryPayInvoice
  split
  · exact sound
  · rename_i hash _
    split
    · rename_i result
      exact sound.aside (.of_changes (by decide) (.of_runCall result))
    · rename_i paid bundle time result
      have called := sound.aside (.of_changes (by decide) (.of_runCall result))
      have tracked := (called.living (live_of_answered result)).change rfl
        (.track paid hash (roundTripTime bundle time))
      exact tracked.sound.aside (.of_change rfl (.accept _ _ _))

theorem Sound.bootstrap (sound : session.Sound) (resumePaging : Bool) :
    (session.bootstrap resumePaging).Sound := by
  unfold Session.bootstrap
  split
  · exact sound.aside (.notify session _)
  · rename_i account lives
    split
    · rename_i result
      exact (sound.aside (.of_changes (by decide) (.of_runCall result))).aside (.notify _ _)
    · rename_i last bundle _ result
      have accepted := Aside.of_changes (by decide)
        ((Changes.of_runCall result).andThen (.one (.accept last bundle {})))
      have living := (sound.aside accepted).living (live_of_answered result :)
      exact (living.enterRestore (accepted.account.trans lives) resumePaging).sound

theorem Sound.apply (sound : session.Sound) (bundle : Bundle) (context : DispatchContext) :
    (session.apply bundle context).Sound := by
  cases live : session.hasSession with
  | true =>
      have absorbed := (sound.living live).absorb bundle context
      exact (absorbed.changes (.applyAbsorbed live bundle context) (by decide)).sound
  | false =>
      rw [apply_closed live]
      exact sound.aside (.notify session _)

theorem Sound.wake (sound : session.Sound) : session.wake.Sound := by
  cases live : session.hasSession with
  | true => exact ((sound.living live).changes (.wake session) (by decide)).sound
  | false =>
      rcases session.wake_cases with same | ⟨first, waiting, waits, -, woken⟩
      · exact same.symm ▸ sound
      · have idle : ({ session with waiting }.note (.woken first)).hasSession = false := live
        rw [woken, continuePublishing, if_neg (by simp [idle])]
        exact sound.aside (.of_change rfl (.wake session waits))

/-- An event that counts is one of an attempt made for the live account. -/
theorem Sound.receive (sound : session.Sound) {generation : Nat} (event : LinkEvent)
    (genuine : session.isGenuine (.receive generation event) = true) :
    (session.receive generation event).Sound := by
  by_cases current : generation = session.generation
  · obtain ⟨options, attempted⟩ := attempted_of_isGenuine genuine
    rw [current] at attempted
    have live : session.hasSession = true := by
      cases closed : session.hasSession with
      | true => rfl
      | false => exact absurd attempted (sound.superseded closed options)
    exact ((sound.living live).changes (.receive session generation event) (by decide)).sound
  · have same : session.receive generation event = session := if_neg current
    exact same.symm ▸ sound

theorem Sound.perform (sound : session.Sound) (operation : Operation) :
    (session.perform operation).1.Sound := by
  cases operation with
  | addListener => exact sound.aside ⟨rfl, rfl, rfl, rfl, rfl, rfl, rfl, rfl, .of_eq rfl⟩
  | beginRestore mnemonic =>
      exact sound.aside ⟨rfl, rfl, rfl, rfl, rfl, rfl, rfl, rfl, .of_eq rfl⟩
  | createAccount displayName mixer inviteCode =>
      exact (sound.mayOpen (.tryCreateAccount session displayName mixer inviteCode)).reported
  | restoreAccount params => exact (sound.mayOpen (.tryRestoreAccount session params)).reported
  | start address mnemonic owner =>
      exact (sound.mayOpen (.tryStart session { address, mnemonic } owner false)).reported
  | reconnect => exact sound.reconnect
  | disconnect => exact sound.disconnect
  | payInvoice invoice => exact (sound.tryPayInvoice invoice).reported
  | cancelRestore => exact sound.cancelRestore
  | dispatch bundle context => exact sound.aside (.of_change rfl (.accept session bundle context))
  | _ => exact (sound.aside (.of_changes (by decide) (.execute session _))).reported

theorem Sound.step (sound : session.Sound) : session.step.Sound := by
  unfold Session.step
  split
  · rename_i work agenda _
    have taken : Sound { session with agenda } :=
      sound.aside ⟨rfl, rfl, rfl, rfl, rfl, rfl, rfl, rfl, .of_eq rfl⟩
    cases work with
    | dispatch bundle context => exact taken.apply bundle context
    | call call => exact taken.aside (.of_changes (by decide) (.callThenApply _ call {}))
    | inbound topic payload => exact taken.aside (.of_changes (by decide) (.callThenApply _ _ _))
    | bootstrap resumePaging => exact taken.bootstrap resumePaging
  · exact sound.aside ⟨rfl, rfl, rfl, rfl, rfl, rfl, rfl, rfl, .one rfl rfl⟩
  · exact sound

theorem Sound.move (sound : session.Sound) {next : Move W}
    (genuine : session.isGenuine next = true) : (session.move next).Sound := by
  cases next with
  | perform operation => exact sound.perform operation
  | receive generation event => exact sound.receive event genuine
  | wake => exact sound.wake
  | step => exact sound.step
  | advance millis => exact sound.aside ⟨rfl, rfl, rfl, rfl, rfl, rfl, rfl, rfl, .of_eq rfl⟩
  | surround outside =>
      exact sound.aside ⟨rfl, rfl, rfl, rfl, rfl, rfl, rfl, rfl, .of_eq rfl⟩

end Opening

theorem sound_new (config : Config) (outside : W) : (new config outside).Sound where
  connected := nofun
  restoring := nofun
  closed := fun _ => ⟨rfl, rfl, rfl⟩
  highest := nofun
  numbered := nofun
  superseded := fun _ _ => List.not_mem_nil

variable [Surroundings W]

/-- Whatever a caller, the link, the core and the time do, the parts of a session fit. -/
theorem coherent_always {config : Config} {outside : W} {session : Session W}
    (unfolds : Unfolds (new config outside) session) : session.Coherent := by
  have sound : session.Sound := by
    induction unfolds with
    | here => exact sound_new config outside
    | after next _ genuine induction => exact induction.move genuine
  exact sound.toCoherent

/-! A restore that is under way on a live connection, and a message that comes meanwhile. -/

def restoringMoves : List (Move Bench) :=
  [.perform (.beginRestore twelveWords),
    .perform (.restoreAccount { mixerAddress := "broker" }), .receive 1 .connected, .step,
    .perform (.dispatch { messages := [Message.numbered 42] } {}), .step, .step, .step]

def restoringRun : Session Bench :=
  restoringMoves.foldl move (new .test (.new 7))

theorem coherent_restoringRun :
    Unfolds (new .test (.new 7)) restoringRun ∧ restoringRun.hasSession = true ∧
      (∀ account ∈ restoringRun.account, account.restoring = true) ∧
        ∃ last ∈ restoringRun.owner.messageLastIndex, 42 ≤ last := by
  have unfolds : Unfolds (new .test (.new 7)) restoringRun :=
    Unfolds.here.moves (by decide +kernel)
  have coherent := coherent_always unfolds
  refine ⟨unfolds, coherent.connected ?_, coherent.restoring ?_, coherent.highest 42 ?_⟩
  · decide +kernel
  · decide +kernel
  · decide +kernel

end Session

end Messenger

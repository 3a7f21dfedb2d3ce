import Messenger.Proofs.Session.Inherited
import Messenger.Proofs.Session.Reconnecting
import Messenger.Proofs.Session.Tending

/-!
Whose connection a session is on. Opening an account takes the place of the one before at
once, but only an attempt to connect supersedes the attempts before. In between, an opening
may fail; the account is then live, and the events of an earlier account's attempt count for
it.
-/

namespace Messenger

/-- The account without where its broker is. -/
def Account.unhosted (account : Account) : Account :=
  { account with mixer := "" }

theorem Entry.held_before (entry : Entry) (unopened : entry.isOpening = false)
    (before : Option Account) (account : Account) (holds : entry.holds before = some account) :
    before.map Account.unhosted = some account.unhosted := by
  cases entry with
  | opened account owner => cases unopened
  | disconnected => cases holds
  | told callback =>
      cases callback with
      | event event =>
          cases event with
          | mixerChanged host =>
              obtain ⟨previous, rfl, rfl⟩ := Option.map_eq_some_iff.mp holds
              rfl
          | _ => exact congrArg _ holds
      | _ => exact congrArg _ holds
  | _ => exact congrArg _ holds

/-- The holder is the account of the last opening, but for its broker. -/
theorem opened_of_holder {journal : List Entry} {account : Account}
    (held : holder journal = some account) :
    ∃ before opened owner, journal = before ++ .opened opened owner :: sinceOpening journal ∧
      opened.seed = account.seed ∧ opened.network = account.network := by
  rcases held_since Account.unhosted (fun entry _ => entry.held_before) held with
    ⟨-, none⟩ | ⟨before, opened, owner, late, split, unopened, same⟩
  · cases none
  · have since : sinceOpening journal = late := by
      rw [split, List.append_cons, sinceOpening, afterLast_append _ unopened,
        afterLast_mark before rfl, List.nil_append]
    rw [since]
    exact ⟨before, opened, owner, split, (congrArg Account.seed same :),
      (congrArg Account.network same :)⟩

namespace Session

variable {W : Type} [Surroundings W]

/-- The attempt that counts now was made since an account was opened, with credentials
derived from its seed. -/
structure MadeFor (account : Account) (options : ConnectOptions) (session : Session W) :
    Prop where
  current : .attempted session.generation options ∈ sinceOpening session.journal
  keys : ∃ time, .keysAsked account.seed time ∈ sinceOpening session.journal ∧
    Derived W account.seed account.network time options

/-- Since the last opening an attempt was made. -/
def HasDialled (session : Session W) : Prop :=
  ∃ attempt ∈ sinceOpening session.journal, attempt.attempt?.isSome = true

structure Attributed (session : Session W) : Prop extends Followed session where
  numbered : session.Numbered
  made : session.connected = true →
    session.journal.any (·.isAttempt session.generation) = true
  /-- Once an attempt is made, it supersedes those made before the opening. -/
  current : session.HasDialled → ∀ options,
    .attempted session.generation options ∈ session.journal →
      .attempted session.generation options ∈ sinceOpening session.journal
  own : ∀ account, session.account = some account → ∀ generation options,
    .attempted generation options ∈ sinceOpening session.journal →
      ∃ time, .keysAsked account.seed time ∈ sinceOpening session.journal ∧
        Derived W account.seed account.network time options

theorem attributed_new (config : Config) (outside : W) : (new config outside).Attributed where
  toFollowed := followed_new config outside
  numbered := nofun
  made := nofun
  current := fun _ _ member => absurd member List.not_mem_nil
  own := nofun

namespace Attributed

variable {first last : Session W}

/-- Neither an opening nor an attempt. -/
theorem plain (attributed : first.Attributed) (followed : last.Followed) {more : List Entry}
    (journal : last.journal = first.journal ++ more)
    (plain : ∀ entry ∈ more, entry.attempt? = none ∧ entry.isOpening = false)
    (generation : last.generation = first.generation)
    (keys : ∀ account, last.account = some account →
      ∃ before, first.account = some before ∧ before.seed = account.seed ∧
        before.network = account.network)
    (made : last.connected = true →
      first.journal.any (·.isAttempt first.generation) = true) : last.Attributed := by
  have unattempted {generation : Nat} {options : ConnectOptions} {entries : List Entry}
      (member : .attempted generation options ∈ entries ++ more) :
      .attempted generation options ∈ entries := by
    cases List.mem_append.mp member with
    | inl before => exact before
    | inr now => cases (plain _ now).1
  have since : sinceOpening last.journal = sinceOpening first.journal ++ more := by
    rw [journal]
    exact afterLast_append _ fun entry member => (plain entry member).2
  constructor
  case toFollowed => exact followed
  case numbered =>
    intro number options member
    rw [generation]
    exact attributed.numbered number options (unattempted (journal ▸ member))
  case made =>
    intro up
    rw [journal, generation, List.any_append, made up, Bool.true_or]
  case current =>
    rintro ⟨attempt, member, attempts⟩ options attempted
    rw [since] at member ⊢
    rw [generation] at attempted ⊢
    have dialled : first.HasDialled := by
      cases List.mem_append.mp member with
      | inl before => exact ⟨attempt, before, attempts⟩
      | inr now => simp [(plain attempt now).1] at attempts
    exact List.mem_append_left _
      (attributed.current dialled options (unattempted (journal ▸ attempted)))
  case own =>
    intro account lives number options member
    obtain ⟨before, livesBefore, seed, network⟩ := keys account lives
    rw [since] at member ⊢
    obtain ⟨time, asked, derived⟩ :=
      attributed.own before livesBefore number options (unattempted member)
    rw [seed] at asked derived
    rw [network] at derived
    exact ⟨time, List.mem_append_left _ asked, derived⟩

theorem away (attributed : first.Attributed) (away : Away first last) : last.Attributed := by
  obtain ⟨more, grows, apart⟩ := away.grows
  refine attributed.plain (attributed.toFollowed.away away) grows.journal
    (fun entry member => Entry.unattempted_of_away (apart entry member)) away.generation
    (fun account lives => ?_) (away.connected ▸ attributed.made)
  have same := away.account
  rw [lives] at same
  obtain ⟨before, livesBefore, enduring⟩ := Option.map_eq_some_iff.mp same.symm
  exact ⟨before, livesBefore, (congrArg Account.seed enduring :),
    (congrArg Account.network enduring :)⟩

theorem told (attributed : first.Attributed) (event : Event)
    (followed : (first.notify event).Followed) : (first.notify event).Attributed :=
  attributed.plain followed rfl (List.forall_mem_singleton.mpr ⟨rfl, rfl⟩) rfl
    (fun account lives => ⟨account, lives, rfl, rfl⟩) attributed.made

theorem dials (attributed : first.Attributed) (followed : last.Followed) {live : Account}
    {options : ConnectOptions} (dials : Dials live options first last) : last.Attributed := by
  obtain ⟨wall, time, derived, grows⟩ := dials.grows
  have since : sinceOpening last.journal = sinceOpening first.journal ++
      [.stamped wall time, .keysAsked live.seed time,
        .told (.event (.connection .connecting)), .attempted (first.generation + 1) options] := by
    rw [grows.journal]
    exact afterLast_append _ (by simp [Entry.isOpening])
  have attempted {number : Nat} {other : ConnectOptions} {entries : List Entry}
      (member : .attempted number other ∈ entries ++
        [.stamped wall time, .keysAsked live.seed time,
          .told (.event (.connection .connecting)),
          .attempted (first.generation + 1) options]) :
      .attempted number other ∈ entries ∨ number = first.generation + 1 ∧ other = options := by
    simpa using member
  constructor
  case toFollowed => exact followed
  case numbered =>
    intro number other member
    rw [dials.generation]
    rcases attempted (grows.journal ▸ member) with before | ⟨rfl, -⟩
    · exact Nat.le_succ_of_le (attributed.numbered number other before)
    · exact Nat.le_refl _
  case made =>
    intro _
    rw [grows.journal, dials.generation]
    simp [Entry.isAttempt]
  case current =>
    intro _ other member
    rw [dials.generation] at member ⊢
    rcases attempted (grows.journal ▸ member) with before | ⟨-, rfl⟩
    · exact absurd (attributed.numbered _ other before) (Nat.not_succ_le_self _)
    · simp [since]
  case own =>
    intro account lives number other member
    rw [since] at member ⊢
    obtain rfl : live = account :=
      Option.some.inj (dials.lives.symm.trans (dials.account.symm.trans lives))
    rcases attempted member with before | ⟨-, rfl⟩
    · obtain ⟨earlier, asked, derivedBefore⟩ := attributed.own live dials.lives number other before
      exact ⟨earlier, List.mem_append_left _ asked, derivedBefore⟩
    · exact ⟨time, by simp, derived⟩

theorem connect (attributed : first.Attributed) : first.connect.1.Attributed := by
  have followed := attributed.toFollowed.connect
  rcases first.connect_cases with away | ⟨_, _, dials⟩
  · exact attributed.away away
  · exact attributed.dials followed dials

/-- Until an attempt is made, what the opening took over counts for nothing. -/
theorem adopt (attributed : first.Attributed) (account : Account) (owner : Owner)
    (resume : Bool) (followed : (first.adopt account owner resume).Followed) :
    (first.adopt account owner resume).Attributed := by
  have since : sinceOpening (first.adopt account owner resume).journal = [] :=
    afterLast_mark first.journal rfl
  constructor
  case toFollowed => exact followed
  case numbered => exact attributed.numbered.of_adds (.one rfl rfl) (Nat.le_refl _)
  case made => exact nofun
  case current =>
    rintro ⟨attempt, member, -⟩
    rw [since] at member
    cases member
  case own =>
    intro _ _ number options member
    rw [since] at member
    cases member

/-- No attempt has the number that closing takes. -/
theorem close (attributed : first.Attributed) (followed : first.disconnect.Followed) :
    first.disconnect.Attributed := by
  constructor
  case toFollowed => exact followed
  case numbered =>
    refine attributed.numbered.of_adds ⟨_, first.disconnect_journal, ?_⟩ (Nat.le_succ _)
    simp [Entry.attempt?]
  case made => exact fun up => absurd up Bool.false_ne_true
  case current =>
    intro _ options member
    rw [disconnect_journal] at member
    have before : .attempted first.disconnect.generation options ∈ first.journal := by
      simpa using member
    exact absurd (attributed.numbered _ options before) (Nat.not_succ_le_self _)
  case own =>
    intro account lives
    cases lives

end Attributed

theorem tended_attributed : Tended { genuine := true } (Attributed (W := W)) := by
  intro first last tends attributed
  have followed := tended_followed _ tends attributed.toFollowed
  cases tends with
  | away away => exact attributed.away away
  | listen => exact { attributed with }
  | supply params free => exact { attributed with }
  | rehost host =>
      refine attributed.plain followed rfl (List.forall_mem_singleton.mpr ⟨rfl, rfl⟩) rfl
        (fun account lives => ?_) attributed.made
      obtain ⟨before, livesBefore, rfl⟩ := Option.map_eq_some_iff.mp lives
      exact ⟨before, livesBefore, rfl, rfl⟩
  | adopt owner resume down known => exact attributed.adopt _ owner resume followed
  | dial down => exact attributed.connect
  | replace unspent refused => exact (attributed.away (.spendReconnect first)).connect
  | rise made =>
      have risen : Attributed { first with connected := true } :=
        { attributed with made := fun _ => made rfl }
      exact risen.told _ followed
  | fall done =>
      have fallen : Attributed { first with connected := false } :=
        { attributed with made := nofun }
      exact fallen.told _ followed
  | promise up => exact { attributed with farewell := followed.farewell }
  | @depart event farewell next =>
      have departed : Attributed { first with farewell } :=
        { attributed with farewell := followed.farewell }
      exact departed.told event followed
  | close done => exact attributed.close followed

theorem Dials.hasDialled {live : Account} {options : ConnectOptions} {first last : Session W}
    (dials : Dials live options first last) : last.HasDialled := by
  obtain ⟨wall, time, -, grows⟩ := dials.grows
  refine ⟨.attempted (first.generation + 1) options, ?_, rfl⟩
  rw [grows.journal, sinceOpening, afterLast_append _ (by simp [Entry.isOpening])]
  simp

theorem HasDialled.link {first last : Session W} (dialled : first.HasDialled)
    (link : LinkOnly first last) : last.HasDialled := by
  obtain ⟨attempt, member, attempts⟩ := dialled
  obtain ⟨more, grown, ofLink⟩ := link.journal
  have unopened : ∀ entry ∈ more, entry.isOpening = false := by
    intro entry member
    cases entry with
    | opened account owner => cases ofLink _ member
    | _ => rfl
  refine ⟨attempt, ?_, attempts⟩
  rw [grown, sinceOpening, afterLast_append _ unopened]
  exact List.mem_append_left _ member

theorem dialled_of_openAccount {session last : Session W} {account : Account} {owner : Owner}
    {resume : Bool} (done : session.openAccount account owner resume = (last, .ok ())) :
    last.HasDialled := by
  unfold openAccount at done
  extract_lets fresh live at done
  split at done
  · rename_i result
    cases done
    rcases connect_cases_of result with ⟨error, failed, -⟩ | ⟨_, _, dials⟩
    · cases failed
    · exact dials.hasDialled
  · rename_i reason result
    cases done
    rcases connect_cases_of result with ⟨error, failed, other, -⟩ | ⟨_, _, dials⟩
    · cases failed
      exact absurd rfl (other reason)
    · exact dials.hasDialled.link (.connectionFailed _ _)
  · cases done

theorem dialled_of_tryRestoreAccount {session last : Session W} {params : RestoreParams}
    (done : session.tryRestoreAccount params = (last, .ok ())) : last.HasDialled := by
  unfold tryRestoreAccount at done
  split at done
  · cases done
  · split at done
    · cases done
    · dsimp only at done
      split at done
      · cases done
      · exact dialled_of_openAccount done

theorem dialled_of_tryCreateAccount {session last : Session W} {displayName mixer : String}
    {inviteCode : Option String}
    (done : session.tryCreateAccount displayName mixer inviteCode = (last, .ok ())) :
    last.HasDialled := by
  unfold tryCreateAccount at done
  split at done
  · cases done
  · split at done
    · exact dialled_of_tryRestoreAccount done
    · dsimp only at done
      split at done
      · cases done
      · unfold createFrom at done
        split at done
        · cases done
        · split at done
          · cases done
          · exact dialled_of_openAccount done

theorem dialled_of_tryStart {session last : Session W} {params : OpeningParams}
    {owner : Owner} {resume : Bool}
    (done : session.tryStart params owner resume = (last, .ok ())) :
    session.connected = true ∧ last = { session with lastOpening := some params }.reprime ∨
      last.HasDialled := by
  unfold tryStart at done
  dsimp only at done
  split at done
  · rename_i up
    cases done
    exact Or.inl ⟨up, rfl⟩
  · split at done
    · cases done
    · exact Or.inr (dialled_of_openAccount done)

omit [Surroundings W] in
theorem Away.unopened {first last : Session W} (away : Away first last) :
    ∀ entry ∈ last.since first, entry.isOpening = false := by
  obtain ⟨more, grows, apart⟩ := away.grows
  intro entry member
  rw [since, grows.journal, List.drop_left] at member
  exact (Entry.unattempted_of_away (apart entry member)).2

/-- An operation that succeeds opens no account, or makes an attempt for it. -/
theorem dialled_of_perform {session last : Session W} {operation : Operation}
    (done : session.perform operation = (last, .ok ())) :
    (∀ entry ∈ last.since session, entry.isOpening = false) ∨ last.HasDialled := by
  have away {result : Session W × Except SessionError Unit} (away : Away session result.1)
      (done : reported result = (last, .ok ())) :
      (∀ entry ∈ last.since session, entry.isOpening = false) ∨ last.HasDialled := by
    rw [eq_of_reported_ok done] at away
    exact Or.inl away.unopened
  cases operation with
  | addListener =>
      cases done
      exact Or.inl (by simp [since, addListener])
  | beginRestore mnemonic =>
      cases done
      exact Or.inl (by simp [since, beginRestore])
  | createAccount displayName mixer inviteCode =>
      exact Or.inr (dialled_of_tryCreateAccount (eq_of_reported_ok done))
  | restoreAccount params =>
      exact Or.inr (dialled_of_tryRestoreAccount (eq_of_reported_ok done))
  | start address mnemonic owner =>
      rcases dialled_of_tryStart (eq_of_reported_ok done) with ⟨-, rfl⟩ | dialled
      · obtain ⟨asked, shown, same⟩ :=
          Changes.reprime_eq { session with lastOpening := some { address, mnemonic } }
        have unopened := (Away.of_changes (by decide) shown).unopened
        rw [same]
        exact Or.inl unopened
      · exact Or.inr dialled
  | reconnect =>
      unfold perform reconnect at done
      dsimp only at done
      split at done
      · cases done
        exact Or.inl (by simp [since, enqueue, lastly])
      · split at done
        · exact away (.refl session) done
        · rcases dialled_of_tryStart (eq_of_reported_ok done) with ⟨up, -⟩ | dialled
          · cases up
          · exact Or.inr dialled
  | disconnect =>
      cases done
      refine Or.inl ?_
      rw [since, disconnect_journal, List.drop_left]
      simp [Entry.isOpening]
  | payInvoice invoice => exact away (.of_changes (by decide) (.tryPayInvoice session invoice)) done
  | cancelRestore =>
      cases done
      exact Or.inl (Away.cancelRestore session).unopened
  | dispatch bundle context =>
      cases done
      exact Or.inl (Away.accept session bundle context).unopened
  | _ => exact away (.of_changes (by decide) (.execute session _)) done

/-- A connection that is up is that of an attempt, made for the live account if and only if
an attempt was made since that account was opened. An operation that opened an account without
one has failed. -/
theorem own_connection_iff_dialled {config : Config} {outside : W} {session : Session W}
    (unfolds : Unfolds (new config outside) session) :
    (session.connected = true → ∃ account options, session.account = some account ∧
      .attempted session.generation options ∈ session.journal) ∧
    (∀ account, session.account = some account →
      (∃ before opened owner,
        session.journal = before ++ .opened opened owner :: sinceOpening session.journal ∧
          opened.seed = account.seed ∧ opened.network = account.network) ∧
      ∀ options, .attempted session.generation options ∈ session.journal →
        (MadeFor account options session ↔ session.HasDialled)) ∧
    ∀ operation last opening, session.perform operation = (last, .ok ()) →
      opening ∈ last.since session → opening.isOpening = true → last.HasDialled := by
  have attributed := tended_attributed.unfolds unfolds (attributed_new config outside)
  refine ⟨fun up => ?_, fun account lives => ⟨?_, fun options attempted => ?_⟩, ?_⟩
  · have live := (coherent_always unfolds).connected up
    obtain ⟨account, lives⟩ := Option.isSome_iff_exists.mp live
    have genuine : session.isGenuine (.receive session.generation .connected) = true :=
      attributed.made up
    obtain ⟨options, attempted⟩ := attempted_of_isGenuine genuine
    exact ⟨account, options, lives, attempted⟩
  · obtain ⟨other, held, enduring⟩ := attributed.toFollowed.holder lives
    obtain ⟨before, opened, owner, split, seed, network⟩ := opened_of_holder held
    exact ⟨before, opened, owner, split, seed.trans (congrArg Account.seed enduring :),
      network.trans (congrArg Account.network enduring :)⟩
  · constructor
    case mp => exact fun madeFor => ⟨_, madeFor.current, rfl⟩
    case mpr =>
      intro dialled
      have current := attributed.current dialled options attempted
      exact ⟨current, attributed.own account lives _ options current⟩
  · intro operation last opening done member opens
    refine (dialled_of_perform done).resolve_left fun unopened => ?_
    exact absurd ((unopened opening member).symm.trans opens) (by decide)

/-! Alice's attempt is still on its way when Bob's account is opened. -/

def aliceMoves : List (Move Bench) :=
  [.perform (.createAccount "alice" "broker" none)]

/-- The acknowledgement of the first attempt comes late. -/
def bobMoves : List (Move Bench) :=
  aliceMoves ++
    [.perform (.createAccount "bob" "broker" none), .receive 1 .connected,
      .receive 2 .connected]

def bobRun : Session Bench :=
  bobMoves.foldl move (new .test (.new 7))

theorem own_connection_bobRun :
    Unfolds (new .test (.new 7)) bobRun ∧ bobRun.connected = true ∧
      ∃ account options, bobRun.account = some account ∧ MadeFor account options bobRun := by
  obtain ⟨genuine, up, dials⟩ : (new .test (.new 7)).genuineAll bobMoves = true ∧
      bobRun.connected = true ∧
      (sinceOpening bobRun.journal).any (·.attempt?.isSome) = true := by decide +kernel
  have unfolds : Unfolds (new .test (.new 7)) bobRun := Unfolds.here.moves genuine
  obtain ⟨made, own, -⟩ := own_connection_iff_dialled unfolds
  obtain ⟨account, options, lives, attempted⟩ := made up
  obtain ⟨-, madeFor⟩ := own account lives
  have dialled : bobRun.HasDialled := List.any_eq_true.mp dials
  exact ⟨unfolds, up, account, options, lives, (madeFor options attempted).mpr dialled⟩

/-- The port of Bob's broker cannot be read. -/
def misplaced : Operation :=
  .createAccount "bob" "broker:port" none

def aliceRun : Session Bench :=
  aliceMoves.foldl move (new .test (.new 7))

def takenOverMoves : List (Move Bench) :=
  [.perform misplaced, .receive 1 .connected]

def takenOverRun : Session Bench :=
  takenOverMoves.foldl move aliceRun

/-- Bob's account is live although opening it failed, and Alice's attempt connects it. -/
theorem connected_by_earlier_attempt :
    Reaches (new .test (.new 7)) takenOverRun ∧ Unfolds (new .test (.new 7)) takenOverRun ∧
      (aliceRun.perform misplaced).2.isOk = false ∧ takenOverRun.connected = true ∧
      takenOverRun.owner.displayName = "bob" ∧ takenOverRun.agenda = [.bootstrap true] ∧
      ∀ account options, ¬ MadeFor account options takenOverRun := by
  obtain ⟨permitted, genuine, fails, up, bob, begins, none⟩ :
      (new .test (.new 7)).permitsAll (aliceMoves ++ takenOverMoves) = true ∧
      (new .test (.new 7)).genuineAll (aliceMoves ++ takenOverMoves) = true ∧
      (aliceRun.perform misplaced).2.isOk = false ∧ takenOverRun.connected = true ∧
      takenOverRun.owner.displayName = "bob" ∧ takenOverRun.agenda = [.bootstrap true] ∧
      (sinceOpening takenOverRun.journal).all (·.attempt?.isNone) = true := by decide +kernel
  refine ⟨Reaches.here.moves permitted, Unfolds.here.moves genuine, fails, up, bob, begins,
    fun account options madeFor => ?_⟩
  cases List.all_eq_true.mp none _ madeFor.current

end Session

end Messenger

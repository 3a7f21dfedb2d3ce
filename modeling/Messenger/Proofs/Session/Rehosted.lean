import Messenger.Proofs.Session.Silence
import Messenger.Proofs.Session.Tending

/-!
Where a session attempts to connect to. An attempt goes to where the live account has its
broker. A bundle may move that, but what the account is opened with again stays as the caller
supplied it: the automatic reconnect follows the move, and the next opening takes it back.
-/

namespace Messenger

namespace Entry

def rehosts : Entry → Bool
  | .told (.event (.mixerChanged _)) => true
  | _ => false

def movesTo (host : String) : Entry → Bool
  | .told (.event (.mixerChanged other)) => other = host
  | _ => false

def aimsAt (endpoint : Endpoint) (entry : Entry) : Bool :=
  entry.attempt?.any (·.endpoint = endpoint)

theorem unaimed_of_unattempted {entry : Entry} (unattempted : entry.attempt? = none)
    (endpoint : Endpoint) : entry.aimsAt endpoint = false := by
  rw [aimsAt, unattempted]
  rfl

theorem held_of_unmoved {entry : Entry} {before : Option Account} {account : Account}
    (held : entry.holds before = some account) (unopened : entry.isOpening = false)
    (unmoved : entry.rehosts = false) : before = some account := by
  cases entry with
  | opened account owner => cases unopened
  | disconnected => cases held
  | told callback =>
      cases callback with
      | event event =>
          cases event with
          | mixerChanged host => cases unmoved
          | _ => exact held
      | _ => exact held
  | _ => exact held

end Entry

/-- Unless its broker is moved, the holder is the one from before, or one that was opened. -/
theorem held_of_all_unmoved {entries : List Entry} {before : Option Account}
    {account : Account} (unmoved : ∀ entry ∈ entries, entry.rehosts = false)
    (held : entries.foldl Entry.holds before = some account) :
    entries.any Entry.isOpening = false ∧ before = some account ∨
      ∃ owner, .opened account owner ∈ entries := by
  have kept : ∀ entry ∈ entries, entry.isOpening = false → ∀ before account,
      entry.holds before = some account → before.map id = some account := by
    intro entry member unopened before account holds
    rw [Option.map_id_apply]
    exact Entry.held_of_unmoved holds unopened (unmoved entry member)
  rcases held_since id kept held with
    ⟨unopened, same⟩ | ⟨early, opened, owner, late, split, -, same⟩
  · rw [Option.map_id_apply] at same
    exact Or.inl ⟨by simpa using unopened, same⟩
  · obtain rfl : opened = account := same
    exact Or.inr ⟨owner, split ▸ List.mem_append_cons_self⟩

namespace Session

variable {W : Type}

/-- Every attempt went to where the holder at that time had its broker. -/
structure Aimed (config : Config) (session : Session W) : Prop extends Followed session where
  configured : session.config = config
  aims : ∀ endpoint, Ahead (Entry.aimsAt endpoint)
    (fun earlier => ∃ account, holder earlier = some account ∧
      Endpoint.parse account.mixer config = .ok endpoint) session.journal

theorem aimed_new (config : Config) (outside : W) : (new config outside).Aimed config where
  toFollowed := followed_new config outside
  configured := rfl
  aims := fun _ => .nil

namespace Aimed

variable {config : Config} {first last : Session W}

theorem unattempted (aimed : first.Aimed config) (followed : last.Followed)
    (same : last.config = first.config) {more : List Entry}
    (journal : last.journal = first.journal ++ more)
    (plain : ∀ entry ∈ more, entry.attempt? = none) : last.Aimed config where
  toFollowed := followed
  configured := same.trans aimed.configured
  aims endpoint := by
    rw [journal]
    exact (aimed.aims endpoint).append_unmarked
      fun entry member => Entry.unaimed_of_unattempted (plain entry member) endpoint

theorem away (aimed : first.Aimed config) (away : Away first last) : last.Aimed config := by
  obtain ⟨more, grows, apart⟩ := away.grows
  exact aimed.unattempted (aimed.toFollowed.away away) away.config grows.journal
    fun entry member => (Entry.unattempted_of_away (apart entry member)).1

variable [Surroundings W]

theorem dials (aimed : first.Aimed config) {live : Account} {options : ConnectOptions}
    (dials : Dials live options first last) : last.Aimed config := by
  obtain ⟨wall, time, -, grows⟩ := dials.grows
  constructor
  case toFollowed => exact aimed.toFollowed.dials dials
  case configured => exact dials.config.trans aimed.configured
  case aims =>
    intro endpoint
    let asked : List Entry := [.stamped wall time, .keysAsked live.seed time,
      .told (.event (.connection .connecting))]
    have unaimed : ∀ entry ∈ asked, entry.aimsAt endpoint = false := by
      simp [asked, Entry.aimsAt, Entry.attempt?]
    have journal : last.journal =
        first.journal ++ asked ++ [.attempted (first.generation + 1) options] := by
      rw [grows.journal, List.append_assoc]
      rfl
    rw [journal]
    refine ((aimed.aims endpoint).append_unmarked unaimed).append_one fun aimsAt => ?_
    obtain ⟨account, held, enduring⟩ := aimed.toFollowed.holder dials.lives
    have mixer : account.mixer = live.mixer := (congrArg Account.mixer enduring :)
    have target : options.endpoint = endpoint := of_decide_eq_true aimsAt
    refine ⟨account, ?_, ?_⟩
    · rw [holder_append _ (by simp [asked, Entry.holds]), held]
    · rw [mixer, ← target, ← aimed.configured]
      exact dials.resolves

theorem connect (aimed : first.Aimed config) : first.connect.1.Aimed config := by
  rcases first.connect_cases with away | ⟨_, _, dials⟩
  · exact aimed.away away
  · exact aimed.dials dials

end Aimed

/-- Whatever account is opened from here on has its broker at the address that was supplied
last. -/
structure Settled (start session : Session W) : Prop where
  lastOpening : session.lastOpening = start.lastOpening
  opened : ∃ more, session.journal = start.journal ++ more ∧
    ∀ account owner, .opened account owner ∈ more →
      start.lastOpening.map (·.address) = some account.mixer

namespace Settled

variable {start first last : Session W}

theorem refl (session : Session W) : Settled session session :=
  ⟨rfl, [], (List.append_nil _).symm, nofun⟩

theorem grows (settled : Settled start first) (lastOpening : last.lastOpening = first.lastOpening)
    {more : List Entry} (journal : last.journal = first.journal ++ more)
    (opened : ∀ account owner, .opened account owner ∈ more →
      first.lastOpening.map (·.address) = some account.mixer) : Settled start last := by
  obtain ⟨earlier, grown, openedBefore⟩ := settled.opened
  refine ⟨lastOpening.trans settled.lastOpening, earlier ++ more, ?_, ?_⟩
  · rw [journal, grown, List.append_assoc]
  · intro account owner member
    cases List.mem_append.mp member with
    | inl before => exact openedBefore account owner before
    | inr now => exact settled.lastOpening ▸ opened account owner now

theorem away (settled : Settled start first) (away : Away first last) : Settled start last := by
  obtain ⟨more, grows, apart⟩ := away.grows
  refine settled.grows away.lastOpening grows.journal fun account owner member => ?_
  cases apart _ member

end Settled

variable [Surroundings W]

theorem tended_aimed (discipline : Discipline) (config : Config) :
    Tended discipline (Aimed config (W := W)) := by
  intro first last tends aimed
  have followed := tended_followed _ tends aimed.toFollowed
  cases tends with
  | away away => exact aimed.away away
  | dial down => exact aimed.connect
  | replace unspent refused => exact (aimed.away (.spendReconnect first)).connect
  | listen => exact { aimed with }
  | supply params free => exact { aimed with }
  | promise up => exact { aimed with farewell := followed.farewell }
  | close done =>
      refine aimed.unattempted followed rfl first.disconnect_journal ?_
      simp [Entry.attempt?]
  | _ => exact aimed.unattempted followed rfl rfl (List.forall_mem_singleton.mpr rfl)

theorem Settled.connect {start first : Session W} (settled : Settled start first) :
    Settled start first.connect.1 := by
  rcases first.connect_cases with away | ⟨_, _, dials⟩
  · exact settled.away away
  · obtain ⟨wall, time, -, grows⟩ := dials.grows
    exact settled.grows dials.lastOpening grows.journal (by simp)

theorem tended_settled (start : Session W) : Tended { settled := true } (Settled start) := by
  intro first last tends settled
  cases tends with
  | away away => exact settled.away away
  | listen => exact { settled with }
  | supply params free => cases free
  | rehost host => exact settled.grows rfl rfl (by simp)
  | adopt owner resume down known =>
      refine settled.grows rfl rfl fun account _ member => ?_
      cases List.mem_singleton.mp member
      exact known
  | dial down => exact settled.connect
  | replace unspent refused => exact (settled.away (.spendReconnect first)).connect
  | rise made => exact settled.grows rfl rfl (by simp)
  | fall done => exact settled.grows rfl rfl (by simp)
  | promise up => exact { settled with }
  | depart next => exact settled.grows rfl rfl (by simp)
  | close done => exact settled.grows rfl first.disconnect_journal (by simp)

/-- Once a bundle has moved the broker, and as long as it moves no further and no caller
supplies an address, every attempt goes to where it was moved until an account is opened
again, and from then on to the address that was supplied last. -/
theorem attempts_follow_broker (config : Config) (outside : W) {earlier later : List (Move W)}
    {first last : Session W} (begins : first = earlier.foldl move (new config outside))
    (ends : last = later.foldl move first)
    (unsupplied : ∀ next ∈ later, next.begins = false)
    {before rest : List Entry} {host : String}
    (moved : first.journal = before ++ .told (.event (.mixerChanged host)) :: rest)
    (current : ∀ entry ∈ rest, entry.isOpening = false)
    {early late : List Entry} {generation : Nat} {options : ConnectOptions}
    (attempted : last.journal = before ++ .told (.event (.mixerChanged host)) ::
      (early ++ .attempted generation options :: late))
    (unmoved : ∀ entry ∈ early, entry.rehosts = false) :
    (early.any Entry.isOpening = false → Endpoint.parse host config = .ok options.endpoint) ∧
    (early.any Entry.isOpening = true → ∃ opening, first.lastOpening = some opening ∧
      Endpoint.parse opening.address config = .ok options.endpoint) := by
  have aimed : Aimed config last := by
    have tended : Tended {} (Aimed config (W := W)) := tended_aimed {} config
    have start : Aimed config first := begins ▸ tended.moves (aimed_new config outside) nofun
    exact ends ▸ tended.moves start nofun
  obtain ⟨account, held, resolves⟩ := aimed.aims options.endpoint
    (before ++ .told (.event (.mixerChanged host)) :: early) (.attempted generation options) late
    (by rw [attempted]; simp) (by simp [Entry.aimsAt, Entry.attempt?])
  have settled : Settled first last := by
    rw [ends]
    exact (tended_settled first).moves (.refl first) fun _ => unsupplied
  obtain ⟨more, grown, opened⟩ := settled.opened
  have onwards : early ++ .attempted generation options :: late = rest ++ more := by
    rw [moved, attempted] at grown
    simpa using grown
  rw [holder, List.foldl_append, List.foldl_cons] at held
  rcases held_of_all_unmoved unmoved held with ⟨unopened, kept⟩ | ⟨owner, member⟩
  · obtain ⟨previous, -, rfl⟩ := Option.map_eq_some_iff.mp kept
    exact ⟨fun _ => resolves, fun opens => absurd (unopened.symm.trans opens) (by decide)⟩
  · have opens : early.any Entry.isOpening = true := List.any_eq_true.mpr ⟨_, member, rfl⟩
    refine ⟨fun unopened => absurd (unopened.symm.trans opens) (by decide), fun _ => ?_⟩
    have added : .opened account owner ∈ more := by
      have there : .opened account owner ∈ rest ++ more :=
        onwards ▸ List.mem_append_left _ member
      refine (List.mem_append.mp there).resolve_left fun old => ?_
      cases current _ old
    obtain ⟨opening, supplied, address⟩ := Option.map_eq_some_iff.mp (opened account owner added)
    exact ⟨opening, supplied, address ▸ resolves⟩

/-! The connection is lost after the broker was moved, and then the caller reconnects. -/

def movesElsewhere : Bundle where
  lspHost := some "elsewhere"

def movedMoves : List (Move Bench) :=
  [.perform (.start "broker" twelveWords {}), .receive 1 .connected, .step, .step, .step, .step,
    .perform (.dispatch movesElsewhere {}), .step]

def movedRun : Session Bench :=
  movedMoves.foldl move (new .test (.new 7))

def returnMoves : List (Move Bench) :=
  [.receive 1 (.connectionLost "reset"), .perform .reconnect]

def returnRun : Session Bench :=
  returnMoves.foldl move movedRun

theorem split_at_moved {journal : List Entry} {place : Nat} {host : String}
    (moved : journal[place]?.any (·.movesTo host) = true) :
    journal = journal.take place ++
      .told (.event (.mixerChanged host)) :: journal.drop (place + 1) := by
  obtain ⟨entry, moves, split⟩ := split_at moved
  cases entry with
  | told callback =>
      cases callback with
      | event event =>
          cases event with
          | mixerChanged other =>
              obtain rfl : other = host := of_decide_eq_true moves
              exact split
          | _ => cases moves
      | _ => cases moves
  | _ => cases moves

theorem unmoved_of_all {entries : List Entry} (none : entries.all (!·.rehosts) = true) :
    ∀ entry ∈ entries, entry.rehosts = false := by
  simpa using none

omit [Surroundings W] in
/-- An attempt in what was noted since the broker was moved. -/
theorem split_at_attempt {first last : Session W} (settled : Settled first last)
    {place later generation : Nat} {host : String}
    (moved : first.journal[place]?.any (·.movesTo host) = true)
    (ended : (first.journal.drop (place + 1)).isEmpty = true)
    (made : (last.since first)[later]?.any (·.isAttempt generation) = true) :
    first.journal = first.journal.take place ++ [.told (.event (.mixerChanged host))] ∧
      ∃ options, last.journal = first.journal.take place ++
        .told (.event (.mixerChanged host)) :: ((last.since first).take later ++
          .attempted generation options :: (last.since first).drop (later + 1)) := by
  have before := split_at_moved moved
  rw [List.isEmpty_iff.mp ended] at before
  obtain ⟨more, grown, -⟩ := settled.opened
  have since : last.since first = more := by rw [Session.since, grown, List.drop_left]
  obtain ⟨entry, attempts, split⟩ := split_at made
  cases entry with
  | attempted other options =>
      obtain rfl : other = generation := beq_iff_eq.mp attempts
      refine ⟨before, options, ?_⟩
      rw [← split, since, grown]
      nth_rewrite 1 [before]
      simp
  | _ => cases attempts

theorem attempts_returnRun :
    ∃ options, .attempted 2 options ∈ returnRun.journal ∧
      Endpoint.parse "elsewhere" .test = .ok options.endpoint := by
  obtain ⟨moved, ended, made, unmoved, unopened⟩ :
      movedRun.journal[16]?.any (·.movesTo "elsewhere") = true ∧
      (movedRun.journal.drop 17).isEmpty = true ∧
      (returnRun.since movedRun)[5]?.any (·.isAttempt 2) = true ∧
      ((returnRun.since movedRun).take 5).all (!·.rehosts) = true ∧
      ((returnRun.since movedRun).take 5).any Entry.isOpening = false := by decide +kernel
  have unsupplied : ∀ next ∈ returnMoves, next.begins = false := by decide
  have settled : Settled movedRun returnRun :=
    (tended_settled movedRun).moves (.refl movedRun) fun _ => unsupplied
  obtain ⟨before, options, attempted⟩ := split_at_attempt settled moved ended made
  have kept := unmoved_of_all unmoved
  obtain ⟨follows, -⟩ := @attempts_follow_broker Bench _ .test (.new 7) movedMoves returnMoves
    movedRun returnRun rfl rfl unsupplied _ _ _ before (List.forall_mem_nil _) _ _ _ _
    attempted kept
  have there : .attempted 2 options ∈ returnRun.journal :=
    attempted ▸ List.mem_append_right _ (List.mem_cons_of_mem _ List.mem_append_cons_self)
  exact ⟨options, there, follows unopened⟩

/-- Nobody supplied another address and the broker was moved no further, and yet the caller's
reconnect goes to where the broker was before. -/
theorem reconnect_returns :
    Reaches (new .test (.new 7)) returnRun ∧
      movedRun.journal[16]?.any (·.movesTo "elsewhere") = true ∧
      (∀ next ∈ returnMoves, next.begins = false) ∧
      (∀ entry ∈ returnRun.since movedRun, entry.rehosts = false) ∧
      ∃ options, .attempted 4 options ∈ returnRun.since movedRun ∧
        Endpoint.parse "elsewhere" .test ≠ .ok options.endpoint := by
  obtain ⟨earlier, later, moved, unmoved, made, resolves⟩ :
      (new .test (.new 7)).permitsAll movedMoves = true ∧
      movedRun.permitsAll returnMoves = true ∧
      movedRun.journal[16]?.any (·.movesTo "elsewhere") = true ∧
      (returnRun.since movedRun).all (!·.rehosts) = true ∧
      (returnRun.since movedRun)[12]?.any (fun entry => entry.isAttempt 4 &&
        entry.attempt?.any (·.endpoint.host = "broker")) = true ∧
      (Endpoint.parse "elsewhere" .test).toOption.map (·.host) = some "elsewhere" := by
    decide +kernel
  have reached : Reaches (new .test (.new 7)) movedRun := Reaches.here.moves earlier
  refine ⟨reached.moves later, moved, by decide, unmoved_of_all unmoved, ?_⟩
  obtain ⟨entry, noted, attempts⟩ := (Option.any_eq_true _ _).mp made
  cases entry with
  | attempted generation options =>
      obtain ⟨number, host⟩ := (Bool.and_eq_true _ _).mp attempts
      obtain rfl : generation = 4 := beq_iff_eq.mp number
      refine ⟨options, List.mem_of_getElem? noted, fun same => ?_⟩
      rw [same] at resolves
      have elsewhere : options.endpoint.host = "elsewhere" := Option.some.inj resolves
      have broker : options.endpoint.host = "broker" := of_decide_eq_true host
      exact absurd (broker.symm.trans elsewhere) (by decide)
  | _ => cases attempts

end Session

end Messenger

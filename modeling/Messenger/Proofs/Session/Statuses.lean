import Messenger.Proofs.Session.Tending
import Messenger.Session.Journal

/-!
Whether a session is connected, and what its listeners were told of that. The two agree but
in one case: a request is refused while the connection is up, and the session attempts another
one. It says that it is connecting, and goes on counting as connected.
-/

namespace Messenger

def Entry.status? (entry : Entry) : Option ConnectionStatus :=
  entry.callback?.bind Callback.status?

/-- The statuses of the connection that were told. -/
def statuses (journal : List Entry) : List ConnectionStatus :=
  journal.filterMap Entry.status?

theorem statuses_append (early late : List Entry) :
    statuses (early ++ late) = statuses early ++ statuses late :=
  List.filterMap_append

theorem heard_append (early late : List Entry) :
    heard (early ++ late) = heard early ++ heard late :=
  List.filterMap_append

theorem statuses_heard (journal : List Entry) :
    (heard journal).filterMap Callback.status? = statuses journal :=
  List.filterMap_filterMap

/-- What may be told of the connection without a change of its status. -/
theorem statuses_of_away {entries : List Entry}
    (away : ∀ entry ∈ entries, entry.ofConnection = false) : statuses entries = [] := by
  refine List.filterMap_eq_nil_iff.mpr fun entry member => ?_
  have apart := away entry member
  cases entry with
  | told callback =>
      cases callback with
      | event event =>
          cases event with
          | connection status => cases apart
          | _ => rfl
      | _ => rfl
  | _ => rfl

/-- Another attempt was begun after a refused request, although the connection was up. -/
def Overtaken (journal : List Entry) : Prop :=
  ∃ early refused late, journal = early ++ refused :: late ∧ refused.refuses = true ∧
    (statuses early).getLast? = some .connected ∧ statuses late = [.connecting]

namespace Overtaken

variable {journal more : List Entry}

theorem append (overtaken : Overtaken journal) (untold : statuses more = []) :
    Overtaken (journal ++ more) := by
  obtain ⟨early, refused, late, rfl, refuses, up, begun⟩ := overtaken
  refine ⟨early, refused, late ++ more, by simp, refuses, up, ?_⟩
  rw [statuses_append, begun, untold, List.append_nil]

/-- The attempt is told right after that the connection is up. -/
theorem told (overtaken : Overtaken journal) :
    ∃ before, before.getLast? = some .connected ∧
      statuses journal = before ++ [.connecting] := by
  obtain ⟨early, refused, late, rfl, refuses, up, begun⟩ := overtaken
  refine ⟨statuses early, up, ?_⟩
  have untold : refused.status? = none := by
    cases refused with
    | told callback => cases refuses
    | _ => rfl
  rw [statuses_append, statuses, statuses, List.filterMap_cons_none untold]
  exact congrArg _ begun

end Overtaken

namespace Session

variable {W : Type}

/-- The last status apart from attempts. -/
def standing (session : Session W) : Option ConnectionStatus :=
  ((statuses session.journal).filter (· ≠ .connecting)).getLast?

/-- What the session counts as fits what it told. -/
structure Agrees (session : Session W) : Prop extends Followed session where
  promised : session.farewell ≠ [] → session.connected = true
  stands : session.connected = true ↔ session.standing = some .connected
  last : session.connected = true →
    (statuses session.journal).getLast? = some .connected ∨
      session.reconnectSpent = true ∧ Overtaken session.journal
  listeners : ∀ told ∈ session.listeners, told <:+ heard session.journal

theorem agrees_new (config : Config) (outside : W) : (new config outside).Agrees where
  toFollowed := followed_new config outside
  promised := absurd rfl
  stands := ⟨nofun, nofun⟩
  last := nofun
  listeners := nofun

namespace Agrees

variable {first last : Session W}

theorem hears (agrees : first.Agrees) {more : List Entry} (grows : Grows more first last) :
    ∀ told ∈ last.listeners, told <:+ heard last.journal := by
  intro told member
  rw [grows.listeners] at member
  obtain ⟨before, listens, rfl⟩ := List.mem_map.mp member
  obtain ⟨missed, rest⟩ := agrees.listeners before listens
  refine ⟨missed, ?_⟩
  rw [grows.journal, heard_append, ← rest, List.append_assoc]

/-- Nothing is told of the connection. -/
theorem untold (agrees : first.Agrees) (followed : last.Followed) {more : List Entry}
    (grows : Grows more first last) (plain : statuses more = [])
    (connected : last.connected = first.connected) (farewell : last.farewell = first.farewell)
    (spent : first.reconnectSpent = true → last.reconnectSpent = true) : last.Agrees := by
  have same : statuses last.journal = statuses first.journal := by
    rw [grows.journal, statuses_append, plain, List.append_nil]
  constructor
  case toFollowed => exact followed
  case promised => exact connected ▸ farewell ▸ agrees.promised
  case stands => rw [standing, same, connected]; exact agrees.stands
  case last =>
    rw [same, connected]
    intro up
    cases agrees.last up with
    | inl told => exact Or.inl told
    | inr overtaken =>
        exact Or.inr ⟨spent overtaken.1, grows.journal ▸ overtaken.2.append plain⟩
  case listeners => exact agrees.hears grows

theorem away (agrees : first.Agrees) (away : Away first last) : last.Agrees := by
  obtain ⟨more, grows, apart⟩ := away.grows
  exact agrees.untold (agrees.toFollowed.away away) grows (statuses_of_away apart)
    away.connected away.farewell away.spent

/-- That the connection is up, or down, is told when it is. -/
theorem shown (agrees : first.Agrees) (followed : last.Followed) {more : List Entry}
    (grows : Grows more first last) {up : Bool} (connected : last.connected = up)
    (told : statuses more = [if up then .connected else .disconnected])
    (promised : last.farewell ≠ [] → up = true) : last.Agrees := by
  have ends : statuses last.journal =
      statuses first.journal ++ [if up then .connected else .disconnected] := by
    rw [grows.journal, statuses_append, told]
  constructor
  case toFollowed => exact followed
  case promised => exact connected.symm ▸ promised
  case stands =>
    rw [standing, ends, connected]
    cases up <;> simp
  case last =>
    intro counts
    have same : up = true := connected.symm.trans counts
    exact Or.inl (by simp [ends, same])
  case listeners => exact agrees.hears grows

theorem adopt (agrees : first.Agrees) (account : Account) (owner : Owner) (resume : Bool)
    (down : first.connected = false) (followed : (first.adopt account owner resume).Followed) :
    (first.adopt account owner resume).Agrees := by
  have told : statuses (first.adopt account owner resume).journal = statuses first.journal :=
    (statuses_append _ _).trans (List.append_nil _)
  constructor
  case toFollowed => exact followed
  case promised => exact fun left => absurd (down.symm.trans (agrees.promised left)) (by decide)
  case stands =>
    rw [standing, told]
    have same : (first.adopt account owner resume).connected = first.connected := down.symm
    rw [same]
    exact agrees.stands
  case last => exact nofun
  case listeners => exact agrees.hears (.noting rfl rfl rfl)

variable [Surroundings W]

/-- An attempt is told. If the connection counts as up, it is overtaken. -/
theorem dials (agrees : first.Agrees) {live : Account} {options : ConnectOptions}
    (dials : Dials live options first last)
    (refused : first.connected = true → first.reconnectSpent = true ∧
      (statuses first.journal).getLast? = some .connected ∧ first.Refused) : last.Agrees := by
  obtain ⟨wall, time, -, grows⟩ := dials.grows
  have told : statuses last.journal = statuses first.journal ++ [.connecting] := by
    rw [grows.journal, statuses_append]
    rfl
  constructor
  case toFollowed => exact agrees.toFollowed.dials dials
  case promised => exact dials.connected ▸ dials.farewell ▸ agrees.promised
  case stands =>
    rw [standing, told, dials.connected, List.filter_append]
    exact (List.append_nil _).symm ▸ agrees.stands
  case last =>
    intro up
    obtain ⟨spent, before, early, entry, error, refuses, reported⟩ :=
      refused (dials.connected ▸ up)
    have untold : statuses [entry, .told (.event (.error error))] = [] := by
      cases entry with
      | told callback => cases refuses
      | _ => rfl
    rw [reported, statuses_append, untold, List.append_nil] at before
    refine Or.inr ⟨dials.spent.trans spent, early, entry, [.told (.event (.error error)),
      .stamped wall time, .keysAsked live.seed time, .told (.event (.connection .connecting)),
      .attempted (first.generation + 1) options], ?_, refuses, before, rfl⟩
    rw [grows.journal, reported, List.append_assoc]
    rfl
  case listeners => exact agrees.hears grows

theorem connect (agrees : first.Agrees)
    (refused : first.connected = true → first.reconnectSpent = true ∧
      (statuses first.journal).getLast? = some .connected ∧ first.Refused) :
    first.connect.1.Agrees := by
  rcases first.connect_cases with away | ⟨_, _, dials⟩
  · exact agrees.away away
  · exact agrees.dials dials refused

/-- The automatic reconnect of a connection that may still be up. -/
theorem replace (agrees : first.Agrees) (unspent : first.reconnectSpent = false)
    (refused : first.Refused) :
    { first with reconnectSpent := true, bootstrapped := false }.connect.1.Agrees := by
  refine (agrees.away (.spendReconnect first)).connect fun up => ⟨rfl, ?_, refused⟩
  refine (agrees.last up).resolve_right fun overtaken => ?_
  exact absurd (unspent.symm.trans overtaken.1) (by decide)

end Agrees

variable [Surroundings W]

theorem tended_agrees : Tended { ordered := true } (Agrees (W := W)) := by
  intro first last tends agrees
  have followed := tended_followed _ tends agrees.toFollowed
  have delivered (done : first.connected = true → first.farewell = [])
      (left : first.farewell ≠ []) : false = true :=
    absurd (done (agrees.promised left)) left
  cases tends with
  | away away => exact agrees.away away
  | listen =>
      refine { agrees with listeners := fun told member => ?_ }
      cases List.mem_append.mp member with
      | inl before => exact agrees.listeners told before
      | inr now => exact List.mem_singleton.mp now ▸ List.nil_suffix
  | supply params free => exact { agrees with }
  | rehost host => exact agrees.untold followed ⟨rfl, rfl⟩ rfl rfl rfl id
  | adopt owner resume down known => exact agrees.adopt _ owner resume down followed
  | dial down => exact agrees.connect fun up => absurd (down.symm.trans up) (by decide)
  | replace unspent refused => exact agrees.replace unspent refused
  | rise made => exact agrees.shown followed ⟨rfl, rfl⟩ rfl rfl fun _ => rfl
  | fall done => exact agrees.shown followed ⟨rfl, rfl⟩ rfl rfl (delivered (done rfl))
  | promise up =>
      exact { agrees with farewell := followed.farewell, promised := fun _ => up }
  | @depart event farewell next =>
      have leaves : first.farewell ≠ [] := by simp [next]
      obtain rfl : event = .connection .connected :=
        agrees.farewell event (next ▸ List.mem_cons_self)
      exact agrees.shown followed ⟨rfl, rfl⟩ (agrees.promised leaves) rfl fun _ => rfl
  | close done =>
      exact agrees.shown followed ⟨first.disconnect_journal, rfl⟩ rfl rfl (delivered (done rfl))

/-- A session counts as connected if and only if the last status told is that it is, or an
attempt has overtaken the connection, in which case the last status is of that attempt. That
holds of all that was told, and of what any one listener was told. -/
theorem connected_iff_told {config : Config} {outside : W} {session : Session W}
    (reached : Reaches (new config outside) session) {told : List Callback}
    (hears : told = heard session.journal ∨ told ∈ session.listeners)
    (shown : told.filterMap Callback.status? ≠ []) :
    (session.connected = true ↔
      (told.filterMap Callback.status?).getLast? = some .connected ∨
        Overtaken session.journal) ∧
    (Overtaken session.journal →
      (told.filterMap Callback.status?).getLast? = some .connecting) := by
  have agrees := tended_agrees.reaches reached (agrees_new config outside)
  have last : (told.filterMap Callback.status?).getLast? =
      (statuses session.journal).getLast? := by
    rw [← statuses_heard]
    cases hears with
    | inl all => rw [all]
    | inr listens =>
        obtain ⟨missed, same⟩ := agrees.listeners told listens
        rw [← same, List.filterMap_append, List.getLast?_append_of_ne_nil _ shown]
  rw [last]
  refine ⟨⟨fun up => (agrees.last up).imp_right And.right, fun holds => ?_⟩, fun overtaken => ?_⟩
  · rw [agrees.stands, standing]
    cases holds with
    | inl told =>
        obtain ⟨before, same⟩ := List.getLast?_eq_some_iff.mp told
        simp [same]
    | inr overtaken =>
        obtain ⟨before, up, same⟩ := overtaken.told
        obtain ⟨earlier, rfl⟩ := List.getLast?_eq_some_iff.mp up
        simp [same]
  · obtain ⟨before, -, same⟩ := overtaken.told
    simp [same]

/-! A connection that comes back, and one that is overtaken. -/

def risenMoves : List (Move Bench) :=
  [.perform .addListener, .perform (.start "broker" twelveWords {}), .receive 1 .connected,
    .step, .step, .step, .step, .receive 1 (.connectionLost "reset"), .receive 2 .connected]

def risenRun : Session Bench :=
  risenMoves.foldl move (new .test (.new 7))

theorem connected_risenRun :
    Reaches (new .test (.new 7)) risenRun ∧
      (∃ told ∈ risenRun.listeners, told.filterMap Callback.status? =
        [.connecting, .connected, .disconnected, .connecting, .connected]) ∧
      risenRun.connected = true := by
  obtain ⟨permitted, told⟩ : (new .test (.new 7)).permitsAll risenMoves = true ∧
      ∃ told ∈ risenRun.listeners, told.filterMap Callback.status? =
        [.connecting, .connected, .disconnected, .connecting, .connected] := by decide +kernel
  have reached : Reaches (new .test (.new 7)) risenRun := Reaches.here.moves permitted
  obtain ⟨heard, listens, same⟩ := told
  obtain ⟨up, -⟩ := connected_iff_told reached (Or.inr listens) (by rw [same]; nofun)
  exact ⟨reached, ⟨heard, listens, same⟩, up.mpr (Or.inl (by rw [same]; rfl))⟩

/-- The first publish is refused. -/
def refusing : Bench :=
  { Bench.new 7 with channel := ({} : Channel).failPublish "refused" }

def overtakenMoves : List (Move Bench) :=
  [.perform .addListener, .perform (.start "broker" twelveWords {}), .receive 1 .connected,
    .step, .step, .step, .step, .perform (.dispatch { publishes := [⟨"a", [1]⟩] } {}), .step]

def overtakenRun : Session Bench :=
  overtakenMoves.foldl move (new .test refusing)

/-- The last status told is that the session is connecting, and it counts as connected. -/
theorem connected_while_connecting :
    Reaches (new .test refusing) overtakenRun ∧ overtakenRun.isIdle = true ∧
      (∃ told ∈ overtakenRun.listeners, told.filterMap Callback.status? =
        [.connecting, .connected, .connecting]) ∧
      overtakenRun.connected = true := by
  obtain ⟨permitted, shown⟩ : (new .test refusing).permitsAll overtakenMoves = true ∧
      overtakenRun.isIdle = true ∧
      (∃ told ∈ overtakenRun.listeners, told.filterMap Callback.status? =
        [.connecting, .connected, .connecting]) ∧
      overtakenRun.connected = true := by decide +kernel
  exact ⟨Reaches.here.moves permitted, shown⟩

end Session

end Messenger

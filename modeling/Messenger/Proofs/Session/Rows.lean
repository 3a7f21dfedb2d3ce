import Messenger.Session.Operation

/-!
Applying a bundle goes through the rows of one table: each row looks at a part of the
bundle and has its effect before the next row is looked at. Seven rows read a text or
bytes that may turn out malformed; such a row reports the fault and does nothing else.
-/

namespace Messenger

/-- What a bundle may ask for, in the order in which it takes effect. -/
inductive Row where
  | stateDelta
  | deletions
  | ping
  | balance
  | messages
  | confirmations
  | newTribe
  | tribeMembers
  | myContactInfo
  | inviterContactInfo
  | newInvite
  | msgsCounts
  | msgsTotal
  | lastRead
  | initialTribe
  | error
  | sentStatus
  | settledStatus
  | asyncPayTag
  | lspHost
  | muteLevels
  | payments
  | paymentsTotal
  | tags
  | subscriptions
  | publishes
  deriving DecidableEq, Repr

namespace Row

def upToMessages : List Row :=
  [.stateDelta, .deletions, .ping, .balance, .messages]

def fromNews : List Row :=
  [.newTribe, .tribeMembers, .myContactInfo, .inviterContactInfo, .newInvite, .msgsCounts,
    .msgsTotal, .lastRead, .initialTribe, .error, .sentStatus, .settledStatus, .asyncPayTag,
    .lspHost, .muteLevels, .payments, .paymentsTotal, .tags, .subscriptions, .publishes]

def all : List Row :=
  upToMessages ++ .confirmations :: fromNews

/-- The field that the row has to read. -/
def field? : Row → Option Field
  | .stateDelta => some .stateDelta
  | .ping => some .ping
  | .myContactInfo => some .myContactInfo
  | .inviterContactInfo => some .inviterContactInfo
  | .msgsCounts => some .msgsCounts
  | .sentStatus => some .sentStatus
  | .settledStatus => some .settledStatus
  | _ => none

end Row

namespace ReadFault

variable {α β : Type}

/-- Why something cannot be read, if it is there and cannot. -/
def of? (parse : α → Except ReadFault β) (given : Option α) : Option ReadFault :=
  given.bind fun raw =>
    match parse raw with
    | .ok _ => none
    | .error fault => some fault

theorem of?_eq_some {parse : α → Except ReadFault β} {given : Option α} {fault : ReadFault} :
    of? parse given = some fault ↔ ∃ raw, given = some raw ∧ parse raw = .error fault := by
  cases given with
  | none => simp [of?]
  | some raw => cases read : parse raw <;> simp [of?, read]

end ReadFault

namespace UserState

theorem field_of_deltaEntries {pairs : List (Cbor × Cbor)} {fault : ReadFault}
    (failed : deltaEntries pairs = .error fault) : fault.field = .stateDelta := by
  fun_induction deltaEntries pairs with
  | case1 => cases failed
  | case2 key value rest induction =>
      cases read : deltaEntries rest with
      | ok entries =>
          rw [read] at failed
          cases failed
      | error other =>
          rw [read] at failed
          cases failed
          exact induction read
  | case3 =>
      cases failed
      rfl

theorem field_of_decodeDelta {delta : Bytes} {fault : ReadFault}
    (failed : decodeDelta delta = .error fault) : fault.field = .stateDelta := by
  unfold decodeDelta at failed
  split at failed
  · cases failed
    rfl
  · rename_i pairs _
    cases read : deltaEntries pairs with
    | ok entries =>
        rw [read] at failed
        cases failed
    | error other =>
        rw [read] at failed
        cases failed
        exact field_of_deltaEntries read
  · cases failed
    rfl

end UserState

theorem Ping.field_of_parse {raw : String} {fault : ReadFault}
    (failed : Ping.parse raw = .error fault) : fault.field = .ping := by
  unfold Ping.parse at failed
  split at failed
  · cases failed
    rfl
  · split at failed
    · cases failed
      rfl
    · split at failed
      · cases failed
      · cases failed
        rfl

namespace Contact

theorem field_of_build {field : Field} {key : List Char} {hint : Option (List Char)}
    {fault : ReadFault} (failed : build field key hint = .error fault) :
    fault.field = field := by
  unfold build at failed
  split at failed
  · cases failed
    rfl
  · cases failed

theorem field_of_parseOwn {raw : String} {fault : ReadFault}
    (failed : parseOwn raw = .error fault) : fault.field = .myContactInfo := by
  unfold parseOwn at failed
  split at failed
  · exact field_of_build failed
  · exact field_of_build failed

theorem field_of_parseInviter {raw : String} {fault : ReadFault}
    (failed : parseInviter raw = .error fault) : fault.field = .inviterContactInfo := by
  unfold parseInviter at failed
  split at failed
  · exact field_of_build failed
  · exact field_of_build failed
  · exact field_of_build failed

end Contact

theorem Counts.field_of_parse {raw : String} {fault : ReadFault}
    (failed : Counts.parse raw = .error fault) : fault.field = .msgsCounts := by
  unfold Counts.parse at failed
  split at failed
  · cases failed
  · cases failed
    rfl

theorem SentStatus.field_of_parse {raw : String} {fault : ReadFault}
    (failed : SentStatus.parse raw = .error fault) : fault.field = .sentStatus := by
  unfold SentStatus.parse at failed
  split at failed
  · cases failed
  · cases failed
    rfl

theorem SettledStatus.field_of_parse {raw : String} {fault : ReadFault}
    (failed : SettledStatus.parse raw = .error fault) : fault.field = .settledStatus := by
  unfold SettledStatus.parse at failed
  split at failed
  · cases failed
  · cases failed
    rfl

namespace Bundle

def fault? (bundle : Bundle) : Field → Option ReadFault
  | .stateDelta => ReadFault.of? UserState.decodeDelta bundle.stateDelta
  | .ping => ReadFault.of? Ping.parse bundle.ping
  | .myContactInfo => ReadFault.of? Contact.parseOwn bundle.myContactInfo
  | .inviterContactInfo => ReadFault.of? Contact.parseInviter bundle.inviterContactInfo
  | .msgsCounts => ReadFault.of? Counts.parse bundle.msgsCounts
  | .sentStatus => ReadFault.of? SentStatus.parse bundle.sentStatus
  | .settledStatus => ReadFault.of? SettledStatus.parse bundle.settledStatus
  | .userState => none

/-- Every fault names the field that it was found in. -/
theorem field_of_fault? {bundle : Bundle} {field : Field} {fault : ReadFault}
    (malformed : bundle.fault? field = some fault) : fault.field = field := by
  cases field with
  | stateDelta =>
      obtain ⟨delta, -, failed⟩ := ReadFault.of?_eq_some.mp malformed
      exact UserState.field_of_decodeDelta failed
  | ping =>
      obtain ⟨raw, -, failed⟩ := ReadFault.of?_eq_some.mp malformed
      exact Ping.field_of_parse failed
  | myContactInfo =>
      obtain ⟨raw, -, failed⟩ := ReadFault.of?_eq_some.mp malformed
      exact Contact.field_of_parseOwn failed
  | inviterContactInfo =>
      obtain ⟨raw, -, failed⟩ := ReadFault.of?_eq_some.mp malformed
      exact Contact.field_of_parseInviter failed
  | msgsCounts =>
      obtain ⟨raw, -, failed⟩ := ReadFault.of?_eq_some.mp malformed
      exact Counts.field_of_parse failed
  | sentStatus =>
      obtain ⟨raw, -, failed⟩ := ReadFault.of?_eq_some.mp malformed
      exact SentStatus.field_of_parse failed
  | settledStatus =>
      obtain ⟨raw, -, failed⟩ := ReadFault.of?_eq_some.mp malformed
      exact SettledStatus.field_of_parse failed
  | userState => cases malformed

def Malformed (bundle : Bundle) (field : Field) : Prop :=
  (bundle.fault? field).isSome = true

instance (bundle : Bundle) (field : Field) : Decidable (bundle.Malformed field) :=
  inferInstanceAs (Decidable (_ = true))

/-- The bundle with some of its fields taken out. -/
def without (bundle : Bundle) (fields : List Field) : Bundle :=
  { bundle with
    stateDelta := if .stateDelta ∈ fields then none else bundle.stateDelta
    ping := if .ping ∈ fields then none else bundle.ping
    myContactInfo := if .myContactInfo ∈ fields then none else bundle.myContactInfo
    inviterContactInfo :=
      if .inviterContactInfo ∈ fields then none else bundle.inviterContactInfo
    msgsCounts := if .msgsCounts ∈ fields then none else bundle.msgsCounts
    sentStatus := if .sentStatus ∈ fields then none else bundle.sentStatus
    settledStatus := if .settledStatus ∈ fields then none else bundle.settledStatus }

/-- The timestamp of the round trip that the bundle's own ping begins. -/
def announced? (bundle : Bundle) : Option UInt64 :=
  bundle.ping.bind fun raw =>
    match Ping.parse raw with
    | .ok ping => some ping.timestamp
    | .error _ => none

/-- The round trip that the bundle began, which its messages do not confirm. -/
def roundTrip? (bundle : Bundle) (context : DispatchContext) : Option UInt64 :=
  bundle.announced? <|> context.startedPing

theorem announced?_without {bundle : Bundle} {fields : List Field}
    (malformed : ∀ field ∈ fields, bundle.Malformed field) :
    (bundle.without fields).announced? = bundle.announced? := by
  unfold announced? without
  by_cases dropped : Field.ping ∈ fields
  · obtain ⟨fault, unread⟩ := Option.isSome_iff_exists.mp (malformed .ping dropped)
    obtain ⟨raw, there, failed⟩ := ReadFault.of?_eq_some.mp unread
    rw [if_pos dropped, there, Option.bind_some, failed]
    rfl
  · rw [if_neg dropped]

end Bundle

namespace Session

theorem roundTripTime_eq (bundle : Bundle) (time : UInt64) :
    roundTripTime bundle time = bundle.announced?.getD time := by
  unfold roundTripTime Bundle.announced?
  cases bundle.ping with
  | none => rfl
  | some raw =>
      rw [Option.map_some, Option.bind_some]
      cases Ping.parse raw <;> rfl

variable {W : Type} [Surroundings W] {bundle : Bundle} {context : DispatchContext}
  {fields : List Field}

def applyRow (bundle : Bundle) (context : DispatchContext) (session : Session W) :
    Row → Session W
  | .stateDelta => session.given bundle.stateDelta applyDelta
  | .deletions => session.applyDeletions bundle.deletions
  | .ping => (session.recordPing bundle).1
  | .balance => session.given bundle.balanceMsat fun session millis =>
      session.notify (.balance (millis / 1000))
  | .messages => session.deliverBatch bundle.messages (context.originatingTopic.getD "")
  | .confirmations =>
    bundle.messages.foldl (completePing (bundle.roundTrip? context)) session
  | .newTribe => session.given bundle.newTribe fun session tribe =>
      session.notify (.newTribe tribe)
  | .tribeMembers => session.given bundle.tribeMembers fun session members =>
      session.notify (.tribeMembers members)
  | .myContactInfo => session.given bundle.myContactInfo onMyContactInfo
  | .inviterContactInfo => session.given bundle.inviterContactInfo onInviterContactInfo
  | .newInvite => session.given bundle.newInvite onNewInvite
  | .msgsCounts => session.given bundle.msgsCounts onMsgsCounts
  | .msgsTotal => session.given bundle.msgsTotal fun session total =>
      session.notify (.msgsTotal total)
  | .lastRead => session.given bundle.lastRead fun session markers =>
      session.notify (.lastRead markers)
  | .initialTribe => session.given bundle.initialTribe onInitialTribe
  | .error => session.given bundle.error onError
  | .sentStatus => session.given bundle.sentStatus onSentStatus
  | .settledStatus => session.given bundle.settledStatus onSettledStatus
  | .asyncPayTag => session.given bundle.asyncPayTag onAsyncPayTag
  | .lspHost => session.given bundle.lspHost onLspHost
  | .muteLevels => session.given bundle.muteLevels fun session levels =>
      session.notify (.muteLevels levels)
  | .payments => session.given bundle.payments fun session page =>
      session.notify (.payments page)
  | .paymentsTotal => session.given bundle.paymentsTotal fun session total =>
      session.notify (.paymentsTotal total)
  | .tags => session.given bundle.tags fun session tags => session.notify (.tags tags)
  | .subscriptions =>
    if bundle.subscriptionTopics.isEmpty then session
    else session.subscribe bundle.subscriptionTopics
  | .publishes => session.publishPhase bundle context

def applyRows (session : Session W) (bundle : Bundle) (context : DispatchContext)
    (rows : List Row) : Session W :=
  rows.foldl (applyRow bundle context) session

@[simp] theorem applyRows_nil (session : Session W) (bundle : Bundle)
    (context : DispatchContext) : session.applyRows bundle context [] = session := rfl

@[simp] theorem applyRows_cons (session : Session W) (bundle : Bundle)
    (context : DispatchContext) (row : Row) (rows : List Row) :
    session.applyRows bundle context (row :: rows) =
      (session.applyRow bundle context row).applyRows bundle context rows := rfl

theorem applyRows_append (session : Session W) (bundle : Bundle)
    (context : DispatchContext) (rows more : List Row) :
    session.applyRows bundle context (rows ++ more) =
      (session.applyRows bundle context rows).applyRows bundle context more :=
  List.foldl_append

omit [Surroundings W] in
theorem recordPing_snd (session : Session W) (bundle : Bundle) :
    (session.recordPing bundle).2 = bundle.announced? := by
  unfold recordPing Bundle.announced?
  cases bundle.ping with
  | none => rfl
  | some raw =>
      rw [Option.map_some, Option.bind_some]
      cases Ping.parse raw <;> rfl

/-- Applying a bundle is going through its rows. -/
theorem apply_eq_applyRows {session : Session W} (live : session.hasSession = true)
    (bundle : Bundle) (context : DispatchContext) :
    session.apply bundle context =
      (session.note (.applied bundle context)).applyRows bundle context Row.all := by
  have began : ∀ session : Session W,
      session.applyMessages bundle context =
        (session.applyRows bundle context Row.upToMessages).applyRow bundle context
          .confirmations := by
    intro session
    unfold applyMessages
    dsimp only
    rw [recordPing_snd]
    rfl
  unfold apply
  rw [if_pos live]
  dsimp only
  rw [began]
  rfl

theorem apply_closed {session : Session W} (closed : session.hasSession = false)
    (bundle : Bundle) (context : DispatchContext) :
    session.apply bundle context = session.report .noSession :=
  if_neg (by simp [closed])

theorem applyRow_of_fault {row : Row} {field : Field} {fault : ReadFault}
    (reads : row.field? = some field) (malformed : bundle.fault? field = some fault)
    (session : Session W) :
    session.applyRow bundle context row = session.report (.ofFault fault) := by
  cases row with
  | stateDelta =>
      cases reads
      obtain ⟨delta, there, failed⟩ := ReadFault.of?_eq_some.mp malformed
      simp [applyRow, there, applyDelta, UserState.applyDelta, failed]
  | ping =>
      cases reads
      obtain ⟨raw, there, failed⟩ := ReadFault.of?_eq_some.mp malformed
      simp [applyRow, there, recordPing, failed]
  | myContactInfo =>
      cases reads
      obtain ⟨raw, there, failed⟩ := ReadFault.of?_eq_some.mp malformed
      simp [applyRow, there, onMyContactInfo, failed]
  | inviterContactInfo =>
      cases reads
      obtain ⟨raw, there, failed⟩ := ReadFault.of?_eq_some.mp malformed
      simp [applyRow, there, onInviterContactInfo, failed]
  | msgsCounts =>
      cases reads
      obtain ⟨raw, there, failed⟩ := ReadFault.of?_eq_some.mp malformed
      simp [applyRow, there, onMsgsCounts, failed]
  | sentStatus =>
      cases reads
      obtain ⟨raw, there, failed⟩ := ReadFault.of?_eq_some.mp malformed
      simp [applyRow, there, onSentStatus, failed]
  | settledStatus =>
      cases reads
      obtain ⟨raw, there, failed⟩ := ReadFault.of?_eq_some.mp malformed
      simp [applyRow, there, onSettledStatus, failed]
  | _ => cases reads

/-- A field that is taken out leaves its row empty. -/
theorem applyRow_without_own {row : Row} {field : Field} (reads : row.field? = some field)
    (dropped : field ∈ fields) (session : Session W) :
    session.applyRow (bundle.without fields) context row = session := by
  cases row <;> cases reads <;>
    simp [applyRow, Bundle.without, dropped, recordPing]

/-- Other rows do not see that malformed fields are taken out. Only the publish phase
does: what it parks is the bundle as it is. -/
theorem applyRow_without_other (malformed : ∀ field ∈ fields, bundle.Malformed field)
    {row : Row} (kept : ∀ field ∈ row.field?, field ∉ fields) (parkless : row ≠ .publishes)
    (session : Session W) :
    session.applyRow (bundle.without fields) context row =
      session.applyRow bundle context row := by
  have whole (field : Field) (reads : row.field? = some field) : field ∉ fields :=
    kept field (Option.mem_def.mpr reads)
  cases row with
  | publishes => exact absurd rfl parkless
  | confirmations =>
      simp only [applyRow, Bundle.roundTrip?, Bundle.announced?_without malformed]
      rfl
  | ping =>
      have there := whole .ping rfl
      simp [applyRow, recordPing, Bundle.without, there, Bundle.messageTags]
  | stateDelta => simp [applyRow, Bundle.without, whole _ rfl]
  | myContactInfo => simp [applyRow, Bundle.without, whole _ rfl]
  | inviterContactInfo => simp [applyRow, Bundle.without, whole _ rfl]
  | msgsCounts => simp [applyRow, Bundle.without, whole _ rfl]
  | sentStatus => simp [applyRow, Bundle.without, whole _ rfl]
  | settledStatus => simp [applyRow, Bundle.without, whole _ rfl]
  | _ => rfl

end Session

end Messenger

import Messenger.Proofs.Session.Feed
import Messenger.Proofs.Session.Reconnecting
import Messenger.Proofs.Session.Statuses

/-!
The messages of bundles. Every bundle that is applied has its messages delivered once: what
concerns tribes, what concerns contacts, then one message after the other. The owner's index
is the highest that was dispatched since the account was opened, and listeners are told of
every rise.
-/

namespace Messenger

/-- The highest index that is known once these have been seen. -/
def highest (known : Option UInt64) (indices : List UInt64) : Option UInt64 :=
  (known.toList ++ indices).max?

def rise? (known : Option UInt64) (indices : List UInt64) : Option UInt64 :=
  if highest known indices = known then none else highest known indices

/-- The rises of the highest index over batches of indices. -/
def rises (known : Option UInt64) : List (List UInt64) → List UInt64
  | [] => []
  | indices :: rest => (rise? known indices).toList ++ rises (highest known indices) rest

section Highest

variable {known : Option UInt64} {indices : List UInt64}

@[simp] theorem highest_nil : highest known [] = known := by
  cases known <;> rfl

theorem highest_append (known : Option UInt64) (early late : List UInt64) :
    highest known (early ++ late) = highest (highest known early) late := by
  unfold highest
  rw [← List.append_assoc]
  cases known.toList ++ early with
  | nil => rfl
  | cons first rest =>
      simp only [List.cons_append, List.max?_cons', List.foldl_append, Option.toList_some,
        List.nil_append]

theorem le_highest {top : UInt64} (reached : highest known indices = some top) :
    ∀ last ∈ known, last ≤ top :=
  fun last old => (List.max?_eq_some_iff.mp reached).2 last
    (List.mem_append_left _ (Option.mem_toList.mpr old))

theorem highest_of_le {last : UInt64} (covered : ∀ index ∈ indices, index ≤ last) :
    highest (some last) indices = some last := by
  refine List.max?_eq_some_iff.mpr ⟨List.mem_cons_self, fun index member => ?_⟩
  cases List.mem_cons.mp member with
  | inl same => exact same ▸ UInt64.le_refl last
  | inr new => exact covered index new

theorem highest_of_rise {top : UInt64} (inside : top ∈ indices)
    (greatest : ∀ index ∈ indices, index ≤ top) (above : ∀ last ∈ known, last < top) :
    highest known indices = some top := by
  refine List.max?_eq_some_iff.mpr ⟨List.mem_append_right _ inside, fun index member => ?_⟩
  cases List.mem_append.mp member with
  | inl old => exact UInt64.le_of_lt (above index (Option.mem_toList.mp old))
  | inr new => exact greatest index new

theorem rise?_eq_some {top : UInt64} :
    rise? known indices = some top ↔
      highest known indices = some top ∧ ∀ last ∈ known, last < top := by
  unfold rise?
  constructor
  · intro rose
    split at rose
    · cases rose
    · rename_i moved
      refine ⟨rose, fun last old => ?_⟩
      refine UInt64.lt_of_le_of_ne (le_highest rose last old) fun same => moved ?_
      rw [rose, ← same]
      exact old.symm
  · rintro ⟨reached, above⟩
    rw [if_neg, reached]
    intro same
    exact UInt64.lt_irrefl top (above top (same.symm.trans reached))

theorem rise?_eq_none : rise? known indices = none ↔ highest known indices = known := by
  unfold rise?
  split
  · rename_i same
    exact iff_of_true rfl same
  · rename_i moved
    refine iff_of_false (fun none => moved ?_) moved
    have empty := List.max?_eq_none_iff.mp none
    obtain ⟨unknown, unseen⟩ := List.append_eq_nil_iff.mp empty
    rw [unseen, highest_nil]

/-- Each rise goes above what was known before it. -/
theorem rises_ascend (known : Option UInt64) (batches : List (List UInt64)) :
    (known.toList ++ rises known batches).Pairwise (· < ·) := by
  induction batches generalizing known with
  | nil => cases known <;> simp [rises]
  | cons indices rest induction =>
      rw [rises]
      cases rose : rise? known indices with
      | none =>
          rw [rise?_eq_none.mp rose]
          exact induction known
      | some top =>
          obtain ⟨reached, above⟩ := rise?_eq_some.mp rose
          have later := induction (highest known indices)
          rw [reached] at later ⊢
          refine List.pairwise_append.mpr ⟨by cases known <;> simp, later, ?_⟩
          intro last old next risen
          have passed := above last (Option.mem_toList.mp old)
          cases List.mem_cons.mp risen with
          | inl same => exact same ▸ passed
          | inr more =>
              exact UInt64.lt_trans passed ((List.pairwise_cons.mp later).1 next more)

example : rises (some 4) [[9, 3], [7], [], [12]] = [9, 12] := by decide

end Highest

namespace Message

def ofKinds (kinds : List MessageKind) (messages : List Message) : List Message :=
  messages.filter fun message => message.kind?.any (· ∈ kinds)

def joins (messages : List Message) : List Message :=
  ofKinds [.groupJoin, .memberApprove] messages

def keys (messages : List Message) : List Message :=
  ofKinds [.contactKey, .contactKeyConfirmation, .contactKeyRecord] messages

theorem filter_affectsTribe (messages : List Message) :
    messages.filter affectsTribe = joins messages := by
  refine List.filter_congr fun message _ => ?_
  unfold affectsTribe
  cases message.kind? with
  | none => rfl
  | some kind => cases kind <;> rfl

theorem filter_affectsContact (messages : List Message) :
    messages.filter affectsContact = keys messages := by
  refine List.filter_congr fun message _ => ?_
  unfold affectsContact
  cases message.kind? with
  | none => rfl
  | some kind => cases kind <;> rfl

end Message

namespace Callback

def ofGroup (upsert : List Message → Callback) (group : List Message) : List Callback :=
  if group.isEmpty then [] else [upsert group]

def ofBatch (messages : List Message) : List Callback :=
  ofGroup .upsertTribes (Message.joins messages) ++
    ofGroup .upsertContacts (Message.keys messages) ++ messages.map .deliver

def ofRise (known : Option UInt64) (messages : List Message) : List Callback :=
  ((rise? known (Message.indexValues messages)).map fun top =>
    Callback.event (.messageIndex top)).toList

/-- What is told of batches one after the other. -/
def ofBatches (known : Option UInt64) : List (List Message) → List Callback
  | [] => []
  | messages :: rest =>
    ofBatch messages ++ ofRise known messages ++
      ofBatches (highest known (Message.indexValues messages)) rest

def raised? : Callback → Option UInt64
  | .event (.messageIndex index) => some index
  | _ => none

theorem eq_of_mem_ofGroup {upsert : List Message → Callback} {group : List Message}
    {callback : Callback} (member : callback ∈ ofGroup upsert group) :
    callback = upsert group := by
  unfold ofGroup at member
  split at member
  · cases member
  · exact List.mem_singleton.mp member

theorem delivers_of_ofBatch {messages : List Message} :
    ∀ callback ∈ ofBatch messages, callback.delivers = true := by
  intro callback member
  rcases List.mem_append.mp member with upserted | delivered
  · rcases List.mem_append.mp upserted with tribes | contacts
    · exact eq_of_mem_ofGroup tribes ▸ rfl
    · exact eq_of_mem_ofGroup contacts ▸ rfl
  · obtain ⟨message, -, rfl⟩ := List.mem_map.mp delivered
    rfl

theorem delivers_of_ofRise {known : Option UInt64} {messages : List Message} :
    ∀ callback ∈ ofRise known messages, callback.delivers = true := by
  intro callback member
  obtain ⟨top, -, rfl⟩ := Option.map_eq_some_iff.mp (Option.mem_toList.mp member)
  rfl

theorem raised?_of_ofBatch {messages : List Message} :
    (ofBatch messages).filterMap raised? = [] := by
  refine List.filterMap_eq_nil_iff.mpr fun callback member => ?_
  rcases List.mem_append.mp member with upserted | delivered
  · rcases List.mem_append.mp upserted with tribes | contacts
    · exact eq_of_mem_ofGroup tribes ▸ rfl
    · exact eq_of_mem_ofGroup contacts ▸ rfl
  · obtain ⟨message, -, rfl⟩ := List.mem_map.mp delivered
    rfl

theorem raised?_of_ofRise (known : Option UInt64) (messages : List Message) :
    (ofRise known messages).filterMap raised? =
      (rise? known (Message.indexValues messages)).toList := by
  unfold ofRise
  cases rise? known (Message.indexValues messages) <;> rfl

/-- Of batches one after the other every rise is told. -/
theorem raised?_of_ofBatches (known : Option UInt64) (batches : List (List Message)) :
    (ofBatches known batches).filterMap raised? =
      rises known (batches.map Message.indexValues) := by
  induction batches generalizing known with
  | nil => rfl
  | cons messages rest induction =>
      rw [ofBatches, List.filterMap_append, List.filterMap_append, raised?_of_ofBatch,
        raised?_of_ofRise, induction]
      rfl

theorem ofBatches_append (known : Option UInt64) (batches : List (List Message))
    (messages : List Message) :
    ofBatches known (batches ++ [messages]) =
      ofBatches known batches ++ (ofBatch messages ++
        ofRise (highest known (Message.indexValues batches.flatten)) messages) := by
  induction batches generalizing known with
  | nil => simp [ofBatches, Message.indexValues]
  | cons first rest induction =>
      have onward : highest known (Message.indexValues (first :: rest).flatten) =
          highest (highest known (Message.indexValues first))
            (Message.indexValues rest.flatten) := by
        rw [List.flatten_cons, Message.indexValues, List.filterMap_append]
        exact highest_append known _ _
      simp only [List.cons_append, ofBatches, induction, onward, List.append_assoc]

end Callback

namespace Session

variable {W : Type}

def tellAll (session : Session W) (callbacks : List Callback) : Session W :=
  callbacks.foldl tell session

theorem tellAll_eq (session : Session W) (callbacks : List Callback) :
    session.tellAll callbacks = { session with
      listeners := session.listeners.map (· ++ callbacks)
      journal := session.journal ++ callbacks.map .told } := by
  induction callbacks generalizing session with
  | nil => simp [tellAll]
  | cons callback rest induction =>
      change (session.tell callback).tellAll rest = _
      rw [induction]
      simp [tell]

theorem tellAll_append (session : Session W) (callbacks more : List Callback) :
    session.tellAll (callbacks ++ more) = (session.tellAll callbacks).tellAll more :=
  List.foldl_append

theorem tellGroup_eq (session : Session W) (group : List Message)
    (upsert : List Message → Callback) :
    session.tellGroup group upsert = session.tellAll (Callback.ofGroup upsert group) := by
  unfold tellGroup Callback.ofGroup
  split <;> rfl

theorem deliverAll_eq (session : Session W) (messages : List Message) :
    session.deliverAll messages = session.tellAll (messages.map .deliver) :=
  List.foldl_map.symm

/-- The owner knows of messages up to this index. -/
def knowing (session : Session W) (index : Option UInt64) : Session W :=
  { session with owner := { session.owner with messageLastIndex := index } }

theorem raiseMessageIndex_eq (session : Session W) (messages : List Message) :
    session.raiseMessageIndex messages =
      (session.knowing (highest session.owner.messageLastIndex
        (Message.indexValues messages))).tellAll
          (Callback.ofRise session.owner.messageLastIndex messages) := by
  unfold raiseMessageIndex Callback.ofRise
  split
  · rename_i none
    rw [Message.highestIndex?_eq_none.mp none, highest_nil, rise?_eq_none.mpr highest_nil]
    rfl
  · rename_i top some
    obtain ⟨inside, greatest⟩ := Message.highestIndex?_eq_some.mp some
    split
    · rename_i covered
      have same : highest session.owner.messageLastIndex (Message.indexValues messages) =
          session.owner.messageLastIndex := by
        cases known : session.owner.messageLastIndex with
        | none => simp [known] at covered
        | some last =>
            have bound : top ≤ last := by simpa [known] using covered
            exact highest_of_le fun index member => UInt64.le_trans (greatest index member) bound
      rw [rise?_eq_none.mpr same, same]
      rfl
    · rename_i uncovered
      have above : ∀ last ∈ session.owner.messageLastIndex, last < top := by
        intro last known
        refine UInt64.not_le.mp fun covers => uncovered ?_
        rw [Option.mem_def.mp known]
        exact decide_eq_true covers
      have reached := highest_of_rise inside greatest above
      rw [rise?_eq_some.mpr ⟨reached, above⟩, reached]
      rfl

/-- The messages are delivered to every listener, and the owner knows of them. -/
def delivered (session : Session W) (messages : List Message) : Session W :=
  let callbacks := Callback.ofBatch messages ++
    Callback.ofRise session.owner.messageLastIndex messages
  let index := highest session.owner.messageLastIndex (Message.indexValues messages)
  { session with
    owner := { session.owner with messageLastIndex := index }
    listeners := session.listeners.map (· ++ callbacks)
    journal := session.journal ++ callbacks.map .told }

/-- A batch is delivered, and only then the restore goes on with it. -/
theorem deliverBatch_eq (session : Session W) {messages : List Message}
    (some : messages ≠ []) (topic : String) :
    session.deliverBatch messages topic =
      (session.delivered messages).advanceRestore (session.restore.onBatch messages topic) := by
  have told : (((session.tellGroup (messages.filter Message.affectsTribe)
        .upsertTribes).tellGroup (messages.filter Message.affectsContact)
          .upsertContacts).deliverAll messages) =
      session.tellAll (Callback.ofBatch messages) := by
    rw [Message.filter_affectsTribe, Message.filter_affectsContact, tellGroup_eq, tellGroup_eq,
      deliverAll_eq, Callback.ofBatch, tellAll_append, tellAll_append]
  have raised : ((session.tellAll (Callback.ofBatch messages)).raiseMessageIndex messages) =
      session.delivered messages := by
    rw [raiseMessageIndex_eq, tellAll_eq, tellAll_eq]
    simp [delivered, knowing]
  unfold deliverBatch
  rw [if_neg (by simpa using some)]
  dsimp only
  rw [told, raised]
  rfl

end Session

namespace Feed

def note (feed : Feed) (entry : Entry) : Feed :=
  { feed with entries := feed.entries ++ [entry] }

def opened (feed : Feed) (account : Account) (owner : Owner) : Feed :=
  { feed.note (.opened account owner) with index := owner.messageLastIndex }

def delivered (feed : Feed) (messages : List Message) : Feed :=
  { feed with
    index := highest feed.index (Message.indexValues messages)
    entries := feed.entries ++
      (Callback.ofBatch messages ++ Callback.ofRise feed.index messages).map .told }

def applied (feed : Feed) (bundle : Bundle) (context : DispatchContext) : Feed :=
  (feed.note (.applied bundle context)).delivered bundle.messages

inductive Step (feed : Feed) : Feed → Prop where
  | still : Step feed feed
  | opened (account : Account) (owner : Owner) : Step feed (feed.opened account owner)
  | applied (bundle : Bundle) (context : DispatchContext) :
      Step feed (feed.applied bundle context)

theorem Step.of_eq {first last : Feed} (same : last = first) : Step first last :=
  same ▸ .still

@[simp] theorem delivered_nil (feed : Feed) : feed.delivered [] = feed := by
  simp [delivered, Message.indexValues, Callback.ofBatch, Callback.ofGroup, Callback.ofRise,
    Message.joins, Message.keys, Message.ofKinds, rise?_eq_none.mpr highest_nil]

end Feed

namespace Session

variable {W : Type}

theorem feed_note_delivers (session : Session W) {entry : Entry}
    (delivers : entry.delivers = true) : (session.note entry).feed = session.feed.note entry := by
  simp [feed, note, Feed.note, delivers]

theorem feed_delivered (session : Session W) (messages : List Message) :
    (session.delivered messages).feed = session.feed.delivered messages := by
  have told : ∀ entry ∈ (Callback.ofBatch messages ++
      Callback.ofRise session.owner.messageLastIndex messages).map Entry.told,
      entry.delivers = true := by
    intro entry member
    obtain ⟨callback, tells, rfl⟩ := List.mem_map.mp member
    cases List.mem_append.mp tells with
    | inl batch => exact Callback.delivers_of_ofBatch callback batch
    | inr rise => exact Callback.delivers_of_ofRise callback rise
  rw [feed, delivered, List.filter_append, List.filter_eq_self.mpr told]
  rfl

theorem feed_deliverBatch (session : Session W) (messages : List Message) (topic : String) :
    (session.deliverBatch messages topic).feed = session.feed.delivered messages := by
  cases messages with
  | nil =>
      rw [Feed.delivered_nil]
      unfold deliverBatch
      rw [if_pos List.isEmpty_nil]
      split
      · exact feed_advanceRestore session _
      · rfl
  | cons first rest =>
      rw [deliverBatch_eq session (List.cons_ne_nil first rest), feed_advanceRestore,
        feed_delivered]

variable [Surroundings W]

theorem feed_apply {session : Session W} (live : session.hasSession = true) (bundle : Bundle)
    (context : DispatchContext) :
    (session.apply bundle context).feed = session.feed.applied bundle context := by
  have rows : Row.all = [.stateDelta, .deletions, .ping, .balance] ++
      .messages :: .confirmations :: Row.fromNews := rfl
  rw [apply_eq_applyRows live, rows, applyRows_append, applyRows_cons,
    feed_of_changes (by decide) (.applyRows _ bundle context _), applyRow, feed_deliverBatch,
    feed_of_changes (by decide) (.applyRows _ bundle context _), feed_note_delivers _ rfl]
  rfl

theorem apply_feed (session : Session W) (bundle : Bundle) (context : DispatchContext) :
    session.feed.Step (session.apply bundle context).feed := by
  by_cases live : session.hasSession = true
  · rw [feed_apply live]
    exact .applied bundle context
  · rw [apply, if_neg live]
    exact .of_eq (feed_report session .noSession)

theorem feed_openAccount (session : Session W) (account : Account) (owner : Owner)
    (resume : Bool) :
    (session.openAccount account owner resume).1.feed = session.feed.opened account owner := by
  rw [feed_link (openAccount_link session account owner resume)]
  exact feed_note_delivers _ rfl

theorem MayOpen.feed {resume : Bool} {first last : Session W}
    (mayOpen : MayOpen resume first last) : first.feed.Step last.feed := by
  obtain ⟨middle, changes, ends⟩ := mayOpen
  have same := feed_of_changes (by decide) changes
  rcases ends with rfl | ⟨account, owner, rfl⟩
  · exact .of_eq same
  · rw [feed_openAccount, same]
    exact .opened account owner

theorem reconnect_feed (session : Session W) : session.feed.Step session.reconnect.1.feed := by
  rcases session.reconnect_cases with changes | ⟨params, -, reopens⟩
  · exact .of_eq (feed_of_changes (by decide) changes)
  · rw [reopens, feed_reported, ← feed_disconnect session]
    exact (MayOpen.tryStart _ _ _ _).feed

theorem perform_feed (session : Session W) (operation : Operation) :
    session.feed.Step (session.perform operation).1.feed := by
  cases operation with
  | addListener => exact .still
  | beginRestore mnemonic => exact .still
  | createAccount displayName mixer inviteCode =>
      exact feed_reported (session.tryCreateAccount displayName mixer inviteCode) ▸
        (MayOpen.tryCreateAccount session displayName mixer inviteCode).feed
  | restoreAccount params =>
      exact feed_reported (session.tryRestoreAccount params) ▸
        (MayOpen.tryRestoreAccount session params).feed
  | start address mnemonic owner =>
      exact feed_reported (session.tryStart { address, mnemonic } owner false) ▸
        (MayOpen.tryStart session { address, mnemonic } owner false).feed
  | reconnect => exact reconnect_feed session
  | disconnect => exact .of_eq (feed_disconnect session)
  | payInvoice invoice =>
      exact .of_eq ((feed_reported (session.tryPayInvoice invoice)).trans
        (feed_of_changes (by decide) (.tryPayInvoice session invoice)))
  | cancelRestore => exact .of_eq (feed_cancelRestore session)
  | dispatch bundle context => exact .of_eq (feed_accept session bundle context)
  | _ =>
      exact .of_eq ((feed_reported (session.execute _)).trans
        (feed_of_changes (by decide) (.execute session _)))

theorem step_feed (session : Session W) (left : session.feed.farewell = []) :
    session.feed.Step session.step.feed := by
  unfold step
  split
  · rename_i work agenda worked
    have popped : { session with agenda }.feed = session.feed := rfl
    rw [← popped]
    cases work with
    | dispatch bundle context => exact apply_feed _ bundle context
    | call call => exact .of_eq (feed_of_changes (by decide) (.callThenApply _ _ _))
    | inbound topic payload => exact .of_eq (feed_of_changes (by decide) (.callThenApply _ _ _))
    | bootstrap resumePaging => exact .of_eq (feed_of_changes (by decide) (.bootstrap _ _))
  · rename_i event farewell worked leaves
    have plain : (Callback.event event).delivers = false := by
      have none := List.filter_eq_nil_iff.mp left event
      simpa using none (leaves ▸ List.mem_cons_self)
    refine .of_eq ((feed_notify _ plain).trans ?_)
    simp [feed, leaves, plain]
  · exact .still

/-- A run goes on with the feed by openings and applied bundles only. -/
theorem move_feed (session : Session W) (left : session.feed.farewell = []) (next : Move W) :
    session.feed.Step (session.move next).feed := by
  cases next with
  | perform operation => exact perform_feed session operation
  | receive generation event => exact .of_eq (feed_of_changes (by decide) (.receive session generation event))
  | wake => exact .of_eq (feed_of_changes (by decide) (.wake session))
  | step => exact step_feed session left
  | advance millis => exact .still
  | surround outside => exact .still

end Session

namespace Entry

def openingIndex? : Entry → Option (Option UInt64)
  | .opened _ owner => some owner.messageLastIndex
  | _ => none

def batch? : Entry → Option (List Message)
  | .applied bundle _ => some bundle.messages
  | _ => none

theorem openingIndex?_of_unopened {entry : Entry} (unopened : entry.isOpening = false) :
    entry.openingIndex? = none := by
  cases entry with
  | opened account owner => cases unopened
  | _ => rfl

end Entry

/-- Up to which index the owner knew of messages when the account was opened. -/
def openingIndex (entries : List Entry) : Option UInt64 :=
  (entries.filterMap Entry.openingIndex?).getLastD none

/-- The messages of the bundles that were applied. -/
def batches (entries : List Entry) : List (List Message) :=
  entries.filterMap Entry.batch?

theorem openingIndex_append (entries : List Entry) {more : List Entry}
    (unopened : ∀ entry ∈ more, entry.isOpening = false) :
    openingIndex (entries ++ more) = openingIndex entries := by
  have none : more.filterMap Entry.openingIndex? = [] := List.filterMap_eq_nil_iff.mpr
    fun entry member => Entry.openingIndex?_of_unopened (unopened entry member)
  rw [openingIndex, List.filterMap_append, none, List.append_nil]
  rfl

theorem openingIndex_opened (entries : List Entry) (account : Account) (owner : Owner) :
    openingIndex (entries ++ [.opened account owner]) = owner.messageLastIndex := by
  rw [openingIndex, List.filterMap_append]
  exact List.getLastD_concat

namespace Feed

/-- The owner's index is the highest since the opening, and listeners were told of every batch
and of every rise. -/
structure Kept (feed : Feed) : Prop where
  farewell : feed.farewell = []
  index : feed.index = highest (openingIndex feed.entries)
    (Message.indexValues (batches (sinceOpening feed.entries)).flatten)
  told : heard (sinceOpening feed.entries) =
    Callback.ofBatches (openingIndex feed.entries) (batches (sinceOpening feed.entries))

namespace Kept

variable {first last : Feed}

theorem opened (kept : first.Kept) (account : Account) (owner : Owner) :
    (first.opened account owner).Kept := by
  have since : sinceOpening (first.opened account owner).entries = [] := afterLast_mark _ rfl
  have opening : openingIndex (first.opened account owner).entries = owner.messageLastIndex :=
    openingIndex_opened _ _ _
  constructor
  case farewell => exact kept.farewell
  case index =>
    rw [since, opening]
    exact highest_nil.symm
  case told =>
    rw [since]
    rfl

theorem applied (kept : first.Kept) (bundle : Bundle) (context : DispatchContext) :
    (first.applied bundle context).Kept := by
  let callbacks := Callback.ofBatch bundle.messages ++
    Callback.ofRise first.index bundle.messages
  have grown : (first.applied bundle context).entries =
      first.entries ++ .applied bundle context :: callbacks.map .told :=
    List.append_assoc _ _ _
  have unopened : ∀ entry ∈ Entry.applied bundle context :: callbacks.map .told,
      entry.isOpening = false := by
    refine List.forall_mem_cons.mpr ⟨rfl, fun entry member => ?_⟩
    obtain ⟨callback, -, rfl⟩ := List.mem_map.mp member
    rfl
  have since : sinceOpening (first.applied bundle context).entries =
      sinceOpening first.entries ++ .applied bundle context :: callbacks.map .told :=
    grown ▸ afterLast_append first.entries unopened
  have opening : openingIndex (first.applied bundle context).entries =
      openingIndex first.entries := grown ▸ openingIndex_append first.entries unopened
  have dispatched : batches (sinceOpening (first.applied bundle context).entries) =
      batches (sinceOpening first.entries) ++ [bundle.messages] := by
    have untold : batches (callbacks.map .told) = [] := by
      simp [batches, Entry.batch?]
    rw [since, batches, List.filterMap_append, List.filterMap_cons]
    exact congrArg (_ ++ bundle.messages :: ·) untold
  constructor
  case farewell => exact kept.farewell
  case index =>
    rw [dispatched, opening, List.flatten_append, Message.indexValues, List.filterMap_append,
      highest_append, List.flatten_singleton]
    exact congrArg (highest · _) kept.index
  case told =>
    have now : heard (.applied bundle context :: callbacks.map .told) = callbacks :=
      heard_told callbacks
    rw [dispatched, opening, Callback.ofBatches_append, ← kept.index, ← kept.told, since,
      heard_append, now]

theorem step (kept : first.Kept) (step : Step first last) : last.Kept := by
  cases step with
  | still => exact kept
  | opened account owner => exact kept.opened account owner
  | applied bundle context => exact kept.applied bundle context

end Kept

end Feed

namespace Session

variable {W : Type} [Surroundings W]

theorem Reaches.feed_kept {config : Config} {outside : W} {session : Session W}
    (reached : Reaches (new config outside) session) : session.feed.Kept := by
  induction reached with
  | here => exact ⟨rfl, rfl, rfl⟩
  | after next _ _ induction => exact induction.step (move_feed _ induction.farewell next)

end Session

theorem heard_filter (entries : List Entry) :
    heard (entries.filter Entry.delivers) = (heard entries).filter Callback.delivers := by
  induction entries with
  | nil => rfl
  | cons entry rest induction =>
      cases entry with
      | told callback =>
          cases delivers : callback.delivers <;>
            simpa [heard, Entry.delivers, Entry.callback?, delivers] using induction
      | _ => exact induction

theorem batches_filter (entries : List Entry) :
    batches (entries.filter Entry.delivers) = batches entries := by
  rw [batches, List.filterMap_filter]
  refine List.filterMap_congr fun entry _ => ?_
  cases entry with
  | told callback => cases callback.delivers <;> simp [Entry.batch?]
  | _ => rfl

theorem raised?_filter (callbacks : List Callback) :
    (callbacks.filter Callback.delivers).filterMap Callback.raised? =
      callbacks.filterMap Callback.raised? := by
  rw [List.filterMap_filter]
  refine List.filterMap_congr fun callback _ => ?_
  cases callback with
  | event event => cases event <;> rfl
  | _ => rfl

namespace Session

variable {W : Type} [Surroundings W]

/-- A batch is delivered to every listener: its joins and approvals, its keys, then one message
after the other, and only then the restore goes on with it. Since an account was opened this
has happened once to the messages of every bundle that was applied. The owner's index is the
highest of the one at the opening and of all that was dispatched, and what listeners are told
of it are its rises. -/
theorem batches_delivered :
    (∀ (session : Session W) (messages : List Message) (topic : String), messages ≠ [] →
      let step := session.restore.onBatch messages topic
      session.deliverBatch messages topic = (session.delivered messages).advanceRestore step ∧
        (session.deliverBatch messages topic).listeners = session.listeners.map
          (· ++ (Callback.ofBatch messages ++
            Callback.ofRise session.owner.messageLastIndex messages ++
              RestoreAction.told step.2))) ∧
    ∀ (config : Config) (outside : W) (session : Session W),
      Reaches (new config outside) session →
      (∀ told ∈ session.listeners, told <:+ heard session.journal) ∧
      ∀ before account owner since, session.journal = before ++ .opened account owner :: since →
        (∀ entry ∈ since, entry.isOpening = false) →
        session.owner.messageLastIndex = highest owner.messageLastIndex
          (Message.indexValues (batches since).flatten) ∧
        (heard since).filter Callback.delivers =
          Callback.ofBatches owner.messageLastIndex (batches since) ∧
        (heard since).filterMap Callback.raised? =
          rises owner.messageLastIndex ((batches since).map Message.indexValues) ∧
        (owner.messageLastIndex.toList ++
          (heard since).filterMap Callback.raised?).Pairwise (· < ·) := by
  constructor
  · intro session messages topic some step
    have delivers := deliverBatch_eq session some topic
    refine ⟨delivers, ?_⟩
    rw [delivers, advanceRestore_eq]
    simp [delivered, step]
  · intro config outside session reached
    have kept := reached.feed_kept
    refine ⟨(tended_agrees.reaches reached (agrees_new config outside)).listeners, ?_⟩
    intro before account owner since split unopened
    have current : ∀ entry ∈ since.filter Entry.delivers, entry.isOpening = false :=
      fun entry member => unopened entry (List.mem_of_mem_filter member)
    have entries : session.feed.entries =
        before.filter Entry.delivers ++ .opened account owner :: since.filter Entry.delivers := by
      rw [feed, split, List.filter_append]
      rfl
    have now : sinceOpening session.feed.entries = since.filter Entry.delivers :=
      entries ▸ sinceOpening_opened _ account owner current
    have opening : openingIndex session.feed.entries = owner.messageLastIndex := by
      rw [entries, List.append_cons, openingIndex_append _ current, openingIndex_opened]
    have index := kept.index
    have told := kept.told
    rw [now, opening, batches_filter] at index told
    rw [heard_filter] at told
    have raised : (heard since).filterMap Callback.raised? =
        rises owner.messageLastIndex ((batches since).map Message.indexValues) := by
      rw [← raised?_filter, told, Callback.raised?_of_ofBatches]
    exact ⟨index, told, raised, raised ▸ rises_ascend _ _⟩

/-! Three bundles of messages, with a second listener before the last of them. -/

def unnumberedJoin : Message where
  kindCode := MessageKind.groupJoin.code
  index := some "soon"

def ninthKey : Message where
  kindCode := MessageKind.contactKey.code
  index := some "9"

def batchMoves : List (Move Bench) :=
  [.perform .addListener, .perform (.start "broker" twelveWords { messageLastIndex := some 4 }),
    .receive 1 .connected, .step, .step, .step, .step,
    .perform (.dispatch { messages := [ninthKey, .numbered 3, unnumberedJoin] } {}), .step,
    .perform (.dispatch { messages := [.numbered 7] } {}), .step,
    .perform .addListener, .perform (.dispatch { messages := [.numbered 12] } {}), .step]

def batchRun : Session Bench :=
  batchMoves.foldl move (new .test (.new 7))

theorem batches_delivered_batchRun :
    (batchRun.deliverBatch [ninthKey, unnumberedJoin] "").listeners = batchRun.listeners.map
      (· ++ [.upsertTribes [unnumberedJoin], .upsertContacts [ninthKey], .deliver ninthKey,
        .deliver unnumberedJoin]) ∧
    Reaches (new .test (.new 7)) batchRun ∧
    (heard (batchRun.journal.drop 1)).filter Callback.delivers =
      [.upsertTribes [unnumberedJoin], .upsertContacts [ninthKey], .deliver ninthKey,
        .deliver (.numbered 3), .deliver unnumberedJoin, .event (.messageIndex 9),
        .deliver (.numbered 7), .deliver (.numbered 12), .event (.messageIndex 12)] ∧
    batchRun.owner.messageLastIndex = some 12 := by
  obtain ⟨batch, run⟩ := batches_delivered (W := Bench)
  have permitted : (new .test (.new 7)).permitsAll batchMoves = true := by decide +kernel
  have reached : Reaches (new .test (.new 7)) batchRun := Reaches.here.moves permitted
  have opens : batchRun.journal[0]?.any (·.openingIndex? == some (some 4)) = true := by
    decide +kernel
  obtain ⟨opening, isOpening, split⟩ := split_at opens
  cases opening with
  | opened account owner =>
      have fourth : owner.messageLastIndex = some 4 := by
        simpa [Entry.openingIndex?] using isOpening
      obtain ⟨index, told, -⟩ := (run .test (.new 7) batchRun reached).2 [] account owner
        (batchRun.journal.drop 1) split (unopened_of_all (by decide +kernel))
      have known : batchRun.owner.messageLastIndex = some 12 := by
        rw [index, fourth]
        decide +kernel
      refine ⟨?_, reached, ?_, known⟩
      · have same : Callback.ofBatch [ninthKey, unnumberedJoin] ++
            Callback.ofRise (some 12) [ninthKey, unnumberedJoin] ++
              RestoreAction.told (batchRun.restore.onBatch [ninthKey, unnumberedJoin] "").2 =
            [.upsertTribes [unnumberedJoin], .upsertContacts [ninthKey], .deliver ninthKey,
              .deliver unnumberedJoin] := by decide +kernel
        rw [(batch batchRun [ninthKey, unnumberedJoin] "" (List.cons_ne_nil _ _)).2, known, same]
      · rw [told, fourth]
        decide +kernel
  | _ => cases isOpening

end Session

end Messenger

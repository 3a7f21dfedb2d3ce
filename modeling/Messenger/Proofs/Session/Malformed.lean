import Messenger.Proofs.Session.Settlement
import Messenger.Proofs.Session.Twins

/-!
What malformed fields of a bundle lead to. Each is reported at its place in the order of
the rows, once whenever the bundle is applied. Otherwise the session goes on as if the
fields were not there, and only the copies of the bundle that it holds still have them.
-/

namespace Messenger

variable {bundle : Bundle} {fields : List Field}

/-- Every field that can be malformed has one place among the rows. -/
theorem Bundle.Malformed.place {field : Field} (malformed : bundle.Malformed field) :
    (Row.all.filterMap Row.field?).count field = 1 := by
  cases field with
  | userState => cases malformed
  | _ => decide

/-- A bundle and itself, or the bundle as it is and without some fields. -/
inductive Bundle.Copy (bundle : Bundle) (fields : List Field) : Bundle → Bundle → Prop where
  | same (other : Bundle) : Copy bundle fields other other
  | cleaned : Copy bundle fields bundle (bundle.without fields)

theorem Bundle.Copy.faithful (bundle : Bundle) (fields : List Field) :
    Faithful (bundle.Copy fields) := by
  constructor
  case same =>
      intro other
      exact .same other
  case without =>
      intro first second copies
      cases copies with
      | same => exact ⟨[], rfl⟩
      | cleaned => exact ⟨fields, rfl⟩

/-- What goes out to the core and the link. -/
def Entry.isOutward : Entry → Bool
  | .called .. => true
  | .keysAsked .. => true
  | .attempted .. => true
  | .published .. => true
  | .subscribed .. => true
  | .disconnected => true
  | _ => false

def outward (entries : List Entry) : List Entry :=
  entries.filter Entry.isOutward

/-- A listener is told that the field is malformed. -/
def Entry.reports (field : Field) : Entry → Bool
  | .told (.event (.error (.malformed other _))) => other = field
  | _ => false

def reportsOf (field : Field) (entries : List Entry) : Nat :=
  entries.countP (Entry.reports field)

/-- What runs with a bundle and with its copies note alike, up to the copies. -/
inductive Entry.Twin (copy : Bundle → Bundle → Prop) : Entry → Entry → Prop where
  | same (entry : Entry) : Twin copy entry entry
  | received {first second : Bundle} (context : DispatchContext) (live : Bool)
      (copies : copy first second) :
      Twin copy (.received first context live) (.received second context live)
  | woken {first second : Waiting} (twin : first.Twin copy second) :
      Twin copy (.woken first) (.woken second)

theorem outward_append (early late : List Entry) :
    outward (early ++ late) = outward early ++ outward late :=
  List.filter_append ..

theorem outward_of_twins {copy : Bundle → Bundle → Prop} {entries others : List Entry}
    (twins : List.Forall₂ (Entry.Twin copy) entries others) :
    outward entries = outward others := by
  induction twins with
  | nil => rfl
  | @cons entry other rest others twin _ induction =>
      have first : outward [entry] = outward [other] := by cases twin <;> rfl
      calc
        outward (entry :: rest) = outward [entry] ++ outward rest := outward_append [entry] rest
        _ = outward [other] ++ outward others := by rw [first, induction]
        _ = outward (other :: others) := (outward_append [other] others).symm

namespace Session

variable {W : Type} [Surroundings W] {context : DispatchContext}
  {first second : Session W}

/-- What goes through rows notes, with malformed fields and without them: in the row of a
malformed field one report and nothing else, and in every other row the same. -/
inductive RowsNoted (bundle : Bundle) (fields : List Field) (context : DispatchContext) :
    List Row → Session W → Session W → List Entry → List Entry → Prop where
  | done (first second : Session W) :
      RowsNoted bundle fields context [] first second [] []
  | sound {row : Row} {rows : List Row} {first second : Session W}
      {noted rest others : List Entry}
      (read : ∀ field ∈ row.field?, field ∉ fields)
      (grows : Grows noted first (first.applyRow bundle context row))
      (same : Grows noted second (second.applyRow (bundle.without fields) context row))
      (after : RowsNoted bundle fields context rows (first.applyRow bundle context row)
        (second.applyRow (bundle.without fields) context row) rest others) :
      RowsNoted bundle fields context (row :: rows) first second (noted ++ rest)
        (noted ++ others)
  | malformed {row : Row} {rows : List Row} {first second : Session W}
      {rest others : List Entry} {field : Field} {fault : ReadFault}
      (reads : row.field? = some field) (dropped : field ∈ fields)
      (unread : bundle.fault? field = some fault)
      (reported : first.applyRow bundle context row = first.report (.ofFault fault))
      (passed : second.applyRow (bundle.without fields) context row = second)
      (after : RowsNoted bundle fields context rows (first.report (.ofFault fault)) second
        rest others) :
      RowsNoted bundle fields context (row :: rows) first second
        (.told (.event (.error (.malformed field fault.reason))) :: rest) others

namespace RowsNoted

variable {rows : List Row} {noted cleaned : List Entry}

theorem outward (through : RowsNoted bundle fields context rows first second noted cleaned) :
    outward noted = outward cleaned := by
  induction through with
  | done => rfl
  | sound _ _ _ _ induction => rw [outward_append, outward_append, induction]
  | malformed _ _ _ _ _ _ induction => exact induction

/-- A dropped field is reported once more for every row that has to read it. -/
theorem reportsOf_eq (field : Field)
    (through : RowsNoted bundle fields context rows first second noted cleaned) :
    reportsOf field noted = reportsOf field cleaned +
      if field ∈ fields then (rows.filterMap Row.field?).count field else 0 := by
  induction through with
  | done => simp [reportsOf]
  | @sound row rows _ _ noted rest others read _ _ _ induction =>
      have elsewhere : field ∈ fields →
          ((row :: rows).filterMap Row.field?).count field =
            (rows.filterMap Row.field?).count field := by
        intro dropped
        cases reads : row.field? with
        | none => rw [List.filterMap_cons_none reads]
        | some other =>
            have apart : other ≠ field := fun same =>
              read other (Option.mem_def.mpr reads) (same ▸ dropped)
            rw [List.filterMap_cons_some reads, List.count_cons_of_ne apart]
      have early : reportsOf field (noted ++ rest) = reportsOf field noted + reportsOf field rest :=
        List.countP_append
      have other : reportsOf field (noted ++ others) =
          reportsOf field noted + reportsOf field others := List.countP_append
      rw [early, other, induction, Nat.add_assoc]
      split
      · rename_i dropped
        rw [elsewhere dropped]
      · rfl
  | @malformed row rows _ _ rest others own fault reads dropped _ _ _ _ induction =>
      have counted : reportsOf field
          (.told (.event (.error (.malformed own fault.reason))) :: rest) =
            reportsOf field rest + if own = field then 1 else 0 := by
        simp [reportsOf, List.countP_cons, Entry.reports]
      rw [counted, induction, List.filterMap_cons_some reads, List.count_cons]
      by_cases same : own = field
      · subst same
        simp [dropped, Nat.add_assoc]
      · simp [same]

end RowsNoted

/-- A session applies the bundle as it is, and another one the bundle without the fields. -/
structure AppliedApart (bundle : Bundle) (fields : List Field) (context : DispatchContext)
    (first second : Session W) (noted cleaned : List Entry) : Prop where
  ordered : first.apply bundle context =
    (first.note (.applied bundle context)).applyRows bundle context Row.all
  orderedWithout : second.apply (bundle.without fields) context =
    (second.note (.applied (bundle.without fields) context)).applyRows
      (bundle.without fields) context Row.all
  rows : RowsNoted bundle fields context Row.all (first.note (.applied bundle context))
    (second.note (.applied (bundle.without fields) context)) noted cleaned
  reported : ∀ field, reportsOf field noted =
    reportsOf field cleaned + if field ∈ fields then 1 else 0
  outward : outward noted = outward cleaned
  grows : Grows (.applied bundle context :: noted) first (first.apply bundle context)
  growsWithout : Grows (.applied (bundle.without fields) context :: cleaned) second
    (second.apply (bundle.without fields) context)
  twins : Twins (bundle.Copy fields) (first.apply bundle context)
    (second.apply (bundle.without fields) context)

theorem rowsNoted (malformed : ∀ field ∈ fields, bundle.Malformed field) (rows : List Row)
    (twins : Twins (bundle.Copy fields) first second) :
    ∃ noted cleaned, RowsNoted bundle fields context rows first second noted cleaned ∧
      Grows noted first (first.applyRows bundle context rows) ∧
      Grows cleaned second (second.applyRows (bundle.without fields) context rows) ∧
      Twins (bundle.Copy fields) (first.applyRows bundle context rows)
        (second.applyRows (bundle.without fields) context rows) := by
  have faithful := Bundle.Copy.faithful bundle fields
  induction rows generalizing first second with
  | nil => exact ⟨[], [], .done first second, .of_same rfl rfl, .of_same rfl rfl, twins⟩
  | cons row rows induction =>
      rw [applyRows_cons, applyRows_cons]
      by_cases read : ∀ field ∈ row.field?, field ∉ fields
      · have alongside : Alongside (bundle.Copy fields) first second
            (first.applyRow bundle context row)
            (second.applyRow (bundle.without fields) context row) := by
          by_cases last : row = .publishes
          · rw [last]
            exact twins.publishPhase faithful .cleaned
          · rw [applyRow_without_other malformed read last]
            exact twins.applyRow faithful row
        obtain ⟨noted, firstNoted, secondNoted⟩ := alongside.grows
        obtain ⟨rest, others, after, firstRest, secondRest, ended⟩ :=
          induction alongside.twins
        exact ⟨noted ++ rest, noted ++ others, .sound read firstNoted secondNoted after,
          firstNoted.trans firstRest, secondNoted.trans secondRest, ended⟩
      · push Not at read
        obtain ⟨field, reads, dropped⟩ := read
        rw [Option.mem_def] at reads
        obtain ⟨fault, unread⟩ := Option.isSome_iff_exists.mp (malformed field dropped)
        have reported : first.applyRow bundle context row = first.report (.ofFault fault) :=
          applyRow_of_fault reads unread first
        have passed : second.applyRow (bundle.without fields) context row = second :=
          applyRow_without_own reads dropped second
        have told : Grows [.told (.event (.error (.malformed field fault.reason)))] first
            (first.report (.ofFault fault)) := by
          rw [← Bundle.field_of_fault? unread]
          exact Grows.tell first _
        obtain ⟨rest, others, after, firstRest, secondRest, ended⟩ :=
          induction (twins.told (.event (.error (.ofFault fault))))
        rw [reported, passed]
        exact ⟨_, others, .malformed reads dropped unread reported passed after,
          told.trans firstRest, secondRest, ended⟩

/-- The bundle as it is and without its malformed fields, applied to the like of one
session. -/
theorem appliedApart (malformed : ∀ field ∈ fields, bundle.Malformed field)
    (live : first.hasSession = true) (twins : Twins (bundle.Copy fields) first second) :
    ∃ noted cleaned, AppliedApart bundle fields context first second noted cleaned := by
  have ordered := apply_eq_applyRows live bundle context
  have orderedWithout := apply_eq_applyRows (twins.hasSession.trans live)
    (bundle.without fields) context
  obtain ⟨noted, cleaned, rows, more, others, ended⟩ :=
    rowsNoted malformed Row.all (twins.noted (.applied bundle context)
      (.applied (bundle.without fields) context))
  refine ⟨noted, cleaned, ordered, orderedWithout, rows, fun field => ?_, rows.outward, ?_, ?_,
    ?_⟩
  · rw [rows.reportsOf_eq field]
    split
    · rename_i dropped
      rw [(malformed field dropped).place]
    · rfl
  · rw [ordered]
    exact (Grows.note first rfl).trans more
  · rw [orderedWithout]
    exact (Grows.note second rfl).trans others
  · rw [ordered, orderedWithout]
    exact ended

/-- What goes on without callers and without news of the link. -/
def Move.isUnattended : Move W → Bool
  | .step => true
  | .wake => true
  | .advance _ => true
  | .surround _ => true
  | _ => false

/-- One move of the like of one session. The two note the same, up to copies, unless the
bundle comes up on the agenda of one where the other has it without the fields. -/
inductive MovedApart (bundle : Bundle) (fields : List Field) (first second : Session W) :
    Move W → List Entry → List Entry → Prop where
  | alike {next : Move W} {more others : List Entry}
      (grows : Grows more first (first.move next))
      (growsWithout : Grows others second (second.move next))
      (twins : List.Forall₂ (Entry.Twin (bundle.Copy fields)) more others) :
      MovedApart bundle fields first second next more others
  | applied {context : DispatchContext} {agenda agendaWithout : List Work}
      {noted cleaned : List Entry}
      (next : first.agenda = .dispatch bundle context :: agenda)
      (nextWithout : second.agenda = .dispatch (bundle.without fields) context :: agendaWithout)
      (apart : AppliedApart bundle fields context { first with agenda }
        { second with agenda := agendaWithout } noted cleaned) :
      MovedApart bundle fields first second .step (.applied bundle context :: noted)
        (.applied (bundle.without fields) context :: cleaned)

/-- Moves of the like of one session, one by one. -/
inductive MovesApart (bundle : Bundle) (fields : List Field) :
    List (Move W) → Session W → Session W → List Entry → List Entry → Prop where
  | done {first second : Session W} (twins : Twins (bundle.Copy fields) first second) :
      MovesApart bundle fields [] first second [] []
  | moved {next : Move W} {later : List (Move W)} {first second : Session W}
      {noted cleaned rest others : List Entry}
      (twins : Twins (bundle.Copy fields) first second)
      (apart : MovedApart bundle fields first second next noted cleaned)
      (after : MovesApart bundle fields later (first.move next) (second.move next) rest
        others) :
      MovesApart bundle fields (next :: later) first second (noted ++ rest)
        (cleaned ++ others)

variable {next : Move W} {later : List (Move W)} {noted cleaned : List Entry}

namespace MovedApart

theorem outward (apart : MovedApart bundle fields first second next noted cleaned) :
    outward noted = outward cleaned := by
  cases apart with
  | alike _ _ twins => exact outward_of_twins twins
  | applied _ _ apart => exact apart.outward

theorem grows (apart : MovedApart bundle fields first second next noted cleaned) :
    Grows noted first (first.move next) := by
  cases apart with
  | alike grows _ _ => exact grows
  | applied next _ apart =>
      rw [Session.move, step_cons next]
      exact ⟨apart.grows.journal, apart.grows.listeners⟩

theorem growsWithout (apart : MovedApart bundle fields first second next noted cleaned) :
    Grows cleaned second (second.move next) := by
  cases apart with
  | alike _ grows _ => exact grows
  | applied _ next apart =>
      rw [Session.move, step_cons next]
      exact ⟨apart.growsWithout.journal, apart.growsWithout.listeners⟩

theorem of_alongside (alongside : Alongside (bundle.Copy fields) first second
    (first.move next) (second.move next)) :
    ∃ more, MovedApart bundle fields first second next more more := by
  obtain ⟨more, own, mirrored⟩ := alongside.grows
  exact ⟨more, .alike own mirrored (List.forall₂_same.mpr fun entry _ => .same entry)⟩

end MovedApart

namespace MovesApart

theorem outward (apart : MovesApart bundle fields later first second noted cleaned) :
    outward noted = outward cleaned := by
  induction apart with
  | done => rfl
  | moved _ apart _ induction => rw [outward_append, outward_append, apart.outward, induction]

theorem grows (apart : MovesApart bundle fields later first second noted cleaned) :
    Grows noted first (later.foldl move first) := by
  induction apart with
  | done => exact .of_same rfl rfl
  | moved _ apart _ induction => exact apart.grows.trans induction

theorem growsWithout (apart : MovesApart bundle fields later first second noted cleaned) :
    Grows cleaned second (later.foldl move second) := by
  induction apart with
  | done => exact .of_same rfl rfl
  | moved _ apart _ induction => exact apart.growsWithout.trans induction

theorem twins (apart : MovesApart bundle fields later first second noted cleaned) :
    Twins (bundle.Copy fields) (later.foldl move first) (later.foldl move second) := by
  induction apart with
  | done twins => exact twins
  | moved _ _ _ induction => exact induction

end MovesApart

theorem step_apart (malformed : ∀ field ∈ fields, bundle.Malformed field)
    (twins : Twins (bundle.Copy fields) first second) :
    ∃ noted cleaned, MovedApart bundle fields first second .step noted cleaned ∧
      Twins (bundle.Copy fields) first.step second.step := by
  have faithful := Bundle.Copy.faithful bundle fields
  have alike (alongside : Alongside (bundle.Copy fields) first second first.step second.step) :
      ∃ noted cleaned, MovedApart bundle fields first second .step noted cleaned ∧
        Twins (bundle.Copy fields) first.step second.step := by
    obtain ⟨more, apart⟩ : ∃ more, MovedApart bundle fields first second .step more more :=
      MovedApart.of_alongside alongside
    exact ⟨more, more, apart, alongside.twins⟩
  have agendas := twins.agenda
  cases next : first.agenda with
  | nil =>
      rw [next, List.forall₂_nil_left_iff] at agendas
      refine alike ?_
      rw [step_nil next, step_nil agendas, twins.farewell]
      cases first.farewell with
      | nil => exact .refl twins
      | cons event farewell =>
          exact (twins.withFarewell farewell).andThen fun twins => twins.notify event
  | cons work agenda =>
      rw [next, List.forall₂_cons_left_iff] at agendas
      obtain ⟨other, others, twin, rest, otherNext⟩ := agendas
      have shorter := twins.withAgendas rest
      have carried (alongside : Alongside (bundle.Copy fields) { first with agenda }
          { second with agenda := others } ({ first with agenda }.carryOut work)
          ({ second with agenda := others }.carryOut other)) :=
        alike (by rw [step_cons next, step_cons otherNext]; exact shorter.trans alongside)
      cases twin with
      | call call => exact carried (shorter.twins.callThenApply faithful call)
      | inbound topic payload =>
          exact carried (shorter.twins.callThenApply faithful (.handleInbound topic payload))
      | bootstrap resumePaging => exact carried (shorter.twins.bootstrap faithful resumePaging)
      | dispatch context copies =>
          cases copies with
          | same => exact carried (shorter.twins.apply faithful _ context)
          | cleaned =>
              cases live : { first with agenda }.hasSession with
              | true =>
                  obtain ⟨noted, cleaned, apart⟩ := appliedApart malformed live shorter.twins
                  refine ⟨_, _, .applied next otherNext apart, ?_⟩
                  rw [step_cons next, step_cons otherNext]
                  exact apart.twins
              | false =>
                  refine carried ?_
                  rw [carryOut, carryOut, Session.apply, Session.apply, shorter.twins.hasSession,
                    live]
                  exact shorter.twins.report .noSession

theorem wake_apart (twins : Twins (bundle.Copy fields) first second) :
    ∃ noted cleaned, MovedApart bundle fields first second .wake noted cleaned ∧
      Twins (bundle.Copy fields) first.wake second.wake := by
  have faithful := Bundle.Copy.faithful bundle fields
  have waitings := twins.waiting
  have still (own : first.wake = first) (other : second.wake = second) :
      ∃ noted cleaned, MovedApart bundle fields first second .wake noted cleaned ∧
        Twins (bundle.Copy fields) first.wake second.wake := by
    refine ⟨[], [], .alike ?_ ?_ .nil, ?_⟩
    · exact .of_same (congrArg journal own) (congrArg listeners own)
    · exact .of_same (congrArg journal other) (congrArg listeners other)
    · rw [own, other]
      exact twins
  cases waits : first.waiting with
  | nil =>
      rw [waits, List.forall₂_nil_left_iff] at waitings
      exact still (by rw [wake, waits]) (by rw [wake, waitings])
  | cons waiting rest =>
      rw [waits, List.forall₂_cons_left_iff] at waitings
      obtain ⟨other, others, twin, behind, otherWaits⟩ := waitings
      have ripe : other.due ≤ second.now ↔ waiting.due ≤ first.now := by
        rw [twin.due, twins.now]
      by_cases due : waiting.due ≤ first.now
      · have shorter := twins.withWaitings behind
        have woken := shorter.twins.noted (.woken waiting) (.woken other)
        have continued : Alongside (bundle.Copy fields) _ _
            (({ first with waiting := rest }.note (.woken waiting)).continuePublishing
              waiting.bundle waiting.context)
            (({ second with waiting := others }.note (.woken other)).continuePublishing
              other.bundle waiting.context) :=
          woken.continuePublishing faithful twin.bundle
        obtain ⟨more, own, mirrored⟩ := continued.grows
        have firstWoken : first.wake = ({ first with waiting := rest }.note
            (.woken waiting)).continuePublishing waiting.bundle waiting.context := by
          rw [wake, waits]
          exact if_pos due
        have secondWoken : second.wake = ({ second with waiting := others }.note
            (.woken other)).continuePublishing other.bundle waiting.context := by
          rw [wake, otherWaits, ← twin.context]
          exact if_pos (ripe.mpr due)
        have noted (session : Session W) (waits : Waiting) (waiting : List Waiting) :
            Grows [.woken waits] session ({ session with waiting }.note (.woken waits)) :=
          .noting rfl rfl rfl
        refine ⟨.woken waiting :: more, .woken other :: more, .alike ?_ ?_ ?_, ?_⟩
        · rw [move, firstWoken]
          exact (noted first waiting rest).trans own
        · rw [move, secondWoken]
          exact (noted second other others).trans mirrored
        · exact .cons (.woken twin) (List.forall₂_same.mpr fun entry _ => .same entry)
        · rw [firstWoken, secondWoken]
          exact continued.twins
      · have undue : ¬ other.due ≤ second.now := mt ripe.mp due
        exact still (by rw [wake, waits]; exact if_neg due)
          (by rw [wake, otherWaits]; exact if_neg undue)

theorem movesApart (malformed : ∀ field ∈ fields, bundle.Malformed field)
    (unattended : ∀ next ∈ later, next.isUnattended = true)
    (twins : Twins (bundle.Copy fields) first second) :
    ∃ noted cleaned, MovesApart bundle fields later first second noted cleaned := by
  induction later generalizing first second with
  | nil => exact ⟨[], [], .done twins⟩
  | cons next rest induction =>
      have moved : ∃ noted cleaned, MovedApart bundle fields first second next noted cleaned ∧
          Twins (bundle.Copy fields) (first.move next) (second.move next) := by
        have alike (alongside : Alongside (bundle.Copy fields) first second (first.move next)
            (second.move next)) :
            ∃ noted cleaned, MovedApart bundle fields first second next noted cleaned ∧
              Twins (bundle.Copy fields) (first.move next) (second.move next) := by
          obtain ⟨more, apart⟩ := MovedApart.of_alongside alongside
          exact ⟨more, more, apart, alongside.twins⟩
        cases next with
        | step => exact step_apart malformed twins
        | wake => exact wake_apart twins
        | advance millis =>
            refine alike ?_
            unfold move advance
            rw [twins.now]
            exact twins.withNow _
        | surround outside => exact alike (twins.withOutside outside)
        | perform operation => cases unattended _ List.mem_cons_self
        | receive generation event => cases unattended _ List.mem_cons_self
      obtain ⟨noted, cleaned, apart, moved⟩ := moved
      obtain ⟨more, others, after⟩ := induction (fun next member =>
        unattended next (List.mem_cons_of_mem _ member)) moved
      exact ⟨_, _, .moved twins apart after⟩

theorem drain_eq_moves (steps : Nat) (session : Session W) :
    drain steps session = (List.replicate steps (.step : Move W)).foldl move session := by
  induction steps generalizing session with
  | zero => rfl
  | succ steps induction =>
      cases idle : session.isIdle with
      | true =>
          have still : session.step = session := by
            simp only [isIdle, Bool.and_eq_true, List.isEmpty_iff] at idle
            unfold step
            rw [idle.1, idle.2]
          have rest : ∀ count, (List.replicate count (.step : Move W)).foldl move session =
              session := by
            intro count
            induction count with
            | zero => rfl
            | succ count induction =>
                rw [List.replicate_succ, List.foldl_cons, move, still, induction]
          rw [drain_of_isIdle idle, rest]
      | false =>
          rw [drain_succ idle, induction, List.replicate_succ, List.foldl_cons]
          rfl

/-- Malformed fields are isolated. A live session that applies a bundle in which some
fields are malformed goes through the rows as it would without these fields, and reports
each of them in its row; what it then does and keeps is the same but for copies of the
bundle. So it is also while it carries out what the bundle leads to and takes up what it
delayed. -/
theorem malformed_fields_isolated {session : Session W} (live : session.hasSession = true)
    (malformed : ∀ field ∈ fields, bundle.Malformed field) (context : DispatchContext) :
    (∃ noted cleaned, AppliedApart bundle fields context session session noted cleaned) ∧
      ∀ (steps : Nat) (later : List (Move W)), (∀ next ∈ later, next.isUnattended = true) →
        ∃ noted cleaned,
          MovesApart bundle fields (List.replicate steps .step ++ later)
            (session.accept bundle context) (session.accept (bundle.without fields) context)
            noted cleaned ∧
          outward noted = outward cleaned ∧
          Grows (.received bundle context true :: noted) session
            (later.foldl move (drain steps (session.accept bundle context))) ∧
          Grows (.received (bundle.without fields) context true :: cleaned) session
            (later.foldl move
              (drain steps (session.accept (bundle.without fields) context))) ∧
          Twins (bundle.Copy fields)
            (later.foldl move (drain steps (session.accept bundle context)))
            (later.foldl move
              (drain steps (session.accept (bundle.without fields) context))) := by
  have same := (Bundle.Copy.faithful bundle fields).same
  refine ⟨appliedApart malformed live (.refl same session), fun steps later unattended => ?_⟩
  have accepted : Twins (bundle.Copy fields) (session.accept bundle context)
      (session.accept (bundle.without fields) context) :=
    (((Twins.refl same session).noted (.received bundle context session.hasSession)
      (.received (bundle.without fields) context session.hasSession)).enqueue_twin
        (.dispatch context .cleaned)).twins
  have all : ∀ next ∈ List.replicate steps (.step : Move W) ++ later,
      next.isUnattended = true := by
    intro next member
    rcases List.mem_append.mp member with stepping | member
    · rw [List.eq_of_mem_replicate stepping]
      rfl
    · exact unattended next member
  have arrived (bundle : Bundle) :
      Grows [.received bundle context true] session (session.accept bundle context) := by
    rw [← live]
    exact .noting rfl rfl rfl
  obtain ⟨noted, cleaned, apart⟩ := movesApart malformed all accepted
  have own := apart.grows
  have other := apart.growsWithout
  have ended := apart.twins
  rw [List.foldl_append, ← drain_eq_moves] at own other
  rw [List.foldl_append, List.foldl_append, ← drain_eq_moves, ← drain_eq_moves] at ended
  exact ⟨noted, cleaned, apart, apart.outward, (arrived bundle).trans own,
    (arrived (bundle.without fields)).trans other, ended⟩

def mangled : Bundle where
  ping := some "no hash, no time"
  balanceMsat := some 5000
  messages := [{ index := some "42" }]
  msgsCounts := some "many"
  settledStatus := some "42"
  settlement := some ⟨"settle", [1]⟩

def mangledFields : List Field :=
  [.settledStatus, .ping, .msgsCounts]

def attendedRun : Session Bench :=
  [.perform .addListener, .perform (.start "broker" twelveWords {})].foldl move
    (new .test (.new 7))

theorem malformed_fields_isolated_attendedRun :
    attendedRun.hasSession = true ∧ (∀ field ∈ mangledFields, mangled.Malformed field) ∧
      (∃ noted cleaned,
        AppliedApart mangled mangledFields {} attendedRun attendedRun noted cleaned) ∧
      ∃ noted cleaned,
        MovesApart mangled mangledFields [.step, .advance 250, .wake]
          (attendedRun.accept mangled {})
          (attendedRun.accept (mangled.without mangledFields) {}) noted cleaned ∧
        outward noted = outward cleaned := by
  have live : attendedRun.hasSession = true := by decide +kernel
  have malformed : ∀ field ∈ mangledFields, mangled.Malformed field := by decide +kernel
  have unattended : ∀ next ∈ ([.advance 250, .wake] : List (Move Bench)),
      next.isUnattended = true := by
    simp [Move.isUnattended]
  obtain ⟨applied, runs⟩ := malformed_fields_isolated live malformed {}
  obtain ⟨noted, cleaned, apart, same, -⟩ := runs 1 [.advance 250, .wake] unattended
  exact ⟨live, malformed, applied, noted, cleaned, apart, same⟩

end Session

end Messenger

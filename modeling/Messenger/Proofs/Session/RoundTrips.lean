import Messenger.Proofs.Lookup
import Messenger.Proofs.Session.Rows
import Messenger.Proofs.Session.Settlement
import Messenger.Proofs.Session.Sources

/-!
Which round trips the messages of a bundle confirm, and whether the bundle began them. A
bundle that announces its round trip never confirms it. One that a caller began by paying
an invoice does not either when it comes in, as the session is told then what was begun;
but nothing tells it when the bundle is taken up again after a confirmation.
-/

namespace Messenger

/-- The round trips that messages confirm, one after another. -/
def confirmedTimes (started : Option UInt64) : Liveness → List Message → List UInt64
  | _, [] => []
  | liveness, message :: rest =>
    match message.hash?.bind liveness.timestamp? with
    | none => confirmedTimes started liveness rest
    | some time =>
      if some time = started then confirmedTimes started liveness rest
      else time :: confirmedTimes started (liveness.purge time) rest

theorem mem_confirmedTimes {started : Option UInt64} {liveness : Liveness}
    {messages : List Message} {time : UInt64} :
    time ∈ confirmedTimes started liveness messages ↔
      some time ≠ started ∧
        ∃ message ∈ messages, message.hash?.bind liveness.timestamp? = some time := by
  induction messages generalizing liveness with
  | nil => simp [confirmedTimes]
  | cons message rest induction =>
      rw [List.exists_mem_cons_iff]
      unfold confirmedTimes
      split
      · rename_i untracked
        rw [untracked, induction]
        simp
      · rename_i own tracked
        split
        · rename_i begun
          rw [induction, tracked, ← begun]
          constructor
          · exact fun ⟨other, later⟩ => ⟨other, Or.inr later⟩
          · rintro ⟨other, same | later⟩
            · exact absurd same.symm other
            · exact ⟨other, later⟩
        · rename_i foreign
          -- the own round trip is no longer tracked for the rest of the messages
          simp only [List.mem_cons, induction, tracked, Liveness.bind_timestamp?_purge]
          by_cases same : time = own
          · subst same
            simp [foreign]
          · simp [same, Ne.symm same]

namespace Bundle

/-- The round trip of this time is one that the bundle began: it announces it, or else
every time that the bundle came in, the caller had begun it. -/
def Began (bundle : Bundle) (time : UInt64) (history : List Happening) : Prop :=
  bundle.announced? = some time ∨
    bundle.announced? = none ∧
      ∀ reception ∈ bundle.receptions history, reception.1 = .started time

/-- The bundle is applied without knowing the round trip that it began just when it is
taken up again and does not announce the round trip itself. -/
theorem Began.unknown_iff {bundle : Bundle} {time : UInt64} {outbox : Outbox}
    {context : DispatchContext} (began : bundle.Began time outbox.history)
    (sourced : outbox.Sourced) (ready : (bundle, context) ∈ outbox.ready) :
    some time ≠ bundle.roundTrip? context ↔
      bundle.announced? = none ∧ (context = .settled ∨ context = .asyncPaid) := by
  constructor
  · intro unknown
    rcases began with announces | ⟨silent, told⟩
    · rw [roundTrip?, announces] at unknown
      exact absurd rfl unknown
    · refine ⟨silent, ?_⟩
      rcases sourced _ ready with ⟨_, received⟩ | released
      · -- as it came in, it is applied with the time that the caller began
        have own : context = .started time := told _ received
        rw [roundTrip?, silent, own] at unknown
        exact absurd rfl unknown
      · simpa [DispatchContext.isRelease] using released
  · rintro ⟨silent, released⟩
    rw [roundTrip?, silent]
    rcases released with rfl | rfl <;> exact Option.some_ne_none time

end Bundle

namespace Session

variable {W : Type}

theorem confirmations_eq (session : Session W) (started : Option UInt64)
    (messages : List Message) :
    ∃ liveness, messages.foldl (completePing started) session =
      { session with
        liveness
        agenda := session.agenda ++
          (confirmedTimes started session.liveness messages).map
            fun time => .call (.pingDone time) } := by
  induction messages generalizing session with
  | nil => exact ⟨session.liveness, by simp [confirmedTimes]⟩
  | cons message rest induction =>
      rw [List.foldl_cons]
      unfold confirmedTimes
      obtain ⟨liveness, confirmed⟩ := induction (completePing started session message)
      refine ⟨liveness, confirmed.trans ?_⟩
      cases hash : message.hash? with
      | none => simp [completePing, hash]
      | some key =>
          cases tracked : session.liveness.timestamp? key with
          | none => simp [completePing, hash, tracked]
          | some time =>
              by_cases begun : some time = started
              · subst begun
                simp [completePing, hash, tracked]
              · simp [completePing, completeKey, Liveness.complete, enqueue, hash, tracked,
                  begun]

variable [Surroundings W]

/-- Paying an invoice begins a round trip: at the time that the answer announces, or else
at the time of the call. -/
theorem tryPayInvoice_begins {session called : Session W} {invoice hash : String}
    {bundle : Bundle} {time : UInt64}
    (known : Surroundings.paymentHash session.outside invoice = .ok hash)
    (answered : session.runCall (.payInvoice invoice) = (called, .ok (bundle, time))) :
    session.tryPayInvoice invoice =
      ({ called with
          liveness := called.liveness.record hash (bundle.announced?.getD time) }.accept bundle
        (.started (bundle.announced?.getD time)), .ok ()) := by
  unfold tryPayInvoice
  rw [known]
  dsimp only
  rw [answered]
  dsimp only
  rw [roundTripTime_eq]

/-- The session when it comes to the round trips that the messages of a bundle confirm. -/
def beforeConfirmations (session : Session W) (bundle : Bundle) (context : DispatchContext) :
    Session W :=
  (session.note (.applied bundle context)).applyRows bundle context Row.upToMessages

theorem step_dispatch {session : Session W} {bundle : Bundle} {context : DispatchContext}
    {rest : List Work} (next : session.agenda = .dispatch bundle context :: rest)
    (live : session.hasSession = true) :
    session.step =
      (({ session with agenda := rest }.beforeConfirmations bundle context).applyRow bundle
        context .confirmations).applyRows bundle context Row.fromNews := by
  have lives : { session with agenda := rest }.hasSession = true := live
  rw [step_eq_apply next]
  exact apply_eq_applyRows lives bundle context

/-- Whether the messages of a bundle confirm the round trip that it began: only if it does
not announce the round trip itself and is taken up again after a confirmation. -/
theorem confirms_own_iff_released {config : Config} {outside : W} {session : Session W}
    {bundle : Bundle} {context : DispatchContext} {rest : List Work} {time : UInt64}
    (reached : Reaches (new config outside) session)
    (next : session.agenda = .dispatch bundle context :: rest)
    (live : session.hasSession = true) (began : bundle.Began time session.history) :
    let before := { session with agenda := rest }.beforeConfirmations bundle context
    let after := before.applyRow bundle context .confirmations
    session.step = after.applyRows bundle context Row.fromNews ∧
      ∃ times : List UInt64,
        after.agenda = before.agenda ++ times.map (fun time => .call (.pingDone time)) ∧
        (time ∈ times ↔ bundle.announced? = none ∧
          (context = .settled ∨ context = .asyncPaid) ∧
          ∃ message ∈ bundle.messages,
            message.hash?.bind before.liveness.timestamp? = some time) := by
  intro before after
  have source : (new config outside).outbox.Sourced :=
    fun _ member => absurd member List.not_mem_nil
  have ready : (bundle, context) ∈ session.outbox.ready := by
    rw [outbox, next]
    exact List.mem_cons_self
  obtain ⟨liveness, confirmed⟩ :=
    before.confirmations_eq (bundle.roundTrip? context) bundle.messages
  have agenda : after.agenda = before.agenda ++
      (confirmedTimes (bundle.roundTrip? context) before.liveness bundle.messages).map
        fun time => .call (.pingDone time) := congrArg Session.agenda confirmed
  refine ⟨step_dispatch next live, _, agenda, ?_⟩
  rw [mem_confirmedTimes, began.unknown_iff (reached.steps.sourced source) ready, and_assoc]

/-- A payment whose own message bears the hash of the invoice, and no ping. -/
def paysInvoice : Bundle where
  messages := [{ index := some "42", paymentHash := some "hash" }]
  settlement := some ⟨"settle", [1]⟩

def invoiceBench : Bench :=
  { Bench.new 7 with
    script := {
      answers := [("pay_invoice", .ok paysInvoice)]
      inbound := [([1], settlesFortyTwo)]
      paymentHashes := KeyMap.ofList [("invoice", "hash")] } }

def invoiceMoves : List (Move Bench) :=
  [.perform (.start "broker" twelveWords {}), .perform (.payInvoice "invoice"), .step,
    .receive 1 (.message "02me/0/res/stream" [1]), .step, .step]

/-- The payment is settled, and its bundle is about to be taken up again. -/
def invoiceRun : Session Bench :=
  invoiceMoves.foldl move (new .test invoiceBench)

theorem invoiceRun_reached : Reaches (new .test invoiceBench) invoiceRun :=
  Reaches.here.moves (by decide +kernel)

theorem agenda_invoiceRun : invoiceRun.agenda = [.dispatch paysInvoice .settled] := by
  decide +kernel

/-- The invoice was paid one millisecond after the account was opened. -/
theorem receptions_invoiceRun :
    paysInvoice.receptions invoiceRun.history = [(.started 1700000000001, true)] := by
  decide +kernel

def invoiceTakenUp : Session Bench :=
  { invoiceRun with agenda := [] }.beforeConfirmations paysInvoice .settled

theorem confirms_own_iff_released_invoiceRun :
    paysInvoice.Began 1700000000001 invoiceRun.history ∧
      ∃ times : List UInt64, 1700000000001 ∈ times ∧
        (invoiceTakenUp.applyRow paysInvoice .settled .confirmations).agenda =
          invoiceTakenUp.agenda ++ times.map fun time => .call (.pingDone time) := by
  have live : invoiceRun.hasSession = true := by decide +kernel
  have began : paysInvoice.Began 1700000000001 invoiceRun.history := by
    refine Or.inr ⟨rfl, ?_⟩
    rw [receptions_invoiceRun]
    exact List.forall_mem_singleton.mpr rfl
  have tracked : ∃ message ∈ paysInvoice.messages,
      message.hash?.bind invoiceTakenUp.liveness.timestamp? = some 1700000000001 :=
    ⟨_, List.mem_singleton_self _, by decide +kernel⟩
  obtain ⟨-, times, agenda, confirms⟩ :=
    confirms_own_iff_released invoiceRun_reached agenda_invoiceRun live began
  exact ⟨began, times, confirms.mpr ⟨rfl, Or.inl rfl, tracked⟩, agenda⟩

/-- The bundle that came in when the invoice was paid confirms the payment's round trip
itself, once its settlement is complete. -/
theorem confirmed_by_own_bundle :
    Reaches (new .test invoiceBench) invoiceRun.step ∧
      paysInvoice.receptions invoiceRun.history = [(.started 1700000000001, true)] ∧
      paysInvoice.announced? = none ∧
      invoiceRun.agenda = [.dispatch paysInvoice .settled] ∧
      invoiceRun.step.agenda = [.call (.pingDone 1700000000001)] :=
  ⟨invoiceRun_reached.after .step rfl, receptions_invoiceRun, rfl, agenda_invoiceRun,
    by decide +kernel⟩

end Session

end Messenger

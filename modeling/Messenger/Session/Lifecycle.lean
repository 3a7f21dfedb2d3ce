import Messenger.Session.Dispatch

/-!
How an account comes to life: it is created with fresh words, restored from old ones, or
started again from what is stored. Each way ends in opening the account, and what it was
opened with is kept for reconnecting.
-/

namespace Messenger

structure RestoreParams where
  mixerAddress : String := ""
  defaultTribe : Option String := none
  tribeHost : Option String := none
  router : Option String := none
  deriving DecidableEq, Repr

namespace OpeningParams

def account (params : OpeningParams) (seed : String) (network : Network)
    (restoring : Bool) : Account where
  seed
  network
  mixer := params.address
  tribeServer := params.tribeServer
  router := params.router
  defaultTribe := params.defaultTribe
  restoring

end OpeningParams

namespace Session

variable {W : Type}

def addListener (session : Session W) : Session W :=
  { session with listeners := session.listeners ++ [[]] }

/-- The next account is to be restored from these words instead of created. -/
def beginRestore (session : Session W) (mnemonic : Mnemonic) : Session W :=
  { session with pendingRestore := some mnemonic }

/-- Leaves an event to be told once the agenda is done. -/
def lastly (session : Session W) (event : Event) : Session W :=
  { session with farewell := session.farewell ++ [event] }

variable [Surroundings W]

def seedFor (session : Session W) (mnemonic : Mnemonic) : Except SessionError String :=
  (Surroundings.seedFromMnemonic session.outside mnemonic).mapError .keyDerivation

def tryRestoreAccount (session : Session W) (params : RestoreParams) :
    Session W × Except SessionError Unit :=
  if session.connected then (session, .error .alreadyConnected)
  else
    match session.pendingRestore with
    | none => (session, .error (.keyDerivation "no mnemonic to restore from"))
    | some mnemonic =>
      let session := { session with pendingRestore := none }
      match session.seedFor mnemonic with
      | .error error => (session, .error error)
      | .ok seed =>
        let opening : OpeningParams := {
          address := params.mixerAddress
          mnemonic
          tribeServer := params.tribeHost
          router := params.router
          defaultTribe := params.defaultTribe }
        { session with lastOpening := some opening }.openAccount
          (opening.account seed session.config.network true) {} false

def restoreAccount (session : Session W) (params : RestoreParams) :
    Session W × Except SessionError Unit :=
  reported (session.tryRestoreAccount params)

def acceptInvite (session : Session W) (invite : ParsedInvite) :
    Session W × Except SessionError Unit :=
  match invite.inviterContactInfo.map Contact.parseInviter with
  | some (.error fault) => (session, .error (.ofFault fault))
  | some (.ok inviter) =>
    ((session.welcome inviter).given invite.initialTribe onInitialTribe, .ok ())
  | none => (session.given invite.initialTribe onInitialTribe, .ok ())

def resolveInvite (session : Session W) (mixer : String) :
    Option String → Session W × Except SessionError String
  | none => (session, .ok mixer)
  | some code =>
    match Surroundings.parseInvite session.outside code with
    | .error reason => (session, .error (.core "parse_invite" reason))
    | .ok invite =>
      let (session, outcome) := session.acceptInvite invite
      (session, outcome.map fun _ => invite.lspHost.getD mixer)

def createFrom (session : Session W) (mnemonic : Mnemonic) (displayName mixer : String)
    (inviteCode : Option String) : Session W × Except SessionError Unit :=
  match session.seedFor mnemonic with
  | .error error => (session, .error error)
  | .ok seed =>
    match session.resolveInvite mixer inviteCode with
    | (session, .error error) => (session, .error error)
    | (session, .ok address) =>
      let opening : OpeningParams := { address, mnemonic }
      let account := opening.account seed session.config.network false
      { session with lastOpening := some opening }.openAccount
        { account with inviteCode } { displayName } false

/-- Fresh words come from sixteen random bytes. -/
def tryCreateAccount (session : Session W) (displayName mixer : String)
    (inviteCode : Option String) : Session W × Except SessionError Unit :=
  if session.connected then (session, .error .alreadyConnected)
  else if session.pendingRestore.isSome then
    session.tryRestoreAccount { mixerAddress := mixer }
  else
    let (session, entropy) := session.randomBytes 16
    match Surroundings.mnemonicFromEntropy session.outside entropy with
    | .error reason => (session, .error (.keyDerivation reason))
    | .ok mnemonic =>
      (session.notify (.mnemonicGenerated mnemonic)).createFrom mnemonic displayName
        mixer inviteCode

def createAccount (session : Session W) (displayName mixer : String)
    (inviteCode : Option String) : Session W × Except SessionError Unit :=
  reported (session.tryCreateAccount displayName mixer inviteCode)

def reprime (session : Session W) : Session W :=
  let dashboard := session.dashboard
  let session := session.given dashboard.pendingInviter fun session inviter =>
    session.notify (.pendingInviter inviter)
  let session := session.given dashboard.initialTribe fun session tribe =>
    session.notify (.initialTribe tribe)
  (session.enqueue (.call .readMarkers)).lastly (.connection .connected)

/-- Opens an account with known words. With `resume` a restore that is under way goes on
where it stopped. -/
def tryStart (session : Session W) (params : OpeningParams) (owner : Owner)
    (resume : Bool) : Session W × Except SessionError Unit :=
  let session := { session with lastOpening := some params }
  if session.connected then (session.reprime, .ok ())
  else
    match session.seedFor params.mnemonic with
    | .error error => (session, .error error)
    | .ok seed =>
      let restoring := resume && session.restore.isRestoring
      session.openAccount (params.account seed session.config.network restoring) owner
        resume

def start (session : Session W) (address : String) (mnemonic : Mnemonic)
    (owner : Owner) : Session W × Except SessionError Unit :=
  reported (session.tryStart { address, mnemonic } owner false)

/-- A live connection is only refreshed; otherwise the account is opened again as it was
opened last. -/
def reconnect (session : Session W) : Session W × Except SessionError Unit :=
  if session.connected then
    let session := (session.enqueue (.call .readMarkers)).enqueue (.call .muteLevels)
    (session.lastly (.connection .connected), .ok ())
  else
    match session.lastOpening with
    | none => reported (session, .error .noSession)
    | some params => reported (session.disconnect.tryStart params session.owner true)

end Session

end Messenger

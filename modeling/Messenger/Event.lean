import Messenger.Core.Call
import Messenger.Payload.Contact
import Messenger.Payload.Counts
import Messenger.Payload.Status
import Messenger.SessionError

/-! What listeners are told. -/

namespace Messenger

inductive ConnectionStatus where
  | connecting
  | connected
  | disconnected
  deriving DecidableEq, Repr

structure Registration where
  contact : Contact
  restoring : Bool
  production : Bool
  router : Option String
  defaultTribe : Option String
  deriving DecidableEq, Repr

inductive Event where
  | connection (status : ConnectionStatus)
  | userStateChanged (stored : String)
  | messageIndex (index : UInt64)
  | balance (sats : UInt64)
  | newTribe (tribe : String)
  | tribeMembers (members : String)
  | ownerRegistered (registration : Registration)
  | pendingInviter (inviter : Contact)
  | msgsCounts (counts : Counts)
  | msgsTotal (total : UInt64)
  | lastRead (markers : String)
  | initialTribe (tribe : String)
  | sentStatus (status : SentStatus)
  | inviteCreated (invite : Invite)
  | muteLevels (levels : String)
  | payments (page : String)
  | paymentsTotal (total : UInt64)
  | tags (tags : String)
  | mixerChanged (address : String)
  | mnemonicGenerated (mnemonic : Mnemonic)
  | restoreProgress (percent : UInt8)
  | restoreFinished
  | restoreCancelled
  | syncFinished
  | pendingInvoicesPaid
  | error (error : SessionError)
  deriving DecidableEq, Repr

inductive Callback where
  | event (event : Event)
  | upsertTribes (messages : List Message)
  | upsertContacts (messages : List Message)
  | deliver (message : Message)
  deriving DecidableEq, Repr

end Messenger

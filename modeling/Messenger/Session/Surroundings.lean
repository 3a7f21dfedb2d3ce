import Messenger.Core.Call

/-!
What surrounds a session: the wall clock, a source of randomness, the key core and
the link to the broker. A session knows them only by their answers.
-/

namespace Messenger

class Surroundings (W : Type) where
  /-- A reading of the wall clock in milliseconds, `now` milliseconds into the run. -/
  wallMillis : W → (now : Nat) → UInt64 × W
  randomBytes : W → (count : Nat) → Bytes × W
  mnemonicFromEntropy : W → Bytes → Except String Mnemonic
  seedFromMnemonic : W → Mnemonic → Except String String
  publicKey : W → (seed : String) → (time : UInt64) → Network → Except String String
  signature : W → (seed : String) → (time : UInt64) → Network → Except String String
  paymentHash : W → (invoice : String) → Except String String
  parseInvite : W → (code : String) → Except String ParsedInvite
  runCall : W → CoreContext → CoreCall → Except String Bundle × W
  connect : W → (generation : Nat) → ConnectOptions → Except LinkError Unit × W
  publish : W → Publish → Except LinkError Unit × W
  subscribe : W → (topics : List String) → Except LinkError Unit × W
  disconnect : W → W

/-- The longest that the asynchronous runtime sleeps, in milliseconds: thirty years of 365
days. The cap is the runtime's; a session may be configured with any delay. -/
def longestSleep : Nat := 30 * 365 * 24 * 60 * 60 * 1000

/-- How long the runtime sleeps if it is asked for a delay. -/
def sleepTime (millis : Nat) : Nat := min millis longestSleep

end Messenger

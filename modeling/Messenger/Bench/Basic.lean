import Messenger.Bench.Channel
import Messenger.Bench.Keystream
import Messenger.Bench.Script
import Messenger.Session.Surroundings
import Messenger.Word

/-!
Surroundings that are repeatable: a scripted key core, a link inside the process, seeded
randomness, and a wall clock that moves with the time of the run.
-/

namespace Messenger

structure Bench where
  script : Script := {}
  channel : Channel := {}
  keystream : Keystream

namespace Bench

def new (seed : UInt64) : Bench where
  keystream := .ofSeed seed

/-- The wall clock in milliseconds; a run begins on 14 November 2023. -/
def wallMillis (now : Nat) : UInt64 :=
  Word.saturatingAdd 1700000000000 (Word.ofCount now)

def randomBytes (bench : Bench) (count : Nat) : Bytes × Bench :=
  let (bytes, keystream) := bench.keystream.take count
  (bytes, { bench with keystream })

def runCall (bench : Bench) (call : CoreCall) : Except String Bundle × Bench :=
  let (answer, script) := bench.script.run call
  (answer, { bench with script })

def connect (bench : Bench) (generation : Nat) : Bench :=
  { bench with channel := bench.channel.connect generation }

def publish (bench : Bench) (publish : Publish) : Except LinkError Unit × Bench :=
  let (outcome, channel) := bench.channel.publish publish
  (outcome, { bench with channel })

def subscribe (bench : Bench) : Except LinkError Unit × Bench :=
  let (outcome, channel) := bench.channel.subscribe
  (outcome, { bench with channel })

def disconnect (bench : Bench) : Bench :=
  { bench with channel := bench.channel.disconnect }

instance : Surroundings Bench where
  wallMillis bench now := (wallMillis now, bench)
  randomBytes := randomBytes
  mnemonicFromEntropy _ := Script.mnemonicFromEntropy
  seedFromMnemonic _ := Script.seedFromMnemonic
  publicKey _ seed _ network := .ok (Script.publicKey seed network)
  signature _ _ time _ := .ok (Script.signature time)
  paymentHash bench := bench.script.paymentHash
  parseInvite bench _ := .ok bench.script.invite
  runCall bench _ := bench.runCall
  connect bench generation _ := (.ok (), bench.connect generation)
  publish := publish
  subscribe bench _ := bench.subscribe
  disconnect := disconnect

end Bench

end Messenger

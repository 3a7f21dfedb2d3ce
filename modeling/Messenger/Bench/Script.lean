import Messenger.Core.Call
import Messenger.KeyMap
import Messenger.Text.Blank

/-!
A key core that answers from a script. A call takes the next answer scripted under its
name; inbound payloads are answered by what they are, each time they arrive. What is not
scripted is answered by the empty bundle.
-/

namespace Messenger

structure Script where
  answers : List (String × Except String Bundle) := []
  /-- The latest first. -/
  inbound : List (Bytes × Bundle) := []
  invite : ParsedInvite := {}
  paymentHashes : KeyMap String := ∅

namespace Script

def answer (script : Script) (name : String) (answer : Except String Bundle) : Script :=
  { script with answers := script.answers ++ [(name, answer)] }

def answerInbound (script : Script) (payload : Bytes) (bundle : Bundle) : Script :=
  { script with inbound := (payload, bundle) :: script.inbound }

def knowInvoice (script : Script) (invoice hash : String) : Script :=
  { script with paymentHashes := script.paymentHashes.insert invoice hash }

def nextAnswer (script : Script) (name : String) : Except String Bundle × Script :=
  match script.answers.find? fun entry => entry.1 == name with
  | none => (.ok {}, script)
  | some (_, answer) =>
    (answer, { script with
      answers := script.answers.eraseP fun entry => entry.1 == name })

def run (script : Script) (call : CoreCall) : Except String Bundle × Script :=
  match call with
  | .handleInbound _ payload =>
    match script.inbound.lookup payload with
    | some bundle => (.ok bundle, script)
    | none => (.ok {}, script)
  | _ => script.nextAnswer call.name

def paymentHash (script : Script) (invoice : String) : Except String String :=
  match script.paymentHashes.get? invoice with
  | some hash => .ok hash
  | none => .error ("undecodable invoice " ++ invoice)

/-- Whatever the sixteen bytes are, the words are the same. -/
def mnemonicFromEntropy (entropy : Bytes) : Except String Mnemonic :=
  if entropy.length = 16 then
    .ok ⟨" ".intercalate (List.replicate 11 "abandon" ++ ["about"])⟩
  else
    .error ("entropy must be 16 bytes, got " ++ Decimal.write entropy.length)

def seedFromMnemonic (mnemonic : Mnemonic) : Except String String :=
  if Text.wordCount mnemonic.words.toList = 12 then
    .ok (String.join (List.replicate 16 "5eed"))
  else
    .error "mnemonic must have 12 words"

def withinBytes : (count : Nat) → List Char → List Char
  | _, [] => []
  | count, letter :: rest =>
    if letter.utf8Size ≤ count then
      letter :: withinBytes (count - letter.utf8Size) rest
    else []

def publicKey (seed : String) (network : Network) : String :=
  "xpub-" ++ network.name ++ "-" ++ String.ofList (withinBytes 8 seed.toList)

def signature (time : UInt64) : String :=
  "sig-" ++ Decimal.write time.toNat

end Script

end Messenger

import Messenger.ReadFault
import Messenger.Text.Cut

/-! Contact details: a public key, and after an underscore a route hint to it. -/

namespace Messenger

structure Contact where
  key : String
  /-- Never empty. -/
  routeHint : Option String
  deriving DecidableEq, Repr

namespace Contact

def build (field : Field) (key : List Char) (hint : Option (List Char)) :
    Except ReadFault Contact :=
  if key.isEmpty then .error ⟨.format, field, .emptyKey⟩
  else
    .ok {
      key := String.ofList key
      routeHint := (hint.filter fun hint => !hint.isEmpty).map String.ofList }

/-- The account's own details: the key ends at the first underscore. -/
def parseOwn (raw : String) : Except ReadFault Contact :=
  match Text.cutFirst ['_'] raw.toList with
  | some (key, hint) => build .myContactInfo key (some hint)
  | none => build .myContactInfo raw.toList none

/-- An inviter's details: the first of the pieces between underscores is the key, and
the others together are the hint. -/
def parseInviter (raw : String) : Except ReadFault Contact :=
  match raw.toList.splitOn '_' with
  | [] => build .inviterContactInfo [] none
  | [key] => build .inviterContactInfo key none
  | key :: hint => build .inviterContactInfo key (some (['_'].intercalate hint))

end Contact

end Messenger

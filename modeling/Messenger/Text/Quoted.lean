import Messenger.Text.Decimal
import Messenger.Text.Hexadecimal
import Messenger.Text.Hidden

/-!
Text in double quotes, as it is shown in messages: quotes, backslashes and characters
that would not be seen are escaped.
-/

namespace Messenger

namespace Text

def quoteChar (c : Char) : List Char :=
  match c with
  | '"' => ['\\', '"']
  | '\\' => ['\\', '\\']
  | '\t' => ['\\', 't']
  | '\n' => ['\\', 'n']
  | '\r' => ['\\', 'r']
  | '\x00' => ['\\', '0']
  | c =>
    if isHidden c then ['\\', 'u', '\x7b'] ++ Hexadecimal.write c.toNat ++ ['\x7d']
    else [c]

def quote (text : String) : String :=
  String.ofList ('"' :: text.toList.flatMap quoteChar ++ ['"'])

/-- Stands for bytes that are not to be shown. -/
def byteCount (count : Nat) : String :=
  "<" ++ Decimal.write count ++ " bytes>"

end Text

end Messenger

import Messenger.Text.Hexadecimal

/-!
Writing JSON without white space. Only quotes, backslashes and control characters
are escaped.
-/

namespace Messenger

namespace Json

def writeChar (c : Char) : List Char :=
  match c with
  | '"' => ['\\', '"']
  | '\\' => ['\\', '\\']
  | '\x08' => ['\\', 'b']
  | '\x0c' => ['\\', 'f']
  | '\n' => ['\\', 'n']
  | '\r' => ['\\', 'r']
  | '\t' => ['\\', 't']
  | c =>
    if c.toNat < 0x20 then ['\\', 'u', '0', '0'] ++ Hexadecimal.writePair c.toNat
    else [c]

def writeString (text : List Char) : List Char :=
  '"' :: text.flatMap writeChar ++ ['"']

def writeMember (member : String × String) : List Char :=
  writeString member.1.toList ++ ':' :: writeString member.2.toList

def writeStrings (members : List (String × String)) : String :=
  String.ofList ('{' :: [','].intercalate (members.map writeMember) ++ ['}'])

end Json

end Messenger

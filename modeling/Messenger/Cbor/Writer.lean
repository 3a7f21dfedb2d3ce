import Messenger.Bytes

/-! Writing CBOR: definite lengths, and always the shortest head. -/

namespace Messenger

namespace Cbor

def writeHead (major argument : Nat) : Bytes :=
  let initial (low : Nat) := UInt8.ofNat (major * 32 + low)
  if argument < 24 then [initial argument]
  else if argument < UInt8.size then initial 24 :: Bytes.ofNat 1 argument
  else if argument < UInt16.size then initial 25 :: Bytes.ofNat 2 argument
  else if argument < UInt32.size then initial 26 :: Bytes.ofNat 4 argument
  else initial 27 :: Bytes.ofNat 8 argument

def writeBytes (bytes : Bytes) : Bytes :=
  writeHead 2 bytes.length ++ bytes

def writeText (text : String) : Bytes :=
  let bytes := text.toUTF8.data.toList
  writeHead 3 bytes.length ++ bytes

def writeMap (entries : List (String × Bytes)) : Bytes :=
  writeHead 5 entries.length ++
    entries.flatMap fun entry => writeText entry.1 ++ writeBytes entry.2

end Cbor

end Messenger

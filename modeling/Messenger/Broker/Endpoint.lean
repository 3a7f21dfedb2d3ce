import Messenger.Text.Cut
import Messenger.Text.Decimal

/-! Configuration of a session, and the broker addresses it resolves. -/

namespace Messenger

inductive Network where
  | bitcoin
  | regtest
  deriving DecidableEq, Repr

def Network.name : Network → String
  | .bitcoin => "bitcoin"
  | .regtest => "regtest"

structure Config where
  production : Bool := true
  productionPort : UInt16 := 8883
  testPort : UInt16 := 1883
  keepAlive : Nat := 60000
  contactsPageSize : UInt32 := 100
  messagesPageSize : UInt32 := 100
  registerDelay : Nat := 250
  network : Network := .bitcoin
  device : String := "switchboard"
  deriving DecidableEq, Repr

namespace Config

def test : Config where
  production := false
  network := .regtest

def defaultPort (config : Config) : UInt16 :=
  if config.production then config.productionPort else config.testPort

end Config

structure Endpoint where
  host : String
  port : UInt16
  tls : Bool
  deriving DecidableEq, Repr

inductive AddressFault where
  | badPort
  | emptyHost
  /-- A reason given by someone else, in their words. -/
  | told (text : String)
  deriving DecidableEq, Repr

def AddressFault.text : AddressFault → String
  | .badPort => "bad port"
  | .emptyHost => "empty host"
  | .told text => text

namespace Endpoint

def dropScheme (address : List Char) : List Char :=
  match Text.cutFirst [':', '/', '/'] address with
  | some (_, rest) => rest
  | none => address

def readHostPort (config : Config) (text : List Char) :
    Except AddressFault (List Char × UInt16) :=
  match Text.cutLast ':' text with
  | none => .ok (text, config.defaultPort)
  | some (host, port) =>
    match Decimal.read16? port with
    | some port => .ok (host, port)
    | none => .error .badPort

/-- Resolves `host`, `host:port` or `scheme://host:port`, with any number of slashes at
the end. Whether TLS is used follows from the configuration, not from the scheme. -/
def parse (address : String) (config : Config) : Except AddressFault Endpoint :=
  match readHostPort config (Text.dropTrailing '/' (dropScheme address.toList)) with
  | .error fault => .error fault
  | .ok (host, port) =>
    if host.isEmpty then .error .emptyHost
    else .ok { host := String.ofList host, port, tls := config.production }

end Endpoint

end Messenger

import Seedbed.Redaction
import Seedbed.Seeding.Basic
import Seedbed.Text.Quoted
import Seedbed.Url.Basic

/-!
# Connecting to a database

A connection string is a URL whose parts and whose query parameters say where to connect and how.
This library holds no driver for a database, so connecting always fails: because the string is
wrong (`ConnectionFault`), or because there is no server (`Server.absence`). The failure shows the
connection string without its secrets. Parameters that are not known are ignored, which is noted.
-/

namespace Seedbed

/-- Why a number in a connection string is none, or does not fit. -/
inductive NumberFault
  | empty
  | digit
  | tooLarge
  deriving DecidableEq, Repr

def NumberFault.message : NumberFault → String
  | empty => "cannot parse integer from empty string"
  | digit => "invalid digit found in string"
  | tooLarge => "number too large to fit in target type"

/-- What is wrong with a connection string. -/
inductive ConnectionFault
  | url (fault : UrlFault)
  | coding (fault : Text.CodingFault)
  | mode (text : String)
  | number (fault : NumberFault)
  | address
  deriving DecidableEq, Repr

namespace ConnectionFault

/-- What every fault of a connection string starts with. -/
def introduction : String := "error with configuration: "

def message : ConnectionFault → String
  | url fault => introduction ++ fault.message
  | coding fault => introduction ++ fault.message
  | mode text =>
    introduction ++ introduction ++ "unknown value " ++ Text.quoted text ++ " for `ssl_mode`"
  | number fault => introduction ++ fault.message
  | address => introduction ++ "invalid IP address syntax"

end ConnectionFault

/-- How a server is asked for: over a network, or at a socket in a directory. -/
inductive Server
  | network
  | socket
  deriving DecidableEq, Repr

/-- What is told of a server that is not there: on a network it is waited for, while a socket is
known to be missing at once. -/
def Server.absence : Server → String
  | network => "pool timed out while waiting for an open connection"
  | socket => "error communicating with database: " ++ ReadFailure.notFound.message

namespace Connection

variable {σ : Type}

/-- Reads a number of an unsigned word digit by digit, so that the first fault counts. -/
def readDigits (bits n : Nat) : List Char → Except NumberFault Nat
  | [] => .ok n
  | c :: rest =>
    if !c.isDigit then .error .digit
    else
      let n := n * 10 + Number.digitValue c
      if n < 2 ^ bits then readDigits bits n rest else .error .tooLarge

/-- Reads a number of an unsigned word; a plus sign may stand in front of its digits. -/
def readNumber (bits : Nat) (text : String) : Except NumberFault Nat :=
  match text.toList with
  | [] => .error .empty
  | ['+'] => .error .digit
  | '+' :: digits => readDigits bits 0 digits
  | digits => readDigits bits 0 digits

/-- The modes of a secured connection. -/
def modes : List String :=
  ["disable", "allow", "prefer", "require", "verify-ca", "verify-full"]

/-- The parameters that take any text. -/
def freeParameters : List String :=
  ["sslrootcert", "ssl-root-cert", "ssl-ca", "sslcert", "ssl-cert", "sslkey", "ssl-key", "dbname",
    "user", "password", "application_name", "options"]

/-- What becomes of a parameter: it may also ask for a socket. -/
inductive Reception
  | accepted
  | atSocket
  | ignored
  | refused (fault : ConnectionFault)

/-- A parameter that must be a number. -/
def receiveNumber (bits : Nat) (value : String) : Reception :=
  match readNumber bits value with
  | .ok _ => .accepted
  | .error fault => .refused (.number fault)

/-- Takes a parameter. -/
def receive (name value : String) : Reception :=
  match name with
  | "sslmode" | "ssl-mode" =>
    if modes.contains (String.ofList (value.toList.map Char.toLower)) then .accepted
    else .refused (.mode value)
  | "statement-cache-capacity" => receiveNumber 64 value
  | "port" => receiveNumber 16 value
  | "hostaddr" =>
    if Address.isShort value.toList || Address.isLong value.toList then .accepted
    else .refused .address
  | "host" => if isAbsolute value then .atSocket else .accepted
  | name =>
    if freeParameters.contains name || "options[".isPrefixOf name then .accepted else .ignored

/-- Takes parameters in order, up to the first that is refused. Once a socket is asked for, no
parameter asks for a network again. -/
def receiveAll (server : Server) : List (String × String) → Work ConnectionFault σ Server
  | [] => return server
  | (name, value) :: rest =>
    match receive name value with
    | .accepted => receiveAll server rest
    | .atSocket => receiveAll .socket rest
    | .refused fault => Work.fail fault
    | .ignored => do
      Work.note (.parameterIgnored name value)
      receiveAll server rest

/-- Checks that a part of a URL is a text, read through its escapes. -/
def checkText (part : List Char) : Except ConnectionFault Unit := do
  let _ ← (Text.decode (Url.unescape part)).mapError .coding

/-- The server that the host of a URL asks for: a host that starts with an escaped slash is the
directory of a socket. -/
def serverOf (url : Url) : Server :=
  if (Url.unescape url.host).head? = some 0x2F then .socket else .network

/-- Checks the parts of a URL in order. A host is only read if it is the directory of a socket. -/
def checkParts (url : Url) : Except ConnectionFault Unit := do
  if serverOf url = .socket then checkText url.host
  checkText url.username
  checkText url.password
  checkText url.path

/-- Reads a connection string: how it asks for a server. -/
def read (text : String) : Work ConnectionFault σ Server := do
  let url ← Work.ofExcept ((Url.parse text.toList).mapError .url)
  Work.ofExcept (checkParts url)
  receiveAll (serverOf url) url.parameters

/-- Connects to a database, which fails. -/
def connect {α : Type} (text : String) : Work RunFailure σ α := do
  let target := (Redaction.redact text).redacted
  Work.note (.connecting target)
  let server ← Work.mapError (fun fault => .connection target fault.message) (read text)
  Work.fail (.connection target server.absence)

end Connection

end Seedbed

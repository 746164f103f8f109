import Seedbed.Domain.Basic
import Seedbed.Text.Utf8
import Seedbed.Url.Address
import Seedbed.Url.Percent

/-!
# URLs

A URL is a scheme and, behind two slashes, an authority: perhaps user information, a host, and
perhaps a port. A path, a query and a fragment follow. Some schemes are special: their authority may
stand behind any number of slashes, a backslash counts as a slash, and their host is a domain.

`Url.parse` cuts a text into these parts as they are written, with their escapes, and refuses a text
that is no absolute URL.
-/

namespace Seedbed

/-- Why a text is no URL. -/
inductive UrlFault
  | relative
  | emptyHost
  | domainCharacter
  | internationalDomain
  | shortAddress
  | longAddress
  | port
  deriving DecidableEq, Repr

def UrlFault.message : UrlFault → String
  | relative => "relative URL without a base"
  | emptyHost => "empty host"
  | domainCharacter => "invalid domain character"
  | internationalDomain => "invalid international domain name"
  | shortAddress => "invalid IPv4 address"
  | longAddress => "invalid IPv6 address"
  | port => "invalid port number"

/-- The parts of a URL that say what to connect to, as they are written. An empty host is none, and
so is empty user information. -/
structure Url where
  username : List Char := []
  password : List Char := []
  host : List Char := []
  port : Option Nat := none
  /-- The path behind the slashes at its start. -/
  path : List Char := []
  query : List Char := []
  deriving DecidableEq, Repr

namespace Url

/-- The kinds of schemes. -/
inductive Scheme
  | file
  | special
  | plain
  deriving DecidableEq, Repr

/-- The kind of a scheme by its name, in any case. -/
def Scheme.of (name : List Char) : Scheme :=
  match String.ofList (name.map Char.toLower) with
  | "file" => .file
  | "http" | "https" | "ws" | "wss" | "ftp" => .special
  | _ => .plain

/-- Whether a character separates the parts of a path. -/
def Scheme.isSlash (scheme : Scheme) (c : Char) : Bool :=
  c = '/' || (c = '\\' && scheme ≠ .plain)

/-- Whether a character ends the authority. -/
def Scheme.endsAuthority (scheme : Scheme) (c : Char) : Bool :=
  scheme.isSlash c || c = '?' || c = '#'

/-- The text without blanks and control characters at its ends, nor tabs and line ends anywhere. -/
def trim (text : List Char) : List Char :=
  let isOuter (c : Char) : Bool := c.toNat ≤ 0x20
  let text := ((text.dropWhile isOuter).reverse.dropWhile isOuter).reverse
  text.filter fun c => c != '\t' && c != '\n' && c != '\r'

/-- Whether a character may stand in the name of a scheme behind its first letter. -/
def isSchemeChar (c : Char) : Bool :=
  c.isAlphanum || c == '+' || c == '-' || c == '.'

/-- The scheme of a URL, with the text behind its colon. -/
def cutScheme (text : List Char) : Except UrlFault (Scheme × List Char) :=
  match text.takeWhile isSchemeChar, text.dropWhile isSchemeChar with
  | first :: name, ':' :: rest =>
    if first.isAlpha then .ok (.of (first :: name), rest) else .error .relative
  | _, _ => .error .relative

/-- The user information in front of the last `@` of an authority, with what follows it. Nothing but
an end may not follow an empty one. -/
def cutUser (scheme : Scheme) (text : List Char) :
    Except UrlFault (Option (List Char) × List Char) :=
  let authority := text.takeWhile fun c => !scheme.endsAuthority c
  match Text.splitLast '@' authority with
  | none => .ok (none, text)
  | some (user, _) =>
    let rest := text.drop (user.length + 1)
    if user.isEmpty ∧ rest.head?.any scheme.endsAuthority then .error .emptyHost
    else .ok (some user, rest)

/-- The characters of a host, up to a colon outside brackets or the end of the authority. -/
def takeHost (scheme : Scheme) (inside : Bool) : List Char → List Char
  | [] => []
  | c :: rest =>
    if scheme.endsAuthority c || (c = ':' && !inside) then []
    else c :: takeHost scheme (c = '[' || (inside && c ≠ ']')) rest

/-- The address between the brackets of a host that starts with one. -/
def checkBracketed (inside : List Char) : Except UrlFault Unit :=
  if inside.getLast? = some ']' && Address.isLong inside.dropLast then .ok ()
  else .error .longAddress

/-- Whether a character may not stand in a host of a scheme that is not special. -/
def isForbiddenInHost (c : Char) : Bool :=
  c.toNat = 0 || "\t\n\r #/:<>?@[\\]^|".toList.contains c

/-- Whether a character may not stand in a domain. -/
def isForbiddenInDomain (c : Char) : Bool :=
  c.toNat ≤ 0x20 || c.toNat = 0x7F || c = '%' || isForbiddenInHost c

/-- Checks a domain: it is read through its escapes, and an address if it ends in a number. -/
def checkDomain (host : List Char) : Except UrlFault Unit := do
  let written ← (Text.decode (unescape host)).mapError fun _ => .internationalDomain
  match Domain.read? written with
  | none => throw .internationalDomain
  | some labels =>
    let name := Text.joinWith ['.'] labels
    if name.any isForbiddenInDomain then throw .internationalDomain
    else if name.isEmpty then throw .emptyHost
    else if Address.endsInNumber name && !Address.isLooseShort name then throw .shortAddress

/-- Checks a host. -/
def checkHost (scheme : Scheme) (host : List Char) : Except UrlFault Unit :=
  match host with
  | '[' :: inside => checkBracketed inside
  | _ =>
    if scheme = .plain then
      if host.any isForbiddenInHost then .error .domainCharacter else .ok ()
    else if host.isEmpty then .error .emptyHost
    else checkDomain host

/-- The digits of a port from a number on, with what follows them. -/
def cutDigits (port : Option Nat) : List Char → Except UrlFault (Option Nat × List Char)
  | [] => .ok (port, [])
  | c :: rest =>
    if c.isDigit then
      let n := port.getD 0 * 10 + (c.toNat - '0'.toNat)
      if n < 2 ^ 16 then cutDigits (some n) rest else .error .port
    else if c = '/' || c = '\\' || c = '?' || c = '#' then .ok (port, c :: rest)
    else .error .port

/-- The port behind a host, with what follows it. -/
def cutPort (host text : List Char) : Except UrlFault (Option Nat × List Char) :=
  match text with
  | ':' :: rest => if host.isEmpty then .error .emptyHost else cutDigits none rest
  | _ => .ok (none, text)

/-- Whether a part of a path stays where it is, also if its dot is escaped. -/
def isSingleDot (part : List Char) : Bool :=
  [".", "%2e"].contains (String.ofList (part.map Char.toLower))

/-- Whether a part of a path leads up, also if its dots are escaped. -/
def isDoubleDot (part : List Char) : Bool :=
  ["..", "%2e%2e", "%2e.", ".%2e"].contains (String.ofList (part.map Char.toLower))

/-- The parts of a path between its slashes. -/
def cutPath (scheme : Scheme) (text : List Char) : List (List Char) :=
  Text.splitOn '/' (text.map fun c => if scheme.isSlash c then '/' else c)

/-- Whether a part of a path is the letter of a drive. -/
def isDrive (part : List Char) : Bool :=
  match part with
  | [letter, mark] => letter.isAlpha && (mark = ':' || mark = '|')
  | _ => false

/-- Adds a part to those of a path, last first. None leads up from the letter of a drive. At the end
of a path, one that stays or leads up leaves an empty part. -/
def addPart (parts : List (List Char)) (part : List Char) (isLast : Bool) : List (List Char) :=
  let closed (parts : List (List Char)) : List (List Char) := if isLast then [] :: parts else parts
  if isDoubleDot part then closed (if parts.head?.any isDrive then parts else parts.drop 1)
  else if isSingleDot part then closed parts
  else part :: parts

/-- Follows the parts of a path that lead up or stay. -/
def followParts (parts : List (List Char)) : List (List Char) → List (List Char)
  | [] => parts.reverse
  | part :: rest => followParts (addPart parts part rest.isEmpty) rest

/-- The path behind the slashes at its start. A path is only followed if it starts with a slash or
stands behind an authority. -/
def simplePath (scheme : Scheme) (followed : Bool) (text : List Char) : List Char :=
  let parts := cutPath scheme (if text.head?.any scheme.isSlash then text.drop 1 else text)
  let path := if followed then Text.joinWith ['/'] (followParts [] parts) else text
  path.dropWhile (· == '/')

/-- Sets the path and the query of a URL; a fragment is left out. -/
def withPath (url : Url) (scheme : Scheme) (followed : Bool) (text : List Char) : Url :=
  let text := text.takeWhile (· != '#')
  let path := text.takeWhile (· != '?')
  { url with
    path := simplePath scheme followed path
    query := (text.dropWhile (· != '?')).drop 1 }

/-- The user name and the password of user information, cut at its first colon. -/
def withUser (url : Url) (user : Option (List Char)) : Url :=
  match user with
  | none => url
  | some user =>
    match Text.splitFirst ':' user with
    | some (username, password) => { url with username, password }
    | none => { url with username := user }

/-- Reads a URL behind the slashes in front of its authority. -/
def parseAuthority (scheme : Scheme) (text : List Char) : Except UrlFault Url := do
  let (user, text) ← cutUser scheme text
  let host := takeHost scheme false text
  checkHost scheme host
  let (port, rest) ← cutPort host (text.drop host.length)
  let url := ({ host, port } : Url).withUser user
  if host.isEmpty ∧ ¬(url.username.isEmpty ∧ url.password.isEmpty) then throw .emptyHost
  return url.withPath scheme true rest

/-- Reads the URL of a file behind its scheme. Its host ends at a slash only; the letter of a drive
in its place belongs to the path. -/
def parseFile (text : List Char) : Except UrlFault Url := do
  match text with
  | a :: b :: rest =>
    if Scheme.file.isSlash a && Scheme.file.isSlash b then
      let host := rest.takeWhile fun c => !Scheme.file.endsAuthority c
      if host.isEmpty || isDrive host then return ({} : Url).withPath .file true rest
      else
        checkHost .file host
        let host := if host = "localhost".toList then [] else host
        return ({ host } : Url).withPath .file true (rest.dropWhile (!Scheme.file.endsAuthority ·))
    else return ({} : Url).withPath .file true text
  | _ => return ({} : Url).withPath .file true text

/-- Reads a URL. -/
def parse (text : List Char) : Except UrlFault Url := do
  let (scheme, rest) ← cutScheme (trim text)
  match scheme, rest with
  | .file, _ => parseFile rest
  | .special, _ => parseAuthority scheme (rest.dropWhile scheme.isSlash)
  | .plain, '/' :: '/' :: rest => parseAuthority scheme rest
  | .plain, '/' :: _ => return ({} : Url).withPath scheme true rest
  | .plain, _ => return ({} : Url).withPath scheme false rest

/-- The names and values of a query, read through their escapes; a plus sign stands for a space. -/
def parameters (url : Url) : List (String × String) :=
  let read (text : List Char) : String :=
    String.ofList (Text.decodeLossily (unescape (text.map fun c => if c = '+' then ' ' else c)))
  ((Text.splitOn '&' url.query).filter (!·.isEmpty)).map fun pair =>
    match Text.splitFirst '=' pair with
    | some (name, value) => (read name, read value)
    | none => (read pair, "")

end Url

end Seedbed

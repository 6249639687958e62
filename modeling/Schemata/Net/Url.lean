import Schemata.Net.Address
import Schemata.Net.HostName

/-!
# URLs

* `Host.isDomain`, `Host.isOpaque` : hosts where the scheme fixes their form, and hosts elsewhere;
* `Url.isAbsolute` : a text is a URL with a scheme. Only a scheme, a host and a port can be wrong;
  every path, query and fragment is accepted.
-/

namespace Schemata.Net

open Schemata.Text (pieces digitsValue)

/-! ## Hosts -/

namespace Host

def hexValue (c : Char) : Nat :=
  if c.isDigit then c.toNat - 48 else c.toLower.toNat - 87

/-- The bytes of a text, `%` with two hexadecimal digits being one byte. -/
def percentDecode : List Char → List UInt8
  | '%' :: a :: b :: rest =>
    if isHexDigit a && isHexDigit b then
      UInt8.ofNat (16 * hexValue a + hexValue b) :: percentDecode rest
    else String.utf8EncodeChar '%' ++ percentDecode (a :: b :: rest)
  | c :: rest => String.utf8EncodeChar c ++ percentDecode rest
  | [] => []

/-- A number in a host: hexadecimal behind `0x`, octal behind `0`, else decimal. -/
def number? (text : List Char) : Option Nat :=
  match text with
  | [] => none
  | ['0'] => some 0
  | '0' :: 'x' :: hex =>
    if hex.all isHexDigit then some (hex.foldl (fun n c => 16 * n + hexValue c) 0) else none
  | '0' :: octal =>
    if octal.all (fun c => '0' ≤ c && c ≤ '7') then
      some (octal.foldl (fun n c => 8 * n + hexValue c) 0)
    else none
  | decimal => if decimal.all Char.isDigit then some (digitsValue decimal) else none

/-- The labels of a host without the empty one that a final point leaves. -/
def withoutRoot (labels : List (List Char)) : List (List Char) :=
  if labels.getLast? = some [] then labels.dropLast else labels

/-- The last label is a number, so the host must be an IPv4 address. -/
def endsInNumber (labels : List (List Char)) : Bool :=
  match (withoutRoot labels).getLast? with
  | none => false
  | some last => (!last.isEmpty && last.all Char.isDigit) || (number? last).isSome

/-- Up to four numbers; the last one fills the bytes that are left. -/
def isIpv4Number (labels : List (List Char)) : Bool :=
  let parts := withoutRoot labels
  match parts.mapM number? with
  | none => false
  | some numbers =>
    match numbers.reverse with
    | [] => false
    | last :: others =>
      numbers.length ≤ 4 && others.all (· ≤ 255) && last < Nat.pow 256 (4 - others.length)

def isBracketed (host : List Char) : Bool :=
  host.getLast? == some ']' && isIpv6 (host.drop 1).dropLast

/-- A host of a scheme with hosts of a known form: an address or a name. -/
def isDomain (host : List Char) : Bool :=
  if host.head? = some '[' then isBracketed host
  else
    match String.fromUTF8? ⟨(percentDecode host).toArray⟩ with
    | none => false
    | some text =>
      match HostName.ofText? text.toList with
      | none => false
      | some labels =>
        let written := labels.map fun label => label.map Char.ofNat
        if written = [[]] then false
        else if endsInNumber written then isIpv4Number written
        else true

/-- A host of any other scheme; it may be empty. -/
def isOpaque (host : List Char) : Bool :=
  if host.head? = some '[' then isBracketed host
  else host.all fun c => c != '\x00' && !"\t\n\r #/:<>?@[\\]^|".contains c

end Host

/-! ## Texts -/

namespace Url

inductive SchemeKind where
  | file | special | other
  deriving DecidableEq, Repr

def SchemeKind.of (scheme : List Char) : SchemeKind :=
  match String.ofList (scheme.map Char.toLower) with
  | "file" => file
  | "http" | "https" | "ws" | "wss" | "ftp" => special
  | _ => other

def scheme? (text : List Char) : Option (List Char × List Char) :=
  let isSchemeChar (c : Char) : Bool := c.isAlphanum || c == '+' || c == '-' || c == '.'
  let scheme := text.takeWhile isSchemeChar
  match scheme, text.drop scheme.length with
  | first :: _, ':' :: rest => if first.isAlpha then some (scheme, rest) else none
  | _, _ => none

/-- Control characters and blanks around a URL, and tabs and line ends inside, do not count. -/
def clean (text : List Char) : List Char :=
  let isEdge (c : Char) : Bool := c.toNat ≤ 0x20
  let inner := ((text.dropWhile isEdge).reverse.dropWhile isEdge).reverse
  inner.filter fun c => c != '\t' && c != '\n' && c != '\r'

def isSlash (kind : SchemeKind) (c : Char) : Bool := c == '/' || (kind != .other && c == '\\')

/-- The end of the part with user, host and port. -/
def endsAuthority (kind : SchemeKind) (c : Char) : Bool := isSlash kind c || c == '?' || c == '#'

/-- Up to the port: everything before the first colon outside brackets. -/
def hostPart (inBrackets : Bool) : List Char → List Char
  | [] => []
  | c :: rest =>
    if c = ':' ∧ !inBrackets then []
    else c :: hostPart (if c = '[' then true else if c = ']' then false else inBrackets) rest

/-- The text behind the colon is a port up to a slash of either kind or the end; it may be empty. -/
def isPort (text : List Char) : Bool :=
  let digits := text.takeWhile Char.isDigit
  (match text.drop digits.length with
    | [] => true
    | c :: _ => c == '\\')
    && digitsValue digits ≤ 65535

/-- The part of a URL with user, host and port, and the character after it. -/
def isAuthority (kind : SchemeKind) (authority : List Char) (after : Option Char) : Bool :=
  let afterUser := (authority.reverse.takeWhile (· != '@')).reverse
  let hasAt := afterUser.length < authority.length
  let user := authority.take (authority.length - afterUser.length - 1)
  let host := hostPart false afterUser
  let port := afterUser.drop host.length
  let isHost := if kind = .special then Host.isDomain host else Host.isOpaque host
  let isMissing := host.isEmpty && !port.isEmpty
  let isCut := hasAt && afterUser.isEmpty && (!(user.isEmpty || user == [':']) ||
    (user.isEmpty && after.isSome))
  isHost && !isMissing && !isCut && isPort (port.drop 1)

def isDrive (text : List Char) : Bool :=
  match text with
  | [a, b] => a.isAlpha && (b == ':' || b == '|')
  | _ => false

/-- What follows the scheme. -/
def isRest (kind : SchemeKind) (rest : List Char) : Bool :=
  let withAuthority (text : List Char) : Bool :=
    let authority := text.takeWhile fun c => !endsAuthority kind c
    isAuthority kind authority (text.drop authority.length).head?
  match kind with
  | .special => withAuthority (rest.dropWhile (isSlash kind))
  | .file =>
    match rest with
    | a :: b :: text =>
      if isSlash kind a && isSlash kind b then
        let host := text.takeWhile fun c => !endsAuthority kind c
        host.isEmpty || isDrive host || Host.isDomain host
      else true
    | _ => true
  | .other =>
    match rest with
    | '/' :: '/' :: text => withAuthority text
    | _ => true

def isAbsolute (text : List Char) : Bool :=
  match scheme? (clean text) with
  | some (scheme, rest) => isRest (.of scheme) rest
  | none => false

end Url

end Schemata.Net

import Schemata.Text.Split

/-!
# Internet addresses

* `isIpv4` : four decimal numbers with points between them;
* `isIpv6` : eight groups of hexadecimal digits with colons between them, where `::` stands for one
  or more groups of zero and the last two groups may be written as an IPv4 address.
-/

namespace Schemata.Net

open Schemata.Text (pieces digitsValue)

/-- A number from 0 to 255, without leading zeros. -/
def isOctet (digits : List Char) : Bool :=
  !digits.isEmpty && digits.length ≤ 3 && digits.all Char.isDigit
    && (digits.length == 1 || digits.head? != some '0') && digitsValue digits ≤ 255

def isIpv4 (text : List Char) : Bool :=
  let parts := pieces '.' text
  parts.length == 4 && parts.all isOctet

def isHexDigit (c : Char) : Bool :=
  c.isDigit || ('a' ≤ c && c ≤ 'f') || ('A' ≤ c && c ≤ 'F')

def isHexGroup (digits : List Char) : Bool :=
  !digits.isEmpty && digits.length ≤ 4 && digits.all isHexDigit

/-- The number of groups of 16 bits that written groups stand for, if they are well written. Only
the last one may be an IPv4 address, and only if `embedded`. -/
def countGroups? (embedded : Bool) : List (List Char) → Option Nat
  | [] => some 0
  | [last] =>
    if isHexGroup last then some 1 else if embedded && isIpv4 last then some 2 else none
  | group :: rest =>
    if isHexGroup group then (countGroups? embedded rest).map fun n => n + 1 else none

/-- The groups between colons; an empty text has none. -/
def groupsOf (text : List Char) : List (List Char) := if text.isEmpty then [] else pieces ':' text

/-- What stands before and after the first `::`. -/
def splitZeros? : List Char → Option (List Char × List Char)
  | ':' :: ':' :: rest => some ([], rest)
  | c :: rest => (splitZeros? rest).map fun (a, b) => (c :: a, b)
  | [] => none

def isIpv6 (text : List Char) : Bool :=
  match splitZeros? text with
  | none => countGroups? true (groupsOf text) == some 8
  | some (front, back) =>
    match countGroups? false (groupsOf front), countGroups? true (groupsOf back) with
    | some m, some n => m + n ≤ 7
    | _, _ => false

end Schemata.Net

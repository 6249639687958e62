import Schemata.Format.Date
import Schemata.Net.Url
import Schemata.Text.Blank
import Schemata.Unicode.Property

/-!
# Formats of strings

* `Format` : the formats a schema can ask for, and any other name;
* `Format.check` : a text has the format; an unknown format accepts every text;
* `Format.examples`, `noun`, `template` : texts of the format, and how messages speak of it;
* `Format.ofPattern?` : the format that a regular expression spells out.
-/

namespace Schemata

/-- What the keyword `format` names. -/
inductive Format where
  | email | uri | url | date | dateTime | uuid | ssn | phone | ipv4 | ipv6
  | other (name : String)
  deriving DecidableEq, Repr

namespace Format

/-! ## Names -/

def ofName (name : String) : Format :=
  match name with
  | "email" => email
  | "uri" => uri
  | "url" => url
  | "date" => date
  | "date-time" => dateTime
  | "uuid" => uuid
  | "ssn" => ssn
  | "phone" => phone
  | "ipv4" => ipv4
  | "ipv6" => ipv6
  | name => other name

def name : Format → String
  | email => "email"
  | uri => "uri"
  | url => "url"
  | date => "date"
  | dateTime => "date-time"
  | uuid => "uuid"
  | ssn => "ssn"
  | phone => "phone"
  | ipv4 => "ipv4"
  | ipv6 => "ipv6"
  | other name => name

/-- The noun that messages use. -/
def noun : Format → String
  | email => "email address"
  | uri | url => "absolute URL"
  | date => "ISO 8601 date (YYYY-MM-DD)"
  | dateTime => "ISO 8601 date-time"
  | uuid => "UUID"
  | ssn => "social security number"
  | phone => "phone number"
  | ipv4 => "IPv4 address"
  | ipv6 => "IPv6 address"
  | other name => name

def isUnknown : Format → Bool
  | other _ => true
  | _ => false

/-- Texts of the format, the usual one first, then shorter and longer ones. -/
def examples : Format → List String
  | email => ["user@example.com", "a@b.co", "firstname.lastname@example.com"]
  | uri | url => ["https://example.com", "http://a.io", "https://www.example.com/path"]
  | date => ["2024-01-15"]
  | dateTime => ["2024-01-15T10:30:00Z", "2024-01-15T10:30:00.000+00:00"]
  | uuid => ["123e4567-e89b-12d3-a456-426614174000"]
  | ssn => ["123-45-6789"]
  | phone => ["555-123-4567"]
  | ipv4 => ["192.168.1.1", "10.0.0.1", "192.168.100.100"]
  | ipv6 => ["2001:db8::1", "::1", "2001:0db8:0000:0000:0000:0000:0000:0001"]
  | other _ => []

def example? (format : Format) : Option String := format.examples.head?

/-- The shape of the formats that are digits in groups. -/
def template? : Format → Option String
  | ssn => some "XXX-XX-XXXX"
  | phone => some "XXX-XXX-XXXX"
  | _ => none

/-! ## Checks -/

/-- Characters without blanks around one `@`, with a point inside the second part. -/
def isEmail (text : List Char) : Bool :=
  match Text.pieces '@' text with
  | [user, domain] =>
    !user.isEmpty && !text.any Text.isBlank && (domain.drop 1).dropLast.contains '.'
  | _ => false

/-- Groups of these sizes between hyphens, made of one kind of character. -/
def isGrouped (isPart : Char → Bool) (sizes : List Nat) (text : List Char) : Bool :=
  let groups := Text.pieces '-' text
  groups.map List.length == sizes && groups.all fun group => group.all isPart

/-- A decimal digit of any script. -/
def isAnyDigit (c : Char) : Bool := Unicode.digits.contains c

def check (format : Format) (text : String) : Bool :=
  let chars := text.toList
  match format with
  | email => isEmail chars
  | uri | url => Net.Url.isAbsolute chars
  | date => Date.isDate chars
  | dateTime => Date.isDateTime chars
  | uuid => isGrouped Net.isHexDigit [8, 4, 4, 4, 12] chars
  | ssn => isGrouped isAnyDigit [3, 2, 4] chars
  | phone => isGrouped isAnyDigit [3, 3, 4] chars
  | ipv4 => Net.isIpv4 chars
  | ipv6 => Net.isIpv6 chars
  | other _ => true

/-! ## Patterns -/

/-- The usual spellings of digits in groups of these sizes. -/
def groupPatterns (digit : String) (a b c : String) : List String :=
  let body := digit ++ "\x7b" ++ a ++ "\x7d-" ++ digit ++ "\x7b" ++ b ++ "\x7d-" ++
    digit ++ "\x7b" ++ c ++ "\x7d"
  ["^" ++ body ++ "$", body]

def ssnPatterns : List String := groupPatterns "\\d" "3" "2" "4" ++ groupPatterns "[0-9]" "3" "2" "4"

def phonePatterns : List String :=
  groupPatterns "\\d" "3" "3" "4" ++ groupPatterns "[0-9]" "3" "3" "4"

/-- The format that a pattern spells out; blanks around the pattern do not count. -/
def ofPattern? (pattern : String) : Option Format :=
  let pattern := Text.trimBlanks pattern
  if ssnPatterns.contains pattern then some ssn
  else if phonePatterns.contains pattern then some phone
  else none

end Format

end Schemata

/-
TreePath.Net.Uri — telling absolute URIs from relative references.

A text with a scheme is an absolute URI if its authority, where it has one, is well formed; a text
without a scheme is a relative reference. The web schemes always have an authority, whose host is a
domain or an address; a `file` URI has one after two slashes; any other scheme has one only after
`//`, and its host may be any text free of delimiters. Paths, queries and fragments are never wrong.
-/
import TreePath.Net.Address

namespace TreePath.Net.Uri

open TreePath.Text TreePath.Text.Unicode

/-! ## Schemes -/

/-- How a scheme treats its authority. -/
inductive SchemeKind where
  | file
  | web
  | other
deriving DecidableEq

def isAsciiLetter (c : Char) : Bool := ('a' ≤ c && c ≤ 'z') || ('A' ≤ c && c ≤ 'Z')

def isSchemeCharacter (c : Char) : Bool :=
  isAsciiLetter c || isDigit c || c == '+' || c == '-' || c == '.'

/-- The scheme in lower case, and what follows its colon. -/
def scheme? (s : List Char) : Option (List Char × List Char) :=
  match s with
  | c :: _ =>
    if isAsciiLetter c then
      match s.dropWhile isSchemeCharacter with
      | ':' :: rest => some ((s.takeWhile isSchemeCharacter).map Char.toLower, rest)
      | _ => none
    else none
  | [] => none

def schemeKind (scheme : List Char) : SchemeKind :=
  if scheme = "file".toList then .file
  else if ["http", "https", "ws", "wss", "ftp"].any (·.toList == scheme) then .web
  else .other

/-- A character that ends an authority. -/
def endsAuthority (kind : SchemeKind) (c : Char) : Bool :=
  c == '/' || c == '?' || c == '#' || (kind != .other && c == '\\')

/-! ## Hosts -/

/-- Replaces each `%` with two hexadecimal digits by the byte they denote. -/
def percentDecode : List UInt8 → List UInt8
  | 0x25 :: a :: b :: rest =>
    let high := Char.ofNat a.toNat
    let low := Char.ofNat b.toNat
    if isHexDigit high && isHexDigit low then
      (16 * hexDigitValue high + hexDigitValue low).toUInt8 :: percentDecode rest
    else 0x25 :: percentDecode (a :: b :: rest)
  | b :: rest => b :: percentDecode rest
  | [] => []
termination_by bytes => bytes.length

/-- The text of a host after percent decoding; nothing if it is not UTF-8. -/
def decodeHost (s : List Char) : Option (List Char) :=
  let bytes := percentDecode (String.ofList s).toUTF8.toList
  (String.fromUTF8? ⟨bytes.toArray⟩).map (·.toList)

/-- ASCII characters that no domain holds. -/
def isForbiddenInDomain (c : Char) : Bool :=
  c.toNat ≤ 0x20 || c.toNat == 0x7F || "%#/:<>?@[\\]^|".toList.contains c

/-- What a character of a domain becomes: invisible characters vanish, the ideographic full stops
become points, full-width characters become ASCII, the others lower case. Characters that no domain
holds become nothing at all. -/
def domainCharacter (c : Char) : Option (List Char) :=
  let n := c.toNat
  if n < 0x80 then if isForbiddenInDomain c then none else some [c.toLower]
  else if [0xAD, 0x34F, 0x200B, 0x2060, 0x2064, 0xFEFF].contains n || (0x180B ≤ n && n ≤ 0x180D)
      || (0xFE00 ≤ n && n ≤ 0xFE0F) then some []
  else if n == 0x3002 || n == 0xFF0E || n == 0xFF61 then some ['.']
  else if 0xFF01 ≤ n && n ≤ 0xFF5E then
    let ascii := Char.ofNat (n - 0xFEE0)
    if isForbiddenInDomain ascii then none else some [ascii.toLower]
  else if isWhiteSpace c
      || [Table.control, Table.format, Table.privateUse].any (Run.anyContains · n)
      || 0xFFF0 ≤ n && n ≤ 0xFFFF || n % 0x10000 ≥ 0xFFFE then none
  else some (lower c)

/-- The canonical text of a domain, if it is one. No label begins with a combining mark. -/
def domain? (s : List Char) : Option (List Char) := do
  let text ← s.mapM domainCharacter
  let text := text.flatten
  if (splitAtChar '.' text).any (fun label => label.head?.any isMark) then none else some text

/-- What a part of a host says as a number. -/
inductive HostNumber where
  | value (n : Nat)
  | tooLarge
  | notNumber
deriving DecidableEq

/-- A number in decimal, or in hexadecimal after `0x`, or in octal after `0`. -/
def hostNumber (s : List Char) : HostNumber :=
  let bounded (n : Nat) : HostNumber := if n < 4294967296 then .value n else .tooLarge
  match s with
  | [] => .notNumber
  | '0' :: 'x' :: digits | '0' :: 'X' :: digits =>
    if digits.all isHexDigit then bounded (hexDigitsValue digits) else .notNumber
  | '0' :: d :: digits =>
    if (d :: digits).all (fun c => '0' ≤ c && c ≤ '7') then
      bounded ((d :: digits).foldl (fun n c => 8 * n + digitValue c) 0)
    else .notNumber
  | digits => if digits.all isDigit then bounded (digitsValue digits) else .notNumber

/-- The parts of a host between points, without the empty one after a last point. -/
def hostParts (domain : List Char) : List (List Char) :=
  let parts := splitAtChar '.' domain
  if parts.getLast? == some [] then parts.dropLast else parts

/-- The last part is a number, so the host has to be an address. -/
def endsInNumber (domain : List Char) : Bool :=
  match (hostParts domain).getLast? with
  | some last => (!last.isEmpty && last.all isDigit) || hostNumber last != .notNumber
  | none => false

/-- The host is a version 4 address: one to four numbers, of which the last fills the rest. -/
def isAddress (domain : List Char) : Bool :=
  let parts := (hostParts domain).map hostNumber
  let numbers := parts.filterMap fun p => match p with
    | .value n => some n
    | _ => none
  parts.length ≤ 4 && numbers.length == parts.length &&
    match numbers.getLast? with
    | some last =>
      last < Nat.pow 256 (5 - numbers.length) && numbers.dropLast.all (· < 256)
    | none => false

/-- A bracketed version 6 address. -/
def isBracketed (s : List Char) : Bool :=
  match s with
  | '[' :: rest => rest.getLast? == some ']' && (IPv6.read? rest.dropLast).isSome
  | _ => false

/-- The host of a web or file URI. -/
def isDomainHost (s : List Char) : Bool :=
  if s.head? == some '[' then isBracketed s
  else match (decodeHost s).bind domain? with
    | some domain =>
      !domain.isEmpty && (if endsInNumber domain then isAddress domain else true)
    | none => false

/-- The host of any other URI. -/
def isOpaqueHost (s : List Char) : Bool :=
  if s.head? == some '[' then isBracketed s
  else !s.any fun c => c == '\x00' || " #/:<>?@[\\]^|".toList.contains c

/-! ## Authorities -/

/-- The host at the start of a text: up to a colon outside brackets. -/
def hostLength (inBrackets : Bool) : List Char → Nat
  | [] => 0
  | c :: rest =>
    if c == ':' && !inBrackets then 0
    else 1 + hostLength (if c == '[' then true else if c == ']' then false else inBrackets) rest

/-- A port: digits of a number below 65536, possibly none. -/
def isPort (s : List Char) : Bool := s.all isDigit && digitsValue s < 65536

/-- The authority of a URI that is not a file URI: user information, host and port. -/
def isAuthority (kind : SchemeKind) (authority : List Char) (endsText : Bool) : Bool :=
  let (hasUser, emptyUser, hostPort) := match cutLast '@' authority with
    | some (user, rest) => (!user.isEmpty && user != [':'], user.isEmpty, rest)
    | none => (false, false, authority)
  let host := hostPort.take (hostLength false hostPort)
  let port := hostPort.drop (hostLength false hostPort)
  let hostFits := match kind with
    | .other => isOpaqueHost host
    | _ => !host.isEmpty && isDomainHost host
  let portFits := match port with
    | [] => true
    | _ :: digits => !host.isEmpty && isPort (digits.takeWhile (· != '\\'))
  let emptyFits := !host.isEmpty || (!hasUser && !(emptyUser && !endsText))
  hostFits && portFits && emptyFits

/-- `C:` or `C|`: a drive, which is part of the path. -/
def isDrive : List Char → Bool
  | [letter, mark] => isAsciiLetter letter && (mark == ':' || mark == '|')
  | _ => false

/-- What follows two slashes, or two backslashes where they count as slashes. -/
def afterTwoSlashes (kind : SchemeKind) : List Char → Option (List Char)
  | a :: b :: rest =>
    let isSlash (c : Char) : Bool := c == '/' || (kind == .file && c == '\\')
    if isSlash a && isSlash b then some rest else none
  | _ => none

/-- The part of a URI after its scheme is well formed. -/
def isHierarchy (kind : SchemeKind) (s : List Char) : Bool :=
  let check (rest : List Char) : Bool :=
    let authority := rest.takeWhile fun c => !endsAuthority kind c
    isAuthority kind authority (authority.length == rest.length)
  match kind with
  | .file =>
    match afterTwoSlashes kind s with
    | some rest =>
      let host := rest.takeWhile fun c => !endsAuthority kind c
      host.isEmpty || isDrive host || isDomainHost host
    | none => true
  | .web => check (s.dropWhile fun c => c == '/' || c == '\\')
  | .other =>
    match afterTwoSlashes kind s with
    | some rest => check rest
    | none => true

/-! ## The two forms -/

/-- The forms a reference can have. -/
inductive Form where
  | absolute
  | relative
deriving DecidableEq, Repr

/-- Characters that are cut from both ends. -/
def isEdge (c : Char) : Bool := c.toNat ≤ 0x20

/-- Characters that are skipped wherever they stand. -/
def isSkipped (c : Char) : Bool := c == '\t' || c == '\n' || c == '\r'

/-- The form of a text, or nothing if it is malformed. -/
def classify (s : List Char) : Option Form :=
  let s := ((s.dropWhile isEdge).reverse.dropWhile isEdge).reverse
  match scheme? (s.filter fun c => !isSkipped c) with
  | none => some .relative
  | some (scheme, rest) =>
    if isHierarchy (schemeKind scheme) rest then some .absolute else none

end TreePath.Net.Uri

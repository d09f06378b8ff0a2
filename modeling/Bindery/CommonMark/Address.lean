/-
Module: Bindery.CommonMark.Address
Layer: CommonMark
Purpose: Addresses of links and images. An address is taken apart as far as its host, so that a host
  with characters outside ASCII can be written in its ASCII form; then what may not stand in an
  address is percent-escaped. Addresses that could run a script are refused.
Imports: Bindery.Text.Blank, Bindery.Text.Percent, Bindery.Text.Punycode, Bindery.Text.Split
Main exports: Address, Address.ofText, Address.toText, normalizeAddress, isSafeAddress, shownAddress
-/
import Bindery.Text.Blank
import Bindery.Text.Percent
import Bindery.Text.Punycode
import Bindery.Text.Split

namespace Bindery.CommonMark

/-- The parts of an address. The scheme keeps its colon; `slashes` tells whether two slashes follow
    it; `portDigits` is the number behind the host and its colon; `tail` is all that is left. -/
structure Address where
  scheme : List Char
  slashes : Bool
  user : List Char
  host : List Char
  portDigits : List Char
  tail : List Char
deriving DecidableEq, Repr

namespace Address

/-! ### Taking apart -/

/-- May the character stand in a scheme? The four letters outside ASCII are those that match an
    ASCII letter when case is ignored. -/
def isSchemeChar (c : Char) : Bool :=
  c.isAlphanum || ['.', '+', '-', '\u0130', '\u0131', '\u017F', '\u212A'].contains c

/-- The scheme in front of a text, with its colon, and the rest. -/
def splitScheme (text : List Char) : List Char × List Char :=
  match text.span isSchemeChar with
  | ([], _) => ([], text)
  | (name, ':' :: rest) => (name ++ [':'], rest)
  | _ => ([], text)

/-- Schemes whose host, if there is one, always follows two slashes. -/
def slashedSchemes : List (List Char) :=
  ["http:".toList, "https:".toList, "ftp:".toList, "gopher:".toList, "file:".toList]

/-- The scheme that never has a host. -/
def hostlessScheme : List Char := "javascript:".toList

/-- Does the character end the part that a user can be named in? -/
def endsAuthority (c : Char) : Bool := c = '/' || c = '?' || c = '#'

/-- Can the character not be part of a host? -/
def endsHost (c : Char) : Bool :=
  endsAuthority c ||
    ['%', ';', '\'', '\x7b', '\x7d', '|', '\\', '^', '\x60', '<', '>', '"', ' ', '\r', '\n',
      '\t'].contains c

/-- Splits behind the last character of a kind: what comes before it, and what comes after it. -/
def splitLast? (mark : Char) (text : List Char) : Option (List Char × List Char) :=
  match text.reverse.span (· ≠ mark) with
  | (_, []) => none
  | (after, _ :: before) => some (before.reverse, after.reverse)

/-- The user in front of the last at sign of the authority, and the rest. -/
def splitUser (text : List Char) : List Char × List Char :=
  let (authority, after) := text.span (!endsAuthority ·)
  match splitLast? '@' authority with
  | some (user, host) => (user, host ++ after)
  | none => ([], text)

/-- The host with the number behind it, and the rest. A colon at its end belongs to the rest. -/
def splitHost (text : List Char) : List Char × List Char :=
  let (host, after) := text.span (!endsHost ·)
  match host.getLast? with
  | some ':' => (host.dropLast, ':' :: after)
  | _ => (host, after)

/-- The host without the number behind it, and that number. -/
def splitPortDigits (host : List Char) : List Char × List Char :=
  match splitLast? ':' host with
  | some (name, digits) => if digits.all Char.isDigit then (name, digits) else (host, [])
  | none => (host, [])

def isLabelChar (c : Char) : Bool := c.isAlphanum || c = '+' || c = '_' || c = '-'

/-- Is the label a proper one? Characters outside ASCII are let pass. -/
def isLabel (label : List Char) : Bool :=
  label.length ≤ 63 && label.all fun c => isLabelChar c || !Text.isAscii c

/-- How many characters at the front of a label can stand in a host. -/
def labelLength (label : List Char) : Nat := min 63 (label.takeWhile isLabelChar).length

/-- The proper part of a host, and what is improper: from the first label that is not one on. -/
def splitImproper : List (List Char) → List (List Char) × List (List Char)
  | [] => ([], [])
  | label :: rest =>
    if isLabel label then
      let (proper, improper) := splitImproper rest
      (label :: proper, improper)
    else ([label.take (labelLength label)], label.drop (labelLength label) :: rest)

/-- Texts with dots between them. -/
def joinDots (labels : List (List Char)) : List Char := ['.'].intercalate labels

/-- Hosts longer than this are dropped. -/
def longestHost : Nat := 255

/-- The host as far as it is proper, and the tail with what is not. A host in brackets is numeric
    and loses them. -/
def properHost (host tail : List Char) : List Char × List Char :=
  if host.head? = some '[' ∧ host.getLast? = some ']' then
    (if host.length > longestHost then ([], tail) else ((host.drop 1).dropLast, tail))
  else
    let (proper, improper) := splitImproper (Text.piecesBetween '.' host)
    let name := joinDots proper
    (if name.length > longestHost then [] else name, joinDots improper ++ tail)

/-- The parts of an address. Blanks around it do not count. -/
def ofText (text : List Char) : Address :=
  let (scheme, afterScheme) := splitScheme (Text.trimList text)
  let hostless : Bool := scheme = hostlessScheme
  let slashes := !hostless && ['/', '/'].isPrefixOf afterScheme
  let rest := if slashes then afterScheme.drop 2 else afterScheme
  if !hostless && (slashes || (scheme ≠ [] && !slashedSchemes.contains scheme)) then
    let (user, afterUser) := splitUser rest
    let (hostAndNumber, tail) := splitHost afterUser
    let (host, portDigits) := splitPortDigits hostAndNumber
    let (name, fullTail) := properHost host tail
    ⟨scheme, slashes, user, name, portDigits, fullTail⟩
  else ⟨scheme, slashes, [], [], [], rest⟩

/-! ### Putting together -/

/-- The text of an address. A host with colons is put in brackets. -/
def toText (address : Address) : List Char :=
  address.scheme ++ (if address.slashes then ['/', '/'] else []) ++
    (if address.user = [] then [] else address.user ++ ['@']) ++
    (if address.host.contains ':' then '[' :: address.host ++ [']'] else address.host) ++
    (if address.portDigits = [] then [] else ':' :: address.portDigits) ++ address.tail

/-! ### Hosts -/

def isLabelDot (c : Char) : Bool := ['.', '\u3002', '\uFF0E', '\uFF61'].contains c

def labels (host : List Char) : List (List Char) :=
  Text.piecesBetween '.' (host.map fun c => if isLabelDot c then '.' else c)

def asciiMark : List Char := "xn--".toList

def asciiLabel (label : List Char) : List Char :=
  if label.all fun c => c.toNat < 0x7F then label else asciiMark ++ Text.Punycode.encode label

/-- The lower case of a character, as far as that is ASCII. The sign for kelvin has one, too. -/
def lowerCase (c : Char) : Char := if c = '\u212A' then 'k' else c.toLower

/-- The label that stands behind an ASCII form. -/
def plainLabel? (label : List Char) : Option (List Char) :=
  if asciiMark.isPrefixOf label then
    Text.Punycode.decode? ((label.drop 4).map lowerCase)
  else some label

/-- Schemes whose hosts are recoded; no scheme is as good. -/
def recodedSchemes : List (List Char) :=
  [[], "http:".toList, "https:".toList, "mailto:".toList]

def isRecoded (address : Address) : Bool :=
  address.host ≠ [] && recodedSchemes.contains address.scheme

def toAscii (address : Address) : Address :=
  if address.isRecoded then
    { address with host := joinDots ((labels address.host).map asciiLabel) }
  else address

/-- The address with its host as it is meant to be read, unless some label has no such form. -/
def toPlain (address : Address) : Address :=
  if address.isRecoded then
    match (labels address.host).mapM plainLabel? with
    | some plain => { address with host := joinDots plain }
    | none => address
  else address

end Address

/-! ### Escaping -/

def isAddressChar (c : Char) : Bool := c.isAlphanum || ";/?:@&=+$,-_.!~*'()#".toList.contains c

/-- Escapes what may not stand in an address. Escapes that are there already stay. -/
def escapeAddress : List Char → List Char
  | '%' :: a :: b :: rest =>
    if (Text.escapedByte? a b).isSome then '%' :: a :: b :: escapeAddress rest
    else Text.percentChar '%' ++ escapeAddress (a :: b :: rest)
  | c :: rest => (if isAddressChar c then [c] else Text.percentChar c) ++ escapeAddress rest
  | [] => []

/-- The address of a link as it is kept. -/
def normalizeAddress (text : List Char) : List Char :=
  escapeAddress (Address.ofText text).toAscii.toText

def refusedSchemes : List (List Char) :=
  ["vbscript:".toList, "javascript:".toList, "file:".toList, "data:".toList]

/-- Embedded images, which are allowed. -/
def allowedData : List (List Char) :=
  ["data:image/gif;".toList, "data:image/png;".toList, "data:image/jpeg;".toList,
   "data:image/webp;".toList]

/-- May a link have the address? Scripts, files and data are refused, except embedded images. -/
def isSafeAddress (address : List Char) : Bool :=
  let shown := (Text.trimList address).map Char.toLower
  !(refusedSchemes.any (·.isPrefixOf shown)) || allowedData.any (·.isPrefixOf shown)

/-! ### Showing -/

/-- Characters whose escapes stay, because they would change what the address means. -/
def keepsEscape (byte : UInt8) : Bool := (";/?:@&=+$,#%".toList.map Char.toUInt8).contains byte

def isContinuation (byte : UInt8) : Bool := 0x80 ≤ byte && byte < 0xC0

/-- How many bytes the character that a byte begins has, by the high bits of the byte. -/
def announcedLength (byte : UInt8) : Nat :=
  if byte < 0xC0 then 1
  else if byte < 0xE0 then 2
  else if byte < 0xF0 then 3
  else if byte < 0xF8 then 4
  else 1

/-- How many bytes belong to the character at the front: all that it announces, if they are there
    and continue it; otherwise one. -/
def unitLength (byte : UInt8) (rest : List UInt8) : Nat :=
  let more := announcedLength byte - 1
  if more ≤ rest.length ∧ (rest.take more).all isContinuation then more + 1 else 1

/-- The text of one character. Each of its bytes is replaced if there is no such character. -/
def unitText (bytes : List UInt8) : List Char :=
  match Text.decodeStrict? bytes with
  | some text => text.toList
  | none => bytes.map fun _ => '\uFFFD'

/-- The text of escaped bytes; `skip` bytes at the front have been read already. -/
def bytesText (skip : Nat) : List UInt8 → List Char
  | [] => []
  | byte :: rest =>
    if skip > 0 then bytesText (skip - 1) rest
    else if byte < 0x80 then
      (if keepsEscape byte then Text.percentByte byte else [Char.ofNat byte.toNat]) ++
        bytesText 0 rest
    else
      let length := unitLength byte rest
      unitText (byte :: rest.take (length - 1)) ++ bytesText (length - 1) rest

/-- Reads the escapes of an address, except those that would change what it means. `escaped` are the
    bytes of the escapes read so far, backwards, and `skip` characters have been read already. -/
def readEscapes (skip : Nat) (escaped : List UInt8) : List Char → List Char
  | [] => bytesText 0 escaped.reverse
  | c :: rest =>
    if skip > 0 then readEscapes (skip - 1) escaped rest
    else
      match c, rest with
      | '%', a :: b :: _ =>
        match Text.escapedByte? a b with
        | some byte => readEscapes 2 (byte :: escaped) rest
        | none => bytesText 0 escaped.reverse ++ c :: readEscapes 0 [] rest
      | _, _ => bytesText 0 escaped.reverse ++ c :: readEscapes 0 [] rest

def shownAddress (text : List Char) : List Char :=
  readEscapes 0 [] (Address.ofText text).toPlain.toText

end Bindery.CommonMark

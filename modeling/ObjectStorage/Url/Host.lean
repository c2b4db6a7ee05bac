import ObjectStorage.Text.Casing
import ObjectStorage.Url.Encoding

/-!
# Hosts of URLs

A host is a name or an address.  In a URL of a special scheme a name is a domain, which is read
without regard to case, and what ends in a number has to be an address of four bytes.  In other
URLs a name is any text without characters that have a meaning in URLs.

* `Url.Fault` — why a text is no URL;
* `Host` — a host;
* `Host.domain?`, `Host.opaque?` — read it;
* `Host.text` — how it is written.
-/

namespace ObjectStorage.Url

/-- Why a text is no URL. -/
inductive Fault
  | noScheme | emptyHost | invalidDomain | invalidHost | invalidIpv4 | invalidIpv6 | invalidPort
  deriving DecidableEq, Repr

/-- A fault in words. -/
def Fault.message : Fault → String
  | .noScheme => "relative URL without a base"
  | .emptyHost => "empty host"
  | .invalidDomain => "invalid international domain name"
  | .invalidHost => "invalid domain character"
  | .invalidIpv4 => "invalid IPv4 address"
  | .invalidIpv6 => "invalid IPv6 address"
  | .invalidPort => "invalid port number"

/-- The host of a URL. -/
inductive Host
  /-- A name, which is empty where an authority has none. -/
  | name (text : String)
  | ipv4 (address : Nat)
  /-- An address of eight groups. -/
  | ipv6 (groups : List Nat)
  deriving DecidableEq, Repr

namespace Host

/-! ### Addresses of four bytes -/

/-- The value of digits in a base, if all of them are digits. -/
def digitsIn (base : Nat) (cs : List Char) : Option Nat :=
  cs.foldlM (fun acc c => do
    let d ← hexValue? c
    if d < base then some (acc * base + d) else none) 0

/-- A part of an address: decimal, octal after `0`, hexadecimal after `0x`. -/
def ipv4Number? : List Char → Option Nat
  | [] => none
  | '0' :: 'x' :: cs | '0' :: 'X' :: cs => digitsIn 16 cs
  | '0' :: c :: cs => digitsIn 8 (c :: cs)
  | cs => digitsIn 10 cs

/-- The parts of a domain; a dot at its end does not count. -/
def domainParts (cs : List Char) : List (List Char) :=
  let parts := splitAt (· = '.') cs
  if 1 < parts.length && parts.getLast? == some [] then parts.dropLast else parts

/-- Has a domain to be an address, since its last part is a number? -/
def endsInNumber (cs : List Char) : Bool :=
  match (domainParts cs).getLast? with
  | none | some [] => false
  | some part => part.all Char.isDigit || (ipv4Number? part).isSome

/-- The address that parts are: every part but the last is a byte, the last one fills the rest. -/
def ipv4? (cs : List Char) : Except Fault Nat :=
  match (domainParts cs).mapM ipv4Number? with
  | none => .error .invalidIpv4
  | some numbers =>
    let last := numbers.getLastD 0
    let bytes := numbers.dropLast
    if 4 < numbers.length || bytes.any (255 < ·) || Nat.pow 256 (4 - bytes.length) ≤ last then
      .error .invalidIpv4
    else .ok (bytes.zipIdx.foldl (fun n (b, i) => n + b * Nat.pow 256 (3 - i)) last)

/-! ### Addresses of eight groups -/

/-- A byte in decimal, without needless zeros. -/
def decimalByte? (cs : List Char) : Option Nat := do
  if cs.isEmpty || (1 < cs.length && cs.head? == some '0') then none
  let n ← digitsIn 10 cs
  if n < 256 then some n else none

/-- A group of up to four hexadecimal digits. -/
def group? (cs : List Char) : Option Nat :=
  if cs.isEmpty || 4 < cs.length then none else digitsIn 16 cs

/-- The groups between colons; the last may be an address of four bytes if `tail` says so, which
makes two groups. -/
def groups? (tail : Bool) : List (List Char) → Option (List Nat)
  | [] => some []
  | [part] =>
    if tail && part.contains '.' then do
      match ← (splitAt (· = '.') part).mapM decimalByte? with
      | [a, b, c, d] => some [a * 256 + b, c * 256 + d]
      | _ => none
    else (group? part).map ([·])
  | part :: rest => do
    let g ← group? part
    let gs ← groups? tail rest
    some (g :: gs)

/-- The text before and after the first double colon. -/
def splitAtGap : List Char → Option (List Char × List Char)
  | ':' :: ':' :: cs => some ([], cs)
  | c :: cs => (splitAtGap cs).map fun (a, b) => (c :: a, b)
  | [] => none

/-- The groups of a text, none if it is empty. -/
def groupsOf (tail : Bool) (cs : List Char) : Option (List Nat) :=
  if cs.isEmpty then some [] else groups? tail (splitAt (· = ':') cs)

/-- An address of eight groups, where a double colon stands for groups that are zero. -/
def ipv6? (cs : List Char) : Except Fault (List Nat) :=
  let found : Option (List Nat) := match splitAtGap cs with
    | none => do
      let gs ← groupsOf true cs
      if gs.length = 8 then some gs else none
    | some (before, after) => do
      let before ← groupsOf false before
      let after ← groupsOf true after
      let known := before.length + after.length
      if known < 8 then some (before ++ List.replicate (8 - known) 0 ++ after) else none
  match found with
  | some gs => .ok gs
  | none => .error .invalidIpv6

/-- The length of the run of zeros at the start. -/
def zeros (gs : List Nat) : Nat := (gs.takeWhile (· = 0)).length

/-- Where the longest run of zeros begins and how long it is, the first of several. -/
def longestZeros (gs : List Nat) : Nat × Nat :=
  ((List.range gs.length).map fun i => (i, zeros (gs.drop i))).foldl
    (fun best x => if best.2 < x.2 then x else best) (0, 0)

/-- Groups in hexadecimal digits between colons. -/
def groupsText (gs : List Nat) : String :=
  ":".intercalate (gs.map fun g => String.ofList (Nat.toDigits 16 g))

/-- Eight groups as they are written: the longest run of zeros, of two at least, is left out. -/
def ipv6Text (gs : List Nat) : String :=
  let (start, length) := longestZeros gs
  if length < 2 then groupsText gs
  else groupsText (gs.take start) ++ "::" ++ groupsText (gs.drop (start + length))

/-! ### Hosts -/

/-- What no name holds that stands for itself. -/
def isForbidden (c : Char) : Bool :=
  ['\x00', '\t', '\n', '\r', ' ', '#', '/', ':', '<', '>', '?', '@', '[', '\\', ']', '^',
    '|'].contains c

/-- An address between brackets, or what a function reads from any other text. -/
def bracketed (other : List Char → Except Fault Host) : List Char → Except Fault Host
  | '[' :: cs => do
    if cs.getLast? != some ']' then throw .invalidIpv6
    pure (.ipv6 (← ipv6? cs.dropLast))
  | cs => other cs

/-- The host of a URL whose scheme is not special. -/
def opaque? : List Char → Except Fault Host :=
  bracketed fun cs =>
    if cs.any isForbidden then .error .invalidHost
    else .ok (.name (encode isControl cs))

/-- The host of a URL with a special scheme. -/
def domain? : List Char → Except Fault Host :=
  bracketed fun cs =>
    match Text.text? (decodeChars cs) with
    | none => .error .invalidDomain
    | some s =>
      let cs := Text.lowercase s.toList
      if cs.any fun c => isForbidden c || isControl c || c = '%' then .error .invalidDomain
      else if cs.isEmpty then .error .emptyHost
      else if endsInNumber cs then (ipv4? cs).map .ipv4
      else .ok (.name (String.ofList cs))

/-- How a host is written. -/
def text : Host → String
  | .name s => s
  | .ipv4 n => ".".intercalate ([3, 2, 1, 0].map fun i => toString (n / Nat.pow 256 i % 256))
  | .ipv6 gs => "[" ++ ipv6Text gs ++ "]"

end Host

end ObjectStorage.Url

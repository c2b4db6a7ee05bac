import ObjectStorage.Text.Utf8

/-!
# Percent encoding

What cannot stand in a part of a URL as it is stands there as the bytes of its UTF-8 form, each
written as `%` and two hexadecimal digits.  Which ASCII characters need that depends on the part;
other characters always do.

* `encode`, `decode` — write and read percent encoding;
* `inUserInfo`, `inPath`, `inQuery`, `inFragment` — what is encoded where;
* `formEncode`, `formDecode` — the names and values of a query.
-/

namespace ObjectStorage.Url

/-- The hexadecimal digit of a number below sixteen. -/
def hexDigit (n : Nat) : Char := Char.ofNat (if n < 10 then 48 + n else 55 + n)

/-- The value of a hexadecimal digit. -/
def hexValue? (c : Char) : Option Nat :=
  if c.isDigit then some (c.toNat - 48)
  else if 'a' ≤ c ∧ c ≤ 'f' then some (c.toNat - 87)
  else if 'A' ≤ c ∧ c ≤ 'F' then some (c.toNat - 55)
  else none

/-- A byte as an escape. -/
def escapeByte (b : UInt8) : List Char := ['%', hexDigit (b.toNat / 16), hexDigit (b.toNat % 16)]

/-- A character as it stands where the ASCII characters of a set are encoded. -/
def encodeChar (set : Char → Bool) (c : Char) : List Char :=
  if c.toNat < 0x80 && !set c then [c] else (String.utf8EncodeChar c).flatMap escapeByte

/-- A text where the ASCII characters of a set are encoded. -/
def encode (set : Char → Bool) (cs : List Char) : String :=
  String.ofList (cs.flatMap (encodeChar set))

/-- The bytes that a percent encoded text stands for.  A `%` that starts no escape stands for
itself. -/
def decodeChars : List Char → Bytes
  | [] => []
  | c :: rest =>
    if c = '%' then
      match rest with
      | a :: b :: rest' =>
        match hexValue? a, hexValue? b with
        | some x, some y => UInt8.ofNat (x * 16 + y) :: decodeChars rest'
        | _, _ => UInt8.ofNat c.toNat :: decodeChars (a :: b :: rest')
      | [a] => UInt8.ofNat c.toNat :: decodeChars [a]
      | [] => [UInt8.ofNat c.toNat]
    else String.utf8EncodeChar c ++ decodeChars rest

/-- The bytes that a percent encoded text stands for. -/
def decode (s : String) : Bytes := decodeChars s.toList

/-! ### What is encoded where -/

/-- The control characters of ASCII. -/
def isControl (c : Char) : Bool := c.toNat < 0x20 || c.toNat = 0x7F

/-- What is encoded in a fragment. -/
def inFragment (c : Char) : Bool := isControl c || [' ', '"', '<', '>', '`'].contains c

/-- What is encoded in the segments of a path. -/
def inPath (c : Char) : Bool := inFragment c || ['#', '?', '{', '}'].contains c

/-- What is encoded in a user name or a password. -/
def inUserInfo (c : Char) : Bool :=
  inPath c || ['/', ':', ';', '=', '@', '[', '\\', ']', '^', '|'].contains c

/-- What is encoded in a query; special schemes encode the single quote too. -/
def inQuery (special : Bool) (c : Char) : Bool :=
  isControl c || [' ', '"', '#', '<', '>'].contains c || (special && c = '\'')

/-! ### Names and values of a query -/

/-- Does a character stand for itself in a name or a value? -/
def isPlain (c : Char) : Bool := c.isAlphanum || ['*', '-', '.', '_'].contains c

/-- A name or a value as it stands in a query, where a blank is written `+`. -/
def formEncode (s : String) : String :=
  String.ofList (s.toList.flatMap fun c =>
    if c = ' ' then ['+'] else encodeChar (fun c => !isPlain c) c)

/-- A name or a value of a query, broken sequences replaced. -/
def formDecode (cs : List Char) : String :=
  Text.textLossy (decodeChars (cs.map fun c => if c = '+' then ' ' else c))

/-- Names and values as a query. -/
def formQuery (pairs : List (String × String)) : String :=
  "&".intercalate (pairs.map fun (k, v) => formEncode k ++ "=" ++ formEncode v)

/-- Split a text at every character of a kind; the pieces may be empty. -/
def splitAt (stop : Char → Bool) : List Char → List (List Char)
  | [] => [[]]
  | c :: cs =>
    if stop c then [] :: splitAt stop cs
    else match splitAt stop cs with
      | [] => [[c]]
      | p :: ps => (c :: p) :: ps

/-- The names and values of a query; a piece without `=` is a name without a value, and empty
pieces do not count. -/
def formPairs (query : String) : List (String × String) :=
  ((splitAt (· = '&') query.toList).filter (· ≠ [])).map fun piece =>
    (formDecode (piece.takeWhile (· ≠ '=')), formDecode ((piece.dropWhile (· ≠ '=')).drop 1))

end ObjectStorage.Url

/-!
# Quoted texts in TOML

Texts stand between double quotes, with escapes, or between single quotes, as they are.  Between
three quotes of a kind a text may go over several lines; a line break right after the first three
does not count, and a backslash at the end of a line takes away all blanks that follow.

* `Quoted.read?` — reads a text from its first quote on, and tells what is left;
* `Quoted.readLine?` — the same for texts that stay on their line.
-/

namespace ObjectStorage.Toml.Quoted

/-- The quote of texts with escapes. -/
def double : Char := '"'

/-- The quote of texts without escapes. -/
def single : Char := '\x27'

/-- May a character stand in a text as it is? -/
def isPlain (c : Char) : Bool := c = '\t' || (' ' ≤ c && c ≠ '\x7f')

/-- Is a character a blank within a line? -/
def isBlank (c : Char) : Bool := c = ' ' || c = '\t'

/-- The text from its characters, the last one first. -/
def finish (acc rest : List Char) : Option (String × List Char) :=
  some (String.ofList acc.reverse, rest)

/-- The value of hexadecimal digits. -/
def hexadecimal? (ds : List Char) : Option Nat :=
  ds.foldlM (fun n c =>
    if c.isDigit then some (n * 16 + (c.toNat - 48))
    else if 'a' ≤ c ∧ c ≤ 'f' then some (n * 16 + (c.toNat - 87))
    else if 'A' ≤ c ∧ c ≤ 'F' then some (n * 16 + (c.toNat - 55))
    else none) 0

/-- The character with a number in hexadecimal digits. -/
def numbered? (ds : List Char) : Option Char := do
  let n ← hexadecimal? ds
  if n.isValidChar then some (Char.ofNat n) else none

/-- The character for a letter after a backslash. -/
def lettered? : Char → Option Char
  | 'b' => some '\x08'
  | 't' => some '\t'
  | 'n' => some '\n'
  | 'f' => some '\x0c'
  | 'r' => some '\r'
  | 'e' => some '\x1b'
  | '"' => some '"'
  | '\\' => some '\\'
  | _ => none

/-- Read a text with escapes on one line, after its quote. -/
def escaped? (acc : List Char) : List Char → Option (String × List Char)
  | [] => none
  | '"' :: rest => finish acc rest
  | '\\' :: 'x' :: a :: b :: rest =>
    match numbered? [a, b] with
    | some c => escaped? (c :: acc) rest
    | none => none
  | '\\' :: 'u' :: a :: b :: c :: d :: rest =>
    match numbered? [a, b, c, d] with
    | some c => escaped? (c :: acc) rest
    | none => none
  | '\\' :: 'U' :: a :: b :: c :: d :: e :: f :: g :: h :: rest =>
    match numbered? [a, b, c, d, e, f, g, h] with
    | some c => escaped? (c :: acc) rest
    | none => none
  | '\\' :: c :: rest =>
    match lettered? c with
    | some c => escaped? (c :: acc) rest
    | none => none
  | c :: rest => if isPlain c && c ≠ '\\' then escaped? (c :: acc) rest else none

/-- Read a text without escapes on one line, after its quote. -/
def literal? (acc : List Char) : List Char → Option (String × List Char)
  | [] => none
  | c :: rest =>
    if c = single then finish acc rest
    else if isPlain c then literal? (c :: acc) rest else none

/-- Does nothing but blanks follow on the line? -/
def endsLine (cs : List Char) : Bool :=
  match cs.dropWhile isBlank with
  | '\n' :: _ | '\r' :: '\n' :: _ => true
  | _ => false

/-- Is a character a blank or the end of a line? -/
def isGap (c : Char) : Bool := isBlank c || c = '\n' || c = '\r'

/-- Read a text with escapes over several lines, after its quotes.  If `skipping`, blanks and line
ends do not count until something else comes. -/
def escapedBlock? (skipping : Bool) (acc : List Char) : List Char → Option (String × List Char)
  | [] => none
  | '"' :: '"' :: '"' :: '"' :: '"' :: rest => finish ('"' :: '"' :: acc) rest
  | '"' :: '"' :: '"' :: '"' :: rest => finish ('"' :: acc) rest
  | '"' :: '"' :: '"' :: rest => finish acc rest
  | '\r' :: '\n' :: rest =>
    escapedBlock? skipping (if skipping then acc else '\n' :: '\r' :: acc) rest
  | '\\' :: 'x' :: a :: b :: rest =>
    match numbered? [a, b] with
    | some c => escapedBlock? false (c :: acc) rest
    | none => none
  | '\\' :: 'u' :: a :: b :: c :: d :: rest =>
    match numbered? [a, b, c, d] with
    | some c => escapedBlock? false (c :: acc) rest
    | none => none
  | '\\' :: 'U' :: a :: b :: c :: d :: e :: f :: g :: h :: rest =>
    match numbered? [a, b, c, d, e, f, g, h] with
    | some c => escapedBlock? false (c :: acc) rest
    | none => none
  | '\\' :: c :: rest =>
    if endsLine (c :: rest) then escapedBlock? true acc (c :: rest)
    else
      match lettered? c with
      | some c => escapedBlock? false (c :: acc) rest
      | none => none
  | c :: rest =>
    if skipping && isGap c && c ≠ '\r' then escapedBlock? true acc rest
    else if (isPlain c && c ≠ '\\') || c = '\n' then escapedBlock? false (c :: acc) rest
    else none

/-- Read a text without escapes over several lines, after its quotes. -/
def literalBlock? (acc : List Char) : List Char → Option (String × List Char)
  | [] => none
  | '\x27' :: '\x27' :: '\x27' :: '\x27' :: '\x27' :: rest =>
    finish (single :: single :: acc) rest
  | '\x27' :: '\x27' :: '\x27' :: '\x27' :: rest => finish (single :: acc) rest
  | '\x27' :: '\x27' :: '\x27' :: rest => finish acc rest
  | '\r' :: '\n' :: rest => literalBlock? ('\n' :: '\r' :: acc) rest
  | c :: rest => if isPlain c || c = '\n' then literalBlock? (c :: acc) rest else none

/-- What follows the line break that comes first, if there is one. -/
def afterBreak : List Char → List Char
  | '\n' :: rest | '\r' :: '\n' :: rest => rest
  | rest => rest

/-- Read a text that stays on its line from its quote on. -/
def readLine? : List Char → Option (String × List Char)
  | [] => none
  | c :: rest => if c = double then escaped? [] rest else literal? [] rest

/-- Read a text from its first quote on. -/
def read? : List Char → Option (String × List Char)
  | '"' :: '"' :: '"' :: rest => escapedBlock? false [] (afterBreak rest)
  | '\x27' :: '\x27' :: '\x27' :: rest => literalBlock? [] (afterBreak rest)
  | cs => readLine? cs

end ObjectStorage.Toml.Quoted

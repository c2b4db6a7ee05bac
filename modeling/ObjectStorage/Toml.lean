import ObjectStorage.Toml.Quoted
import ObjectStorage.Toml.Tree

/-!
# Reading TOML documents

A document is read line by line.  A line holds the header of a table, a key with its value, or
nothing, and may end in a comment; only texts, arrays and tables within them go over several lines.

* `Toml.Problem`, `Toml.Fault` — what is wrong with a document, and on which line;
* `Toml.Reader` — reads a part of a document;
* `Toml.Reader.value`, `Toml.Reader.line` — a value, a line;
* `Toml.read` — a whole document.
-/

namespace ObjectStorage.Toml

/-- What can be wrong with a document. -/
inductive Problem
  /-- Something else should stand here. -/
  | unexpected
  | badText
  | badWord
  /-- A character that must not stand in a comment. -/
  | badComment
  /-- A key or a table is given twice, or added to what is complete. -/
  | redefined
  | tooDeep
  deriving DecidableEq, Repr

/-- A problem in words. -/
def Problem.message : Problem → String
  | .unexpected => "unexpected character or end"
  | .badText => "invalid quoted text"
  | .badWord => "invalid value"
  | .badComment => "invalid comment"
  | .redefined => "key or table is already defined"
  | .tooDeep => "values are nested too deeply"

/-- What is wrong with a document. -/
structure Fault where
  problem : Problem
  /-- The line, counted from 1. -/
  line : Nat
  deriving DecidableEq, Repr

/-- A fault in words. -/
def Fault.message (f : Fault) : String := s!"{f.problem.message} on line {f.line}"

/-- Reads a part of a document, of which some characters are left. -/
abbrev Reader := ExceptT Problem (StateM (List Char))

namespace Reader

variable {α : Type}

/-- The characters that are left. -/
def left : Reader (List Char) := get

/-- The next character. -/
def peek : Reader (Option Char) := do pure (← left).head?

/-- Go on where so many characters are left. -/
def goTo (rest : List Char) : Reader Unit := set rest

/-- Take a character. -/
def eat : Reader Unit := do goTo ((← left).drop 1)

/-- Fail. -/
def fail (p : Problem) : Reader α := throw p

/-- Take a character that must come next. -/
def expect (c : Char) : Reader Unit := do
  if (← peek) = some c then eat else fail .unexpected

/-- Take characters of a kind. -/
def takeWhile (p : Char → Bool) : Reader (List Char) := do
  let cs ← left
  goTo (cs.dropWhile p)
  pure (cs.takeWhile p)

/-- Go past blanks on the line. -/
def blanks : Reader Unit := do
  let _ ← takeWhile Quoted.isBlank

/-- Take a comment, if there is one. -/
def comment : Reader Unit := do
  match ← left with
  | '#' :: _ => do
    let cs ← takeWhile (· ≠ '\n')
    let cs := match cs.getLast?, (← peek) with
      | some '\r', some '\n' => cs.dropLast
      | _, _ => cs
    if !cs.all Quoted.isPlain then fail .badComment
  | _ => pure ()

/-- Take the end of a line, if there is one here. -/
def lineBreak : Reader Bool := do
  match ← left with
  | '\n' :: rest | '\r' :: '\n' :: rest => do
    goTo rest
    pure true
  | _ => pure false

/-- Take what may follow on a line: blanks and a comment. -/
def endOfLine : Reader Unit := do
  blanks
  comment
  let ended ← lineBreak
  if !ended && !(← left).isEmpty then fail .unexpected

/-- Go past blanks, comments and line ends, at most `fuel` of them. -/
def gap : (fuel : Nat) → Reader Unit
  | 0 => pure ()
  | fuel + 1 => do
    blanks
    comment
    if ← lineBreak then gap fuel

/-- Go past all blanks, comments and line ends. -/
def skipGap : Reader Unit := do gap (← left).length

/-! ### Keys -/

/-- May a character stand in a key without quotes? -/
def isKeyChar (c : Char) : Bool := c.isAlphanum || c = '_' || c = '-'

/-- Is a character a quote? -/
def isQuote (c : Char) : Bool := c = Quoted.double || c = Quoted.single

/-- Read with one of the readers of quoted texts. -/
def quotedBy (f : List Char → Option (String × List Char)) : Reader String := do
  match f (← left) with
  | some (s, rest) => do
    goTo rest
    pure s
  | none => fail .badText

/-- Read one key. -/
def simpleKey : Reader String := do
  match ← peek with
  | none => fail .unexpected
  | some c =>
    if isQuote c then quotedBy Quoted.readLine?
    else do
      let cs ← takeWhile isKeyChar
      if cs.isEmpty then fail .unexpected else pure (String.ofList cs)

/-- Read keys with dots between them, at most `fuel` after the first: those before the last, and the
last. -/
def keyPath : (fuel : Nat) → Reader (List String × String)
  | 0 => fail .unexpected
  | fuel + 1 => do
    blanks
    let key ← simpleKey
    blanks
    if (← peek) = some '.' then
      eat
      let (path, last) ← keyPath fuel
      pure (key :: path, last)
    else pure ([], key)

/-- Read a key and those that lead to it. -/
def key : Reader (List String × String) := do keyPath (← left).length

/-! ### Values -/

/-- The most arrays and tables that stand in one another. -/
def maxDepth : Nat := 80

/-- Does a character end a word? -/
def endsWord (c : Char) : Bool :=
  Quoted.isGap c || c = '#' || c = ',' || c = '=' || c = ']' || c = '\x7d'

/-- Read a word; after a date and one blank a time may follow as part of it. -/
def word : Reader Scalar := do
  let cs ← takeWhile fun c => !endsWord c
  if cs.isEmpty then fail .unexpected
  let cs ← match ← left with
    | ' ' :: c :: _ =>
      if isDate cs && c.isDigit then do
        eat
        let time ← takeWhile fun c => !endsWord c
        pure (cs ++ ' ' :: time)
      else pure cs
    | _ => pure cs
  match Scalar.read? cs with
  | some s => pure s
  | none => fail .badWord

/-- Read the items of an array up to its end, at most `fuel`. -/
def items (value : Reader Value) : (fuel : Nat) → Reader (List Value)
  | 0 => fail .unexpected
  | fuel + 1 => do
    skipGap
    if (← peek) = some ']' then
      eat
      pure []
    else
      let v ← value
      skipGap
      if (← peek) = some ',' then
        eat
        pure (v :: (← items value fuel))
      else
        expect ']'
        pure [v]

/-- Read a key and its value. -/
def keyValue (value : Reader Value) : Reader (List String × String × Value) := do
  let (path, last) ← key
  expect '='
  blanks
  pure (path, last, ← value)

/-- Use a table that was changed, if the change was possible. -/
def changed : Option Entries → Reader Entries
  | some t => pure t
  | none => fail .redefined

/-- Read what a table given at once holds, up to its end, at most `fuel` values. -/
def fields (value : Reader Value) : (fuel : Nat) → Entries → Reader Entries
  | 0, _ => fail .unexpected
  | fuel + 1, t => do
    skipGap
    if (← peek) = some '\x7d' then
      eat
      pure t
    else
      let (path, last, v) ← keyValue value
      let t ← changed (t.addBelow? path last v)
      skipGap
      if (← peek) = some ',' then
        eat
        fields value fuel t
      else
        expect '\x7d'
        pure t

/-- Read a value in which arrays and tables stand in one another at most `depth` times. -/
def value (depth : Nat) : Reader Value := do
  match ← peek with
  | none => fail .unexpected
  | some c =>
    if isQuote c then do pure (.scalar (.text (← quotedBy Quoted.read?)))
    else if c = '[' || c = '\x7b' then
      match depth with
      | 0 => fail .tooDeep
      | depth + 1 => do
        eat
        let fuel := (← left).length + 1
        if c = '[' then pure (.array .inline (← items (value depth) fuel))
        else pure (.table .inline (← fields (value depth) fuel []))
    else do pure (.scalar (← word))

/-! ### Lines -/

/-- A document as far as it was read: the table under whose header the next lines stand, and all
tables. -/
structure Progress where
  header : List String := []
  entries : Entries := []

/-- Read a header after its first bracket. -/
def header (p : Progress) : Reader Progress := do
  if (← peek) = some '[' then
    eat
    let (path, last) ← key
    expect ']'
    expect ']'
    pure ⟨path ++ [last], ← changed (p.entries.openItem? path last)⟩
  else
    let (path, last) ← key
    expect ']'
    pure ⟨path ++ [last], ← changed (p.entries.openTable? path last)⟩

/-- Read a line. -/
def line (p : Progress) : Reader Progress := do
  blanks
  match ← left with
  | [] | '\n' :: _ | '\r' :: _ | '#' :: _ => do
    endOfLine
    pure p
  | '[' :: rest => do
    goTo rest
    let p ← header p
    endOfLine
    pure p
  | _ => do
    let (path, last, v) ← keyValue (value maxDepth)
    let entries ← changed (p.entries.define? p.header path last v)
    endOfLine
    pure { p with entries }

/-- Read all lines, at most `fuel`. -/
def lines : (fuel : Nat) → Progress → Reader Progress
  | 0, p => pure p
  | fuel + 1, p => do
    if (← left).isEmpty then pure p else lines fuel (← line p)

end Reader

/-- Read a document, which may start with a byte order mark. -/
def read (s : String) : Except Fault Entries :=
  let cs := match s.toList with
    | '\ufeff' :: cs => cs
    | cs => cs
  match (Reader.lines cs.length {}).run cs with
  | (.ok p, _) => .ok p.entries
  | (.error problem, rest) =>
    .error ⟨problem, ((cs.take (cs.length - rest.length)).filter (· = '\n')).length + 1⟩

end ObjectStorage.Toml

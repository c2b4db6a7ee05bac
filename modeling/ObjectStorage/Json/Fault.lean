/-!
# What can be wrong with a JSON document

A document that cannot be read is refused with a fault at a place: a line and a column, counted in
bytes.  A value of the wrong kind is a fault too.

* `Problem` — the faults, in words by `Problem.message`;
* `Position`, `Fault` — a fault at its place.
-/

namespace ObjectStorage.Json

/-- What is wrong. -/
inductive Problem
  | endInList | endInObject | endInText | endInValue
  | missingColon | missingListEnd | missingObjectEnd | missingValue
  | unknownWord | badEscape | badNumber | numberTooLarge | badText | controlInText
  | keyNotText | halfSurrogate | cutSurrogate | trailingComma | trailing
  /-- A value that does not fit, in words. -/
  | unfit (text : String)
  deriving DecidableEq, Repr

/-- A problem in words. -/
def Problem.message : Problem → String
  | .endInList => "EOF while parsing a list"
  | .endInObject => "EOF while parsing an object"
  | .endInText => "EOF while parsing a string"
  | .endInValue => "EOF while parsing a value"
  | .missingColon => "expected `:`"
  | .missingListEnd => "expected `,` or `]`"
  | .missingObjectEnd => "expected `,` or `\x7d`"
  | .missingValue => "expected value"
  | .unknownWord => "expected ident"
  | .badEscape => "invalid escape"
  | .badNumber => "invalid number"
  | .numberTooLarge => "number out of range"
  | .badText => "invalid unicode code point"
  | .controlInText => "control character (\\u0000-\\u001F) found while parsing a string"
  | .keyNotText => "key must be a string"
  | .halfSurrogate => "lone leading surrogate in hex escape"
  | .cutSurrogate => "unexpected end of hex escape"
  | .trailingComma => "trailing comma"
  | .trailing => "trailing characters"
  | .unfit text => text

/-- A place in a document: the line, counted from one, and the bytes before it on the line. -/
structure Position where
  line : Nat := 1
  column : Nat := 0
  deriving DecidableEq, Repr

/-- The place after a byte. -/
def Position.after (p : Position) (b : UInt8) : Position :=
  if b = 0x0A then ⟨p.line + 1, 0⟩ else { p with column := p.column + 1 }

/-- A problem, with its place as soon as that is known. -/
structure Fault where
  problem : Problem
  position : Option Position := none
  deriving DecidableEq, Repr

/-- A fault in words. -/
def Fault.display (f : Fault) : String :=
  match f.position with
  | none => f.problem.message
  | some p => s!"{f.problem.message} at line {p.line} column {p.column}"

end ObjectStorage.Json

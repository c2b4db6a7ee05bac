import ObjectStorage.Json.Scan
import ObjectStorage.Text.Number
import ObjectStorage.Text.Quoted

/-!
# Reading JSON values

A document is read from its start, one value after the other, each as what the caller expects.  A
record is an object with some of its fields, in any order, or an array of them in their order;
fields that nobody knows are skipped, and those that are missing keep their first value.

* `Reader` — reads a value from an input;
* `Reader.unsigned`, `Reader.signed`, `Reader.text`, `Reader.optional`, `Reader.list`,
  `Reader.record` — what values can be expected;
* `Reader.skip` — a value that nobody wants;
* `Reader.document` — a value that is a whole document.
-/

namespace ObjectStorage.Json

/-- A document and what is left of it. -/
structure Input where
  whole : Bytes
  rest : Bytes

/-- The place where something is left of a document. -/
def Input.placeOf (i : Input) (rest : Bytes) : Position :=
  (i.whole.take (i.whole.length - rest.length)).foldl Position.after {}

/-- The place that was reached. -/
def Input.position (i : Input) : Position := i.placeOf i.rest

/-- The place after the next byte. -/
def Input.ahead (i : Input) : Position := i.placeOf (i.rest.drop 1)

/-- Reads a value from an input.  What was taken stays taken after a fault. -/
abbrev Reader := ExceptT Fault (StateM Input)

namespace Reader

variable {α β : Type}

/-- Fail at the place that was reached. -/
def fail (problem : Problem) : Reader α := fun i =>
  (.error { problem, position := some i.position }, i)

/-- Fail at the next byte. -/
def failAhead (problem : Problem) : Reader α := fun i =>
  (.error { problem, position := some i.ahead }, i)

/-- Fail at a place that is not known yet. -/
def unfit (text : String) : Reader α := throw { problem := .unfit text }

/-- Give a fault without a place the place that was reached. -/
def located (x : Reader α) : Reader α := fun i =>
  match x i with
  | (.error { problem, position := none }, i) =>
    (.error { problem, position := some i.position }, i)
  | r => r

/-- Read one of the smallest parts. -/
def scan (f : Bytes → Scan α) : Reader α := fun i =>
  match f i.rest with
  | (.ok a, rest) => (.ok a, { i with rest })
  | (.error e, rest) =>
    let i := { i with rest }
    (.error { problem := e.problem, position := some (if e.ahead then i.ahead else i.position) }, i)

/-- Take the next byte. -/
def eat : Reader Unit := fun i => (.ok (), { i with rest := i.rest.drop 1 })

/-- The number of bytes that are left. -/
def left : Reader Nat := fun i => (.ok i.rest.length, i)

/-- Is a byte blank? -/
def isBlank (b : UInt8) : Bool := b = 0x20 || b = 0x0A || b = 0x09 || b = 0x0D

/-- Go past blanks and look at the next byte. -/
def peek : Reader (Option UInt8) := fun i =>
  let rest := i.rest.dropWhile isBlank
  (.ok rest.head?, { i with rest })

/-- Go past blanks and look at the first byte of a value. -/
def peekValue : Reader UInt8 := do
  match ← peek with
  | some b => pure b
  | none => failAhead .endInValue

/-- Does a byte stand for a character? -/
def isChar (b : UInt8) (c : Char) : Bool := b = Scan.byte c

/-- Read a fixed word. -/
def word (s : String) : Reader Unit := scan (Scan.word (Text.utf8 s))

/-- Read a number. -/
def number : Reader Number := do
  if isChar (← peekValue) '-' then
    eat
    scan (Scan.number false)
  else scan (Scan.number true)

/-- Read a quoted text from its first quote on. -/
def quoted : Reader String := do
  eat
  scan Scan.text

/-- What a number is called. -/
def numberName : Number → String
  | .natural n => s!"integer `{n}`"
  | .negative n => s!"integer `{n}`"
  | .float x => s!"floating point `{Decimal.graded x}`"

/-- Refuse a value of the wrong kind, which is read as far as it takes to name it. -/
def wrongKind (expected : String) : Reader α := located do
  let refuse (found : String) : Reader α :=
    unfit s!"invalid type: {found}, expected {expected}"
  let b ← peekValue
  if isChar b 'n' then
    word "null"
    refuse "null"
  else if isChar b 't' then
    word "true"
    refuse "boolean `true`"
  else if isChar b 'f' then
    word "false"
    refuse "boolean `false`"
  else if isChar b '-' || Scan.isDigit b then refuse (numberName (← number))
  else if isChar b '"' then refuse ("string " ++ Text.quote (← quoted))
  else if isChar b '[' then refuse "sequence"
  else if isChar b '\x7b' then refuse "map"
  else failAhead .missingValue

/-- Read a number that a function accepts. -/
def whole (expected : String) (accept : Int → Option α) : Reader α := located do
  let b ← peekValue
  if isChar b '-' || Scan.isDigit b then
    let n ← number
    let check (m : Int) : Reader α := match accept m with
      | some a => pure a
      | none => unfit s!"invalid value: {numberName n}, expected {expected}"
    match n with
    | .natural m => check m
    | .negative m => check m
    | .float _ => unfit s!"invalid type: {numberName n}, expected {expected}"
  else wrongKind expected

/-- Read a whole number of 64 bits without sign. -/
def unsigned : Reader UInt64 :=
  whole "u64" fun n => if 0 ≤ n then some (UInt64.ofNat n.toNat) else none

/-- Read a whole number of 64 bits with a sign. -/
def signed : Reader Int := whole "i64" fun n => if n ≤ Int64.maxValue.toInt then some n else none

/-- Read a text. -/
def text : Reader String := do
  if isChar (← peekValue) '"' then quoted else wrongKind "a string"

/-- Read a value that may be null. -/
def optional (x : Reader α) : Reader (Option α) := do
  match ← peek with
  | some b =>
    if isChar b 'n' then
      word "null"
      pure none
    else do pure (some (← x))
  | none => do pure (some (← x))

/-! ### Lists and records -/

/-- Read up to the end of a list of which all wanted items were read. -/
def endList : Reader Unit := do
  match ← peek with
  | none => failAhead .endInList
  | some b =>
    if isChar b ']' then eat
    else if isChar b ',' then
      eat
      match ← peek with
      | some c => failAhead (if isChar c ']' then .trailingComma else .trailing)
      | none => failAhead .trailing
    else failAhead .missingListEnd

/-- Read up to the end of an object of which all fields were read. -/
def endObject : Reader Unit := do
  match ← peek with
  | none => failAhead .endInObject
  | some b =>
    if isChar b '\x7d' then eat
    else failAhead (if isChar b ',' then .trailingComma else .missingObjectEnd)

/-- Read something and then up to an end, also after a fault. -/
def closedBy (finish : Reader Unit) (x : Reader α) : Reader α := fun i =>
  match x i with
  | (.ok a, i) => match finish i with
    | (.ok (), i) => (.ok a, i)
    | (.error e, i) => (.error e, i)
  | (.error e, i) => (.error e, (finish i).2)

/-- Go to the next item of a list, if there is one. -/
def nextItem (first : Bool) : Reader Bool := do
  match ← peek with
  | none => failAhead .endInList
  | some b =>
    if isChar b ']' then pure false
    else if first then pure true
    else if isChar b ',' then
      eat
      if isChar (← peekValue) ']' then failAhead .trailingComma
      pure true
    else failAhead .missingListEnd

/-- Go to the next field of an object, if there is one. -/
def nextField (first : Bool) : Reader Bool := do
  match ← peek with
  | none => failAhead .endInObject
  | some b =>
    if isChar b '\x7d' then pure false
    else if first then
      if isChar b '"' then pure true else failAhead .keyNotText
    else if isChar b ',' then
      eat
      let c ← peekValue
      if isChar c '"' then pure true
      else failAhead (if isChar c '\x7d' then .trailingComma else .keyNotText)
    else failAhead .missingObjectEnd

/-- Read the colon after the name of a field. -/
def colon : Reader Unit := do
  match ← peek with
  | some b => if isChar b ':' then eat else failAhead .missingColon
  | none => failAhead .endInObject

/-- Read items up to the end of a list, at most `fuel`. -/
def items (x : Reader α) : (fuel : Nat) → (first : Bool) → Reader (List α)
  | 0, _ => pure []
  | fuel + 1, first => do
    if ← nextItem first then
      let a ← x
      pure (a :: (← items x fuel false))
    else pure []

/-- Read a list. -/
def list (x : Reader α) : Reader (List α) := located do
  if isChar (← peekValue) '[' then
    eat
    closedBy endList (do items x ((← left) + 1) true)
  else wrongKind "a sequence"

/-! ### Values that nobody wants -/

/-- What values stand in. -/
inductive Frame
  | list | object
  deriving DecidableEq, Repr

namespace Frame

/-- The end of a list or an object. -/
def final : Frame → Char
  | .list => ']'
  | .object => '\x7d'

/-- The fault of a document that ends within. -/
def cut : Frame → Problem
  | .list => .endInList
  | .object => .endInObject

/-- The fault of a value that is followed by neither a comma nor the end. -/
def missingEnd : Frame → Problem
  | .list => .missingListEnd
  | .object => .missingObjectEnd

end Frame

/-- After a value, go to the next one in its frame, and out of the frames that end: the frames of
the next value, none if all have ended. -/
def leave : List Frame → Reader (List Frame)
  | [] => pure []
  | f :: fs => do
    match ← peek with
    | none => failAhead f.cut
    | some b =>
      if isChar b ',' then
        eat
        pure (f :: fs)
      else if isChar b f.final then
        eat
        leave fs
      else failAhead f.missingEnd

/-- After the start of a frame, go to its first value, or out of it if it has none. -/
def enter (f : Frame) (fs : List Frame) : Reader (List Frame) := do
  eat
  match ← peek with
  | none => failAhead f.cut
  | some b =>
    if isChar b f.final then
      eat
      leave fs
    else pure (f :: fs)

/-- Skip one value, or the start of one, and go to the next. -/
def skipOne (frames : List Frame) : Reader (List Frame) := do
  let b ← peekValue
  if isChar b '[' then enter .list frames
  else if isChar b '\x7b' then enter .object frames
  else
    if isChar b 'n' then word "null"
    else if isChar b 't' then word "true"
    else if isChar b 'f' then word "false"
    else if isChar b '-' then
      eat
      scan Scan.skipNumber
    else if Scan.isDigit b then scan Scan.skipNumber
    else if isChar b '"' then
      eat
      scan Scan.skipText
    else failAhead .missingValue
    leave frames

/-- Skip the name of a field if a value stands in an object. -/
def skipName : List Frame → Reader Unit
  | .object :: _ => do
    match ← peek with
    | none => failAhead .endInObject
    | some b => if isChar b '"' then eat else failAhead .keyNotText
    scan Scan.skipText
    colon
  | _ => pure ()

/-- Skip values until all frames have ended, at most `fuel`. -/
def skipAll : (fuel : Nat) → List Frame → Reader Unit
  | 0, _ => pure ()
  | fuel + 1, frames => do
    let frames ← skipOne frames
    if frames.isEmpty then pure ()
    else
      skipName frames
      skipAll fuel frames

/-- Skip a value. -/
def skip : Reader Unit := do skipAll ((← left) + 1) []

/-! ### Records -/

/-- A field of a record: its name, and how it is read into the record. -/
structure Field (α : Type) where
  name : String
  read : Reader (α → α)

/-- A field of some kind, with what it changes. -/
def field (name : String) (x : Reader β) (put : β → α → α) : Field α where
  name
  read := do
    let b ← x
    pure (put b)

/-- Read the fields of a record in their order. -/
def inOrder : List (Field α) → (first : Bool) → α → Reader α
  | [], _, a => pure a
  | f :: fs, first, a => do
    if ← nextItem first then
      let change ← f.read
      inOrder fs false (change a)
    else inOrder fs first a

/-- Read the fields of a record by name, at most `fuel`; `seen` were read before. -/
def byName (fields : List (Field α)) :
    (fuel : Nat) → (seen : List String) → (first : Bool) → α → Reader α
  | 0, _, _, a => pure a
  | fuel + 1, seen, first, a => do
    if ← nextField first then
      let name ← quoted
      match fields.find? (·.name = name) with
      | none => do
        colon
        skip
        byName fields fuel seen false a
      | some f => do
        if seen.contains name then unfit s!"duplicate field `{name}`"
        colon
        let change ← f.read
        byName fields fuel (name :: seen) false (change a)
    else pure a

/-- Read a record with some fields, whose first value is `start`. -/
def record (name : String) (fields : List (Field α)) (start : α) : Reader α := located do
  let b ← peekValue
  if isChar b '[' then
    eat
    closedBy endList (inOrder fields true start)
  else if isChar b '\x7b' then
    eat
    closedBy endObject (do byName fields ((← left) + 1) [] true start)
  else wrongKind s!"struct {name}"

/-- Read a document that holds one value. -/
def document (x : Reader α) (bs : Bytes) : Except Fault α :=
  (((do
    let a ← x
    match ← peek with
    | none => pure a
    | some _ => failAhead .trailing) : Reader α) ⟨bs, bs⟩).1

end Reader

end ObjectStorage.Json

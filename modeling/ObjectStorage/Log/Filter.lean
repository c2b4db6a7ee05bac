import ObjectStorage.Event
import ObjectStorage.Text.Blank
import ObjectStorage.Text.Number
import ObjectStorage.Text.Quoted

/-!
# Which events are logged

A filter is a list of directives, separated by commas.  A directive tells from which level on events
are logged, of all targets or of those that start in some way: `info`, `a::b=debug`, `a::b`.  Of the
directives that fit an event the most specific one decides.  A directive may also ask for spans,
`a[span]=debug`, or for fields, `a[{field}]=debug`; there are no spans, so one that asks for a span
fits nothing.

* `Level.read?` — the level of a word;
* `Directive`, `Directive.read?` — one directive;
* `Filter`, `Filter.read?` — all directives;
* `Filter.passes` — is an event logged?
-/

namespace ObjectStorage

/-- Do two texts differ at most in the case of ASCII letters? -/
def sameLetters (a b : String) : Bool :=
  a.toList.map Char.toLower = b.toList.map Char.toLower

/-- The level with a name, whatever its case. -/
def Level.named? (s : String) : Option Level :=
  (Level.names.find? fun (_, name) => sameLetters name s).map (·.1)

/-- The level of a word: its name, or its rank. -/
def Level.read? (s : String) : Option Level :=
  match Text.readUInt64? s with
  | some n => (Level.names.map (·.1)).find? fun l => l.rank = n.toNat
  | none => Level.named? s

namespace Log

/-- From which level on events are logged; none are if there is no level. -/
abbrev Threshold := Option Level

/-- The threshold of a word: a level, or none. -/
def threshold? (s : String) : Option Threshold :=
  match Text.readUInt64? s with
  | some 0 => some none
  | some _ => (Level.read? s).map some
  | none =>
    if s = "" then some (some .error)
    else if sameLetters "off" s then some none
    else (Level.named? s).map some

/-- Does a threshold let events of a level pass? -/
def admits (t : Threshold) (l : Level) : Bool := t.any fun x => l.rank ≤ x.rank

/-- A field that a directive asks for. -/
structure FieldTest where
  name : String
  hasValue : Bool
  deriving DecidableEq, Repr

/-- A part of a filter. -/
structure Directive where
  threshold : Threshold := some .trace
  /-- How targets start. -/
  target : Option String := none
  /-- Does it ask for a span? -/
  inSpan : Bool := false
  fields : List FieldTest := []
  deriving DecidableEq, Repr

namespace Directive

/-! ### Reading -/

/-- What part of a directive is read; with the place where it starts. -/
inductive Part
  | start
  | levelOrTarget (start : Nat)
  | span (start : Nat)
  | field (start : Nat)
  | afterFields
  | afterSpan
  | level (start : Nat)

/-- May a character start a directive without a span?  Beyond ASCII all characters that show are
taken for letters. -/
def isStart (c : Char) : Bool :=
  c.isAlphanum || c = '-' || c = ':' || c = '_' ||
    (128 ≤ c.toNat && !Text.isBlank c && !Text.inRanges Text.hiddenRanges c.toNat)

/-- A piece of a text. -/
def piece (cs : List Char) (start stop : Nat) : String :=
  String.ofList ((cs.drop start).take (stop - start))

/-- The test for a field that a text asks for. -/
def fieldTest? (s : String) : Option FieldTest :=
  if s = "" then none
  else
    let cs := s.toList
    let name := cs.takeWhile (· ≠ '=')
    some ⟨String.ofList name, name.length < cs.length⟩

/-- Go on by one character at a place.  Pieces are cut from `whole`. -/
def step (whole : List Char) (d : Directive) (i : Nat) (c : Char) :
    Part → Option (Directive × Part)
  | .start =>
    if c = '[' then some (d, .span (i + 1))
    else if isStart c then some (d, .levelOrTarget i) else none
  | .levelOrTarget start =>
    if c = '=' then some ({ d with target := some (piece whole start i) }, .level (i + 1))
    else if c = '[' then some ({ d with target := some (piece whole start i) }, .span (i + 1))
    else some (d, .levelOrTarget start)
  | .span start =>
    if c = ']' then some ({ d with inSpan := true }, .afterSpan)
    else if c = '\x7b' then some ({ d with inSpan := start < i }, .field (i + 1))
    else some (d, .span start)
  | .field start =>
    if c = '\x7d' then
      (fieldTest? (piece whole start i)).map fun f =>
        ({ d with fields := d.fields ++ [f] }, .afterFields)
    else some (d, .field start)
  | .afterFields => if c = ']' then some (d, .afterSpan) else none
  | .afterSpan => if c = '=' then some (d, .level (i + 1)) else none
  | .level start => some (d, .level start)

/-- Read characters from a place on. -/
def steps (whole : List Char) (d : Directive) (i : Nat) (part : Part) :
    List Char → Option (Directive × Part)
  | [] => some (d, part)
  | c :: cs =>
    match step whole d i c part with
    | some (d, part) => steps whole d (i + 1) part cs
    | none => none

/-- The directive of a word that is a level or a target. -/
def ofWord (s : String) : Directive :=
  if s = "" then {}
  else match threshold? s with
    | some threshold => { threshold }
    | none => { target := some s }

/-- Read a directive.  Places are counted without the blanks around it, and the pieces are then cut
from the text with its blanks. -/
def read? (s : String) : Option Directive := do
  let whole := s.toList
  match ← steps whole {} 0 .start (Text.trim whole) with
  | (_, .levelOrTarget start) => some (ofWord (piece whole start whole.length))
  | (d, .level start) =>
    let word := piece whole start whole.length
    if word = "" then some d else do some { d with threshold := ← threshold? word }
  | (d, .afterSpan) => some d
  | _ => none

/-! ### Deciding -/

/-- Does a directive depend on spans or on the values of fields? -/
def isDynamic (d : Directive) : Bool := d.inSpan || !d.fields.isEmpty

/-- Can a directive be decided for an event alone? -/
def isStatic (d : Directive) : Bool := !d.inSpan && d.fields.all fun f => !f.hasValue

/-- Does a directive fit an event? -/
def fits (d : Directive) (e : Event) : Bool :=
  (match d.target with
    | some t => t.toList.isPrefixOf e.target.toList
    | none => true) &&
  d.fields.all fun f => f.name = "message" || (e.fields.map (·.1)).contains f.name

/-- Is a directive more specific than another one?  A longer start of the target counts first, then
more fields. -/
def isMoreSpecific (a b : Directive) : Bool :=
  let size (d : Directive) : Nat := match d.target with
    | some t => t.utf8ByteSize + 1
    | none => 0
  size b < size a || (size a = size b && b.fields.length < a.fields.length)

end Directive

/-- All directives. -/
structure Filter where
  directives : List Directive
  deriving DecidableEq, Repr

namespace Filter

/-- The filter of a level alone. -/
def ofLevel (l : Level) : Filter := ⟨[{ threshold := some l }]⟩

/-- Read a filter. -/
def read? (s : String) : Option Filter :=
  (((s.splitOn ",").filter (· ≠ "")).mapM Directive.read?).map Filter.mk

/-- The directives that can be decided for an event alone.  Without any directive errors are
logged. -/
def deciding (f : Filter) : List Directive :=
  let l := f.directives.filter (·.isStatic)
  if l.isEmpty && !f.directives.any (·.isDynamic) then [{ threshold := some .error }] else l

/-- The directive that decides on an event: the most specific one that fits, the last one among
equals. -/
def decider? (f : Filter) (e : Event) : Option Directive :=
  (f.deciding.filter (·.fits e)).foldl (fun best d =>
    match best with
    | none => some d
    | some b => if b.isMoreSpecific d then some b else some d) none

/-- Is an event logged? -/
def passes (f : Filter) (e : Event) : Bool :=
  (f.decider? e).any fun d => admits d.threshold e.level

end Filter

end Log

end ObjectStorage

import ObjectStorage.Path
import ObjectStorage.Text.Casing
import ObjectStorage.Text.Number
import ObjectStorage.Toml

/-!
# Settings

Settings form a tree: texts, lists, and groups of settings by name.  They are laid over one another
from several sources; groups are united, and everything else is replaced.  A setting is reached by
an address such as `a.b[0].c`.

* `Setting` — a tree of settings;
* `Setting.Address`, `Setting.Address.parse?` — the way to a setting;
* `Setting.get?` — the setting at an address;
* `Setting.lay`, `Setting.layAll` — settings laid over others;
* `Setting.ofToml`, `Setting.ofVariables` — settings from documents and from the environment.
-/

namespace ObjectStorage

/-- A tree of settings. -/
inductive Setting
  /-- Nothing was set here. -/
  | nothing
  | text (s : String)
  | list (items : List Setting)
  | group (members : List (String × Setting))

namespace Setting

/-- Without settings. -/
def empty : Setting := .group []

/-- A step to a setting. -/
inductive Step
  | name (s : String)
  /-- A place in a list, counted from its end if negative. -/
  | place (i : Int)
  deriving DecidableEq, Repr

/-- The way to a setting: a name, and further steps. -/
structure Address where
  first : String
  steps : List Step := []
  deriving DecidableEq, Repr

/-! ### Reading addresses -/

/-- May a character stand in a name? -/
def isNameChar (c : Char) : Bool := c.isAlphanum || c = '_' || c = '-'

/-- Is a character a blank? -/
def isBlank (c : Char) : Bool := c = ' ' || c = '\t'

/-- The place between brackets: digits after an optional minus, with blanks around them. -/
def place? (cs : List Char) : Option Int :=
  let cs := ((cs.dropWhile isBlank).reverse.dropWhile isBlank).reverse
  let n := match cs with
    | '-' :: ds => (Text.digits? ds).map fun n => -(n : Int)
    | ds => (Text.digits? ds).map fun n => (n : Int)
  n.filter Text.fitsInt64

/-- Read steps, at most `fuel`: names after dots, and places between brackets. -/
def steps? : (fuel : Nat) → List Char → Option (List Step)
  | _, [] => some []
  | 0, _ => none
  | fuel + 1, '.' :: cs => do
    let name := cs.takeWhile isNameChar
    if name.isEmpty then none
    some (.name (String.ofList name) :: (← steps? fuel (cs.drop name.length)))
  | fuel + 1, '[' :: cs => do
    let inside := cs.takeWhile (· ≠ ']')
    let ']' :: rest := cs.drop inside.length | none
    some (.place (← place? inside) :: (← steps? fuel rest))
  | _ + 1, _ => none

/-- Read an address. -/
def Address.parse? (s : String) : Option Address := do
  let cs := s.toList
  let name := cs.takeWhile isNameChar
  if name.isEmpty then none
  some ⟨String.ofList name, ← steps? cs.length (cs.drop name.length)⟩

/-! ### Following addresses -/

/-- The settings of a group; everything else has none. -/
def members : Setting → List (String × Setting)
  | .group members => members
  | _ => []

/-- The items of a list; everything else has none. -/
def items : Setting → List Setting
  | .list items => items
  | _ => []

/-- Where a place is in a list of some length; none if it lies before its start. -/
def indexOf? (i : Int) (length : Nat) : Option Nat :=
  if 0 ≤ i then some i.toNat
  else if i.natAbs ≤ length then some (length - i.natAbs) else none

/-- The setting one step further. -/
def child? : Step → Setting → Option Setting
  | .name s, x => x.members.lookup s
  | .place i, x => (indexOf? i x.items.length).bind fun n => x.items[n]?

/-- The setting at an address. -/
def get? (x : Setting) (p : Address) : Option Setting :=
  p.steps.foldl (fun x step => x.bind (child? step)) (x.members.lookup p.first)

/-! ### Laying settings over others -/

/-- Change the setting with a name; before, it may be missing. -/
def alterMember (name : String) (f : Setting → Setting) :
    List (String × Setting) → List (String × Setting)
  | [] => [(name, f .nothing)]
  | (k, v) :: rest => if k = name then (k, f v) :: rest else (k, v) :: alterMember name f rest

/-- Change the setting at a place of a list, which is filled up to there if it is too short. -/
def alterItem (i : Int) (f : Setting → Setting) (l : List Setting) : List Setting :=
  match indexOf? i l.length with
  | some n =>
    let l := l ++ List.replicate (n + 1 - l.length) .nothing
    l.modify n f
  | none =>
    let l := List.replicate (i.natAbs - l.length) .nothing ++ l
    l.modify 0 f

/-- Change the setting after some steps.  What is in the way is replaced by what the steps need. -/
def alter (f : Setting → Setting) : List Step → Setting → Setting
  | [], x => f x
  | .name s :: rest, x => .group (alterMember s (alter f rest) x.members)
  | .place i :: rest, x => .list (alterItem i (alter f rest) x.items)

mutual

/-- Lay a setting over another one: groups are united, everything else is replaced. -/
def onto (below : Setting) : Setting → Setting
  | .group members => .group (ontoAll below.members members)
  | x => x

/-- Lay the settings of a group over those of another one. -/
def ontoAll (below : List (String × Setting)) :
    List (String × Setting) → List (String × Setting)
  | [] => below
  | (name, x) :: rest => ontoAll (alterMember name (fun b => onto b x) below) rest

end

/-- Lay one setting over others, at the address that its name spells; a name that spells none is
taken as it is. -/
def lay (below : Setting) (name : String) (x : Setting) : Setting :=
  let p := (Address.parse? name).getD ⟨name, []⟩
  alter (fun b => onto b x) (.name p.first :: p.steps) below

/-- Lay settings over others, one after the other. -/
def layAll (below : Setting) (l : List (String × Setting)) : Setting :=
  l.foldl (fun below (name, x) => lay below name x) below

/-! ### Sources -/

mutual

/-- The setting for a value of a document. -/
def ofValue : Toml.Value → Setting
  | .scalar s => .text s.display
  | .array _ items => .list (ofValues items)
  | .table _ entries => .group (ofEntries entries)

/-- The settings for values of a document. -/
def ofValues : List Toml.Value → List Setting
  | [] => []
  | v :: rest => ofValue v :: ofValues rest

/-- The settings for a table of a document. -/
def ofEntries : List (String × Toml.Value) → List (String × Setting)
  | [] => []
  | (key, v) :: rest => (key, ofValue v) :: ofEntries rest

end

/-- The settings of a document. -/
def ofToml (s : String) : Except Toml.Fault (List (String × Setting)) := do
  pure (ofEntries (← Toml.read s))

/-- Write a dot for every two underscores. -/
def dotted : List Char → List Char
  | '_' :: '_' :: cs => '.' :: dotted cs
  | c :: cs => c :: dotted cs
  | [] => []

/-- The settings that environment variables hold: those whose names start in some way, whatever
their case. -/
def ofVariables (start : String) (vars : List (String × String)) : List (String × Setting) :=
  vars.filterMap fun (name, value) =>
    (Path.stripPrefix? start.toList (Text.lowercase name.toList)).map fun rest =>
      (String.ofList (dotted rest), .text value)

end Setting

end ObjectStorage

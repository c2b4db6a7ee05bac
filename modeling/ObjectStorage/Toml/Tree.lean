import ObjectStorage.Toml.Word

/-!
# Tables in TOML

A document is a table of values, which may be tables again.  A table is given at once, by a header
of its own, by the header of a table within it, or by the key of a value within it; that decides
what may still be added to it.

* `Value`, `Origin` — values, and how tables and arrays come about;
* `Entries.define?` — add a value to the table under a header, below a path of keys;
* `Entries.openTable?`, `Entries.openItem?` — begin a table, or the next table of an array.
-/

namespace ObjectStorage.Toml

/-- How a table or an array comes about. -/
inductive Origin
  /-- It is given at once, and nothing is added to it. -/
  | inline
  /-- It has a header of its own. -/
  | header
  /-- The header of a table within it tells that it is there. -/
  | implied
  /-- The key of a value within it tells that it is there. -/
  | dotted
  deriving DecidableEq, Repr

/-- A value. -/
inductive Value
  | scalar (s : Scalar)
  | array (origin : Origin) (items : List Value)
  | table (origin : Origin) (entries : List (String × Value))

/-- What a table holds, in the order in which it was given. -/
abbrev Entries := List (String × Value)

namespace Entries

/-- Put a value in the place of the one with the same key, or at the end. -/
def put (key : String) (value : Value) : Entries → Entries
  | [] => [(key, value)]
  | (k, v) :: rest => if k = key then (k, value) :: rest else (k, v) :: put key value rest

/-- How a path of keys goes through tables. -/
structure Walk where
  /-- The origin of tables that are missing on the way. -/
  creates : Origin
  /-- The tables that may be entered. -/
  enters : Origin → Bool
  /-- Does the path go into the last table of an array of tables? -/
  entersArrays : Bool

/-- Change the table at the end of a path; `origin` is that of the table where the path starts. -/
def alter? (w : Walk) (f : Origin → Entries → Option Entries) (origin : Origin) :
    List String → Entries → Option Entries
  | [], t => f origin t
  | key :: keys, t =>
    match t.lookup key with
    | none => do some (t.put key (.table w.creates (← alter? w f w.creates keys [])))
    | some (.table o inner) => do
      if !w.enters o then none
      some (t.put key (.table o (← alter? w f o keys inner)))
    | some (.array .header items) => do
      if !w.entersArrays then none
      match items.getLast? with
      | some (.table o inner) =>
        let inner ← alter? w f o keys inner
        some (t.put key (.array .header (items.dropLast ++ [.table o inner])))
      | _ => none
    | some _ => none

/-- Paths in headers go through all tables but those that were given at once. -/
def headerWalk : Walk := ⟨.implied, fun o => o ≠ .inline, true⟩

/-- Paths of dotted keys go through tables that have no header. -/
def dottedWalk : Walk := ⟨.dotted, fun o => o = .implied || o = .dotted, false⟩

/-- Add a value that is not there yet. -/
def add? (key : String) (value : Value) (t : Entries) : Option Entries :=
  match t.lookup key with
  | none => some (t ++ [(key, value)])
  | some _ => none

/-- Add a value below a path of keys in a table: the last table on the path must come about by such
keys. -/
def addBelow? (path : List String) (key : String) (value : Value) (t : Entries) :
    Option Entries :=
  alter? dottedWalk (fun o t =>
    if path ≠ [] && o ≠ .dotted then none else t.add? key value) .header path t

/-- Add a value to the table under a header. -/
def define? (header path : List String) (key : String) (value : Value) (t : Entries) :
    Option Entries :=
  alter? headerWalk (fun _ t => t.addBelow? path key value) .header header t

/-- Begin the table of a header; it must be new, or known only by the header of a table within
it. -/
def openTable? (path : List String) (key : String) (t : Entries) : Option Entries :=
  alter? headerWalk (fun _ t =>
    match t.lookup key with
    | none => some (t ++ [(key, .table .header [])])
    | some (.table .implied inner) => some (t.put key (.table .header inner))
    | some _ => none) .header path t

/-- Begin the next table of an array of tables. -/
def openItem? (path : List String) (key : String) (t : Entries) : Option Entries :=
  alter? headerWalk (fun _ t =>
    match t.lookup key with
    | none => some (t ++ [(key, .array .header [.table .header []])])
    | some (.array .header items) =>
      some (t.put key (.array .header (items ++ [.table .header []])))
    | some _ => none) .header path t

end Entries

end ObjectStorage.Toml

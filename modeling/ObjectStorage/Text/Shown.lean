import ObjectStorage.Text.Quoted

/-!
# Shown values

Configuration and errors can be shown whole, for people who look for a fault.  A `Shown` value is
what is to be seen, independent of the layout: an atom, a record of named fields, a constructor
with arguments, or a list.

* `Shown.inline` — on one line;
* `Shown.block` — one field or item to a line, each level four blanks further in.
-/

namespace ObjectStorage.Text

/-- A value to be shown. -/
inductive Shown
  | atom (text : String)
  | record (name : String) (fields : List (String × Shown))
  | applied (name : String) (args : List Shown)
  | list (items : List Shown)

namespace Shown

/-- A text, quoted. -/
def text (s : String) : Shown := .atom (quote s)

/-- A number. -/
def number (n : Int) : Shown := .atom (toString n)

/-- A value that may be missing. -/
def optional : Option Shown → Shown
  | none => .atom "None"
  | some v => .applied "Some" [v]

mutual

/-- A value on one line. -/
def inline : Shown → String
  | .atom s => s
  | .record name [] => name
  | .record name fields => name ++ " \x7b " ++ ", ".intercalate (inlineFields fields) ++ " \x7d"
  | .applied name args => name ++ "(" ++ ", ".intercalate (inlineAll args) ++ ")"
  | .list items => "[" ++ ", ".intercalate (inlineAll items) ++ "]"

def inlineAll : List Shown → List String
  | [] => []
  | v :: vs => inline v :: inlineAll vs

def inlineFields : List (String × Shown) → List String
  | [] => []
  | (k, v) :: rest => (k ++ ": " ++ inline v) :: inlineFields rest

end

/-- Blanks of one level of indentation. -/
def step : String := "    "

mutual

/-- A value over several lines, the first of which is not indented; the others stand at least as
far in as `margin`. -/
def block (margin : String) : Shown → String
  | .atom s => s
  | .record name [] => name
  | .record name fields =>
    name ++ " \x7b\n" ++ String.join (blockFields (margin ++ step) fields) ++ margin ++ "\x7d"
  | .applied name args =>
    name ++ "(\n" ++ String.join (blockAll (margin ++ step) args) ++ margin ++ ")"
  | .list [] => "[]"
  | .list items => "[\n" ++ String.join (blockAll (margin ++ step) items) ++ margin ++ "]"

def blockAll (margin : String) : List Shown → List String
  | [] => []
  | v :: vs => (margin ++ block margin v ++ ",\n") :: blockAll margin vs

def blockFields (margin : String) : List (String × Shown) → List String
  | [] => []
  | (k, v) :: rest => (margin ++ k ++ ": " ++ block margin v ++ ",\n") :: blockFields margin rest

end

end Shown

end ObjectStorage.Text

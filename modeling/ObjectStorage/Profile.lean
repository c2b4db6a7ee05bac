import ObjectStorage.Command.Failure
import ObjectStorage.FileTree
import ObjectStorage.Setting

/-!
# Profiles

A profile names a configured service: its scheme, and the options from which it is built.  Profiles
are settings, which come from a file and from environment variables; the variables win.

* `Profile` — a profile;
* `Profiles.ofToml`, `Profiles.load` — profiles from a document, and from all sources;
* `Profiles.defaultPath` — where the file is if nothing else is told;
* `Profiles.get` — the profile with a name.
-/

namespace ObjectStorage

/-- A configured service. -/
structure Profile where
  scheme : Scheme
  options : Options

/-- All profiles. -/
structure Profiles where
  settings : Setting

namespace Profiles

/-! ### Sources -/

/-- The settings of a document. -/
def documentSettings (document : String) : Except ProfileFault (List (String × Setting)) :=
  match Setting.ofToml document with
  | .ok l => .ok l
  | .error f => .error (.load f.message)

/-- The profiles of a document. -/
def ofToml (document : String) : Except ProfileFault Profiles := do
  pure ⟨Setting.empty.layAll (← documentSettings document)⟩

/-- A path below a directory; an absolute path stays as it is. -/
def pathBelow (dir path : String) : String :=
  if FileTree.isAbsolute path || dir = "" then path else Path.asDir dir ++ path

/-- Where the file with the profiles is in a home directory. -/
def defaultPath (home : Option String) : String :=
  pathBelow (home.getD "/tmp") ".config/oli/config.toml"

/-- Drop the parts at the end of a path that are empty or stay where they are. -/
def dropIdle (cs : List Char) : List Char :=
  let rec go : List Char → List Char
    | '/' :: '.' :: '/' :: rest => go ('/' :: rest)
    | '/' :: rest => go rest
    | '.' :: '/' :: rest => go ('/' :: rest)
    | cs => cs
  (go cs.reverse).reverse

/-- A path with the extension of profile files. -/
def withExtension (path : String) : String :=
  let cs := dropIdle path.toList
  if cs.isEmpty || Path.name (String.ofList cs) = ".." then path
  else String.ofList cs ++ ".toml"

/-- The text of the file at a path, if it is a file with a text. -/
def textAt? (files : FileTree) (path : String) : Option String :=
  match files.node path with
  | .ok (_, .file id) => Text.text? (files.content id)
  | _ => none

/-- Is there a file at a path? -/
def isFile (files : FileTree) (path : String) : Bool :=
  match files.node path with
  | .ok (_, n) => n.isFile
  | .error _ => false

/-- The text of the file with the profiles; its extension may be left out.  A file that is missing
or holds no text counts as empty. -/
def fileText (files : FileTree) (current : Option String) (path : String) : String :=
  let found := do
    let full ← if FileTree.isAbsolute path then some path
      else current.map fun dir => pathBelow dir path
    if isFile files full then textAt? files full else textAt? files (withExtension full)
  found.getD ""

/-- How the names of the environment variables with settings start, in lower case. -/
def variableStart : String := "oli_"

/-- The profiles of a file and of environment variables. -/
def load (files : FileTree) (current : Option String) (path : String)
    (vars : List (String × String)) : Except ProfileFault Profiles := do
  let fromFile ← documentSettings (fileText files current path)
  pure ⟨(Setting.empty.layAll fromFile).layAll (Setting.ofVariables variableStart vars)⟩

/-! ### Using profiles -/

/-- The option that a setting of a profile stands for; a list or a group stands for none. -/
def optionOf (profile : String) : String × Setting → Except ProfileFault (String × String)
  | (key, .text s) => .ok (key, s)
  | (key, _) => .error (.invalidValue profile key)

/-- The name of the setting that tells the scheme of a profile. -/
def schemeKey : String := "type"

/-- The profile with a name. -/
def get (p : Profiles) (name : String) : Except ProfileFault Profile := do
  let some (.group members) := (Setting.Address.parse? ("profiles." ++ name)).bind p.settings.get?
    | .error (.notFound name)
  let options := Table.ofList (← members.mapM (optionOf name))
  let some text := options.get? schemeKey | .error (.missingType name)
  match Scheme.parse text with
  | .ok scheme => .ok ⟨scheme, options.erase schemeKey⟩
  | .error _ => .error (.invalidScheme name text)

end Profiles

end ObjectStorage

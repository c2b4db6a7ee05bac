import ObjectStorage.Command
import ObjectStorage.Host
import ObjectStorage.Profile

/-!
# Targets of commands

A command names an object as `profile:path`, or by a local path.  What stands before the first
colon is a profile only if it could be the name of one.

* `Target`, `Target.parse` — the object that a command names;
* `Target.resolve` — the operator that reaches it, and the path to it there;
* `Target.file?` — where it is among the files of the host.
-/

namespace ObjectStorage

/-- The object that a command names. -/
structure Target where
  /-- The profile; none for a local path. -/
  profile : Option String
  path : String
  deriving DecidableEq, Repr

namespace Target

/-- Can a text be the name of a profile in a target? -/
def isName (cs : List Char) : Bool :=
  !cs.isEmpty && cs.all fun c => c.isAlphanum || c = '_' || c = '-'

/-- Read a target. -/
def parse (s : String) : Target :=
  let name := s.toList.takeWhile (· ≠ ':')
  match s.toList.drop name.length with
  | _ :: path =>
    if isName name then ⟨some (String.ofList name), String.ofList path⟩ else ⟨none, s⟩
  | [] => ⟨none, s⟩

/-- The root of the service for a local path: that of all files for an absolute path, and otherwise
the current directory. -/
def localRoot (path : String) (current : Option String) : Except Failure String :=
  if FileTree.isAbsolute path then .ok "/"
  else match current with
    | some dir => .ok dir
    | none => .error (.message "get current dir" (some .notFound))

/-- How often a command tries an operation again. -/
def retries : Nat := 3

/-- The layers around the services of targets, the innermost first. -/
def layers : List LayerConfig := [.retry { maxTimes := retries }, .logging]

/-- Build the service of a target. -/
def service (t : Target) (profiles : Profiles) : Command Host Host.Service := do
  match t.profile with
  | some name => do
    match profiles.get name with
    | .error fault => Command.fail (.profile fault)
    | .ok profile => do
      Command.log (.remark .debug "opendal::cli" "using profile"
        [("profile", .text name), ("scheme", .text profile.scheme.name)])
      Command.ofRun (Host.build profile.scheme profile.options)
  | none => do
    match localRoot t.path (← Command.ofRun Run.getService).current with
    | .error f => Command.fail f
    | .ok root => Command.ofRun (Host.build .fs (.ofList [("root", root)]))

/-- Build the operator that reaches a target; the path to it there is the path of the target. -/
def resolve (t : Target) (profiles : Profiles) : Command Host Host.Operator := do
  let service ← t.service profiles
  Command.ofRun do
    let op ← Operator.addAll { service } layers
    op.finish

/-- Where a target is among the files of the host, if it is there. -/
def file? (t : Target) (profiles : Profiles) (current : Option String) : Option String :=
  let below (path : String) : Option String :=
    if FileTree.isAbsolute path then some path
    else current.map fun dir => Profiles.pathBelow dir path
  match t.profile with
  | none => below t.path
  | some name =>
    match profiles.get name with
    | .ok ⟨.fs, options⟩ =>
      (options.get? "root").bind fun root => below (Path.asDir root ++ Path.normalize t.path)
    | _ => none

end Target

end ObjectStorage

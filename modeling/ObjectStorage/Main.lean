import ObjectStorage.FileTree.Change
import ObjectStorage.Program

/-!
# The command

The outer layer of the program: it reads the part of the local file system that a command line is
about, runs the program on it, and carries out what has changed there.  No server is reached.

* `learn`, `learnAlong` — files and directories as a tree;
* `apply` — a change of the tree on the local file system;
* `main` — the command.
-/

namespace ObjectStorage.Main

/-- Where the environment of the process is told. -/
def environmentFile : String := "/proc/self/environ"

/-- The variables in the text that tells the environment. -/
def variablesOf (text : String) : Variables :=
  (text.splitOn "\x00").filterMap fun entry =>
    let name := (entry.toList.takeWhile (· ≠ '='))
    if name.length < entry.length then
      some (String.ofList name, String.ofList (entry.toList.drop (name.length + 1)))
    else none

/-- A time of the file system. -/
def timeOf (t : IO.FS.SystemTime) : Timestamp := ⟨t.sec, t.nsec.toNat⟩

/-- What stands at a path of the file system, and since when. -/
def describe (path : String) : IO (IO.FS.FileType × Timestamp) := do
  let info ← ((← IO.currentDir) / path).metadata
  pure (info.type, timeOf info.modified)

/-- The names in a directory of the file system. -/
def namesIn (path : String) : IO (List String) := do
  pure ((← ((← IO.currentDir) / path).readDir).toList.map (·.fileName))

/-- Add what stands at a path to a tree, in a directory with a time, with `depth` levels below it.
Contents are read only if `whole`. -/
def learn (whole : Bool) : (depth : Nat) → (dirTime : Timestamp) → (dir : List String) →
    (name : String) → FileTree → IO FileTree
  | depth, dirTime, dir, name, t => do
    let names := dir ++ [name]
    let path := "/" ++ String.intercalate "/" names
    try
      let (kind, time) ← describe path
      let isNew := (t.root.at? names).isNone
      match kind with
      | .dir =>
        let t := if isNew then { t with now := dirTime }.add dir name (.dir time []) else t
        match depth with
        | 0 => pure t
        | depth + 1 =>
          (← namesIn path).foldlM (fun t child => learn false depth time names child t) t
      | .file =>
        let content ← if whole then IO.FS.readBinFile path else pure ByteArray.empty
        if isNew then
          let next := { t with now := dirTime }.add dir name (.file t.files.length)
          pure { next with files := t.files ++ [⟨content.toList, time⟩] }
        else pure t
      | _ => pure (if isNew then { t with now := dirTime }.add dir name .device else t)
    catch _ => pure t

/-- Add all that stands on the way to a path to a tree, and what stands there with `depth` levels
below it. -/
def learnAlong (depth : Nat) (path : String) (t : FileTree) : IO FileTree := do
  let rec go (dir : List String) : List String → FileTree → IO FileTree
    | [], t => pure t
    | [name], t => learn true depth ⟨0, 0⟩ dir name t
    | name :: rest, t => do go (dir ++ [name]) rest (← learn true 0 ⟨0, 0⟩ dir name t)
  go [] ((FileTree.names path).filter (· ≠ ".")) t

/-- Carry out a change on the local file system. -/
def apply : FileTree.Change → IO Unit
  | .makeDir path => IO.FS.createDirAll path
  | .write path content => IO.FS.writeBinFile path ⟨content.toArray⟩
  | .removeFile path => IO.FS.removeFile path
  | .removeDir path => IO.FS.removeDir path

/-- How many levels are read below a target: all of them for a recursive listing. -/
def depthOf : Instruction → Nat
  | .ls true _ => FileTree.maxPath
  | _ => 1

/-- The files that a command line is about. -/
def filesFor (vars : Variables) (current : String) (arguments : List String) : IO FileTree := do
  let below (path : String) : String := Profiles.pathBelow current path
  let logged := ((Log.Config.ofVariables vars).dir.map below).toList
  let t ← (current :: logged).foldlM (fun t path => learnAlong 0 path t) FileTree.empty
  match Program.readArguments vars arguments with
  | .error _ => pure t
  | .ok i =>
    let path := below (i.config.getD (Profiles.defaultPath (vars.get? "HOME")))
    let t ← [path, Profiles.withExtension path].foldlM (fun t path => learnAlong 0 path t) t
    match Profiles.load t (some current) path vars with
    | .error _ => pure t
    | .ok profiles =>
      let targets := i.instruction.targets.filterMap fun s =>
        (Target.parse s).file? profiles (some current)
      targets.foldlM (fun t path => learnAlong (depthOf i.instruction) path t) t

/-- Run the program on the files that its command line is about. -/
def run (arguments : List String) : IO UInt32 := do
  let vars := variablesOf (← IO.FS.readFile environmentFile)
  let (_, now) ← describe environmentFile
  let current := (← IO.currentDir).toString
  let files := { ← filesFor vars current arguments with now }
  let outcome := Program.run vars arguments { files, current := some current }
  (files.changes outcome.world.service.files).forM apply
  let stamp := Log.stamp now
  match outcome.logPath? with
  | none => pure ()
  | some path =>
    let log ← IO.FS.Handle.mk (Profiles.pathBelow current path) .append
    log.putStr (outcome.fileText stamp)
  (← IO.getStderr).putStr (outcome.logText stamp none)
  (← IO.getStdout).write ⟨outcome.world.output.toArray⟩
  (← IO.getStderr).putStr outcome.complaint
  pure (UInt32.ofNat outcome.code)

end ObjectStorage.Main

/-- The command with the words after its name. -/
def main (arguments : List String) : IO UInt32 := ObjectStorage.Main.run arguments

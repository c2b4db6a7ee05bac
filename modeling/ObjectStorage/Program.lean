import ObjectStorage.CommandLine
import ObjectStorage.Log
import ObjectStorage.Target

/-!
# The program

The program sets up its log, reads its command line, loads the profiles, and carries out what it was
asked for.

* `Program.carryOut` — carry out an instruction with some profiles;
* `Program.obey` — do what a command line asks for;
* `Program.startLog` — set up the log;
* `Outcome`, `Program.run` — the whole program, and what it leaves behind.
-/

namespace ObjectStorage

/-- What a program leaves behind when it ends. -/
structure Outcome where
  /-- The exit code. -/
  code : Nat
  /-- What is told on the terminal after the log. -/
  complaint : String := ""
  /-- What was told about logs. -/
  log : Log.Config
  /-- Which events are logged. -/
  filter : Log.Filter
  /-- The host with what was printed, and all events. -/
  world : World Host

namespace Program

/-- Carry out an instruction. -/
def carryOut (profiles : Profiles) : Instruction → Command Host Unit
  | .cat target => do Command.cat (← reach target) (pathOf target)
  | .stat target => do Command.stat (← reach target) (pathOf target)
  | .ls recursive target => do Command.ls (← reach target) (pathOf target) recursive
  | .rm target => do Command.rm (← reach target) (pathOf target)
  | .cp src dst => do
    let srcOp ← reach src
    let dstOp ← reach dst
    Command.cp srcOp (pathOf src) dstOp (pathOf dst)
  | .mkdir target => do Command.mkdir (← reach target) (pathOf target)
where
  /-- The operator that reaches a target. -/
  reach (target : String) : Command Host Host.Operator := (Target.parse target).resolve profiles
  /-- The path of a target. -/
  pathOf (target : String) : String := (Target.parse target).path

/-- Load the profiles. -/
def loadProfiles (vars : Variables) (path : String) : Command Host Profiles := do
  Command.log (.remark .debug "opendal::config" "loading oli profiles" [("path", .text path)])
  let host ← Command.ofRun Run.getService
  match Profiles.load host.files host.current path vars with
  | .ok profiles => pure profiles
  | .error fault => Command.fail (.profile fault)

/-- Do what a command line asks for. -/
def obey (vars : Variables) (i : CommandLine.Invocation) : Command Host Unit := do
  let path := i.config.getD (Profiles.defaultPath (vars.get? "HOME"))
  let profiles ← loadProfiles vars path
  carryOut profiles i.instruction

/-- Read the command line, where a variable may stand in for an option. -/
def readArguments (vars : Variables) (arguments : List String) :
    Except CommandLine.Usage CommandLine.Invocation :=
  CommandLine.read (vars.get? CommandLine.configVariable) arguments

/-! ### The log -/

/-- A path as it is from the root of all files on; without a current directory only absolute paths
lead anywhere. -/
def fullPath? (host : Host) (path : String) : Option String :=
  if FileTree.isAbsolute path then some path
  else host.current.map fun dir => Profiles.pathBelow dir path

/-- Create the directory of the log. -/
def createLogDir (dir : String) : Run Host (Except IoError Unit) :=
  Run.modifyService fun host =>
    match fullPath? host dir with
    | none => (.error .notFound, host)
    | some dir =>
      let (result, files) := host.files.createDirAll dir
      (result, { host with files })

/-- The path of the log file in a directory. -/
def logFile (c : Log.Config) (host : Host) (dir : String) : String :=
  Path.asDir dir ++ Log.fileName c.rotation host.files.now

/-- Create the log file, unless it is there. -/
def createLogFile (c : Log.Config) (dir : String) : Run Host Unit :=
  Run.modifyService fun host =>
    match (fullPath? host dir).map (logFile c host) with
    | none => ((), host)
    | some path =>
      match host.files.node path with
      | .ok _ => ((), host)
      | .error _ =>
        match host.files.writeFile path [] with
        | .ok files => ((), { host with files })
        | .error _ => ((), host)

/-- Create the directory and the file of the log, if there is one. -/
def openLog (c : Log.Config) : Command Host Unit := do
  match c.dir with
  | none => pure ()
  | some dir => do
    match ← Command.ofRun (createLogDir dir) with
    | .error e => Command.fail (.io e)
    | .ok () => Command.ofRun (createLogFile c dir)

/-- Set up the log. -/
def startLog (c : Log.Config) : Command Host Unit := do
  openLog c
  match c.dir with
  | none => pure ()
  | some dir =>
    Command.log (.remark .debug "opendal::startup::logging" "file logging initialized"
      [("log_dir", .text dir)])

/-! ### The whole program -/

/-- The exit code of a program whose command line is refused. -/
def usageCode : Nat := 2

/-- A failure as the program tells it. -/
def complaint (f : Failure) : String := s!"Error: {f.describe}\n"

/-- Run the program with some words after its name. -/
def run (vars : Variables) (arguments : List String) (host : Host) : Outcome :=
  let log := Log.Config.ofVariables vars
  let filter := Log.filterOf log.level vars
  match startLog log { service := host } with
  | (.error f, world) => { code := 1, complaint := complaint f, log, filter, world }
  | (.ok (), world) =>
    match readArguments vars arguments with
    | .error u =>
      let text := u.message (vars.get? CommandLine.configVariable)
      if u.isAnswer then
        { code := 0, log, filter, world := { world with printed := [Text.utf8 text] } }
      else { code := usageCode, complaint := text, log, filter, world }
    | .ok i =>
      match obey vars i world with
      | (.ok (), world) => { code := 0, log, filter, world }
      | (.error f, world) => { code := 1, complaint := complaint f, log, filter, world }

end Program

namespace Outcome

/-- The name of the thread that logs. -/
def threadName : String := "main"

/-- The lines of the log, each with the time in front. -/
def logText (o : Outcome) (time : String) (thread : Option String) : String :=
  String.join ((o.world.events.filter o.filter.passes).map (Log.line time thread))

/-- What is told on the terminal beside what is printed. -/
def terminalText (o : Outcome) (time : String) : String := o.logText time none ++ o.complaint

/-- What is added to the log file. -/
def fileText (o : Outcome) (time : String) : String := o.logText time (some threadName)

/-- The path of the log file, if there is one. -/
def logPath? (o : Outcome) : Option String :=
  o.log.dir.map (Program.logFile o.log o.world.service)

end Outcome

end ObjectStorage

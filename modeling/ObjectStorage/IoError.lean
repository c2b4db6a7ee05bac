/-!
# Input and output failures

Files, readers and connections fail with an `IoError`: a kind that callers branch on and a text
for people.  Failures of the local file system carry the texts of the operating system.

* `IoKind` — the kinds of failure;
* `IoError` — a kind and its text;
* `IoError.notFound`, `IoError.notADirectory`, … — the failures of the file system.
-/

namespace ObjectStorage

/-- The kinds of failure of files, readers and connections. -/
inductive IoKind
  | notFound | permissionDenied | connectionRefused | connectionReset | hostUnreachable
  | networkUnreachable | connectionAborted | notConnected | addrInUse | addrNotAvailable
  | networkDown | brokenPipe | alreadyExists | wouldBlock | notADirectory | isADirectory
  | directoryNotEmpty | readOnlyFilesystem | staleNetworkFileHandle | invalidInput | invalidData
  | timedOut | writeZero | storageFull | notSeekable | quotaExceeded | fileTooLarge
  | resourceBusy | executableFileBusy | deadlock | crossesDevices | tooManyLinks
  | invalidFilename | argumentListTooLong | interrupted | unsupported | unexpectedEof
  | outOfMemory | other | filesystemLoop
  deriving DecidableEq, Repr

/-- Every kind with its name. -/
def IoKind.names : List (IoKind × String) :=
  [(.notFound, "NotFound"), (.permissionDenied, "PermissionDenied"),
    (.connectionRefused, "ConnectionRefused"), (.connectionReset, "ConnectionReset"),
    (.hostUnreachable, "HostUnreachable"), (.networkUnreachable, "NetworkUnreachable"),
    (.connectionAborted, "ConnectionAborted"), (.notConnected, "NotConnected"),
    (.addrInUse, "AddrInUse"), (.addrNotAvailable, "AddrNotAvailable"),
    (.networkDown, "NetworkDown"), (.brokenPipe, "BrokenPipe"),
    (.alreadyExists, "AlreadyExists"), (.wouldBlock, "WouldBlock"),
    (.notADirectory, "NotADirectory"), (.isADirectory, "IsADirectory"),
    (.directoryNotEmpty, "DirectoryNotEmpty"), (.readOnlyFilesystem, "ReadOnlyFilesystem"),
    (.staleNetworkFileHandle, "StaleNetworkFileHandle"), (.invalidInput, "InvalidInput"),
    (.invalidData, "InvalidData"), (.timedOut, "TimedOut"), (.writeZero, "WriteZero"),
    (.storageFull, "StorageFull"), (.notSeekable, "NotSeekable"),
    (.quotaExceeded, "QuotaExceeded"), (.fileTooLarge, "FileTooLarge"),
    (.resourceBusy, "ResourceBusy"), (.executableFileBusy, "ExecutableFileBusy"),
    (.deadlock, "Deadlock"), (.crossesDevices, "CrossesDevices"),
    (.tooManyLinks, "TooManyLinks"), (.invalidFilename, "InvalidFilename"),
    (.argumentListTooLong, "ArgumentListTooLong"), (.interrupted, "Interrupted"),
    (.unsupported, "Unsupported"), (.unexpectedEof, "UnexpectedEof"),
    (.outOfMemory, "OutOfMemory"), (.filesystemLoop, "FilesystemLoop"), (.other, "Other")]

/-- The name of a kind. -/
def IoKind.name (k : IoKind) : String := (names.lookup k).getD "Other"

/-- The kind of a name. -/
def IoKind.ofName? (s : String) : Option IoKind :=
  (names.find? fun (_, name) => name == s).map (·.1)

/-- A failure of a file, a reader or a connection. -/
structure IoError where
  kind : IoKind
  text : String
  /-- The code of the operating system, if the failure is one of its own. -/
  code : Option Nat := none
  deriving DecidableEq, Repr

namespace IoError

/-- A failure reported by the operating system: its reason and its code. -/
def system (kind : IoKind) (reason : String) (code : Nat) : IoError :=
  ⟨kind, s!"{reason} (os error {code})", some code⟩

/-- A component of the path is missing. -/
def notFound : IoError := system .notFound "No such file or directory" 2

/-- The file is there already. -/
def alreadyExists : IoError := system .alreadyExists "File exists" 17

/-- A component that should be a directory is none. -/
def notADirectory : IoError := system .notADirectory "Not a directory" 20

/-- A directory stands where a file should. -/
def isADirectory : IoError := system .isADirectory "Is a directory" 21

/-- The directory to be removed still has entries. -/
def directoryNotEmpty : IoError := system .directoryNotEmpty "Directory not empty" 39

/-- A component, or the whole path, is longer than the file system allows. -/
def nameTooLong : IoError := system .invalidFilename "File name too long" 36

/-- Symbolic links lead nowhere. -/
def tooManyLinks : IoError := system .filesystemLoop "Too many levels of symbolic links" 40

/-- The directory is in use. -/
def resourceBusy : IoError := system .resourceBusy "Device or resource busy" 16

/-- The path is not acceptable to the operating system. -/
def invalidArgument : IoError := system .invalidInput "Invalid argument" 22

/-- The path holds a NUL byte; the operating system is not asked. -/
def nulInPath : IoError := ⟨.invalidInput, "file name contained an unexpected NUL byte", none⟩

/-- Nothing listens at the other end. -/
def connectionRefused : IoError := system .connectionRefused "Connection refused" 111

end IoError

end ObjectStorage

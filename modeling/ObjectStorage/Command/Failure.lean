import ObjectStorage.World

/-!
# Failures of commands

A command fails with an error of the storage, a failure of input or output, a fault of a profile,
or a message of its own.

* `ProfileFault` — what can be wrong with a profile;
* `Failure` — why a command fails;
* `Command` — a command, which may fail so.
-/

namespace ObjectStorage

/-- What can be wrong with profiles. -/
inductive ProfileFault
  /-- The configuration cannot be read at all. -/
  | load (reason : String)
  | notFound (profile : String)
  | missingType (profile : String)
  | invalidScheme (profile scheme : String)
  | invalidValue (profile key : String)
  deriving DecidableEq, Repr

/-- A name between single quotes. -/
def ProfileFault.named (name : String) : String := "'" ++ name ++ "'"

/-- A fault in words. -/
def ProfileFault.message : ProfileFault → String
  | .load reason => s!"failed to load config: {reason}"
  | .notFound profile => s!"profile {named profile} not found"
  | .missingType profile => s!"profile {named profile} has no " ++ named "type"
  | .invalidScheme profile scheme =>
    s!"profile {named profile} has invalid type {named scheme}"
  | .invalidValue profile key => s!"profile {named profile} has invalid value for {named key}"

/-- Why a command fails. -/
inductive Failure
  | storage (error : Error)
  | io (error : IoError)
  | profile (fault : ProfileFault)
  /-- A message, with the failure that it goes back to. -/
  | message (text : String) (cause : Option IoError := none)
  /-- The command waits for a permit that nobody gives back. -/
  | waiting

/-- The messages of a failure and of all it goes back to. -/
def Failure.chain : Failure → List String
  | .storage e => e.chain
  | .io e => [e.text]
  | .profile (.load reason) => [(ProfileFault.load reason).message, reason]
  | .profile fault => [fault.message]
  | .message text cause => text :: cause.toList.map (·.text)
  | .waiting => []

/-- A failure in one line. -/
def Failure.display (f : Failure) : String := f.chain.headD ""

/-- A failure as it is told on a terminal: the line, and below it the causes. -/
def Failure.describe (f : Failure) : String := Report.causes f.chain

/-- A command on a world with a service of states `σ`. -/
abbrev Command (σ α : Type) := ExceptT Failure (StateM (World σ)) α

namespace Command

variable {σ α β : Type}

/-- Fail. -/
def fail (f : Failure) : Command σ α := throw f

/-- An operation as part of a command. -/
def ofRun (x : Run σ α) : Command σ α := fun w =>
  match x w with
  | (.ok a, w) => (.ok a, w)
  | (.error (.failed e), w) => (.error (.storage e), w)
  | (.error .waiting, w) => (.error .waiting, w)

/-- Print bytes. -/
def printBytes (bs : Bytes) : Command σ Unit := fun w =>
  (.ok (), { w with printed := bs :: w.printed })

/-- Print a line. -/
def printLine (s : String) : Command σ Unit := printBytes (Text.utf8 (s ++ "\n"))

/-- Tell something. -/
def log (e : Event) : Command σ Unit := ofRun (Run.log e)

theorem bind_apply (x : Command σ α) (f : α → Command σ β) (w : World σ) :
    (x >>= f) w = match x w with
      | (.ok a, w') => f a w'
      | (.error e, w') => (.error e, w') := by
  show (ExceptT.bind x f) w = _
  simp only [ExceptT.bind, ExceptT.mk, bind, StateT.bind]
  rcases x w with ⟨e | a, w'⟩ <;> rfl

theorem bind_of_ok {x : Command σ α} {f : α → Command σ β} {w w' : World σ} {a : α}
    (h : x w = (.ok a, w')) : (x >>= f) w = f a w' := by
  rw [bind_apply, h]

theorem bind_of_error {x : Command σ α} {f : α → Command σ β} {w w' : World σ} {e : Failure}
    (h : x w = (.error e, w')) : (x >>= f) w = (.error e, w') := by
  rw [bind_apply, h]

theorem ofRun_of_ok {x : Run σ α} {w w' : World σ} {a : α} (h : x w = (.ok a, w')) :
    ofRun x w = (.ok a, w') := by
  rw [ofRun, h]

theorem ofRun_of_failed {x : Run σ α} {w w' : World σ} {e : Error}
    (h : x w = (.error (.failed e), w')) : ofRun x w = (.error (.storage e), w') := by
  rw [ofRun, h]

end Command

/-- What was printed, from the start. -/
def World.output {σ : Type} (w : World σ) : Bytes := w.printed.reverse.flatten

end ObjectStorage

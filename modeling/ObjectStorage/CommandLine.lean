import ObjectStorage.CommandLine.Help

/-!
# Reading command lines

Options of the program come first, then a subcommand, then its options and operands.  What starts
with a minus is an option, until two minus signs alone tell that only operands follow.

An option that takes its value from the next word waits until something else is read; its faults
are noticed only then.

* `Usage` — why a command line is not carried out;
* `Invocation` — what a command line asks for;
* `Tail.read` — the words after a subcommand;
* `read` — all words.
-/

namespace ObjectStorage.CommandLine

/-- Why a command line is not carried out. -/
inductive Usage
  /-- Help was asked for. -/
  | help (topic : Topic)
  /-- The version was asked for. -/
  | version
  /-- Nothing was asked for at all. -/
  | nothing
  | missingSubcommand
  | unknownSubcommand (word : String)
  | unknownArgument (word : String)
  | invalidValue (option : String)
  /-- An option is given twice. -/
  | conflict (option : String)
  | missingOperand
  /-- A value is given to an option that takes none. -/
  | tooManyValues (option : String)
  deriving DecidableEq, Repr

/-- Is the command line answered, and not refused? -/
def Usage.isAnswer : Usage → Bool
  | .help _ | .version => true
  | _ => false

/-- What is told when a command line is not carried out; `config` is the value of the variable for
the configuration. -/
def Usage.message (config : Option String) : Usage → String
  | .help topic => topic.text config
  | .version => versionText
  | .nothing => Topic.program.text config
  | .missingSubcommand => "error: a subcommand is required but none was provided\n"
  | .unknownSubcommand word => s!"error: unrecognized subcommand: {word}\n"
  | .unknownArgument word => s!"error: unexpected argument: {word}\n"
  | .invalidValue option => s!"error: a value is required for {option} but none was supplied\n"
  | .conflict option => s!"error: the argument {option} cannot be used multiple times\n"
  | .missingOperand => "error: the required arguments were not provided\n"
  | .tooManyValues option => s!"error: no value was expected for {option}\n"

/-- What a command line asks for. -/
structure Invocation where
  /-- Where the configuration is, if that is told. -/
  config : Option String
  instruction : Instruction
  deriving DecidableEq, Repr

/-! ### Words -/

/-- A word of a command line by its form. -/
inductive Word
  /-- Two minus signs alone. -/
  | onlyOperands
  /-- An option with a long name, and a value if an equals sign follows. -/
  | long (name : String) (value : Option String)
  /-- Options of one letter each. -/
  | short (letters : List Char)
  | plain
  deriving DecidableEq, Repr

/-- The form of a word. -/
def Word.ofText (s : String) : Word :=
  match s.toList with
  | ['-', '-'] => .onlyOperands
  | '-' :: '-' :: cs =>
    let name := cs.takeWhile (· ≠ '=')
    match cs.drop name.length with
    | _ :: value => .long (String.ofList name) (some (String.ofList value))
    | [] => .long (String.ofList name) none
  | '-' :: c :: cs => .short (c :: cs)
  | _ => .plain

/-! ### Words after a subcommand -/

/-- What is known after some of the words that follow a subcommand. -/
structure Tail where
  recursive : Bool := false
  operands : List String := []
  onlyOperands : Bool := false

namespace Tail

/-- Take the option to go into directories. -/
def recurse (s : Tail) : Except Usage Tail :=
  if s.recursive then .error (.conflict "--recursive") else .ok { s with recursive := true }

/-- Take options of one letter. -/
def short (sub : Subcommand) (s : Tail) : List Char → Except Usage Tail
  | [] => .ok s
  | 'h' :: _ => .error (.help (.subcommand sub))
  | c :: cs =>
    if c = 'r' ∧ sub.isRecursive then
      match s.recurse with
      | .ok s => s.short sub cs
      | .error e => .error e
    else .error (.unknownArgument (String.ofList ['-', c]))

/-- Take an option with a long name. -/
def long (sub : Subcommand) (s : Tail) (name : String) (value : Option String) :
    Except Usage Tail :=
  let isHelp : Bool := name = "help"
  if isHelp || (name = "recursive" && sub.isRecursive) then
    if value.isSome then .error (.tooManyValues ("--" ++ name))
    else if isHelp then .error (.help (.subcommand sub)) else s.recurse
  else .error (.unknownArgument ("--" ++ name))

/-- Take an operand. -/
def operand (sub : Subcommand) (s : Tail) (word : String) : Except Usage Tail :=
  if s.operands.length < sub.operands.length then .ok { s with operands := s.operands ++ [word] }
  else .error (.unknownArgument word)

/-- Take a word. -/
def take (sub : Subcommand) (s : Tail) (word : String) : Except Usage Tail :=
  if s.onlyOperands then s.operand sub word
  else match Word.ofText word with
    | .onlyOperands => .ok { s with onlyOperands := true }
    | .long name value => s.long sub name value
    | .short letters => s.short sub letters
    | .plain => s.operand sub word

/-- Read all words after a subcommand. -/
def read (sub : Subcommand) (words : List String) : Except Usage Instruction := do
  let s ← words.foldlM (take sub) {}
  match Instruction.ofOperands? s.recursive sub s.operands with
  | some i => pure i
  | none => throw .missingOperand

end Tail

/-! ### All words -/

/-- What is known after some words before the subcommand. -/
structure Progress where
  config : Option String := none
  /-- The option for the configuration was read and waits, with its value if that was read. -/
  waiting : Option (Option String) := none

namespace Progress

/-- The name of the option for the configuration. -/
def configOption : String := "--config"

/-- Take a value for the configuration. -/
def setConfig (p : Progress) (value : String) : Except Usage Progress :=
  if p.config.isSome then .error (.conflict configOption)
  else if value = "" then .error (.invalidValue configOption)
  else .ok { p with config := some value }

/-- End the wait of the option for the configuration. -/
def settle (p : Progress) : Except Usage Progress :=
  match p.waiting with
  | none => .ok p
  | some none => .error (.invalidValue configOption)
  | some (some value) => { p with waiting := none }.setConfig value

/-- Take the option for the configuration, with a value or to wait for one. -/
def openConfig (p : Progress) (value : Option String) : Except Usage Progress := do
  let p ← p.settle
  match value with
  | some value => p.setConfig value
  | none => pure { p with waiting := some none }

/-- Answer instead of going on. -/
def answer (p : Progress) (u : Usage) : Except Usage Progress := do
  let _ ← p.settle
  throw u

/-- Take options of one letter; after the one for the configuration its value may follow. -/
def short (p : Progress) : List Char → Except Usage Progress
  | [] => .ok p
  | 'h' :: _ => p.answer (.help .program)
  | 'V' :: _ => p.answer .version
  | 'c' :: [] => p.openConfig none
  | 'c' :: '=' :: value => p.openConfig (some (String.ofList value))
  | 'c' :: value => p.openConfig (some (String.ofList value))
  | c :: _ => .error (.unknownArgument (String.ofList ['-', c]))

/-- Take an option with a long name. -/
def long (p : Progress) (name : String) (value : Option String) : Except Usage Progress :=
  match name, value with
  | "config", value => p.openConfig value
  | "help", none => p.answer (.help .program)
  | "version", none => p.answer .version
  | "help", some _ | "version", some _ => .error (.tooManyValues ("--" ++ name))
  | _, _ => .error (.unknownArgument ("--" ++ name))

/-- Take the value that the option for the configuration waits for. -/
def giveValue (p : Progress) (word : String) : Progress := { p with waiting := some (some word) }

/-- Does the option for the configuration wait for its value? -/
def wantsValue (p : Progress) : Bool := p.waiting = some none

/-- The configuration, if it is told by a word or else by the variable for it. -/
def finalConfig (p : Progress) (fromVariable : Option String) : Except Usage (Option String) := do
  let p ← p.settle
  match p.config, fromVariable with
  | none, some value => pure (← p.setConfig value).config
  | config, _ => pure config

end Progress

/-- The topic that words after `help` name. -/
def helpTopic : List String → Except Usage Topic
  | [] => .ok .program
  | word :: rest =>
    match rest, Subcommand.ofName? word with
    | [], some sub => .ok (.subcommand sub)
    | [], none => if word = "help" then .ok .help else .error (.unknownSubcommand word)
    | next :: _, some _ => .error (.unknownSubcommand next)
    | next :: _, none => .error (.unknownSubcommand (if word = "help" then next else word))

/-- Is a word the name of something that can be done? -/
def isSubcommand (word : String) : Bool := word = "help" || (Subcommand.ofName? word).isSome

/-- The fault of a command line without a subcommand. -/
def withoutSubcommand (config : Option String) : Usage :=
  if config.isSome then .missingSubcommand else .nothing

/-- Read the words from the start of a command line on; `fromVariable` is the value of the variable
for the configuration. -/
def readFrom (fromVariable : Option String) (p : Progress) :
    List String → Except Usage Invocation
  | [] => do throw (withoutSubcommand (← p.finalConfig fromVariable))
  | word :: rest =>
    if !p.wantsValue && word = "help" then do throw (.help (← helpTopic rest))
    else match if p.wantsValue then none else Subcommand.ofName? word with
      | some sub => do
        let instruction ← Tail.read sub rest
        pure ⟨← p.finalConfig fromVariable, instruction⟩
      | none =>
        match Word.ofText word with
        | .onlyOperands =>
          match rest with
          | [] => do throw (withoutSubcommand (← p.finalConfig fromVariable))
          | next :: _ =>
            .error (if isSubcommand next then .unknownArgument next else .unknownSubcommand next)
        | .long name value =>
          match p.long name value with
          | .ok p => readFrom fromVariable p rest
          | .error e => .error e
        | .short letters =>
          match p.short letters with
          | .ok p => readFrom fromVariable p rest
          | .error e => .error e
        | .plain =>
          if p.wantsValue then readFrom fromVariable (p.giveValue word) rest
          else .error (.unknownSubcommand word)

/-- Read the words of a command line after the name of the program. -/
def read (fromVariable : Option String) (words : List String) : Except Usage Invocation :=
  readFrom fromVariable {} words

end ObjectStorage.CommandLine

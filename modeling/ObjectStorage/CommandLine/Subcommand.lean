/-!
# What the command line can do

A command line names a subcommand and the operands that it works on.

* `Subcommand` — what can be done;
* `Subcommand.name`, `Subcommand.purpose` — how it is called, and what it is for;
* `Subcommand.operands` — what it works on;
* `Instruction` — a subcommand with its operands.
-/

namespace ObjectStorage

/-- What can be done on the command line. -/
inductive Subcommand
  | cat | stat | ls | rm | cp | mkdir
  deriving DecidableEq, Repr

namespace Subcommand

/-- Every subcommand, in the order in which they are told. -/
def all : List Subcommand := [.cat, .stat, .ls, .rm, .cp, .mkdir]

/-- How a subcommand is called. -/
def name : Subcommand → String
  | .cat => "cat"
  | .stat => "stat"
  | .ls => "ls"
  | .rm => "rm"
  | .cp => "cp"
  | .mkdir => "mkdir"

/-- The subcommand of a name. -/
def ofName? (s : String) : Option Subcommand := all.find? fun sub => sub.name == s

/-- What a subcommand is for. -/
def purpose : Subcommand → String
  | .cat => "Print a file to stdout"
  | .stat => "Show metadata of a file or directory"
  | .ls => "List a directory"
  | .rm => "Remove a file or an empty directory"
  | .cp => "Copy a file, `dst` ending with `/` keeps the source name"
  | .mkdir => "Create a directory"

/-- What a subcommand works on. -/
def operands : Subcommand → List String
  | .cp => ["SRC", "DST"]
  | _ => ["TARGET"]

/-- Can a subcommand be told to go into directories? -/
def isRecursive : Subcommand → Bool
  | .ls => true
  | _ => false

end Subcommand

/-- A subcommand with its operands. -/
inductive Instruction
  | cat (target : String)
  | stat (target : String)
  | ls (recursive : Bool) (target : String)
  | rm (target : String)
  | cp (src dst : String)
  | mkdir (target : String)
  deriving DecidableEq, Repr

namespace Instruction

/-- The targets that an instruction names. -/
def targets : Instruction → List String
  | .cat target | .stat target | .ls _ target | .rm target | .mkdir target => [target]
  | .cp src dst => [src, dst]

/-- A subcommand with operands, if these are as many as it works on. -/
def ofOperands? (recursive : Bool) : Subcommand → List String → Option Instruction
  | .cat, [target] => some (.cat target)
  | .stat, [target] => some (.stat target)
  | .ls, [target] => some (.ls recursive target)
  | .rm, [target] => some (.rm target)
  | .cp, [src, dst] => some (.cp src dst)
  | .mkdir, [target] => some (.mkdir target)
  | _, _ => none

end Instruction

end ObjectStorage

import ObjectStorage.CommandLine.Subcommand

/-!
# Help on the command line

The texts that tell how the command line is used.

* `Topic` — what can be asked about;
* `Topic.text` — what is told;
* `versionText` — the name and the version of the program.
-/

namespace ObjectStorage.CommandLine

/-- What can be asked about. -/
inductive Topic
  /-- The program as a whole. -/
  | program
  | subcommand (sub : Subcommand)
  /-- The help itself. -/
  | help
  deriving DecidableEq, Repr

/-- The name of the program. -/
def programName : String := "oli"

/-- The version of the program. -/
def version : String := "0.1.0"

/-- The name and the version of the program. -/
def versionText : String := s!"{programName} {version}\n"

/-- The name of the variable that tells where the configuration is. -/
def configVariable : String := "OLI_CONFIG"

/-- What the help is for. -/
def helpPurpose : String := "Print this message or the help of the given subcommand(s)"

/-- A text of some width at least. -/
def widened (width : Nat) (s : String) : String :=
  s ++ String.ofList (List.replicate (width - s.length) ' ')

/-- Lines of two columns. -/
def columns (rows : List (String × String)) : String :=
  let width := rows.foldl (fun w (left, _) => max w left.length) 0
  String.join (rows.map fun (left, right) => s!"  {widened width left}  {right}\n")

/-- The option that asks for help. -/
def helpRow : String × String := ("-h, --help", "Print help")

/-- How operands are shown. -/
def operandName (s : String) : String := s!"<{s}>"

/-- What is told on a topic; `config` is the value of the variable for the configuration. -/
def Topic.text (config : Option String) : Topic → String
  | .program =>
    "OpenDAL command line interface\n\nUsage: oli [OPTIONS] <COMMAND>\n\nCommands:\n"
      ++ columns (Subcommand.all.map (fun sub => (sub.name, sub.purpose))
        ++ [("help", helpPurpose)])
      ++ "\nOptions:\n"
      ++ columns [
        ("-c, --config <CONFIG>",
          "Config file holding the profiles [env: " ++ configVariable ++ "="
            ++ config.getD "" ++ "]"),
        helpRow,
        ("-V, --version", "Print version")]
  | .subcommand sub =>
    let operands := sub.operands.map operandName
    let recursive :=
      if sub.isRecursive then [("-r, --recursive", "Walk into sub directories")] else []
    let options := if sub.isRecursive then "[OPTIONS] " else ""
    s!"{sub.purpose}\n\nUsage: oli {sub.name} {options}"
      ++ String.intercalate " " operands ++ "\n\nArguments:\n"
      ++ columns (operands.map fun s => (s, ""))
      ++ "\nOptions:\n" ++ columns (recursive ++ [helpRow])
  | .help =>
    helpPurpose ++ "\n\nUsage: oli help [COMMAND]...\n\nArguments:\n"
      ++ columns [("[COMMAND]...", "Print help for the subcommand(s)")]

end ObjectStorage.CommandLine

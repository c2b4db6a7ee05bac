import ObjectStorage.Error
import ObjectStorage.Text.Shown

/-!
# Errors in words

An error is told in three ways: in one line for logs and messages, over several lines for a
terminal, and field by field for whoever looks for its cause.

* `Error.display` — the one line;
* `Source.chain` — the messages from a source down to the first cause, outermost first;
* `Report.causes` — such a chain as it is printed below a message;
* `Error.describe` — the several lines;
* `Error.shown` — the fields.
-/

namespace ObjectStorage

mutual

/-- The error in one line. -/
def Error.display : Error → String
  | ⟨kind, message, status, operation, context, source⟩ =>
    s!"{kind.name} ({status.word}) at {operation}"
      ++ (if context.isEmpty then "" else
        ", context: \x7b " ++ ", ".intercalate (context.map fun (k, v) => s!"{k}: {v}") ++ " \x7d")
      ++ (if message = "" then "" else s!" => {message}")
      ++ source.suffix

/-- What a source adds to the line of its error. -/
def Source.suffix : Source → String
  | .none => ""
  | .text message => ", source: " ++ message
  | .io e => ", source: " ++ e.text
  | .error e => ", source: " ++ e.display

end

mutual

/-- The messages of an error and of all it goes back to. -/
def Error.chain : Error → List String
  | ⟨kind, message, status, operation, context, source⟩ =>
    Error.display ⟨kind, message, status, operation, context, source⟩ :: source.chain

/-- The messages of a source and of all it goes back to, outermost first. -/
def Source.chain : Source → List String
  | .none => []
  | .text message => [message]
  | .io e => [e.text]
  | .error e => e.chain

end

/-- The message of a source, if there is one. -/
def Source.message? (s : Source) : Option String := s.chain.head?

/-- Put blanks after every line break of a text. -/
def Report.indentLines (blanks : String) (s : String) : String :=
  String.join (s.toList.map fun c => if c = '\n' then "\n" ++ blanks else c.toString)

/-- A chain of messages as it is printed: the first alone, the others below as its causes, a
single one indented, several numbered from zero. -/
def Report.causes : List String → String
  | [] => ""
  | [message] => message
  | [message, cause] => message ++ "\n\nCaused by:\n    " ++ indentLines "    " cause
  | message :: causes =>
    message ++ "\n\nCaused by:" ++ String.join (causes.zipIdx.map fun (cause, i) =>
      let number := toString i
      "\n" ++ String.ofList (List.replicate (5 - number.length) ' ') ++ number ++ ": "
        ++ indentLines "       " cause)

namespace Error

/-- The error over several lines: what failed, the context, the source and its causes. -/
def describe (e : Error) : String :=
  s!"{e.kind.name} ({e.status.word}) at {e.operation}"
    ++ (if e.message = "" then "" else s!" => {e.message}") ++ "\n"
    ++ (if e.context.isEmpty then "" else
      "\nContext:\n" ++ String.join (e.context.map fun (k, v) => s!"    {k}: {v}\n"))
    ++ match e.source with
      | .none => ""
      | source => "\nSource: " ++ Report.causes source.chain ++ "\n"

/-- The reason of a failure that the operating system reported, without its code. -/
def ioReason (e : IoError) (code : Nat) : String :=
  let suffix := s!" (os error {code})"
  if e.text.endsWith suffix then (e.text.dropEnd suffix.length).toString else e.text

/-- A failure of input and output, field by field. -/
def shownIo (e : IoError) : Text.Shown :=
  match e.code with
  | some code => .record "Os" [("code", .number code), ("kind", .atom e.kind.name),
      ("message", .text (ioReason e code))]
  | none => .record "Custom" [("kind", .atom e.kind.name), ("error", .text e.text)]

mutual

/-- The error, field by field. -/
def shown : Error → Text.Shown
  | ⟨kind, message, status, operation, context, source⟩ =>
    .record "Error" [("kind", .atom kind.name), ("message", .text message),
      ("status", .atom status.name), ("operation", .text operation),
      ("context", .list (context.map fun (k, v) => .applied "" [.text k, .text v])),
      ("source", shownSource source)]

def shownSource : Source → Text.Shown
  | .none => .atom "None"
  | .text message => .applied "Some" [.text message]
  | .io e => .applied "Some" [shownIo e]
  | .error e => .applied "Some" [shown e]

end

/-- The kind of failure of input and output that an error is passed on as. -/
def ioKind (e : Error) : IoKind :=
  match e.kind with
  | .objectNotFound => .notFound
  | .objectPermissionDenied => .permissionDenied
  | _ => .other

/-- The error as a failure of input and output, with the line as its text. -/
def toIo (e : Error) : IoError := ⟨e.ioKind, e.display, none⟩

end Error

end ObjectStorage

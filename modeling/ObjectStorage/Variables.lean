/-!
# Environment variables

A program is told settings by environment variables, given as names with values.

* `Variables` — the variables;
* `Variables.get?` — the value of one of them.
-/

namespace ObjectStorage

/-- Environment variables in the order in which they were set. -/
abbrev Variables := List (String × String)

namespace Variables

/-- The value of a variable: the one that was set last. -/
def get? (vars : Variables) (name : String) : Option String := vars.reverse.lookup name

end Variables

end ObjectStorage

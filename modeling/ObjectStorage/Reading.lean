import ObjectStorage.Layer

/-!
# Reading from a reader

A reader gives its bytes in pieces, may fail in between, and is at its end when a piece is empty.
Who wants everything reads on after some failures, an interruption at least in the blocking form,
and stops at the first other one.

* `Service.readUpTo` — the next bytes up to a number, as far as they come;
* `Service.readPieces` — all pieces up to the end or a failure that stops the reading;
* `Reader.readAll` — all bytes, after which the reader is closed.
-/

namespace ObjectStorage

variable {σ ρ π : Type}

namespace Service

/-- The most bytes asked for at a time when everything is wanted. -/
def pieceSize : Nat := 8192

/-- Read `missing` bytes, fewer at the end or before a failure. -/
def readUpTo (service : Service σ ρ π) (form : Form) :
    (fuel missing : Nat) → ρ → σ → (Bytes × Option IoError) × ρ × σ
  | 0, _, r, s => (([], none), r, s)
  | fuel + 1, missing, r, s =>
    if missing = 0 then (([], none), r, s)
    else match service.fill form missing r s with
      | (.error e, r, s) => (([], some e), r, s)
      | (.ok [], r, s) => (([], none), r, s)
      | (.ok piece, r, s) =>
        let ((rest, e), r, s) := readUpTo service form fuel (missing - piece.length) r s
        ((piece ++ rest, e), r, s)

/-- The pieces up to the end, or up to a failure after which this form does not read on. -/
def readPieces (service : Service σ ρ π) (form : Form) :
    (fuel : Nat) → ρ → σ → (List Bytes × Option IoError) × ρ × σ
  | 0, r, s => (([], none), r, s)
  | fuel + 1, r, s =>
    match service.fill form pieceSize r s with
    | (.error e, r, s) =>
      if service.readsOn form e.kind then readPieces service form fuel r s else (([], some e), r, s)
    | (.ok [], r, s) => (([], none), r, s)
    | (.ok piece, r, s) =>
      let ((rest, e), r, s) := readPieces service form fuel r s
      ((piece :: rest, e), r, s)

end Service

namespace Reader

/-- The next `n` bytes of a reader, as far as they come, with the failure that stopped it. -/
def take (service : Service σ ρ π) (form : Form) (n : Nat) (r : Reader ρ) :
    Run σ ((Bytes × Option IoError) × Reader ρ) :=
  .modifyService fun s =>
    let (got, source, s) := service.readUpTo form n n r.source s
    ((got, { r with source }), s)

/-- All pieces of a reader, with the failure that stopped it; the reader is closed. -/
def pieces (service : Service σ ρ π) (form : Form) (r : Reader ρ) :
    Run σ (List Bytes × Option IoError) := do
  let got ← Run.modifyService fun s =>
    let (got, _, s) := service.readPieces form (service.readsLeft r.source s) r.source s
    (got, s)
  r.close
  pure got

/-- All bytes of a reader, or the error it stops with; the reader is closed. -/
def readAll (service : Service σ ρ π) (form : Form) (onError : Error → Error)
    (r : Reader ρ) : Run σ Bytes := do
  match ← r.pieces service form with
  | (_, some e) => .fail (onError (.ofIo e))
  | (pieces, none) => pure pieces.flatten

end Reader

end ObjectStorage

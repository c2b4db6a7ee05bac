import ObjectStorage.Object

/-!
# Listers

A lister gives the children of a directory one by one.  It ends with the listing or with the first
error, and gives nothing after that.  An async lister closes its pager at the end; a blocking one
keeps it until it is closed itself.

* `Lister`, `Object.list` — a lister of the children of a directory;
* `Lister.next` — the next child;
* `Lister.toList` — all that is left;
* `Pager.pages` — the pages of a pager, errors in their places.
-/

namespace ObjectStorage

/-- The children of a directory that are still to come. -/
structure Lister (π : Type) where
  pager : Pager π
  /-- Entries of the page that was pulled last. -/
  buffer : List Entry := []
  ended : Bool := false

variable {σ ρ π : Type}

/-- A lister of the children of a directory. -/
def Object.list (o : Object σ ρ π) (form : Form) : Run σ (Lister π) := do
  pure { pager := ← o.pager form }

namespace Lister

/-- Close a lister. -/
def close (l : Lister π) : Run σ Unit := l.pager.close

/-- End a lister. -/
def finish (form : Form) (l : Lister π) : Run σ (Lister π) :=
  match form with
  | .async => do
    l.close
    pure { l with ended := true, pager.owes := [] }
  | .blocking => pure { l with ended := true }

/-- Pull one page: the lister afterwards, and the error if the listing failed. -/
def pull (service : Service σ ρ π) (form : Form) (l : Lister π) :
    Run σ (Lister π × Option Error) := fun w =>
  match l.pager.pull service form w with
  | (.ok (some page), pager, w) => (.ok ({ l with pager, buffer := l.buffer ++ page }, none), w)
  | (.ok none, pager, w) => (do pure (← finish form { l with pager }, none) : Run σ _) w
  | (.error (.failed e), pager, w) =>
    (do pure (← finish form { l with pager }, some e) : Run σ _) w
  | (.error .waiting, _, w) => (.error .waiting, w)

/-- The next child, with at most `pulls` pulls. -/
def nextWithin (service : Service σ ρ π) (form : Form) :
    (pulls : Nat) → Lister π → Run σ (Option (Except Error Entry) × Lister π)
  | _, { pager, buffer := entry :: rest, ended } =>
    pure (some (.ok entry), { pager, buffer := rest, ended })
  | 0, l => pure (none, l)
  | pulls + 1, l => do
    if l.ended then pure (none, l)
    else match ← l.pull service form with
      | (l, some e) => pure (some (.error e), l)
      | (l, none) => nextWithin service form pulls l

/-- The number of pulls until a lister is at its end for sure. -/
def pullsLeft (service : Service σ ρ π) (l : Lister π) (s : σ) : Nat :=
  l.pager.pagesLeft service s + 1

/-- The next child, or the error that ends the listing; `none` at the end. -/
def next (service : Service σ ρ π) (form : Form) (l : Lister π) :
    Run σ (Option (Except Error Entry) × Lister π) := do
  let s ← Run.getService
  nextWithin service form (l.pullsLeft service s) l

/-- The next children, up to `n`; `none` stands for the end, after which nothing comes. -/
def take (service : Service σ ρ π) (form : Form) :
    (n : Nat) → Lister π → Run σ (List (Option (Except Error Entry)) × Lister π)
  | 0, l => pure ([], l)
  | n + 1, l => do
    match ← l.next service form with
    | (none, l) => pure ([none], l)
    | (some item, l) => do
      let (items, l) ← take service form n l
      pure (some item :: items, l)

/-- All children that are left, with at most `pulls` pulls, and the error that ends them. -/
def toListWithin (service : Service σ ρ π) (form : Form) :
    (pulls : Nat) → Lister π → Run σ (List (Except Error Entry) × Lister π)
  | 0, l => pure (l.buffer.map .ok, { l with buffer := [] })
  | pulls + 1, l => do
    let items := l.buffer.map Except.ok
    let l := { l with buffer := [] }
    if l.ended then pure (items, l)
    else match ← l.pull service form with
      | (l, some e) => pure (items ++ [.error e], l)
      | (l, none) => do
        let (rest, l) ← toListWithin service form pulls l
        pure (items ++ rest, l)

/-- All children that are left, and the error that ends them; the lister is closed. -/
def toList (service : Service σ ρ π) (form : Form) (l : Lister π) :
    Run σ (List (Except Error Entry)) := do
  let s ← Run.getService
  let (items, l) ← toListWithin service form (l.pullsLeft service s) l
  l.close
  pure items

end Lister

/-- The pages of a pager, errors in their places, up to the end or `most` of them; the pager is
closed. -/
def Pager.pages (service : Service σ ρ π) (form : Form) :
    (most : Nat) → Pager π → Run σ (List (Except Error Page))
  | 0, p => do
    p.close
    pure []
  | most + 1, p => fun w =>
    match p.pull service form w with
    | (.ok none, p, w) => (do p.close; pure [.ok none] : Run σ _) w
    | (.ok page, p, w) => (do pure (.ok page :: (← pages service form most p)) : Run σ _) w
    | (.error (.failed e), p, w) =>
      (do pure (.error e :: (← pages service form most p)) : Run σ _) w
    | (.error .waiting, _, w) => (.error .waiting, w)

end ObjectStorage

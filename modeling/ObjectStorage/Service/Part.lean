import ObjectStorage.Service

/-!
# Services on a part of a state

A service works on a state of its own.  Where several services live in one larger state, each on
its part, it becomes a service on the larger state, whose handles say from which service they are.

* `Part` — where a part stands in a state;
* `Handles` — handles of one service among those of several;
* `Service.within` — a service on a part, as a service on the whole.
-/

namespace ObjectStorage

/-- Where a part of type `τ` stands in a state of type `σ`. -/
structure Part (σ τ : Type) where
  get : σ → τ
  put : τ → σ → σ

/-- The readers `ρ'` and pagers `π'` of a service among readers `ρ` and pagers `π`. -/
structure Handles (ρ' ρ π' π : Type) where
  reader : ρ' → ρ
  reader? : ρ → Option ρ'
  pager : π' → π
  pager? : π → Option π'

namespace Part

variable {σ τ α : Type}

/-- Run a step of a part. -/
def run (part : Part σ τ) (f : τ → α × τ) (s : σ) : α × σ :=
  let (a, t) := f (part.get s)
  (a, part.put t s)

end Part

/-- A service on a part, as a service on the whole.  A handle of another service is at its end. -/
def Service.within {σ τ ρ' ρ π' π : Type} (service : Service τ ρ' π') (part : Part σ τ)
    (handles : Handles ρ' ρ π' π) : Service σ ρ π where
  info := service.info
  call form path action s :=
    let (result, s) := part.run (service.call form path action) s
    (result.map (Reply.map handles.reader handles.pager action), s)
  pull form p s :=
    match handles.pager? p with
    | none => (.ok none, p, s)
    | some q =>
      let ((page, q), s) := part.run (fun t =>
        let (page, q, t) := service.pull form q t
        ((page, q), t)) s
      (page, handles.pager q, s)
  fill form n r s :=
    match handles.reader? r with
    | none => (.ok [], r, s)
    | some q =>
      let ((bytes, q), s) := part.run (fun t =>
        let (bytes, q, t) := service.fill form n q t
        ((bytes, q), t)) s
      (bytes, handles.reader q, s)
  pagesLeft p s := match handles.pager? p with
    | none => 0
    | some q => service.pagesLeft q (part.get s)
  readsLeft r s := match handles.reader? r with
    | none => 0
    | some q => service.readsLeft q (part.get s)
  dirsAtMost s := service.dirsAtMost (part.get s)
  asyncReadsOn := service.asyncReadsOn

end ObjectStorage

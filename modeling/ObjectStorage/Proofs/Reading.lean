import ObjectStorage.Cursor
import ObjectStorage.Reading

/-!
# Reading to the end

A reader that gives its bytes one after the other, as many as are asked for while there are so many,
gives every byte of them when it is read to its end, in pieces of bounded size, and no failure.
Nothing else changes but the permits that the reader owed.  Buffers are such readers.

* `ReadsRest` — a service whose readers give what is left of them;
* `ReadsRest.readPieces_flatten` — the pieces of a reader are the bytes that are left;
* `ReadsRest.readAll_rest` — a whole read gives them;
* `ReadsBuffers` — a service whose readers are buffers.
-/

namespace ObjectStorage

variable {σ ρ π : Type}

/-- The readers of a service give what is left of them, and change nothing but themselves. -/
structure ReadsRest (service : Service σ ρ π) (rest : ρ → σ → Bytes) : Prop where
  fill (form : Form) (n : Nat) (r : ρ) (s : σ) : ∃ r',
    service.fill form n r s = (.ok ((rest r s).take n), r', s) ∧ rest r' s = (rest r s).drop n
  readsLeft (r : ρ) (s : σ) : (rest r s).length ≤ service.readsLeft r s

namespace ReadsRest

variable {service : Service σ ρ π} {rest : ρ → σ → Bytes} (h : ReadsRest service rest)
include h

/-- Every piece but the last takes at least one byte, so that a reader is at its end when the
reads are used up. -/
theorem readPieces_flatten (form : Form) (s : σ) (fuel : Nat) (r : ρ)
    (hfuel : (rest r s).length ≤ fuel) :
    ∃ pieces r', service.readPieces form fuel r s = ((pieces, none), r', s)
      ∧ pieces.flatten = rest r s := by
  induction fuel generalizing r with
  | zero =>
    have hrest : rest r s = [] := List.length_eq_zero_iff.1 (by omega)
    exact ⟨[], r, rfl, hrest.symm⟩
  | succ fuel ih =>
    obtain ⟨r₁, hfill, hleft⟩ := h.fill form Service.pieceSize r s
    cases hrest : rest r s with
    | nil =>
      rw [hrest, List.take_nil] at hfill
      refine ⟨[], r₁, ?_, rfl⟩
      rw [Service.readPieces, hfill]
    | cons b bytes =>
      have hpiece : (b :: bytes).take Service.pieceSize
          = b :: bytes.take (Service.pieceSize - 1) := rfl
      rw [hrest, hpiece] at hfill
      rw [hrest] at hfuel hleft
      have hlength : (rest r₁ s).length ≤ fuel := by
        rw [hleft, List.length_drop]
        simp only [List.length_cons, Service.pieceSize] at hfuel ⊢
        omega
      obtain ⟨pieces, r', hpieces, hflatten⟩ := ih r₁ hlength
      refine ⟨(b :: bytes.take (Service.pieceSize - 1)) :: pieces, r', ?_, ?_⟩
      · rw [Service.readPieces, hfill]
        simp only [hpieces]
      · rw [List.flatten_cons, hflatten, hleft, ← hpiece, List.take_append_drop]

/-- **A whole read** gives all that is left. -/
theorem readAll_rest (form : Form) (onError : Error → Error) (r : Reader ρ) (w : World σ) :
    r.readAll service form onError w
      = (.ok (rest r.source w.service),
          { w with permits := r.owes.foldl Permits.giveBack w.permits }) := by
  obtain ⟨pieces, r', hpieces, hflatten⟩ := h.readPieces_flatten form w.service
    (service.readsLeft r.source w.service) r.source (h.readsLeft r.source w.service)
  have hgot : r.pieces service form w
      = (.ok (pieces, none), { w with permits := r.owes.foldl Permits.giveBack w.permits }) := by
    rw [Reader.pieces, Run.bind_of_ok (show Run.modifyService _ w = (.ok (pieces, none), w) by
      simp only [Run.modifyService, hpieces])]
    rfl
  rw [Reader.readAll, Run.bind_of_ok hgot]
  simp only [hflatten, Run.pure_apply]

end ReadsRest

/-- The readers of a service are buffers. -/
structure ReadsBuffers (service : Service σ Cursor π) : Prop where
  fill (form : Form) (n : Nat) (c : Cursor) (s : σ) : service.fill form n c s = c.fill n s
  readsLeft (c : Cursor) (s : σ) : service.readsLeft c s = c.rest.length

namespace ReadsBuffers

variable {service : Service σ Cursor π} (h : ReadsBuffers service)
include h

theorem readsRest : ReadsRest service fun c _ => c.rest where
  fill form n c s := ⟨⟨c.rest.drop n⟩, h.fill form n c s, rfl⟩
  readsLeft c s := Nat.le_of_eq (h.readsLeft c s).symm

/-- A whole read of a buffer gives all of it. -/
theorem readAll_buffer (form : Form) (onError : Error → Error) (r : Reader Cursor)
    (w : World σ) :
    r.readAll service form onError w
      = (.ok r.source.rest, { w with permits := r.owes.foldl Permits.giveBack w.permits }) :=
  h.readsRest.readAll_rest form onError r w

end ReadsBuffers

end ObjectStorage

import ObjectStorage.Proofs.Object.Composed
import ObjectStorage.Proofs.Object.Forms

/-!
# Sessions with objects

A user of an operator holds objects, readers and listers, and does one thing after the other with
them, each in either form.  Objects are made of whatever texts the user supplies, and of the entries
that listers give.

* `Held` — what a user holds;
* `Deed`, `Answer`, `perform` — one thing that can be done, and what comes of it;
* `step` — the same, if it ends without a value too;
* `composed_perform` — what is done is composed of agreed calls.
-/

namespace ObjectStorage.Session

variable {σ ρ π : Type}

/-- What a user holds, each handle with the form in which it was asked for. -/
structure Held (ρ π : Type) where
  /-- The texts that the objects were made of. -/
  objects : List String := []
  readers : List (Form × Reader ρ) := []
  listers : List (Form × Lister π) := []

/-- One thing that can be done. -/
inductive Deed
  /-- Make an object of a text. -/
  | object (text : String)
  /-- Check that the service can be reached. -/
  | check
  /-- Create, write, delete or look up an object that is held. -/
  | apply (slot : Nat) (form : Form) (function : Forms.Function)
  /-- Read a range of an object that is held. -/
  | read (slot : Nat) (form : Form) (range : ByteRange)
  /-- Open a reader on an object that is held. -/
  | reader (slot : Nat) (form : Form) (range : ByteRange)
  /-- Open a lister of an object that is held. -/
  | list (slot : Nat) (form : Form)
  /-- Read the next bytes from a reader. -/
  | take (slot count : Nat)
  /-- Take the next child from a lister, and hold its object. -/
  | next (slot : Nat)
  | closeReader (slot : Nat)
  | closeLister (slot : Nat)

/-- What comes of a deed. -/
inductive Answer
  | done
  | value (function : Forms.Function) (value : function.Value)
  | bytes (data : Bytes)
  | taken (got : Bytes × Option IoError)
  | child (item : Option (Except Error Entry))
  /-- There is no such object or handle. -/
  | nothing

/-- The text of which the object of a child is made. -/
def textOf : Option (Except Error Entry) → List String
  | some (.ok entry) => [entry.path]
  | _ => []

variable (op : Operator σ ρ π) (held : Held ρ π)

/-- Do something with an object that is held. -/
def withObject (slot : Nat) (x : Object σ ρ π → Run σ (Answer × Held ρ π)) :
    Run σ (Answer × Held ρ π) :=
  match held.objects[slot]? with
  | some text => x (op.object text)
  | none => pure (.nothing, held)

/-- Do one thing: what comes of it, and what is held afterwards. -/
def perform : Deed → Run σ (Answer × Held ρ π)
  | .object text => pure (.done, { held with objects := held.objects ++ [text] })
  | .check => do
    op.check
    pure (.done, held)
  | .apply slot form function => withObject op held slot fun o => do
    let value ← function.run o form
    pure (.value function value, held)
  | .read slot form range => withObject op held slot fun o => do
    let data ← o.read form range
    pure (.bytes data, held)
  | .reader slot form range => withObject op held slot fun o => do
    let r ← o.reader form range
    pure (.done, { held with readers := held.readers ++ [(form, r)] })
  | .list slot form => withObject op held slot fun o => do
    let l ← o.list form
    pure (.done, { held with listers := held.listers ++ [(form, l)] })
  | .take slot count => match held.readers[slot]? with
    | some (form, r) => do
      let (got, r) ← r.take op.service form count
      pure (.taken got, { held with readers := held.readers.set slot (form, r) })
    | none => pure (.nothing, held)
  | .next slot => match held.listers[slot]? with
    | some (form, l) => do
      let (item, l) ← l.next op.service form
      pure (.child item, { held with
        objects := held.objects ++ textOf item
        listers := held.listers.set slot (form, l) })
    | none => pure (.nothing, held)
  | .closeReader slot => match held.readers[slot]? with
    | some (_, r) => do
      r.close
      pure (.done, { held with readers := held.readers.eraseIdx slot })
    | none => pure (.nothing, held)
  | .closeLister slot => match held.listers[slot]? with
    | some (_, l) => do
      l.close
      pure (.done, { held with listers := held.listers.eraseIdx slot })
    | none => pure (.nothing, held)

/-- Do one thing.  If it ends without a value, then nothing else is held afterwards. -/
def step (deed : Deed) (w : World σ) : Except Stop Answer × Held ρ π × World σ :=
  match perform op held deed w with
  | (.ok (answer, held), w) => (.ok answer, held, w)
  | (.error stop, w) => (.error stop, held, w)

/-! ### What is done is composed of agreed calls -/

theorem composed_function (text : String) (form : Form) (function : Forms.Function) :
    op.Composed (function.run (op.object text) form) := by
  cases function with
  | create => exact Object.composed_create op text form
  | metadata => exact Object.composed_metadata op text form
  | «exists» => exact Object.composed_exists op text form
  | write data => exact Object.composed_write op text form data
  | delete => exact Object.composed_delete op text form

theorem composed_withObject (slot : Nat) {x : Object σ ρ π → Run σ (Answer × Held ρ π)}
    (hx : ∀ text, op.Composed (x (op.object text))) :
    op.Composed (withObject op held slot x) := by
  rw [withObject]
  split
  · exact hx _
  · exact .pure _

/-- **Whatever is done in a session is composed of agreed calls.** -/
theorem composed_perform (deed : Deed) : op.Composed (perform op held deed) := by
  cases deed with
  | object text => exact .pure _
  | check => exact .bind (Operator.composed_check op) fun _ => .pure _
  | apply slot form function =>
    rw [perform]
    refine composed_withObject op held slot fun text => ?_
    exact .bind (composed_function op text form function) fun _ => .pure _
  | read slot form range =>
    rw [perform]
    refine composed_withObject op held slot fun text => ?_
    exact .bind (Object.composed_read op text form range) fun _ => .pure _
  | reader slot form range =>
    rw [perform]
    refine composed_withObject op held slot fun text => ?_
    exact .bind (Object.composed_reader op text form range) fun _ => .pure _
  | list slot form =>
    rw [perform]
    refine composed_withObject op held slot fun text => ?_
    exact .bind (Object.composed_list op text form) fun _ => .pure _
  | take slot count =>
    rw [perform]
    split
    · exact .bind (.take _ count _) fun _ => .pure _
    · exact .pure _
  | next slot =>
    rw [perform]
    split
    · exact .bind (Lister.composed_next op _ _) fun _ => .pure _
    · exact .pure _
  | closeReader slot =>
    rw [perform]
    split
    · exact .bind (.release _) fun _ => .pure _
    · exact .pure _
  | closeLister slot =>
    rw [perform]
    split
    · exact .bind (.release _) fun _ => .pure _
    · exact .pure _

theorem step_world (deed : Deed) (w : World σ) :
    (step op held deed w).2.2 = (perform op held deed w).2 := by
  rw [step]
  rcases perform op held deed w with ⟨stop | got, w'⟩
  · rfl
  · rfl

/-- What comes of a deed, and what is held afterwards, is told by how it ends. -/
theorem step_congr {deed : Deed} {w w' : World σ}
    (h : (perform op held deed w).1 = (perform op held deed w').1) :
    (step op held deed w).1 = (step op held deed w').1
      ∧ (step op held deed w).2.1 = (step op held deed w').2.1 := by
  rw [step, step]
  generalize perform op held deed w = ended at h ⊢
  generalize perform op held deed w' = ended' at h ⊢
  obtain ⟨result, v⟩ := ended
  obtain ⟨result', v'⟩ := ended'
  dsimp only at h
  subst h
  cases result with
  | error stop => exact ⟨rfl, rfl⟩
  | ok got => exact ⟨rfl, rfl⟩

end ObjectStorage.Session

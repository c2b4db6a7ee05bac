import ObjectStorage.Proofs.Kv.Content
import ObjectStorage.Proofs.Object.Session

/-!
# Roots isolate the users of a store

Several users share one store of keys and values, each through a service below a root of its own.
If neither of two roots is the start of the other one, then no key lies below both.  So what is done
through the one service changes nothing that can be seen through the other one, listings included.

* `Tenant`, `Shared` — the users of a store, and the store with them;
* `Shared.step`, `Shared.run` — their sessions, interleaved in any way;
* `Shared.step_own`, `Shared.step_other` — what one thing that is done leaves the same;
* `roots_isolate` — a user gets what it would get alone.
-/

namespace ObjectStorage.Kv

open Session (Deed Held)

variable {ι σ : Type}

/-! ### Sessions on one store -/

/-- What belongs to one of the users of a store: the permits of its limits, its log and its
metrics, and what it holds. -/
structure Tenant where
  frame : World Unit
  held : Held Cursor Page

/-- A store and its users. -/
structure Shared (ι σ : Type) where
  store : σ
  tenants : ι → Tenant

namespace Shared

/-- One user does one thing. -/
def step [DecidableEq ι] (ops : ι → Operator σ Cursor Page) (s : Shared ι σ) (i : ι)
    (deed : Deed) : Except Stop Session.Answer × Shared ι σ :=
  let (answer, held, w) :=
    Session.step (ops i) (s.tenants i).held deed ((s.tenants i).frame.withService s.store)
  (answer,
    { store := w.service
      tenants := Function.update s.tenants i { frame := w.withService (), held } })

/-- The users do one thing after the other, in any order: what comes of it, and to whom. -/
def run [DecidableEq ι] (ops : ι → Operator σ Cursor Page) :
    List (ι × Deed) → Shared ι σ → List (ι × Except Stop Session.Answer) × Shared ι σ
  | [], s => ([], s)
  | (i, deed) :: deeds, s =>
    let (answer, s) := step ops s i deed
    let (answers, s) := run ops deeds s
    ((i, answer) :: answers, s)

/-- The services of the users, each below a root of its own and with layers of its own. -/
def operators (a : Adapter σ) (roots : ι → String) (layers : ι → List Layer) (i : ι) :
    Operator σ Cursor Page where
  service := service a (Path.normalizeRoot (roots i))
  layers := layers i

/-- Stages that are the same for one user, whose service is below a root. -/
structure AgreeFor (content : σ → String → Option Bytes) (root : String) (i : ι)
    (s s' : Shared ι σ) : Prop where
  store : Agree content root s.store s'.store
  permits : (s.tenants i).frame.permits = (s'.tenants i).frame.permits
  held : (s.tenants i).held = (s'.tenants i).held

section

variable [DecidableEq ι] {a : Adapter σ} {content : σ → String → Option Bytes}
  {refusal : Form → Request → Option Error} (h : a.Holds content refusal) {roots : ι → String}
  (layers : ι → List Layer) {i : ι} {s s' : Shared ι σ}

include h

/-- **What a user does** comes to the same at stages that are the same for the user, and leads to
such stages again. -/
theorem step_own (hs : AgreeFor content (Path.normalizeRoot (roots i)) i s s') (deed : Deed) :
    (step (operators a roots layers) s i deed).1 = (step (operators a roots layers) s' i deed).1
      ∧ AgreeFor content (Path.normalizeRoot (roots i)) i
        (step (operators a roots layers) s i deed).2
        (step (operators a roots layers) s' i deed).2 := by
  have hsteady := (Session.composed_perform (operators a roots layers i) (s.tenants i).held
    deed).steady (service_steady h (Path.normalizeRoot (roots i)))
  have hworlds : World.Alike (Agree content (Path.normalizeRoot (roots i)))
      ((s.tenants i).frame.withService s.store) ((s'.tenants i).frame.withService s'.store) :=
    ⟨hs.store, hs.permits⟩
  obtain ⟨hanswer, hheld⟩ := Session.step_congr _ _ (hsteady.eq hworlds)
  have hnext := (hsteady _ _ hworlds).2
  rw [← Session.step_world, ← Session.step_world] at hnext
  rw [step, step, ← hs.held]
  refine ⟨hanswer, hnext.service, ?_, ?_⟩
  · dsimp only
    rw [Function.update_self, Function.update_self]
    exact hnext.permits
  · dsimp only
    rw [Function.update_self, Function.update_self]
    exact hheld

/-- **What another user does** leaves the stage the same, if the roots are apart. -/
theorem step_other {j : ι} (hne : j ≠ i)
    (hapart : Apart (Path.normalizeRoot (roots i)) (Path.normalizeRoot (roots j)))
    (hs : AgreeFor content (Path.normalizeRoot (roots i)) i s s') (deed : Deed) :
    AgreeFor content (Path.normalizeRoot (roots i)) i
      (step (operators a roots layers) s j deed).2 s' := by
  have hkeeps := (Session.composed_perform (operators a roots layers j) (s.tenants j).held
    deed).keeps (service_keeps h hapart s'.store)
  have hstore := hkeeps ((s.tenants j).frame.withService s.store) hs.store
  rw [← Session.step_world] at hstore
  rw [step]
  refine ⟨hstore, ?_, ?_⟩
  · dsimp only
    rw [Function.update_of_ne hne.symm]
    exact hs.permits
  · dsimp only
    rw [Function.update_of_ne hne.symm]
    exact hs.held

/-- **A run** gives to a user what it gives without the others, by induction on what is done. -/
theorem run_own
    (hapart : ∀ j, j ≠ i → Apart (Path.normalizeRoot (roots i)) (Path.normalizeRoot (roots j)))
    (deeds : List (ι × Deed)) (hs : AgreeFor content (Path.normalizeRoot (roots i)) i s s') :
    (run (operators a roots layers) deeds s).1.filter (·.1 = i)
        = (run (operators a roots layers) (deeds.filter (·.1 = i)) s').1
      ∧ AgreeFor content (Path.normalizeRoot (roots i)) i
        (run (operators a roots layers) deeds s).2
        (run (operators a roots layers) (deeds.filter (·.1 = i)) s').2 := by
  induction deeds generalizing s s' with
  | nil => exact ⟨rfl, hs⟩
  | cons done deeds ih =>
    obtain ⟨j, deed⟩ := done
    by_cases hj : j = i
    · subst hj
      obtain ⟨hanswer, hnext⟩ := step_own h layers hs deed
      obtain ⟨hanswers, hend⟩ := ih hnext
      rw [List.filter_cons_of_pos (by simp), run, run]
      dsimp only
      rw [List.filter_cons_of_pos (by simp), hanswer, hanswers]
      exact ⟨rfl, hend⟩
    · have hnext := step_other h layers hj (hapart j hj) hs deed
      obtain ⟨hanswers, hend⟩ := ih hnext
      rw [List.filter_cons_of_neg (by simpa using hj), run]
      dsimp only
      rw [List.filter_cons_of_neg (by simpa using hj)]
      exact ⟨hanswers, hend⟩

end

end Shared

open Shared

/-- **Roots isolate the users of one store.**  Let any number of users do things with their objects,
async or blocking and interleaved in any way, each through a service on the same store below a root
of its own and through layers of its own.  Take one of them, and let its root and that of each other
one be no starts of one another.  Then all that comes of what it does, listings included, all that
it holds in the end, and all that is in the end under the keys of its paths, is the same as if the
others had done nothing. -/
theorem roots_isolate [DecidableEq ι] {a : Adapter σ} {content : σ → String → Option Bytes}
    {refusal : Form → Request → Option Error} (h : a.Holds content refusal) (roots : ι → String)
    (layers : ι → List Layer) (i : ι)
    (hapart : ∀ j, j ≠ i → Apart (Path.normalizeRoot (roots i)) (Path.normalizeRoot (roots j)))
    (deeds : List (ι × Deed)) (s : Shared ι σ) :
    let together := run (operators a roots layers) deeds s
    let alone := run (operators a roots layers) (deeds.filter (·.1 = i)) s
    together.1.filter (·.1 = i) = alone.1
      ∧ (together.2.tenants i).held = (alone.2.tenants i).held
      ∧ ∀ path, content together.2.store (Path.key (Path.normalizeRoot (roots i)) path)
          = content alone.2.store (Path.key (Path.normalizeRoot (roots i)) path) := by
  have hs : AgreeFor content (Path.normalizeRoot (roots i)) i s s :=
    ⟨fun _ _ => rfl, rfl, rfl⟩
  obtain ⟨hanswers, hend⟩ := run_own h layers hapart deeds hs
  exact ⟨hanswers, hend.held, fun path => hend.store _ (below_key _ path)⟩

/-- Two roots of which neither is the start of the other one, but their names are. -/
def siblingRoots : Bool → String
  | false => "/a"
  | true => "ab/"

/-- Both users write files that would be in the way of one another below the same root, and the
first one lists its root. -/
def siblingDeeds : List (Bool × Deed) :=
  [(false, .object "b/x"), (true, .object "x"), (true, .object "/"),
    (false, .apply 0 .async (.write [1])), (true, .apply 0 .blocking (.write [2])),
    (false, .object ""), (false, .list 1 .blocking), (true, .apply 0 .async .delete),
    (false, .next 0), (false, .next 0), (false, .read 0 .async .full)]

/-- The paths that are listed. -/
def listedPaths : Bool × Except Stop Session.Answer → List String
  | (_, .ok (.child item)) => Session.textOf item
  | _ => []

theorem roots_isolate_siblings :
    let ops := operators (Memory.adapter "shared") siblingRoots fun _ => [.context]
    let s : Shared Bool (Table Bytes) := ⟨.empty, fun _ => ⟨{ service := () }, {}⟩⟩
    (Memory.adapter "shared").Holds Table.get? (fun _ _ => none)
      ∧ (∀ j, j ≠ false → Apart (Path.normalizeRoot (siblingRoots false))
          (Path.normalizeRoot (siblingRoots j)))
      ∧ (run ops siblingDeeds s).1.filter (·.1 = false)
        = (run ops (siblingDeeds.filter (·.1 = false)) s).1
      ∧ ((run ops siblingDeeds s).1.filter (·.1 = false)).flatMap listedPaths = ["b/"] := by
  intro ops s
  have hapart : ∀ j, j ≠ false → Apart (Path.normalizeRoot (siblingRoots false))
      (Path.normalizeRoot (siblingRoots j)) := by
    unfold Apart
    decide +kernel
  have hholds := memory_holds "shared"
  have hsame := (roots_isolate hholds siblingRoots (fun _ => [.context]) false hapart siblingDeeds
    s).1
  refine ⟨hholds, hapart, hsame, ?_⟩
  decide +kernel

end ObjectStorage.Kv

import Mathlib.Logic.Function.Basic
import ObjectStorage.Command
import ObjectStorage.Proofs.Object.Session

/-!
# The calls that services may rely on

However operators and objects are used, and whatever texts users and listings supply: each call that
reaches a service is at the path of an object, with an action that suits the path.  This holds for
sessions in which several operators are used side by side, through any layers, and for the commands,
which use the same objects.  So a service may join such a path to its root as it is.

* `Path.Joins` — paths that can be joined to a root;
* `Command.Keeps`, `Command.keeps_ls`, … — what commands keep of a service;
* `Order`, `Act`, `Stage`, `run` — sessions and commands, one after the other;
* `Contract.calls_agreed` — the calls that reach a service.
-/

namespace ObjectStorage

variable {σ ρ π α β : Type}

/-! ### Paths that are joined to a root -/

/-- A root and a path of which a service may make an absolute path. -/
structure Path.Joins (root path : String) : Prop where
  absolute : root.toList.head? = some '/'
  closed : root.toList.getLast? = some '/'
  relative : path ≠ Path.root → path.toList.head? ≠ some '/'

/-- The path of an object can be joined to any canonical root. -/
theorem Path.IsObjectPath.joins {path : String} (h : IsObjectPath path) (root : String) :
    Joins (normalizeRoot root) path where
  absolute := by
    rw [toList_normalizeRoot]
    rfl
  closed := by
    rw [toList_normalizeRoot]
    exact getLast?_normalizeRootChars root.toList
  relative hne := (h.resolve_left hne).2.1

/-- A contact as services may rely on it. -/
def Contact.Agreed : Contact → Prop
  | .call _ path action => action.Agreed path
  | .pull _ => True

/-! ### What commands keep of a service -/

namespace Command

/-- A command keeps what it keeps of the service. -/
def Keeps (P : σ → Prop) (x : Command σ α) : Prop := ∀ w, P w.service → P (x w).2.service

section

variable {P : σ → Prop}

theorem keeps_pure (a : α) : Keeps P (pure a : Command σ α) := fun _ hw => hw

theorem keeps_fail (f : Failure) : Keeps P (fail f : Command σ α) := fun _ hw => hw

theorem keeps_printBytes (data : Bytes) : Keeps P (printBytes data : Command σ Unit) :=
  fun _ hw => hw

theorem keeps_printLine (line : String) : Keeps P (printLine line : Command σ Unit) :=
  keeps_printBytes _

theorem keeps_ofRun {x : Run σ α} (hx : x.Keeps P) : Keeps P (ofRun x) := by
  intro w hw
  have hnext := hx w hw
  rw [ofRun]
  generalize x w = ended at hnext ⊢
  obtain ⟨(e | _) | a, w'⟩ := ended
  · exact hnext
  · exact hnext
  · exact hnext

/-- A command can succeed with a value. -/
def CanGive (x : Command σ α) (a : α) : Prop := ∃ w w', x w = (.ok a, w')

theorem CanGive.of_bind {x : Command σ α} {f : α → Command σ β} {b : β}
    (h : CanGive (x >>= f) b) : ∃ a, CanGive x a ∧ CanGive (f a) b := by
  obtain ⟨w, w', h⟩ := h
  rw [bind_apply] at h
  rcases hend : x w with ⟨e | a, v⟩
  · rw [hend] at h
    cases h
  · rw [hend] at h
    exact ⟨a, ⟨w, v, hend⟩, v, w', h⟩

theorem CanGive.of_pure {a b : α} (h : CanGive (pure a : Command σ α) b) : b = a := by
  obtain ⟨w, w', h⟩ := h
  cases h
  rfl

theorem keeps_bind {x : Command σ α} {f : α → Command σ β} (hx : Keeps P x)
    (hf : ∀ a, CanGive x a → Keeps P (f a)) : Keeps P (x >>= f) := by
  intro w hw
  have hnext := hx w hw
  rw [bind_apply]
  rcases hend : x w with ⟨e | a, w'⟩
  · rwa [hend] at hnext
  · rw [hend] at hnext
    exact hf a ⟨w, w', hend⟩ w' hnext

theorem keeps_log (e : Event) : Keeps P (log e : Command σ Unit) :=
  keeps_ofRun fun _ hw => hw

end

section

variable {op : Operator σ ρ π} {P : σ → Prop}

theorem keeps_printChildren (items : List (Except Error Entry)) :
    Keeps P (printChildren op items) := by
  induction items with
  | nil => exact keeps_pure _
  | cons item items ih =>
    cases item with
    | error e => exact keeps_fail _
    | ok entry =>
      refine keeps_bind (keeps_printLine _) fun _ _ => ?_
      exact keeps_bind ih fun _ _ => keeps_pure _

/-- The children that are printed are made of the entries of a listing. -/
theorem exists_text_of_printChildren {items : List (Except Error Entry)}
    {children : List (Object σ ρ π)} (h : CanGive (printChildren op items) children) :
    ∀ o ∈ children, ∃ text, o = op.object text := by
  induction items generalizing children with
  | nil =>
    obtain rfl := h.of_pure
    intro o ho
    cases ho
  | cons item items ih =>
    cases item with
    | error e =>
      obtain ⟨w, w', h⟩ := h
      cases h
    | ok entry =>
      obtain ⟨_, -, h⟩ := h.of_bind
      obtain ⟨rest, hrest, h⟩ := h.of_bind
      obtain rfl := h.of_pure
      intro o ho
      obtain rfl | ho := List.mem_cons.1 ho
      · exact ⟨entry.path, rfl⟩
      · exact ih hrest o ho

variable (hop : op.service.Keeps P)

include hop

/-- What is composed of agreed calls keeps the same as part of a command. -/
theorem keeps_ofComposed {x : Run σ α} (hx : op.Composed x) : Keeps P (ofRun x) :=
  keeps_ofRun (hx.keeps hop)

theorem keeps_cat (path : String) : Keeps P (cat op path) := by
  refine keeps_bind (keeps_ofComposed hop (Object.composed_reader op path .async .full))
    fun r _ => ?_
  refine keeps_bind (keeps_ofComposed hop (Reader.composed_pieces op .async r)) fun got _ => ?_
  obtain ⟨pieces, failure⟩ := got
  cases failure with
  | none => exact keeps_printBytes _
  | some e => exact keeps_bind (keeps_printBytes _) fun _ _ => keeps_fail _

theorem keeps_stat (path : String) : Keeps P (stat op path) := by
  refine keeps_bind (keeps_ofComposed hop (Object.composed_metadata op path .async))
    fun m _ => ?_
  refine keeps_bind (keeps_printLine _) fun _ _ => ?_
  refine keeps_bind (keeps_printLine _) fun _ _ => ?_
  -- three more lines, each printed if there is something to tell
  dsimp only
  split
  · refine keeps_bind (keeps_printLine _) fun _ _ => ?_
    split
    · refine keeps_bind (keeps_printLine _) fun _ _ => ?_
      split
      · exact keeps_printLine _
      · exact keeps_pure ()
    · split
      · exact keeps_printLine _
      · exact keeps_pure ()
  · split
    · refine keeps_bind (keeps_printLine _) fun _ _ => ?_
      split
      · exact keeps_printLine _
      · exact keeps_pure ()
    · split
      · exact keeps_printLine _
      · exact keeps_pure ()

theorem keeps_isFile (path : String) : Keeps P (isFile (op.object path)) := by
  have hattempt : op.Composed ((op.object path).metadata .async).attempt :=
    (Object.composed_metadata op path .async).attempt
  refine keeps_bind (keeps_ofComposed hop hattempt) fun result _ => ?_
  cases result with
  | ok metadata => exact keeps_pure _
  | error e =>
    dsimp only
    split
    · exact keeps_pure _
    · exact keeps_fail _

/-- The directories that are listed are objects of the operator, by induction on their number. -/
theorem keeps_walk (recursive : Bool) (fuel : Nat) {dirs : List (Object σ ρ π)}
    (hdirs : ∀ o ∈ dirs, ∃ text, o = op.object text) :
    Keeps P (walk op recursive fuel dirs) := by
  induction fuel generalizing dirs with
  | zero => exact keeps_pure ()
  | succ fuel ih =>
    cases dirs with
    | nil => exact keeps_pure ()
    | cons dir waiting =>
      obtain ⟨text, rfl⟩ := hdirs dir List.mem_cons_self
      refine keeps_bind (keeps_ofComposed hop (Object.composed_list op text .async))
        fun lister _ => ?_
      refine keeps_bind (keeps_ofComposed hop (Lister.composed_toList op .async lister))
        fun items _ => ?_
      refine keeps_bind (keeps_printChildren items) fun children hchildren => ?_
      refine ih fun o ho => ?_
      obtain ho | ho := List.mem_append.1 ho
      · refine exists_text_of_printChildren hchildren o ?_
        rw [List.mem_reverse] at ho
        split at ho
        · exact List.mem_of_mem_filter ho
        · cases ho
      · exact hdirs o (List.mem_cons_of_mem _ ho)

theorem keeps_ls (path : String) (recursive : Bool) : Keeps P (ls op path recursive) := by
  have hlist : Keeps P (do
      let s ← ofRun Run.getService
      walk op recursive (op.dirsAtMost s) [op.object (Path.asDir path)]) :=
    keeps_bind (keeps_ofRun fun _ hw => hw) fun s _ =>
      keeps_walk hop recursive _ fun o ho => ⟨_, List.mem_singleton.1 ho⟩
  rw [ls]
  dsimp only
  split
  · exact keeps_bind (keeps_pure false) fun found hfound => hfound.of_pure ▸ hlist
  · refine keeps_bind (keeps_isFile hop path) fun found _ => ?_
    split
    · exact keeps_printLine _
    · exact hlist

theorem keeps_rm (path : String) : Keeps P (rm op path) :=
  keeps_bind (keeps_ofComposed hop (Object.composed_delete op path .async)) fun _ _ => keeps_log _

theorem keeps_mkdir (path : String) : Keeps P (mkdir op path) :=
  keeps_ofComposed hop (Object.composed_create op (Path.asDir path) .async)

theorem keeps_cp (src : String) {dstOp : Operator σ ρ π} (hdst : dstOp.service.Keeps P)
    (dst : String) : Keeps P (cp op src dstOp dst) := by
  rw [cp]
  dsimp only
  split
  · exact keeps_bind (keeps_fail _) fun _ ⟨_, _, h⟩ => by cases h
  · refine keeps_bind (keeps_ofComposed hop (Object.composed_read op src .async .full))
      fun data _ => ?_
    refine keeps_bind (keeps_ofComposed hdst (Object.composed_write dstOp _ .async data))
      fun _ _ => ?_
    exact keeps_log _

end

end Command

/-! ### Sessions and commands -/

namespace Contract

open Session (Deed Held)

variable {ι : Type}

/-- A command on the objects of operators. -/
inductive Order (ι : Type)
  | cat (i : ι) (path : String)
  | stat (i : ι) (path : String)
  | ls (i : ι) (path : String) (recursive : Bool)
  | rm (i : ι) (path : String)
  | mkdir (i : ι) (path : String)
  | cp (i : ι) (src : String) (j : ι) (dst : String)

/-- Carry out a command. -/
def Order.run (ops : ι → Operator σ ρ π) : Order ι → Command σ Unit
  | .cat i path => Command.cat (ops i) path
  | .stat i path => Command.stat (ops i) path
  | .ls i path recursive => Command.ls (ops i) path recursive
  | .rm i path => Command.rm (ops i) path
  | .mkdir i path => Command.mkdir (ops i) path
  | .cp i src j dst => Command.cp (ops i) src (ops j) dst

/-- One thing that can be done with operators: something with what is held of one of them, or a
command. -/
inductive Act (ι : Type)
  | deed (i : ι) (deed : Deed)
  | order (order : Order ι)

/-- How far a run is: the world, and what is held of each operator. -/
structure Stage (ι σ ρ π : Type) where
  world : World σ
  held : ι → Held ρ π

/-- Do one thing. -/
def step [DecidableEq ι] (ops : ι → Operator σ ρ π) (s : Stage ι σ ρ π) : Act ι → Stage ι σ ρ π
  | .deed i deed =>
    let (_, held, world) := Session.step (ops i) (s.held i) deed s.world
    { world, held := Function.update s.held i held }
  | .order order => { s with world := (order.run ops s.world).2 }

/-- Do one thing after the other. -/
def run [DecidableEq ι] (ops : ι → Operator σ ρ π) (acts : List (Act ι)) (s : Stage ι σ ρ π) :
    Stage ι σ ρ π := acts.foldl (step ops) s

section

variable {ops : ι → Operator σ ρ π} {P : σ → Prop} (hops : ∀ i, (ops i).service.Keeps P)

include hops

theorem keeps_order (order : Order ι) : Command.Keeps P (order.run ops) := by
  cases order with
  | cat i path => exact Command.keeps_cat (hops i) path
  | stat i path => exact Command.keeps_stat (hops i) path
  | ls i path recursive => exact Command.keeps_ls (hops i) path recursive
  | rm i path => exact Command.keeps_rm (hops i) path
  | mkdir i path => exact Command.keeps_mkdir (hops i) path
  | cp i src j dst => exact Command.keeps_cp (hops i) src (hops j) dst

variable [DecidableEq ι]

/-- **One thing that is done** keeps what agreed calls keep of the services. -/
theorem keeps_step (act : Act ι) {s : Stage ι σ ρ π} (hs : P s.world.service) :
    P (step ops s act).world.service := by
  cases act with
  | deed i deed =>
    show P (Session.step (ops i) (s.held i) deed s.world).2.2.service
    rw [Session.step_world]
    exact (Session.composed_perform (ops i) (s.held i) deed).keeps (hops i) s.world hs
  | order order => exact keeps_order hops order s.world hs

/-- **A run** keeps what agreed calls keep of the services, by induction on what is done. -/
theorem keeps_run (acts : List (Act ι)) {s : Stage ι σ ρ π} (hs : P s.world.service) :
    P (run ops acts s).world.service := by
  induction acts generalizing s with
  | nil => exact hs
  | cons act acts ih => exact ih (keeps_step hops act hs)

end

/-! ### What is on record -/

/-- All contacts on record are agreed. -/
def AllAgreed (s : σ × List Contact) : Prop := ∀ contact ∈ s.2, contact.Agreed

/-- A service that keeps a record keeps it agreed. -/
theorem keeps_recorded (service : Service σ ρ π) : service.recorded.Keeps AllAgreed where
  call form path action h s hs := by
    intro contact hmem
    obtain hmem | hmem := List.mem_append.1 hmem
    · exact hs contact hmem
    · obtain rfl := List.mem_singleton.1 hmem
      exact h
  pull form pager s hs := by
    intro contact hmem
    obtain hmem | hmem := List.mem_append.1 hmem
    · exact hs contact hmem
    · obtain rfl := List.mem_singleton.1 hmem
      trivial
  fill form n reader s hs := hs

/-- The stage at which a run begins: nothing is on record, and nothing is held. -/
def fresh (w : World σ) : Stage ι (σ × List Contact) ρ π where
  world := w.withService (w.service, [])
  held _ := {}

/-- **Services can rely on the calls that they get.**  Let any operators, over any services and
with any layers, be used for anything, one thing after the other: objects made of any texts and of
whatever listings give, readers, listers, checks and commands, in both forms.  Each call that
reaches a service is at the path of an object: the root, or a text that is not empty, does not begin
with a slash and has no two slashes in a row.  What is read or written does not end with a slash,
what is listed does, and what is created is a directory just if it does.  So the path of every call,
and that of every object, can be joined to any canonical root. -/
theorem calls_agreed [DecidableEq ι] (ops : ι → Operator σ ρ π) (acts : List (Act ι))
    (w : World σ) :
    let record := (run (fun i => Forms.recorded (ops i)) acts (fresh w)).world.service.2
    (∀ form path action, .call form path action ∈ record →
      (path = "/" ∨ path ≠ "" ∧ path.toList.head? ≠ some '/' ∧ ¬ ['/', '/'] <:+: path.toList)
      ∧ (∀ range, action = .read range → Path.isDir path = false)
      ∧ (∀ length data, action = .write length data → Path.isDir path = false)
      ∧ (action = .list → Path.isDir path = true)
      ∧ ∀ mode, action = .create mode → (mode = .dir ↔ Path.isDir path = true))
    ∧ ∀ root, (∀ form path action, .call form path action ∈ record →
        Path.Joins (Path.normalizeRoot root) path)
      ∧ ∀ i text, Path.Joins (Path.normalizeRoot root) ((ops i).object text).path := by
  intro record
  have hagreed : ∀ contact ∈ record, contact.Agreed := by
    have hops : ∀ i, (Forms.recorded (ops i)).service.Keeps AllAgreed := fun i =>
      keeps_recorded (ops i).service
    refine keeps_run hops acts ?_
    intro contact hmem
    cases hmem
  constructor
  · intro form path action hmem
    obtain ⟨hpath, hsuits⟩ := hagreed _ hmem
    refine ⟨hpath, ?_, ?_, ?_, ?_⟩
    · rintro range rfl
      exact hsuits
    · rintro length data rfl
      exact hsuits
    · rintro rfl
      exact hsuits
    · rintro mode rfl
      have hmode : mode = .ofPath path := hsuits
      rw [hmode, ObjectMode.ofPath]
      cases Path.isDir path <;> simp
  · intro root
    constructor
    · intro form path action hmem
      exact (hagreed _ hmem).isObjectPath.joins root
    · intro i text
      exact (Path.isObjectPath_normalize text).joins root

/-- A service that lists an entry with slashes at its start and in a row, and then fails. -/
def carelessWorld : World Scripted.State where
  service :=
    { outcomes := [(.call .async .list, [.list [.ok (some [⟨"//x//y", { mode := .file }⟩])]]),
        (.call .blocking .stat, [.failed (.new .objectNotFound "missing")])] }

/-- A directory is listed, its entry is looked up, and the root is created. -/
def carelessActs : List (Act Unit) :=
  [.deed () (.object " d/"), .deed () (.list 0 .async), .deed () (.next 0),
    .deed () (.apply 1 .blocking .metadata), .order (.mkdir () "")]

theorem calls_agreed_careless :
    let op : Operator Scripted.State Scripted.Pieces Scripted.Pages :=
      { service := Scripted.service { scheme := .memory } }
    let record :=
      (run (fun _ => Forms.recorded op) carelessActs (fresh carelessWorld)).world.service.2
    record = [.call .async "d/" .list, .pull .async, .call .blocking "x/y" .stat,
        .call .async "/" (.create .dir)]
      ∧ Path.isDir "d/" = true
      ∧ ¬ ['/', '/'] <:+: "x/y".toList
      ∧ Path.Joins (Path.normalizeRoot "tmp") "x/y" := by
  intro op record
  have hrecord : record = [.call .async "d/" .list, .pull .async, .call .blocking "x/y" .stat,
      .call .async "/" (.create .dir)] := by decide +kernel
  obtain ⟨hcalls, hjoins⟩ := calls_agreed (fun _ : Unit => op) carelessActs carelessWorld
  have hlisted : .call .async "d/" .list ∈ record := by
    rw [hrecord]
    exact List.mem_cons_self
  have hlooked : .call .blocking "x/y" .stat ∈ record := by
    rw [hrecord]
    exact List.mem_of_getElem? (i := 2) rfl
  obtain ⟨-, -, -, hdir, -⟩ := hcalls .async "d/" .list hlisted
  obtain ⟨hpath, -⟩ := hcalls .blocking "x/y" .stat hlooked
  obtain ⟨-, -, hapart⟩ := hpath.resolve_left (by decide)
  exact ⟨hrecord, hdir rfl, hapart, (hjoins "tmp").1 _ _ _ hlooked⟩

end Contract

end ObjectStorage

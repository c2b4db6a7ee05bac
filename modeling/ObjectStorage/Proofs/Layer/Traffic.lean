import Mathlib.Logic.Relation
import ObjectStorage.Cursor
import ObjectStorage.Proofs.Layer.Limit
import ObjectStorage.Reading

/-!
# Traffic behind a limit

Any number of tasks make calls through one limit, in either form, each in its own time, and close
the readers and pagers they got when they like.  What happens is a sequence of steps: a call gets a
permit or does not, something goes on inside, a call ends well or with an error, a handle is used or
closed.  Whatever the order of the steps, every permit is free, with a call inside or with an open
handle.

* `Traffic` — the calls inside and the open handles, with the world;
* `Traffic.Step` — what can happen next;
* `Traffic.Balanced`, `Traffic.step_balanced` — the account of the permits, which a step preserves;
* `Traffic.take_is_step`, `Traffic.pull_is_step` — what readers and pagers do is steps;
* `Traffic.call_is_run` — a call of a service through a stack, done in one go, is such a sequence;
* `Traffic.permits_accounted` — what this means for calls at any moment.
-/

namespace ObjectStorage

/-- What is going on behind a limit. -/
structure Traffic (σ ρ π : Type) where
  world : World σ
  /-- The calls that have got a permit and have not ended. -/
  calls : List (Form × Action) := []
  /-- The readers and pagers that have not been closed. -/
  handles : List (Handle ρ π) := []

namespace Traffic

variable {σ ρ π : Type}

/-- What can happen next behind the limit `n`. -/
inductive Step (n : Nat) : Traffic σ ρ π → Traffic σ ρ π → Prop
  /-- A call gets a permit. -/
  | enter {t : Traffic σ ρ π} (form : Form) (action : Action) {w : World σ}
      (h : Limit.acquire n (action.operation form) t.world = (.ok (), w)) :
      Step n t ⟨w, (form, action) :: t.calls, t.handles⟩
  /-- A call gets none: it fails, or it waits and may try again. -/
  | refuse {t : Traffic σ ρ π} (form : Form) (action : Action) {e : Stop} {w : World σ}
      (h : Limit.acquire n (action.operation form) t.world = (.error e, w)) :
      Step n t ⟨w, t.calls, t.handles⟩
  /-- A call goes on inside, or something happens elsewhere. -/
  | inside {t : Traffic σ ρ π} {w : World σ} (h : w.permits[n]? = t.world.permits[n]?) :
      Step n t ⟨w, t.calls, t.handles⟩
  /-- A call ends, with a reply or an error, or is given up while it waits inside; then it is
  settled. -/
  | settle {world : World σ} (before : List (Form × Action)) {after : List (Form × Action)}
      {form : Form} {action : Action} {handles : List (Handle ρ π)}
      (result : Except Stop (Reply (Reader ρ) (Pager π) action))
      (hfresh : ∀ h ∈ handlesOf action result, n ∉ h.owes) :
      Step n ⟨world, before ++ (form, action) :: after, handles⟩
        ⟨(Layer.settle n action result world).2, before ++ after,
          handlesOf action (Layer.settle n action result world).1 ++ handles⟩
  /-- A reader or a pager gives what comes next. -/
  | use {world w : World σ} {calls : List (Form × Action)} (before : List (Handle ρ π))
      {after : List (Handle ρ π)} {h h' : Handle ρ π} (howes : h'.owes = h.owes)
      (hkeeps : w.permits[n]? = world.permits[n]?) :
      Step n ⟨world, calls, before ++ h :: after⟩ ⟨w, calls, before ++ h' :: after⟩
  /-- A reader or a pager is closed. -/
  | close {world w : World σ} {calls : List (Form × Action)} {before after : List (Handle ρ π)}
      {h : Handle ρ π} (hclose : h.close world = (.ok (), w)) :
      Step n ⟨world, calls, before ++ h :: after⟩ ⟨w, calls, before ++ after⟩

/-! ### The account of the permits -/

/-- Every permit of the limit `n` is free, with a call or with a handle. -/
structure Balanced (n total : Nat) (t : Traffic σ ρ π) : Prop where
  known : n < t.world.permits.length
  account : Permits.free t.world.permits n + t.calls.length + t.handles.length = total
  owed : ∀ h ∈ t.handles, h.owes.count n = 1

variable {n total : Nat} {t t' : Traffic σ ρ π}

/-- A limit that was just added has all its permits. -/
theorem balanced_add {w w' : World σ} (h : Limit.add total w = (.ok n, w')) :
    Balanced n total (⟨w', [], []⟩ : Traffic σ ρ π) := by
  have hadd : ((.ok w.permits.length, { w with permits := w.permits ++ [total] })
    : Except Stop Nat × World σ) = (.ok n, w') := h
  obtain ⟨hn, rfl⟩ := Prod.mk.inj hadd
  obtain rfl := Except.ok.inj hn
  refine ⟨?_, ?_, fun h hmem => absurd hmem List.not_mem_nil⟩
  · show w.permits.length < (w.permits ++ [total]).length
    rw [List.length_append, List.length_singleton]
    omega
  · show Permits.free (w.permits ++ [total]) w.permits.length + 0 + 0 = total
    rw [Permits.free, List.getElem?_concat_length, Option.getD_some, Nat.add_zero]

theorem enter_balanced (h : Balanced n total t) {form : Form} {action : Action} {w : World σ}
    (hacquire : Limit.acquire n (action.operation form) t.world = (.ok (), w)) :
    Balanced n total ⟨w, (form, action) :: t.calls, t.handles⟩ := by
  obtain ⟨hknown, haccount, howed⟩ := h
  by_cases hfree : Permits.free t.world.permits n = 0
  · rw [Limit.acquire_of_none hfree] at hacquire
    exact absurd (congrArg Prod.fst hacquire) (by simp)
  · rw [Limit.acquire_of_free hfree] at hacquire
    obtain rfl := (Prod.mk.inj hacquire).2
    refine ⟨?_, ?_, howed⟩
    · show n < (t.world.permits.set n _).length
      rwa [List.length_set]
    · show Permits.free (t.world.permits.set n _) n + (t.calls.length + 1) + t.handles.length
        = total
      rw [Permits.free, List.getElem?_set_self hknown, Option.getD_some]
      omega

theorem refuse_balanced (h : Balanced n total t) {form : Form} {action : Action} {e : Stop}
    {w : World σ}
    (hacquire : Limit.acquire n (action.operation form) t.world = (.error e, w)) :
    Balanced n total ⟨w, t.calls, t.handles⟩ := by
  by_cases hfree : Permits.free t.world.permits n = 0
  · rw [Limit.acquire_of_none hfree] at hacquire
    obtain rfl := (Prod.mk.inj hacquire).2
    exact h
  · rw [Limit.acquire_of_free hfree] at hacquire
    exact absurd (congrArg Prod.fst hacquire) (by simp)

theorem inside_balanced (h : Balanced n total t) {w : World σ}
    (hkeeps : w.permits[n]? = t.world.permits[n]?) :
    Balanced n total ⟨w, t.calls, t.handles⟩ := by
  obtain ⟨hknown, haccount, howed⟩ := h
  refine ⟨?_, ?_, howed⟩
  · rcases Nat.lt_or_ge n w.permits.length with hlt | hge
    · exact hlt
    · rw [List.getElem?_eq_none hge, eq_comm, List.getElem?_eq_none_iff] at hkeeps
      omega
  · show Permits.free w.permits n + t.calls.length + t.handles.length = total
    rw [Permits.free, hkeeps]
    exact haccount

theorem use_balanced {world w : World σ} {calls : List (Form × Action)}
    {before after : List (Handle ρ π)} {handle handle' : Handle ρ π}
    (h : Balanced n total ⟨world, calls, before ++ handle :: after⟩)
    (howes : handle'.owes = handle.owes) (hkeeps : w.permits[n]? = world.permits[n]?) :
    Balanced n total ⟨w, calls, before ++ handle' :: after⟩ := by
  obtain ⟨hknown, haccount, howed⟩ := inside_balanced h hkeeps
  refine ⟨hknown, ?_, fun other hmem => ?_⟩
  · simp only [List.length_append, List.length_cons] at haccount ⊢
    exact haccount
  · rcases List.mem_append.1 hmem with hmem | hmem
    · exact howed other (List.mem_append_left _ hmem)
    · rcases List.mem_cons.1 hmem with rfl | hmem
      · rw [howes]
        exact howed handle (List.mem_append_right _ List.mem_cons_self)
      · exact howed other (List.mem_append_right _ (List.mem_cons_of_mem _ hmem))

theorem settle_balanced {world : World σ} {before after : List (Form × Action)} {form : Form}
    {action : Action} {handles : List (Handle ρ π)}
    (h : Balanced n total ⟨world, before ++ (form, action) :: after, handles⟩)
    {result : Except Stop (Reply (Reader ρ) (Pager π) action)}
    (hfresh : ∀ h ∈ handlesOf action result, n ∉ h.owes) :
    Balanced n total ⟨(Layer.settle n action result world).2, before ++ after,
      handlesOf action (Layer.settle n action result world).1 ++ handles⟩ := by
  obtain ⟨hknown, haccount, howed⟩ := h
  obtain ⟨hknown', hfree, hdebts⟩ := Layer.settle_balanced hknown hfresh
  refine ⟨hknown', ?_, fun handle hmem => ?_⟩
  · simp only [List.length_append, List.length_cons] at haccount hfree ⊢
    omega
  · rcases List.mem_append.1 hmem with hmem | hmem
    · exact hdebts handle hmem
    · exact howed handle hmem

theorem close_balanced {world w : World σ} {calls : List (Form × Action)}
    {before after : List (Handle ρ π)} {handle : Handle ρ π}
    (h : Balanced n total ⟨world, calls, before ++ handle :: after⟩)
    (hclose : handle.close world = (.ok (), w)) :
    Balanced n total ⟨w, calls, before ++ after⟩ := by
  obtain ⟨hknown, haccount, howed⟩ := h
  rw [Handle.close_apply] at hclose
  obtain rfl := (Prod.mk.inj hclose).2
  have hdebt : handle.owes.count n = 1 :=
    howed handle (List.mem_append_right before List.mem_cons_self)
  refine ⟨?_, ?_, fun other hmem => howed other ?_⟩
  · show n < (handle.owes.foldl Permits.giveBack world.permits).length
    rwa [Permits.length_release]
  · show Permits.free (handle.owes.foldl Permits.giveBack world.permits) n + calls.length
      + (before ++ after).length = total
    rw [Permits.free_release handle.owes hknown, hdebt]
    simp only [List.length_append, List.length_cons] at haccount ⊢
    omega
  · rcases List.mem_append.1 hmem with hmem | hmem
    · exact List.mem_append_left _ hmem
    · exact List.mem_append_right _ (List.mem_cons_of_mem _ hmem)

/-- **One step.**  Whatever happens next, the account is kept. -/
theorem step_balanced (hstep : Step n t t') (h : Balanced n total t) : Balanced n total t' := by
  cases hstep with
  | enter form action hacquire => exact enter_balanced h hacquire
  | refuse form action hacquire => exact refuse_balanced h hacquire
  | inside hkeeps => exact inside_balanced h hkeeps
  | settle before result hfresh => exact settle_balanced h hfresh
  | use before howes hkeeps => exact use_balanced h howes hkeeps
  | close hclose => exact close_balanced h hclose

/-- Any number of steps, by induction on them. -/
theorem run_balanced (hrun : Relation.ReflTransGen (Step n) t t') (h : Balanced n total t) :
    Balanced n total t' := by
  induction hrun with
  | refl => exact h
  | tail _ hstep ih => exact step_balanced hstep ih

/-! ### What operations do is steps -/

/-- To take bytes from an open reader is a step. -/
theorem take_is_step (service : Service σ ρ π) (form : Form) (size : Nat) (r : Reader ρ)
    {r' : Reader ρ} {got : Bytes × Option IoError} {w w' : World σ}
    (htake : r.take service form size w = (.ok (got, r'), w')) (calls : List (Form × Action))
    (before after : List (Handle ρ π)) :
    Step n ⟨w, calls, before ++ .reader r :: after⟩ ⟨w', calls, before ++ .reader r' :: after⟩ := by
  obtain ⟨hgot, rfl⟩ := Prod.mk.inj htake
  obtain rfl := (Prod.mk.inj (Except.ok.inj hgot)).2
  exact .use before rfl rfl

/-- To pull a page from an open pager is a step. -/
theorem pull_is_step (service : Service σ ρ π) (form : Form) (p : Pager π) (w : World σ)
    (calls : List (Form × Action)) (before after : List (Handle ρ π)) :
    Step n ⟨w, calls, before ++ .pager p :: after⟩
      ⟨(p.pull service form w).2.2, calls,
        before ++ .pager (p.pull service form w).2.1 :: after⟩ :=
  .use before rfl (Pager.pull_keeps service form p w)

/-- A call of a service through the limit and any stack below it that has not the limit itself is a
sequence of steps, when nothing comes in between.  It leaves the other calls and handles as they
are, and the handle that it gives is open. -/
theorem call_is_run (t : Traffic σ ρ π) (service : Service σ ρ π) {layers : List Layer}
    (hlayers : Layer.limit n ∉ layers) (form : Form) (path : String) (action : Action) :
    Relation.ReflTransGen (Step n) t
      ⟨(Stack.call service (.limit n :: layers) form path action t.world).2, t.calls,
        handlesOf action (Stack.call service (.limit n :: layers) form path action t.world).1
          ++ t.handles⟩ := by
  have haround : Stack.call service (.limit n :: layers) form path action t.world
      = Layer.around service.info form path action (Stack.call service layers form path action)
        (.limit n) t.world := rfl
  rw [haround, Layer.around_limit]
  by_cases hfree : Permits.free t.world.permits n = 0
  · have hacquire := Limit.acquire_of_none hfree (action.operation form)
    rw [hacquire]
    exact .single (.refuse form action hacquire)
  · have hacquire := Limit.acquire_of_free hfree (action.operation form)
    rw [hacquire]
    dsimp only
    generalize ({ t.world with permits := _ } : World σ) = w at hacquire ⊢
    obtain ⟨hkeeps, hvalue⟩ := Stack.respects_call service hlayers form path action w
    have hfresh : ∀ h ∈ handlesOf action (Stack.call service layers form path action w).1,
        n ∉ h.owes := by
      intro h hmem
      cases hresult : (Stack.call service layers form path action w).1 with
      | ok reply =>
        rw [hresult] at hmem
        exact hvalue reply hresult h hmem
      | error e =>
        rw [hresult] at hmem
        exact absurd hmem List.not_mem_nil
    have henter : Step n t ⟨w, (form, action) :: t.calls, t.handles⟩ := .enter form action hacquire
    have hinside : Step n ⟨w, (form, action) :: t.calls, t.handles⟩
        ⟨(Stack.call service layers form path action w).2, (form, action) :: t.calls,
          t.handles⟩ := .inside hkeeps
    exact ((Relation.ReflTransGen.single henter).tail hinside).tail
      (.settle [] _ hfresh)

/-- **Permits are neither lost nor given twice.**  At any moment of any traffic behind a limit that
was added with `total` permits, these are the free ones with the calls inside and the open handles.
So no more are in flight, and all are free again when nothing is left.  A blocking call is turned
away just when no permit is free, with an error that trying again may cure, and an async call waits
then; whatever is inside, it is not reached, and nothing changes.  Otherwise a call of either form
goes inside with one permit taken, and how it ends is settled. -/
theorem permits_accounted {w w' : World σ} (hadd : Limit.add total w = (.ok n, w'))
    (hrun : Relation.ReflTransGen (Step n) ⟨w', [], []⟩ t) :
    Permits.free t.world.permits n + t.calls.length + t.handles.length = total
      ∧ t.calls.length + t.handles.length ≤ total
      ∧ (t.calls = [] → t.handles = [] → Permits.free t.world.permits n = total)
      ∧ ∀ (info : ServiceInfo) (path : String) (action : Action)
          (inner : Run σ (Reply (Reader ρ) (Pager π) action)),
        let rejection := Limit.exceeded (action.operation .blocking)
        let taken : World σ := { t.world with
          permits := t.world.permits.set n (Permits.free t.world.permits n - 1) }
        (rejection.kind = .objectRateLimited ∧ rejection.isTemporary = true)
          ∧ ((Limit.acquire n (action.operation .blocking) t.world).1
              = .error (.failed rejection) ↔ Permits.free t.world.permits n = 0)
          ∧ Layer.around info .blocking path action inner (.limit n) t.world
            = (if Permits.free t.world.permits n = 0 then (.error (.failed rejection), t.world)
              else Layer.settle n action (inner taken).1 (inner taken).2)
          ∧ Layer.around info .async path action inner (.limit n) t.world
            = if Permits.free t.world.permits n = 0 then (.error .waiting, t.world)
              else Layer.settle n action (inner taken).1 (inner taken).2 := by
  have hbalanced : Balanced n total t := run_balanced hrun (balanced_add hadd)
  have haccount := hbalanced.account
  refine ⟨haccount, by omega, fun hcalls hhandles => ?_, fun info path action inner => ?_⟩
  · rw [hcalls, hhandles] at haccount
    exact haccount
  · refine ⟨Limit.exceeded_isTemporary _, ?_,
      Layer.around_limit_eq info .blocking path action inner n t.world,
      Layer.around_limit_eq info .async path action inner n t.world⟩
    by_cases hfree : Permits.free t.world.permits n = 0
    · rw [Limit.acquire_of_none hfree]
      exact ⟨fun _ => hfree, fun _ => rfl⟩
    · rw [Limit.acquire_of_free hfree]
      exact ⟨fun heq => absurd heq (by simp), fun heq => absurd heq hfree⟩

/-! ### One permit and one reader -/

/-- A limit with one permit, which an open reader holds. -/
def oneReader : Traffic Unit Cursor Page where
  world := { service := (), permits := [0] }
  handles := [.reader { source := ⟨[]⟩, owes := [0] }]

/-- A read gets the permit, a blocking question gets none, and the read ends with a reader. -/
theorem oneReader_is_run :
    Relation.ReflTransGen (Step 0) ⟨{ service := (), permits := [1] }, [], []⟩ oneReader := by
  have henter : Step 0 (⟨{ service := (), permits := [1] }, [], []⟩ : Traffic Unit Cursor Page)
      ⟨{ service := (), permits := [0] }, [(.async, .read .full)], []⟩ :=
    .enter .async (.read .full) rfl
  have hrefuse : Step 0
      (⟨{ service := (), permits := [0] }, [(.async, .read .full)], []⟩ : Traffic Unit Cursor Page)
      ⟨{ service := (), permits := [0] }, [(.async, .read .full)], []⟩ :=
    .refuse .blocking .stat rfl
  have hfresh : ∀ h ∈ handlesOf (.read .full)
      (.ok (0, { source := ⟨[]⟩ })
        : Except Stop (Reply (Reader Cursor) (Pager Page) (.read .full))),
      0 ∉ h.owes := by
    intro h hmem
    rw [List.mem_singleton.1 hmem]
    exact List.not_mem_nil
  exact ((Relation.ReflTransGen.single henter).tail hrefuse).tail (.settle [] _ hfresh)

theorem permits_accounted_oneReader :
    Limit.add 1 ({ service := () } : World Unit)
        = (.ok 0, { service := (), permits := [1] })
      ∧ Relation.ReflTransGen (Step 0) ⟨{ service := (), permits := [1] }, [], []⟩ oneReader
      ∧ Permits.free oneReader.world.permits 0 + oneReader.calls.length
          + oneReader.handles.length = 1
      ∧ (Limit.acquire 0 (.call .blocking .stat) oneReader.world).1
          = .error (.failed (Limit.exceeded (.call .blocking .stat)))
      ∧ Layer.around { scheme := .memory } .async "a" .stat
          (Run.fail (.new .unexpected "") : Run Unit (Reply (Reader Cursor) (Pager Page) .stat))
          (.limit 0) oneReader.world = (.error .waiting, oneReader.world) := by
  have hadd : Limit.add 1 ({ service := () } : World Unit)
      = (.ok 0, { service := (), permits := [1] }) := rfl
  obtain ⟨haccount, -, -, hcalls⟩ := permits_accounted hadd oneReader_is_run
  obtain ⟨-, hrejected, -, hwaits⟩ :=
    hcalls { scheme := .memory } "a" .stat (Run.fail (.new .unexpected ""))
  exact ⟨hadd, oneReader_is_run, haccount, hrejected.2 rfl, hwaits.trans (if_pos rfl)⟩

end Traffic

end ObjectStorage

import ObjectStorage.Operator
import ObjectStorage.Proofs.Layer.Origin
import ObjectStorage.Service.Scripted

/-!
# The errors of a finished operator

An operator that is built from layers and then finished tells every error the same way, whatever the
layers are and in whatever order they were added.  Kind, message and source are those of the error
that ended the call, and so are its facts, to which others are only added: how often the call was
retried in vain, the name that the operation had so far, the service, the path, and the range of a
read.

* `Error.IsToldAs` — an error as a finished operator tells it;
* `Operator.layers_of_built` — the layers of an operator that was built and finished;
* `Operator.errors_survive` — every failing call and pull of a finished operator.
-/

namespace ObjectStorage

variable {σ ρ π : Type}

/-! ### How errors are told -/

namespace Error

/-- What is added about retries: an error for now was retried in vain if a layer tries again. -/
def retriedFacts (e : Error) : Option Backoff → List (String × String)
  | some b => if e.isTemporary then [("retried", toString b.maxTimes)] else []
  | none => []

/-- What is added about the operation: the name that another one takes the place of. -/
def calledFacts (e : Error) : List (String × String) :=
  if e.operation = "" then [] else [("called", e.operation)]

/-- An error that ended an operation, as the caller is told of it. -/
structure IsToldAs (e told : Error) (operation : String) (retry : Option Backoff)
    (facts : List (String × String)) : Prop where
  kind : told.kind = e.kind
  message : told.message = e.message
  source : told.source = e.source
  operation : told.operation = operation
  status : told.status = if e.isTemporary ∧ retry.isSome then .persistent else e.status
  context : told.context = e.context ++ e.retriedFacts retry ++ e.calledFacts ++ facts

variable (e : Error) (retry : Option Backoff)

/-- Retries change the status and add one fact, and nothing else. -/
theorem retriedBy_spec : (e.retriedBy retry).kind = e.kind
    ∧ (e.retriedBy retry).message = e.message ∧ (e.retriedBy retry).source = e.source
    ∧ (e.retriedBy retry).operation = e.operation
    ∧ (e.retriedBy retry).status
        = (if e.isTemporary ∧ retry.isSome then .persistent else e.status)
    ∧ (e.retriedBy retry).context = e.context ++ e.retriedFacts retry := by
  cases retry with
  | none => simp [retriedBy, retriedFacts]
  | some b =>
    cases he : e.isTemporary with
    | true =>
      rw [retriedBy, Retry.conclude_of_temporary he]
      simp [exhausted, persistent, retriedFacts, he]
    | false =>
      rw [retriedBy, Retry.conclude_of_not_temporary he]
      simp [retriedFacts, he]

/-- To name the operation and to add facts tells an error as it should be told. -/
theorem isToldAs_of_facts {told : Error} {operation : String} {facts : List (String × String)}
    (h : told = { (e.retriedBy retry).withOperation operation with
      context := ((e.retriedBy retry).withOperation operation).context ++ facts }) :
    e.IsToldAs told operation retry facts := by
  obtain ⟨hkind, hmessage, hsource, hoperation, hstatus, hcontext⟩ := e.retriedBy_spec retry
  subst h
  refine ⟨?_, ?_, ?_, ?_, ?_, ?_⟩
  · rw [← hkind]
    exact kind_withOperation _ _
  · rw [← hmessage]
    exact message_withOperation _ _
  · rw [← hsource]
    exact source_withOperation _ _
  · exact operation_withOperation _ _
  · rw [← hstatus]
    exact status_withOperation _ _
  · show ((e.retriedBy retry).withOperation operation).context ++ facts = _
    rw [context_withOperation, hcontext, hoperation, calledFacts]

end Error

/-- What a finished operator adds to the error of a call. -/
def Layer.callFacts (scheme : Scheme) (path : String) (action : Action) :
    List (String × String) :=
  [("service", scheme.name), ("path", path)] ++ match action with
    | .read range => [("range", range.display)]
    | _ => []

/-- What a finished operator adds to the error of a pull. -/
def Pager.pullFacts (scheme : Scheme) (path : String) : List (String × String) :=
  [("service", scheme.name), ("path", path)]

theorem Layer.isToldAs_callError (scheme : Scheme) (form : Form) (path : String) (action : Action)
    (e : Error) (retry : Option Backoff) :
    e.IsToldAs (callError scheme form path action (e.retriedBy retry))
      (action.operation form).name retry (callFacts scheme path action) := by
  apply Error.isToldAs_of_facts
  cases action <;> simp [callError, callFacts, Error.withContext]

theorem Pager.isToldAs_pullError (scheme : Scheme) (form : Form) (path : String)
    (e : Error) (retry : Option Backoff) :
    e.IsToldAs (pullError scheme form path (e.retriedBy retry)) (pullName form) retry
      (pullFacts scheme path) := by
  apply Error.isToldAs_of_facts
  simp [pullError, pullFacts, Error.withContext]

/-! ### How operators are built -/

namespace Operator

variable {service : Service σ ρ π} {op op' : Operator σ ρ π} {w w' : World σ}

/-- An operator that asked for the information of another one is what is made of that one. -/
theorem eq_of_info {other : Operator σ ρ π}
    (h : (do let _ ← op.info; pure other : Run σ (Operator σ ρ π)) w = (.ok op', w')) :
    op' = other := by
  rw [Run.bind_apply] at h
  generalize op.info w = asked at h
  obtain ⟨stop | info, w''⟩ := asked
  · cases h
  · cases h
    rfl

/-- To add a layer puts it around the others; it is never the one that finishes an operator. -/
theorem around_of_add {config : LayerConfig} (h : op.add config w = (.ok op', w')) :
    ∃ layer, layer ≠ .context ∧ op' = op.around layer := by
  cases config with
  | retry backoff =>
    cases h
    exact ⟨_, Layer.noConfusion, rfl⟩
  | limit permits =>
    cases h
    exact ⟨_, Layer.noConfusion, rfl⟩
  | index paths =>
    cases h
    exact ⟨_, Layer.noConfusion, rfl⟩
  | logging => exact ⟨_, Layer.noConfusion, eq_of_info h⟩
  | metrics => exact ⟨_, Layer.noConfusion, eq_of_info h⟩

theorem context_not_mem_of_addAll {configs : List LayerConfig} (hop : .context ∉ op.layers)
    (h : op.addAll configs w = (.ok op', w')) :
    op'.service = op.service ∧ .context ∉ op'.layers := by
  induction configs generalizing op w with
  | nil =>
    cases h
    exact ⟨rfl, hop⟩
  | cons config configs ih =>
    rw [addAll, List.foldlM_cons, Run.bind_apply] at h
    cases hadd : op.add config w with
    | mk added w'' =>
      rw [hadd] at h
      cases added with
      | error stop => cases h
      | ok next =>
        obtain ⟨layer, hne, rfl⟩ := around_of_add hadd
        have hnext : .context ∉ (op.around layer).layers := by
          show .context ∉ layer :: op.layers
          rw [List.mem_cons, not_or]
          exact ⟨Ne.symm hne, hop⟩
        obtain ⟨hservice, hlayers⟩ := ih hnext h
        exact ⟨hservice, hlayers⟩

/-- The layers of an operator that was built and finished: the outermost one tells operation,
service and path, and no other one does. -/
theorem layers_of_built {configs : List LayerConfig}
    (h : (addAll { service } configs >>= finish) w = (.ok op, w')) :
    op.service = service ∧ ∃ layers, op.layers = .context :: layers ∧ .context ∉ layers := by
  rw [Run.bind_apply] at h
  cases hadd : addAll { service } configs w with
  | mk added w'' =>
    rw [hadd] at h
    cases added with
    | error stop => cases h
    | ok plain =>
      obtain ⟨hservice, hlayers⟩ := context_not_mem_of_addAll List.not_mem_nil hadd
      obtain rfl := eq_of_info h
      exact ⟨hservice, plain.layers, rfl, hlayers⟩

/-! ### Failing calls and pulls -/

/-- The error of a call through a stack that was finished. -/
theorem told_of_call (service : Service σ ρ π) {layers : List Layer} (h : .context ∉ layers)
    (form : Form) (path : String) (action : Action) {w : World σ} {above : List Layer} {e : Error}
    (horigin : Stack.origin? service form path action (.context :: layers) w = some (above, e)) :
    ∃ told, (Stack.call service (.context :: layers) form path action w).1 = .error (.failed told)
      ∧ e.IsToldAs told (action.operation form).name (Stack.innermostBackoff? above)
          (Layer.callFacts service.info.scheme path action) := by
  obtain ⟨⟨inside, e'⟩, hinside, heq⟩ := Option.map_eq_some_iff.1 horigin
  cases heq
  obtain ⟨below, rfl, -⟩ := Stack.raised_of_origin? hinside
  have hplain : Layer.context ∉ inside := fun hmem => h (List.mem_append_left below hmem)
  refine ⟨_, ?_, Layer.isToldAs_callError service.info.scheme form path action e _⟩
  rw [← errorOf?_eq_some_iff, Stack.errorOf?_call, horigin]
  show some (Layer.callError _ _ _ _ (Stack.handedOn service form path action inside e)) = _
  rw [Stack.handedOn_eq service form path action hplain]
  rfl

/-- The error of a pull from a pager of a stack that was finished. -/
theorem told_of_pull (service : Service σ ρ π) {layers : List Layer} (h : .context ∉ layers)
    (form : Form) {path : String} {p : Pager π}
    (hp : Stack.IsPagerOf (.context :: layers) path p) {w : World σ} {e : Error}
    (horigin : p.origin? service form w = some e) :
    ∃ told, (p.pull service form w).1 = .error (.failed told)
      ∧ e.IsToldAs told (Pager.pullName form) (Stack.innermostBackoff? (.context :: layers))
          (Pager.pullFacts service.info.scheme path) := by
  have hindex : ∀ paths, Layer.index paths ∉ layers :=
    fun paths hmem => hp.index_not_mem horigin paths (List.mem_cons_of_mem _ hmem)
  refine ⟨_, ?_, Pager.isToldAs_pullError service.info.scheme form path e _⟩
  rw [← errorOf?_eq_some_iff, Pager.errorOf?_pull, horigin, hp.marks_eq, hp.path_eq]
  show some (Pager.pullError _ _ _ (Pager.handedOn service form path (Stack.marks layers) e)) = _
  rw [Pager.handedOn_eq service form path (Stack.context_not_mem_marks h),
    Stack.filterMap_marks hindex]
  rfl

/-- **Errors survive every stack of layers.**  A call of an operator that was built from layers, in
any order, and then finished fails just if an error ends it; the service or a limit has raised that
error, and the caller gets it with nothing but facts added: how often it was retried in vain by the
innermost layer above its origin that tries again, if it was one for now, the name of the operation
that the called one takes the place of, the service, the path, and the range of a read.  The same
holds for the pulls from every pager that the operator gives, whose errors come from the service. -/
theorem errors_survive {configs : List LayerConfig}
    (hbuilt : (addAll { service } configs >>= finish) w = (.ok op, w'))
    (form : Form) (path : String) :
    (∀ action v,
      ((∃ told, (op.call form path action v).1 = .error (.failed told))
        ↔ (Stack.origin? service form path action op.layers v).isSome)
      ∧ ∀ above e, Stack.origin? service form path action op.layers v = some (above, e) →
        (∃ below, op.layers = above ++ below ∧ Stack.Raised service form path action below e)
        ∧ ∃ told, (op.call form path action v).1 = .error (.failed told)
          ∧ e.IsToldAs told (action.operation form).name (Stack.innermostBackoff? above)
              (Layer.callFacts service.info.scheme path action))
    ∧ ∀ p, Stack.Gives service op.layers form path p → ∀ v,
      ((∃ told, (p.pull service form v).1 = .error (.failed told))
        ↔ (p.origin? service form v).isSome)
      ∧ ∀ e, p.origin? service form v = some e →
        (∃ q s q' s', service.pull form q s = (.error e, q', s'))
        ∧ ∃ told, (p.pull service form v).1 = .error (.failed told)
          ∧ e.IsToldAs told (Pager.pullName form) (Stack.innermostBackoff? op.layers)
              (Pager.pullFacts service.info.scheme path) := by
  obtain ⟨hservice, layers, hlayers, hplain⟩ := layers_of_built hbuilt
  obtain ⟨service', layers'⟩ := op
  obtain rfl : service' = service := hservice
  obtain rfl : layers' = .context :: layers := hlayers
  refine ⟨fun action v => ⟨?_, fun above e horigin => ⟨Stack.raised_of_origin? horigin, ?_⟩⟩,
    fun p hp v => ⟨?_, fun e horigin => ⟨Pager.raised_of_originThrough? horigin, ?_⟩⟩⟩
  · simp only [← errorOf?_eq_some_iff, ← Option.isSome_iff_exists]
    rw [call, Stack.errorOf?_call, Option.isSome_map]
  · exact told_of_call service' hplain form path action horigin
  · simp only [← errorOf?_eq_some_iff, ← Option.isSome_iff_exists]
    rw [Pager.errorOf?_pull, Option.isSome_map]
  · exact told_of_pull service' hplain form (Stack.isPagerOf_of_gives hp) horigin

/-! ### A service that is busy -/

/-- The error of a service that is busy for now. -/
def busy : Error := ((Error.new .unexpected "busy").withOperation "connect").temporary

/-- A service that is busy when it is asked, and again when its first page is wanted. -/
def busyService : Service Scripted.State Scripted.Pieces Scripted.Pages :=
  Scripted.service { scheme := .memory }

/-- The script of the busy service. -/
def busyWorld : World Scripted.State where
  service := { outcomes := [(.call .async .stat, [.failed busy, .failed busy]),
    (.call .async .list, [.list [.error busy, .error busy]])] }

/-- The world when the operator is built: the limit has its permit, and the log has been asked. -/
def builtWorld : World Scripted.State :=
  { busyWorld with permits := [1], events := [.metadataAsked .memory] }

/-- One retry below a limit, and a log. -/
def busyConfigs : List LayerConfig := [.retry { maxTimes := 1 }, .limit 1, .logging]

/-- The operator that is built of them. -/
def busyOperator : Operator Scripted.State Scripted.Pieces Scripted.Pages where
  service := busyService
  layers := [.context, .logging, .limit 0, .retry { maxTimes := 1 }]

/-- The pager that the operator gives. -/
def busyPager : Pager Scripted.Pages where
  source := .service [.error busy, .error busy]
  path := "d/"
  marks := [.context, .logged, .retry { maxTimes := 1 }]
  owes := [0]

theorem errors_survive_busy :
    (addAll { service := busyService } busyConfigs >>= finish) busyWorld
        = (.ok busyOperator, builtWorld)
      ∧ Stack.Gives busyService busyOperator.layers .async "d/" busyPager
      ∧ (∃ told, (busyOperator.call .async "a" .stat builtWorld).1
          = .error (.failed told) ∧ told.status = .persistent ∧ told.operation = "stat"
          ∧ told.context = [("retried", "1"), ("called", "connect"), ("service", "memory"),
              ("path", "a")])
      ∧ ∃ told, (busyPager.pull busyService .async busyWorld).1 = .error (.failed told)
          ∧ told.operation = "ObjectPager::next_page"
          ∧ told.context = [("retried", "1"), ("called", "connect"), ("service", "memory"),
              ("path", "d/")] := by
  have hbuilt : (addAll { service := busyService } busyConfigs >>= finish) busyWorld
      = (.ok busyOperator, builtWorld) := rfl
  have hgives : Stack.Gives busyService busyOperator.layers .async "d/" busyPager :=
    .listed (w := builtWorld) rfl
  refine ⟨hbuilt, hgives, ?_, ?_⟩
  · obtain ⟨-, hcall⟩ := (errors_survive hbuilt .async "a").1 .stat builtWorld
    obtain ⟨-, told, htold, hfacts⟩ := hcall busyOperator.layers busy rfl
    exact ⟨told, htold, hfacts.status, hfacts.operation, hfacts.context⟩
  · obtain ⟨-, hpull⟩ := (errors_survive hbuilt .async "d/").2 busyPager hgives busyWorld
    obtain ⟨-, told, htold, hfacts⟩ := hpull busy rfl
    exact ⟨told, htold, hfacts.operation, hfacts.context⟩

end Operator

end ObjectStorage

import Mathlib.Algebra.BigOperators.Group.List.Basic
import Mathlib.Algebra.Group.Nat.Defs
import ObjectStorage.Metrics
import ObjectStorage.Proofs.Text.Number

/-!
# What the metrics report

The metrics are reported in lines, each with the labels of a service and an operation.  No two
operations have the same labels, and so each line tells one number of one operation: it is in the
report exactly if that is the number that was counted, and there was anything to count.

* `Metrics.requestsLine`, `Metrics.durationsLine`, `Metrics.errorsLine` — the lines;
* `Metrics.mem_report_iff` — which lines there are;
* `Metrics.metric_append_inj`, `Metrics.labels_inj` — what can be read off a line;
* `Metrics.requestsLine_mem_report_iff` and its likes — what the lines tell.
-/

namespace ObjectStorage.Metrics

/-- The labels of a service and an operation. -/
def labels (scheme : Scheme) (operation : Operation) : List (String × String) :=
  [("operation", operation.name), ("service", scheme.name)]

/-- The line that tells how often an operation was requested. -/
def requestsLine (scheme : Scheme) (operation : Operation) (count : Nat) : String :=
  metric "opendal_requests_total" (labels scheme operation) ++ s!" {count}"

/-- The line that tells how often it was measured how long an operation took. -/
def durationsLine (scheme : Scheme) (operation : Operation) (count : Nat) : String :=
  metric "opendal_requests_duration_seconds" (labels scheme operation) ++ s!" {count} samples"

/-- The line that tells how often an operation failed with errors of a kind. -/
def errorsLine (scheme : Scheme) (operation : Operation) (kind : ErrorKind) (count : Nat) :
    String :=
  metric "opendal_errors_total" (("kind", kind.name) :: labels scheme operation) ++ s!" {count}"

variable {samples : List Sample} {scheme : Scheme} {operation : Operation} {kind : ErrorKind}
  {line : String}

/-! ### The lines that there are -/

theorem mem_names_iff {name : String} : (kind, name) ∈ ErrorKind.names ↔ name = kind.name := by
  constructor
  · intro h
    simp only [ErrorKind.names, List.mem_cons, List.not_mem_nil, or_false, Prod.mk.injEq] at h
    rcases h with ⟨rfl, rfl⟩ | ⟨rfl, rfl⟩ | ⟨rfl, rfl⟩ | ⟨rfl, rfl⟩ | ⟨rfl, rfl⟩ | ⟨rfl, rfl⟩ |
      ⟨rfl, rfl⟩ | ⟨rfl, rfl⟩ | ⟨rfl, rfl⟩ <;> rfl
  · rintro rfl
    cases kind <;> decide

theorem mem_ofOperation_iff : line ∈ ofOperation samples scheme operation
    ↔ requests samples scheme operation ≠ 0
      ∧ ((∃ kind, errors samples scheme operation kind ≠ 0
          ∧ line = errorsLine scheme operation kind (errors samples scheme operation kind))
        ∨ line = durationsLine scheme operation (requests samples scheme operation)
        ∨ line = requestsLine scheme operation (requests samples scheme operation)) := by
  rw [ofOperation]
  dsimp only
  by_cases hcount : requests samples scheme operation = 0
  · rw [if_pos hcount]
    exact ⟨fun h => absurd h List.not_mem_nil, fun h => absurd hcount h.1⟩
  · rw [if_neg hcount, List.mem_append, List.mem_filterMap, List.mem_cons, List.mem_singleton]
    have herrors : (∃ named ∈ ErrorKind.names,
        (if errors samples scheme operation named.1 = 0 then none
          else some (metric "opendal_errors_total" (("kind", named.2) :: labels scheme operation)
            ++ s!" {errors samples scheme operation named.1}")) = some line)
        ↔ ∃ kind, errors samples scheme operation kind ≠ 0
          ∧ line = errorsLine scheme operation kind (errors samples scheme operation kind) := by
      constructor
      · rintro ⟨⟨kind, name⟩, hname, hline⟩
        obtain rfl := mem_names_iff.1 hname
        obtain ⟨hne, heq⟩ := Option.ite_none_left_eq_some.1 hline
        exact ⟨kind, hne, (Option.some.inj heq).symm⟩
      · rintro ⟨kind, hne, rfl⟩
        exact ⟨(kind, kind.name), mem_names_iff.2 rfl, if_neg hne⟩
    exact ⟨fun h => ⟨hcount, h.imp_left herrors.1⟩, fun h => h.2.imp_left herrors.2⟩

theorem mem_all_schemes (scheme : Scheme) : scheme ∈ Scheme.all := by
  cases scheme <;> decide

theorem mem_all_operations (operation : Operation) : operation ∈ Operation.all := by
  rcases operation with _ | ⟨form, verb⟩
  · decide
  · cases form <;> cases verb <;> decide

/-- The report has the lines of all services and operations. -/
theorem mem_report_iff : line ∈ report samples
    ↔ ∃ scheme operation, line ∈ ofOperation samples scheme operation := by
  rw [report, List.mem_mergeSort, List.mem_flatMap]
  constructor
  · rintro ⟨scheme, -, hline⟩
    obtain ⟨operation, -, hline⟩ := List.mem_flatMap.1 hline
    exact ⟨scheme, operation, hline⟩
  · rintro ⟨scheme, operation, hline⟩
    exact ⟨scheme, mem_all_schemes scheme,
      List.mem_flatMap.2 ⟨operation, mem_all_operations operation, hline⟩⟩

/-! ### What can be read off a line -/

/-- A text is taken apart at the first place where a character stands. -/
theorem split_inj {c : Char} {before before' after after' : List Char} (h : c ∉ before)
    (h' : c ∉ before') (heq : before ++ c :: after = before' ++ c :: after') :
    before = before' ∧ after = after' := by
  induction before generalizing before' with
  | nil =>
    cases before' with
    | nil => exact ⟨rfl, (List.cons.inj heq).2⟩
    | cons d before' =>
      obtain rfl := (List.cons.inj heq).1
      exact absurd List.mem_cons_self h'
  | cons d before ih =>
    cases before' with
    | nil =>
      obtain rfl := (List.cons.inj heq).1
      exact absurd List.mem_cons_self h
    | cons d' before' =>
      obtain ⟨rfl, hrest⟩ := List.cons.inj heq
      obtain ⟨rfl, hafter⟩ := ih (fun hmem => h (List.mem_cons_of_mem d hmem))
        (fun hmem => h' (List.mem_cons_of_mem d hmem)) hrest
      exact ⟨rfl, hafter⟩

/-- Is a text free of the marks that stand between names and after them? -/
def isWord (s : String) : Bool := s.toList.all fun c => c != ',' && c != '}'

theorem comma_not_mem {s : String} (h : isWord s = true) : ',' ∉ s.toList := by
  intro hmem
  cases List.all_eq_true.1 h _ hmem

theorem brace_not_mem {s : String} (h : isWord s = true) : '}' ∉ s.toList := by
  intro hmem
  cases List.all_eq_true.1 h _ hmem

theorem isWord_operation (operation : Operation) : isWord operation.name = true := by
  rcases operation with _ | ⟨form, verb⟩
  · decide
  · cases form <;> cases verb <;> decide

theorem isWord_scheme (scheme : Scheme) : isWord scheme.name = true := by
  cases scheme <;> decide

theorem isWord_kind (kind : ErrorKind) : isWord kind.name = true := by
  cases kind <;> decide

theorem operation_name_inj {operation operation' : Operation}
    (h : operation.name = operation'.name) : operation = operation' := by
  have hall : ∀ a ∈ Operation.all, ∀ b ∈ Operation.all, a.name = b.name → a = b := by decide
  exact hall _ (mem_all_operations operation) _ (mem_all_operations operation') h

theorem scheme_name_inj {scheme scheme' : Scheme} (h : scheme.name = scheme'.name) :
    scheme = scheme' := by
  have hall : ∀ a ∈ Scheme.all, ∀ b ∈ Scheme.all, a.name = b.name → a = b := by decide
  exact hall _ (mem_all_schemes scheme) _ (mem_all_schemes scheme') h

theorem kind_name_inj {kind kind' : ErrorKind} (h : kind.name = kind'.name) : kind = kind' := by
  cases kind <;> cases kind' <;> first | rfl | exact absurd h (by decide)

/-- Labels as they stand between braces. -/
def shown (labels : List (String × String)) : String :=
  ",".intercalate (labels.map fun (k, v) => k ++ "=" ++ v)

theorem toList_shown_labels (scheme : Scheme) (operation : Operation) :
    (shown (labels scheme operation)).toList
      = "operation=".toList ++ (operation.name.toList
        ++ ',' :: ("service=".toList ++ scheme.name.toList)) := by
  have hshown : shown (labels scheme operation)
      = "operation" ++ "=" ++ operation.name ++ "," ++ ("service" ++ "=" ++ scheme.name) := rfl
  rw [hshown]
  simp only [String.toList_append, List.append_assoc]
  rfl

theorem toList_shown_kind (kind : ErrorKind) (scheme : Scheme) (operation : Operation) :
    (shown (("kind", kind.name) :: labels scheme operation)).toList
      = "kind=".toList ++ (kind.name.toList
        ++ ',' :: (shown (labels scheme operation)).toList) := by
  have hshown : shown (("kind", kind.name) :: labels scheme operation)
      = "kind" ++ "=" ++ kind.name ++ "," ++ ("operation" ++ "=" ++ operation.name) ++ ","
        ++ ("service" ++ "=" ++ scheme.name) := rfl
  rw [hshown, toList_shown_labels]
  simp only [String.toList_append, List.append_assoc]
  rfl

/-- **Labels tell service and operation.** -/
theorem labels_inj {scheme' : Scheme} {operation' : Operation}
    (h : shown (labels scheme operation) = shown (labels scheme' operation')) :
    scheme = scheme' ∧ operation = operation' := by
  have hchars := congrArg String.toList h
  rw [toList_shown_labels, toList_shown_labels] at hchars
  obtain ⟨hoperation, hservice⟩ := split_inj (comma_not_mem (isWord_operation operation))
    (comma_not_mem (isWord_operation operation')) (List.append_cancel_left hchars)
  exact ⟨scheme_name_inj (String.toList_inj.1 (List.append_cancel_left hservice)),
    operation_name_inj (String.toList_inj.1 hoperation)⟩

theorem labels_kind_inj {kind' : ErrorKind} {scheme' : Scheme} {operation' : Operation}
    (h : shown (("kind", kind.name) :: labels scheme operation)
      = shown (("kind", kind'.name) :: labels scheme' operation')) :
    kind = kind' ∧ scheme = scheme' ∧ operation = operation' := by
  have hchars := congrArg String.toList h
  rw [toList_shown_kind, toList_shown_kind] at hchars
  obtain ⟨hkind, hlabels⟩ := split_inj (comma_not_mem (isWord_kind kind))
    (comma_not_mem (isWord_kind kind')) (List.append_cancel_left hchars)
  exact ⟨kind_name_inj (String.toList_inj.1 hkind), labels_inj (String.toList_inj.1 hlabels)⟩

theorem brace_not_mem_labels (scheme : Scheme) (operation : Operation) :
    '}' ∉ (shown (labels scheme operation)).toList := by
  rw [toList_shown_labels]
  have hoperation := brace_not_mem (isWord_operation operation)
  have hscheme := brace_not_mem (isWord_scheme scheme)
  simp [hoperation, hscheme]

theorem brace_not_mem_kind (kind : ErrorKind) (scheme : Scheme) (operation : Operation) :
    '}' ∉ (shown (("kind", kind.name) :: labels scheme operation)).toList := by
  rw [toList_shown_kind]
  have hkind := brace_not_mem (isWord_kind kind)
  have hlabels := brace_not_mem_labels scheme operation
  simp [hkind, hlabels]

/-- **Of a line can be read off** the name of the metric, its labels, and what stands behind. -/
theorem metric_append_inj {name name' tail tail' : String} {labels labels' : List (String × String)}
    (hname : '{' ∉ name.toList) (hname' : '{' ∉ name'.toList)
    (hlabels : '}' ∉ (shown labels).toList) (hlabels' : '}' ∉ (shown labels').toList)
    (h : metric name labels ++ tail = metric name' labels' ++ tail') :
    name = name' ∧ shown labels = shown labels' ∧ tail = tail' := by
  have hchars (name tail : String) (labels : List (String × String)) :
      (metric name labels ++ tail).toList
        = name.toList ++ '{' :: ((shown labels).toList ++ '}' :: tail.toList) := by
    have hmetric : metric name labels = name ++ "\x7b" ++ shown labels ++ "\x7d" := rfl
    rw [hmetric]
    simp only [String.toList_append, List.append_assoc]
    rfl
  have heq := congrArg String.toList h
  rw [hchars, hchars] at heq
  obtain ⟨hnames, hrest⟩ := split_inj hname hname' heq
  obtain ⟨hshown, htails⟩ := split_inj hlabels hlabels' hrest
  exact ⟨String.toList_inj.1 hnames, String.toList_inj.1 hshown, String.toList_inj.1 htails⟩

/-! ### What the lines tell -/

theorem count_inj {m n : Nat} (h : s!" {m}" = s!" {n}") : m = n := by
  have hchars := congrArg String.toList h
  rw [String.toList_append, String.toList_append] at hchars
  have hdigits := congrArg Text.unsigned? (List.append_cancel_left hchars)
  rw [Text.unsigned?_toString, Text.unsigned?_toString] at hdigits
  exact Option.some.inj hdigits

theorem samplesCount_inj {m n : Nat} (h : s!" {m} samples" = s!" {n} samples") : m = n := by
  have hchars := congrArg String.toList h
  rw [String.toList_append, String.toList_append (s := _ ++ toString n)] at hchars
  exact count_inj (String.toList_inj.1 (List.append_cancel_right hchars))

section

variable {scheme' : Scheme} {operation' : Operation} {kind' : ErrorKind} {count count' : Nat}

theorem requestsLine_inj (h : requestsLine scheme operation count
    = requestsLine scheme' operation' count') :
    scheme = scheme' ∧ operation = operation' ∧ count = count' := by
  obtain ⟨-, hlabels, htail⟩ := metric_append_inj (by decide) (by decide)
    (brace_not_mem_labels _ _) (brace_not_mem_labels _ _) h
  obtain ⟨hscheme, hoperation⟩ := labels_inj hlabels
  exact ⟨hscheme, hoperation, count_inj htail⟩

theorem durationsLine_inj (h : durationsLine scheme operation count
    = durationsLine scheme' operation' count') :
    scheme = scheme' ∧ operation = operation' ∧ count = count' := by
  obtain ⟨-, hlabels, htail⟩ := metric_append_inj (by decide) (by decide)
    (brace_not_mem_labels _ _) (brace_not_mem_labels _ _) h
  obtain ⟨hscheme, hoperation⟩ := labels_inj hlabels
  exact ⟨hscheme, hoperation, samplesCount_inj htail⟩

theorem errorsLine_inj (h : errorsLine scheme operation kind count
    = errorsLine scheme' operation' kind' count') :
    scheme = scheme' ∧ operation = operation' ∧ kind = kind' ∧ count = count' := by
  obtain ⟨-, hlabels, htail⟩ := metric_append_inj (by decide) (by decide)
    (brace_not_mem_kind _ _ _) (brace_not_mem_kind _ _ _) h
  obtain ⟨hkind, hscheme, hoperation⟩ := labels_kind_inj hlabels
  exact ⟨hscheme, hoperation, hkind, count_inj htail⟩

theorem requestsLine_ne_durationsLine :
    requestsLine scheme operation count ≠ durationsLine scheme' operation' count' := by
  intro h
  obtain ⟨hname, -⟩ := metric_append_inj (by decide) (by decide)
    (brace_not_mem_labels _ _) (brace_not_mem_labels _ _) h
  exact absurd hname (by decide)

theorem requestsLine_ne_errorsLine :
    requestsLine scheme operation count ≠ errorsLine scheme' operation' kind count' := by
  intro h
  obtain ⟨hname, -⟩ := metric_append_inj (by decide) (by decide)
    (brace_not_mem_labels _ _) (brace_not_mem_kind _ _ _) h
  exact absurd hname (by decide)

theorem durationsLine_ne_errorsLine :
    durationsLine scheme operation count ≠ errorsLine scheme' operation' kind count' := by
  intro h
  obtain ⟨hname, -⟩ := metric_append_inj (by decide) (by decide)
    (brace_not_mem_labels _ _) (brace_not_mem_kind _ _ _) h
  exact absurd hname (by decide)

end

variable (samples scheme operation kind) (count : Nat)

/-- **The report tells how often an operation was requested**, if it was. -/
theorem requestsLine_mem_report_iff : requestsLine scheme operation count ∈ report samples
    ↔ count = requests samples scheme operation ∧ count ≠ 0 := by
  rw [mem_report_iff]
  constructor
  · rintro ⟨scheme', operation', hline⟩
    obtain ⟨hne, ⟨kind, -, heq⟩ | heq | heq⟩ := mem_ofOperation_iff.1 hline
    · exact absurd heq requestsLine_ne_errorsLine
    · exact absurd heq requestsLine_ne_durationsLine
    · obtain ⟨rfl, rfl, rfl⟩ := requestsLine_inj heq
      exact ⟨rfl, hne⟩
  · rintro ⟨rfl, hne⟩
    exact ⟨scheme, operation, mem_ofOperation_iff.2 ⟨hne, .inr (.inr rfl)⟩⟩

/-- **The report tells how many durations of an operation were measured**, if any were. -/
theorem durationsLine_mem_report_iff : durationsLine scheme operation count ∈ report samples
    ↔ count = requests samples scheme operation ∧ count ≠ 0 := by
  rw [mem_report_iff]
  constructor
  · rintro ⟨scheme', operation', hline⟩
    obtain ⟨hne, ⟨kind, -, heq⟩ | heq | heq⟩ := mem_ofOperation_iff.1 hline
    · exact absurd heq durationsLine_ne_errorsLine
    · obtain ⟨rfl, rfl, rfl⟩ := durationsLine_inj heq
      exact ⟨rfl, hne⟩
    · exact absurd heq.symm requestsLine_ne_durationsLine
  · rintro ⟨rfl, hne⟩
    exact ⟨scheme, operation, mem_ofOperation_iff.2 ⟨hne, .inr (.inl rfl)⟩⟩

/-- An operation fails no more often than it is requested. -/
theorem errors_le_requests :
    errors samples scheme operation kind ≤ requests samples scheme operation := by
  refine List.countP_mono_left fun s _ hs => ?_
  rw [decide_eq_true_eq] at hs ⊢
  exact ⟨hs.1, hs.2.1⟩

/-- **The report tells how often an operation failed with errors of a kind**, if it did. -/
theorem errorsLine_mem_report_iff : errorsLine scheme operation kind count ∈ report samples
    ↔ count = errors samples scheme operation kind ∧ count ≠ 0 := by
  rw [mem_report_iff]
  constructor
  · rintro ⟨scheme', operation', hline⟩
    obtain ⟨-, ⟨kind', hne, heq⟩ | heq | heq⟩ := mem_ofOperation_iff.1 hline
    · obtain ⟨rfl, rfl, rfl, rfl⟩ := errorsLine_inj heq
      exact ⟨rfl, hne⟩
    · exact absurd heq.symm durationsLine_ne_errorsLine
    · exact absurd heq.symm requestsLine_ne_errorsLine
  · rintro ⟨rfl, hne⟩
    have hle := errors_le_requests samples scheme operation kind
    exact ⟨scheme, operation, mem_ofOperation_iff.2 ⟨by omega, .inl ⟨kind, hne, rfl⟩⟩⟩

/-- All kinds of errors together: the requests that failed. -/
theorem sum_errors : (ErrorKind.names.map fun named => errors samples scheme operation named.1).sum
    = samples.countP fun s => s.scheme = scheme ∧ s.operation = operation ∧ s.failure.isSome := by
  induction samples with
  | nil => rfl
  | cons s samples ih =>
    have hcons (kind : ErrorKind) : errors (s :: samples) scheme operation kind
        = errors samples scheme operation kind
          + if s.scheme = scheme ∧ s.operation = operation ∧ s.failure = some kind
            then 1 else 0 := by
      rw [errors, List.countP_cons, errors]
      simp only [decide_eq_true_eq]
    -- of all kinds at most one is that of the first sample
    have hfirst : (ErrorKind.names.map fun named =>
          if s.scheme = scheme ∧ s.operation = operation ∧ s.failure = some named.1
            then 1 else 0).sum
        = if s.scheme = scheme ∧ s.operation = operation ∧ s.failure.isSome = true
            then 1 else 0 := by
      by_cases hlabels : s.scheme = scheme ∧ s.operation = operation
      · simp only [hlabels, true_and]
        rcases s.failure with _ | kind
        · rfl
        · cases kind <;> rfl
      · have hnot (p : Prop) : ¬(s.scheme = scheme ∧ s.operation = operation ∧ p) :=
          fun h => hlabels ⟨h.1, h.2.1⟩
        simp only [hnot, if_false]
        rfl
    simp only [hcons, List.sum_map_add, ih, hfirst, List.countP_cons, decide_eq_true_eq]

/-- **All kinds of errors together are no more than the requests.** -/
theorem sum_errors_le_requests :
    (ErrorKind.names.map fun named => errors samples scheme operation named.1).sum
      ≤ requests samples scheme operation := by
  rw [sum_errors]
  refine List.countP_mono_left fun s _ hs => ?_
  rw [decide_eq_true_eq] at hs ⊢
  exact ⟨hs.1, hs.2.1⟩

end ObjectStorage.Metrics

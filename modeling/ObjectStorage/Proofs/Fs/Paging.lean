import ObjectStorage.Fs.Service
import ObjectStorage.Proofs.Layer.Passage
import ObjectStorage.Proofs.Layer.Pull

/-!
# The pages of a directory that is being read

A directory is read entry by entry, and each entry may fail to be read.  A page takes entries until
it is full, and a failure ends it: the entries that it has taken are gone then, while the directory
is behind them.  So a failure takes with it what was read since the last full page, and to ask again
does not bring that back.

* `succeeded` — the values among results;
* `kept`, `keptAfter_eq_iff` — the entries that reach the pages, and when these are all;
* `takeItems_ok`, `takeItems_error` — one page;
* `Step`, `steps_pullThrough` — one pull, through layers or not;
* `pages_of_stream` — the pages up to the end, by induction on the pulls;
* `entries_delivered_iff` — all of it for a directory whose reading fails anywhere.
-/

namespace ObjectStorage.Fs

open Pager

/-! ### What is read, and what is kept of it -/

/-- The values among results, in their order. -/
def succeeded {ε α : Type} (results : List (Except ε α)) : List α :=
  results.filterMap Except.toOption

section

variable {ε α : Type}

@[simp] theorem succeeded_ok (a : α) (results : List (Except ε α)) :
    succeeded (.ok a :: results) = a :: succeeded results := rfl

@[simp] theorem succeeded_error (e : ε) (results : List (Except ε α)) :
    succeeded (.error e :: results) = succeeded results := rfl

end

/-- The full pages of entries, without the rest of them. -/
def fullPages (items : List DirItem) : List DirItem :=
  items.take (items.length / pageSize * pageSize)

/-- What reaches the pages of the entries taken since the last failure and of a stream. -/
def keptAfter : (taken : List DirItem) → DirStream → List DirItem
  | taken, [] => taken
  | taken, .error _ :: s => fullPages taken ++ keptAfter [] s
  | taken, .ok item :: s => keptAfter (taken ++ [item]) s

/-- What reaches the pages of a directory: of the entries before a failure only those of full
pages. -/
def kept (s : DirStream) : List DirItem := keptAfter [] s

section

variable {items page taken : List DirItem}

theorem fullPages_of_lt (h : items.length < pageSize) : fullPages items = [] := by
  rw [fullPages, Nat.div_eq_of_lt h, Nat.zero_mul, List.take_zero]

theorem fullPages_append (h : page.length = pageSize) :
    fullPages (page ++ taken) = page ++ fullPages taken := by
  have hcount : (pageSize + taken.length) / pageSize * pageSize
      = pageSize + taken.length / pageSize * pageSize := by
    rw [Nat.add_div_left _ (by decide), Nat.succ_mul, Nat.add_comm]
  rw [fullPages, List.length_append, h, hcount, ← h, List.take_length_add_append, h]
  rfl

theorem fullPages_eq_iff : fullPages items = items ↔ pageSize ∣ items.length := by
  constructor
  · intro h
    have hlength := congrArg List.length h
    rw [fullPages, List.length_take, Nat.min_eq_left (Nat.div_mul_le_self _ _)] at hlength
    exact ⟨_, hlength.symm.trans (Nat.mul_comm _ _)⟩
  · intro h
    rw [fullPages, Nat.div_mul_cancel h, List.take_length]

/-- A full page is kept, whatever follows. -/
theorem keptAfter_append (h : page.length = pageSize) (taken : List DirItem) (s : DirStream) :
    keptAfter (page ++ taken) s = page ++ keptAfter taken s := by
  induction s generalizing taken with
  | nil => rfl
  | cons result s ih =>
    cases result with
    | error e => rw [keptAfter, keptAfter, fullPages_append h, List.append_assoc]
    | ok item => rw [keptAfter, keptAfter, List.append_assoc, ih]

/-- What is kept was read, and is kept once and in the order of reading. -/
theorem keptAfter_sublist (taken : List DirItem) (s : DirStream) :
    (keptAfter taken s).Sublist (taken ++ succeeded s) := by
  induction s generalizing taken with
  | nil => exact List.sublist_append_left taken (succeeded [])
  | cons result s ih =>
    cases result with
    | error e => exact (List.take_sublist _ _).append (ih [])
    | ok item =>
      have hrest := ih (taken ++ [item])
      rwa [List.append_assoc] at hrest

/-- Nothing is lost around a failure if nothing is lost before it and behind it. -/
theorem fullPages_append_eq_iff {s : DirStream} :
    fullPages taken ++ kept s = taken ++ succeeded s
      ↔ fullPages taken = taken ∧ kept s = succeeded s := by
  constructor
  · intro h
    have hbefore : (fullPages taken).length ≤ taken.length := (List.take_sublist _ _).length_le
    have hbehind : (kept s).length ≤ (succeeded s).length := (keptAfter_sublist [] s).length_le
    have hlength := congrArg List.length h
    rw [List.length_append, List.length_append] at hlength
    exact List.append_inj h (by omega)
  · rintro ⟨hbefore, hbehind⟩
    rw [hbefore, hbehind]

/-- The failures of a stream, with what is read before each of them. -/
theorem forall_failure_cons {P : DirStream → Prop} {result : Except IoError DirItem}
    {s : DirStream} :
    (∀ before e after, result :: s = before ++ .error e :: after → P before)
      ↔ (∀ e, result = .error e → P [])
        ∧ ∀ before e after, s = before ++ .error e :: after → P (result :: before) := by
  constructor
  · intro h
    refine ⟨fun e he => h [] e s ?_, fun before e after hs => h (result :: before) e after ?_⟩
    · rw [he, List.nil_append]
    · rw [hs, List.cons_append]
  · rintro ⟨hfirst, hrest⟩ before e after heq
    cases before with
    | nil => exact hfirst e (List.cons.inj heq).1
    | cons first before =>
      obtain ⟨rfl, hs⟩ := List.cons.inj heq
      exact hrest before e after hs

/-- **Nothing is lost** just if each failure comes after so many entries that they fill their
pages. -/
theorem keptAfter_eq_iff (taken : List DirItem) (s : DirStream) :
    keptAfter taken s = taken ++ succeeded s
      ↔ ∀ before e after, s = before ++ .error e :: after →
          pageSize ∣ taken.length + (succeeded before).length := by
  induction s generalizing taken with
  | nil =>
    refine iff_of_true (List.append_nil taken).symm ?_
    intro before e after h
    exact absurd h (List.append_ne_nil_of_right_ne_nil before (List.cons_ne_nil _ _)).symm
  | cons result s ih =>
    rw [forall_failure_cons]
    cases result with
    | error e =>
      have hbehind := ih []
      rw [List.nil_append, List.length_nil] at hbehind
      rw [keptAfter, succeeded_error, ← kept, fullPages_append_eq_iff, fullPages_eq_iff, kept,
        hbehind]
      constructor
      · rintro ⟨hfull, hrest⟩
        refine ⟨fun _ _ => hfull, fun before e after hs => Nat.dvd_add hfull ?_⟩
        simpa using hrest before e after hs
      · rintro ⟨hfull, hrest⟩
        have hfull : pageSize ∣ taken.length := hfull e rfl
        refine ⟨hfull, fun before e after hs => ?_⟩
        simpa using (Nat.dvd_add_right hfull).1 (hrest before e after hs)
    | ok item =>
      rw [keptAfter, succeeded_ok, List.append_cons taken item (succeeded s), ih]
      have hcount (before : DirStream) :
          taken.length + (succeeded (.ok item :: before)).length
            = (taken ++ [item]).length + (succeeded before).length := by
        rw [succeeded_ok, List.length_cons, List.length_append, List.length_singleton]
        omega
      constructor
      · intro h
        refine ⟨fun e he => (by cases he), fun before e after hs => ?_⟩
        rw [hcount]
        exact h before e after hs
      · rintro ⟨-, hrest⟩ before e after hs
        rw [← hcount]
        exact hrest before e after hs

end

/-! ### One page -/

/-- Entries that are taken go to the page, and the stream goes on behind them. -/
theorem takeItems_ok {n : Nat} {s rest : DirStream} {items : List DirItem}
    (h : takeItems n s = (.ok items, rest)) (taken : List DirItem) :
    keptAfter taken s = keptAfter (taken ++ items) rest ∧ items.length ≤ n
      ∧ rest.length + items.length = s.length ∧ (items.length < n → rest = []) := by
  induction n generalizing s items taken with
  | zero =>
    cases h
    rw [List.append_nil]
    exact ⟨rfl, Nat.le_refl 0, rfl, fun h => absurd h (Nat.not_lt_zero _)⟩
  | succ n ih =>
    cases s with
    | nil =>
      cases h
      rw [List.append_nil]
      exact ⟨rfl, Nat.zero_le _, rfl, fun _ => rfl⟩
    | cons result s =>
      cases result with
      | error e => cases h
      | ok item =>
        rw [takeItems] at h
        rcases htaken : takeItems n s with ⟨e | more, left⟩
        · rw [htaken] at h
          cases h
        · rw [htaken] at h
          cases h
          obtain ⟨hkept, hmost, hlength, hend⟩ := ih htaken (taken ++ [item])
          rw [List.append_assoc] at hkept
          refine ⟨hkept, Nat.succ_le_succ hmost, ?_, fun hlt => hend (Nat.lt_of_succ_lt_succ hlt)⟩
          rw [List.length_cons, List.length_cons, ← hlength, Nat.add_assoc]

/-- A failure before the page is full takes all of it. -/
theorem takeItems_error {n : Nat} {s rest : DirStream} {e : IoError}
    (h : takeItems n s = (.error e, rest)) (taken : List DirItem)
    (htaken : taken.length + n = pageSize) :
    keptAfter taken s = kept rest ∧ rest.length < s.length := by
  induction n generalizing s taken with
  | zero => cases h
  | succ n ih =>
    cases s with
    | nil => cases h
    | cons result s =>
      cases result with
      | error e =>
        cases h
        rw [keptAfter, fullPages_of_lt (by omega), List.nil_append]
        exact ⟨rfl, Nat.lt_succ_self _⟩
      | ok item =>
        rw [takeItems] at h
        rcases hmore : takeItems n s with ⟨e | more, left⟩
        · rw [hmore] at h
          cases h
          have hlength : (taken ++ [item]).length + n = pageSize := by
            rw [List.length_append, List.length_singleton]
            omega
          obtain ⟨hkept, hlt⟩ := ih hmore (taken ++ [item]) hlength
          exact ⟨hkept, Nat.lt_succ_of_lt hlt⟩
        · rw [hmore] at h
          cases h

/-! ### One pull -/

/-- What a pull makes of a directory that is being read. -/
inductive Step (root : String) (s : DirStream) : Except Stop Page → DirStream → Prop
  /-- The end: nothing that reaches a page is left. -/
  | ended (h : kept s = []) : Step root s (.ok none) []
  /-- A page, with the first of the entries that reach one. -/
  | page {items : List DirItem} {rest : DirStream} (hsome : items ≠ [])
      (hmost : items.length ≤ pageSize) (h : kept s = items ++ kept rest)
      (hrest : rest.length < s.length) :
      Step root s (.ok (some (items.map (entry root)))) rest
  /-- A failure, behind which the directory is read on. -/
  | failed {e : Error} {rest : DirStream} (h : kept s = kept rest)
      (hrest : rest.length < s.length) : Step root s (.error (.failed e)) rest

variable {root : String} {s s' : DirStream} {form : Form}

theorem step_nextPage (root : String) (s : DirStream) :
    Step root s ((nextPage root s).1.mapError .failed) (nextPage root s).2 := by
  rcases htaken : takeItems pageSize s with ⟨e | items, rest⟩
  · obtain ⟨hkept, hlt⟩ := takeItems_error htaken [] (Nat.zero_add _)
    rw [nextPage, htaken]
    exact .failed hkept hlt
  · obtain ⟨hkept, hmost, hlength, hend⟩ := takeItems_ok htaken []
    rw [List.nil_append] at hkept
    cases items with
    | nil =>
      cases hend (by decide)
      rw [nextPage, htaken]
      exact .ended hkept
    | cons item items =>
      rw [nextPage, htaken]
      refine .page (List.cons_ne_nil item items) hmost ?_ ?_
      · rw [kept, hkept]
        by_cases hfull : (item :: items).length = pageSize
        · have hpage := keptAfter_append hfull [] rest
          rwa [List.append_nil] at hpage
        · cases hend (Nat.lt_of_le_of_ne hmost hfull)
          rw [keptAfter, kept, keptAfter, List.append_nil]
      · rw [← hlength, List.length_cons]
        exact Nat.lt_add_of_pos_right (Nat.succ_pos _)

theorem Step.mapError {result : Except Stop Page} (h : Step root s result s')
    (f : Error → Error) : Step root s (result.mapError (Stop.map f)) s' := by
  cases h with
  | ended h => exact .ended h
  | page hsome hmost h hrest => exact .page hsome hmost h hrest
  | failed h hrest => exact .failed h hrest

/-- A stream behind failures of another one: the same entries reach the pages. -/
structure Behind (s₀ s : DirStream) : Prop where
  kept_eq : kept s₀ = kept s
  length_le : s.length ≤ s₀.length

theorem Behind.refl (s : DirStream) : Behind s s := ⟨rfl, Nat.le_refl _⟩

theorem Behind.step {s₀ : DirStream} {result : Except Stop Page} (h : Behind s₀ s)
    (hstep : Step root s result s') : Step root s₀ result s' := by
  obtain ⟨hkept, hlength⟩ := h
  cases hstep with
  | ended h => exact .ended (hkept.trans h)
  | page hsome hmost h hrest =>
    exact .page hsome hmost (hkept.trans h) (Nat.lt_of_lt_of_le hrest hlength)
  | failed h hrest => exact .failed (hkept.trans h) (Nat.lt_of_lt_of_le hrest hlength)

theorem Behind.of_failed {s₀ : DirStream} {e : Error} (h : Behind s₀ s)
    (hstep : Step root s (.error (.failed e)) s') : Behind s₀ s' := by
  cases hstep with
  | failed hkept hrest =>
    exact ⟨h.kept_eq.trans hkept, Nat.le_trans (Nat.le_of_lt hrest) h.length_le⟩

/-- A pull makes steps of the directories that are being read. -/
def Steps (root : String) (pull : Run (FileTree × Progress DirStream) Page) : Prop :=
  ∀ {w s}, w.service.2.1 = .service s →
    ∃ s', (pull w).2.service.2.1 = .service s' ∧ Step root s (pull w).1 s'

theorem steps_pullSource (root : String) (form : Form) :
    Steps root (pullSource (service root) form) := by
  rintro ⟨⟨t, source, listed⟩, permits, events, samples, printed⟩ s hsource
  cases hsource
  rw [pullSource, Run.onService_apply]
  exact ⟨_, rfl, step_nextPage root s⟩

/-- What is tried again begins behind failures. -/
theorem Steps.behind {pull : Run (FileTree × Progress DirStream) Page} (hpull : Steps root pull)
    (form : Form) (path : String) (m : PagerMark) {w : World (FileTree × Progress DirStream)}
    (hsource : w.service.2.1 = .service s) :
    ∃ s', (PagerMark.enter form path pull m w).service.2.1 = .service s' ∧ Behind s s' := by
  cases m with
  | context | logged => exact ⟨s, hsource, .refl s⟩
  | retry b =>
    refine Retry.lastTry_keeps_of_temporary b _ path pull
      (P := fun state => ∃ s', state.2.1 = .service s' ∧ Behind s s') ?_ b.maxTimes
      ⟨s, hsource, .refl s⟩
    rintro v v' e hattempt - ⟨s₁, hsource₁, hbehind⟩
    obtain ⟨s₂, hsource₂, hstep⟩ := hpull hsource₁
    rw [hattempt] at hsource₂ hstep
    exact ⟨s₂, hsource₂, hbehind.of_failed hstep⟩

/-- **A pull through layers** is a step, as one without them is.  By induction on the marks of the
layers. -/
theorem steps_pullThrough (root : String) (form : Form) (path : String) (marks : List PagerMark) :
    Steps root (pullThrough (service root) form path marks) := by
  induction marks with
  | nil => exact steps_pullSource root form
  | cons m marks ih =>
    intro w s hsource
    obtain ⟨s₀, hbegin, hbehind⟩ := ih.behind form path m hsource
    obtain ⟨s', hend, hstep⟩ := ih hbegin
    rw [pullThrough_cons, PagerMark.around_eq, PagerMark.service_noted]
    exact ⟨s', hend, hbehind.step (hstep.mapError _)⟩

theorem step_pull (root : String) (form : Form) {p : Pager DirStream}
    (hsource : p.source = .service s) (w : World FileTree) :
    ∃ result p' w' s', p.pull (service root) form w = (result, p', w')
      ∧ p'.source = .service s' ∧ Step root s result s' := by
  have hworld : (p.pullWorld w).service.2.1 = .service s := hsource
  obtain ⟨s', hend, hstep⟩ := steps_pullThrough root form p.path p.marks hworld
  exact ⟨_, _, _, s', Pager.pull_eq (service root) form p w, hend, hstep⟩

/-! ### The pages up to the end -/

/-- **The pages of a directory**, through layers or not, hold what is kept of it, and then end.  By
induction on the pulls. -/
theorem pages_of_stream (root : String) (form : Form) {p : Pager DirStream}
    (hsource : p.source = .service s) {most : Nat} (hmost : s.length < most)
    (w : World FileTree) :
    ∃ (pages : List (Except Error (List Entry))) (w' : World FileTree),
      p.pages (service root) form most w = (.ok (pages.map (Except.map some) ++ [.ok none]), w')
        ∧ (∀ page, .ok page ∈ pages → 1 ≤ page.length ∧ page.length ≤ pageSize)
        ∧ (succeeded pages).flatten = (kept s).map (entry root) := by
  induction most generalizing p s w with
  | zero => exact absurd hmost (Nat.not_lt_zero _)
  | succ most ih =>
    obtain ⟨result, p', w', s', hpull, hsource', hstep⟩ := step_pull root form hsource w
    have hmost (hrest : s'.length < s.length) : s'.length < most :=
      Nat.lt_of_lt_of_le hrest (Nat.le_of_lt_succ hmost)
    cases hstep with
    | ended h =>
      obtain ⟨w'', hpages⟩ := pages_of_end hpull most
      refine ⟨[], w'', hpages, fun page hmem => absurd hmem List.not_mem_nil, ?_⟩
      rw [h]
      rfl
    | @page items _ hsome hfit h hrest =>
      obtain ⟨pages, w'', hpages, hall, hkept⟩ := ih hsource' (hmost hrest) w'
      refine ⟨.ok (items.map (entry root)) :: pages, w'', pages_of_page hpull hpages, ?_, ?_⟩
      · intro page hmem
        obtain heq | hmem := List.mem_cons.1 hmem
        · cases heq
          rw [List.length_map]
          exact ⟨List.length_pos_iff.2 hsome, hfit⟩
        · exact hall page hmem
      · rw [succeeded_ok, List.flatten_cons, hkept, h, List.map_append]
    | @failed e _ h hrest =>
      obtain ⟨pages, w'', hpages, hall, hkept⟩ := ih hsource' (hmost hrest) w'
      refine ⟨.error e :: pages, w'', pages_of_failed hpull hpages, ?_, ?_⟩
      · intro page hmem
        obtain heq | hmem := List.mem_cons.1 hmem
        · cases heq
        · exact hall page hmem
      · rw [succeeded_error, hkept, h]

/-- A directory has no page left just if it is at its end. -/
theorem nextPage_eq_none_iff : (nextPage root s).1 = .ok none ↔ s = [] := by
  constructor
  · intro h
    rcases htaken : takeItems pageSize s with ⟨e | items, rest⟩
    · rw [nextPage, htaken] at h
      cases h
    · obtain ⟨-, -, hlength, hend⟩ := takeItems_ok htaken []
      cases items with
      | nil =>
        cases hend (by decide)
        exact List.length_eq_zero_iff.1 hlength.symm
      | cons item items =>
        rw [nextPage, htaken] at h
        cases h
  · rintro rfl
    rfl

/-- **What reaches the pages of a directory** whose reading fails anywhere.  The pages are pulled
through layers or not, each time after a failure again, up to the end.  They have between one entry
and 256, and hold entries that were read, each of them once and in the order of reading; the end
comes only when the directory is at its end.  But a failure takes the entries with it that were
taken since the last full page.  So all entries are delivered just if each failure comes after a
number of entries that fills its pages, and a layer that tries again changes nothing about it. -/
theorem entries_delivered_iff (root : String) (s : DirStream) (form : Form) {p : Pager DirStream}
    (hsource : p.source = .service s) {most : Nat} (hmost : s.length < most)
    (w : World FileTree) :
    ∃ (pages : List (Except Error (List Entry))) (w' : World FileTree),
      p.pages (service root) form most w = (.ok (pages.map (Except.map some) ++ [.ok none]), w')
        ∧ (∀ page, .ok page ∈ pages → 1 ≤ page.length ∧ page.length ≤ pageSize)
        ∧ (succeeded pages).flatten.Sublist ((succeeded s).map (entry root))
        ∧ (∀ rest, (nextPage root rest).1 = .ok none ↔ rest = [])
        ∧ (succeeded pages).flatten = (kept s).map (entry root)
        ∧ ((succeeded pages).flatten = (succeeded s).map (entry root)
          ↔ ∀ before e after, s = before ++ .error e :: after →
              pageSize ∣ (succeeded before).length) := by
  obtain ⟨pages, w', hpages, hall, hkept⟩ := pages_of_stream root form hsource hmost w
  have hsub : (kept s).Sublist (succeeded s) := keptAfter_sublist [] s
  have hiff := keptAfter_eq_iff [] s
  rw [List.nil_append, List.length_nil, ← kept] at hiff
  refine ⟨pages, w', hpages, hall, ?_, fun _ => nextPage_eq_none_iff, hkept, ?_⟩
  · rw [hkept]
    exact hsub.map _
  · rw [hkept]
    constructor
    · intro h before e after hs
      have hlength := congrArg List.length h
      rw [List.length_map, List.length_map] at hlength
      have hdvd := hiff.1 (hsub.eq_of_length hlength) before e after hs
      rwa [Nat.zero_add] at hdvd
    · intro h
      rw [hiff.2 fun before e after hs => ?_]
      rw [Nat.zero_add]
      exact h before e after hs

/-! ### A directory on a server that is slow for a moment -/

/-- Two files, and a failure for now between them. -/
def torn : DirStream :=
  [.ok ⟨"/a", .file⟩, .error (.system .timedOut "Connection timed out" 110), .ok ⟨"/b", .file⟩]

/-- The pager of that directory, through layers that leave the marks. -/
def tornPager (marks : List PagerMark) : Pager DirStream :=
  { source := .service torn, path := "/", marks }

theorem entries_delivered_iff_torn :
    (tornPager [.retry { maxTimes := 1 }]).source = .service torn ∧ torn.length < 4
      ∧ ∃ (pages : List (Except Error (List Entry))) (w' : World FileTree),
        (tornPager [.retry { maxTimes := 1 }]).pages (service "/") .async 4 { service := .empty }
            = (.ok (pages.map (Except.map some) ++ [.ok none]), w')
          ∧ (succeeded pages).flatten = [entry "/" ⟨"/b", .file⟩] := by
  obtain ⟨pages, w', hpages, -, -, -, hkept, -⟩ := entries_delivered_iff "/" torn .async
    (p := tornPager [.retry { maxTimes := 1 }]) rfl (show torn.length < 4 by decide)
    { service := .empty }
  exact ⟨rfl, by decide, pages, w', hpages, hkept⟩

/-- The first file was read, and is in no page: the failure takes it along, with a layer that tries
again even without an error. -/
theorem torn_loses_entry :
    (succeeded torn).map (entry "/") = [entry "/" ⟨"/a", .file⟩, entry "/" ⟨"/b", .file⟩]
      ∧ (∃ e w', (tornPager []).pages (service "/") .async 4 { service := .empty }
          = (.ok [.error e, .ok (some [entry "/" ⟨"/b", .file⟩]), .ok none], w'))
      ∧ (∃ w', (tornPager [.retry { maxTimes := 1 }]).pages (service "/") .async 4
            { service := .empty }
          = (.ok [.ok (some [entry "/" ⟨"/b", .file⟩]), .ok none], w'))
      ∧ entry "/" ⟨"/a", .file⟩ ∉ [entry "/" ⟨"/b", .file⟩] :=
  ⟨rfl, ⟨_, _, rfl⟩, ⟨_, rfl⟩, by decide⟩

end ObjectStorage.Fs

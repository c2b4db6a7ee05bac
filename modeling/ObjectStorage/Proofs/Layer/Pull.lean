import ObjectStorage.Lister

/-!
# Pulls through a layer that tries again

A pager with the mark of a retry layer pulls from where its pages come until that gives something
other than an error for now, or no retries are left.  The pager that is pulled again is the one
that the failed pull left behind.

* `pullSource_of_ok`, `pullSource_of_error` — one pull from a pager of the service;
* `pull_of_ok`, `pull_of_temporary` — a pull that succeeds at once, or when it is repeated;
* `pages_of_end`, `pages_of_page`, `pages_of_failed` — the pages up to the end.
-/

namespace ObjectStorage.Pager

variable {σ ρ π : Type} {service : Service σ ρ π} {form : Form} {p : Pager π} {b : Backoff}

theorem pullSource_of_ok {q q' : π} {page : Page} {s' : σ} {v : World (σ × Progress π)}
    (hsource : v.service.2.1 = .service q)
    (hpull : service.pull form q v.service.1 = (.ok page, q', s')) :
    ∃ listed, pullSource service form v
      = (.ok page, { v with service := (s', .service q', listed) }) := by
  obtain ⟨⟨s, source, listed⟩, permits, events, samples, printed⟩ := v
  simp only at hsource hpull
  subst hsource
  cases page with
  | none =>
    refine ⟨listed, ?_⟩
    simp only [pullSource, Run.onService, hpull, Nat.add_zero]
  | some entries =>
    refine ⟨listed + entries.length, ?_⟩
    simp only [pullSource, Run.onService, hpull]

theorem pullSource_of_error {q q' : π} {e : Error} {s' : σ} {v : World (σ × Progress π)}
    (hsource : v.service.2.1 = .service q)
    (hpull : service.pull form q v.service.1 = (.error e, q', s')) :
    pullSource service form v
      = (.error (.failed e), { v with service := (s', .service q', v.service.2.2) }) := by
  obtain ⟨⟨s, source, listed⟩, permits, events, samples, printed⟩ := v
  simp only at hsource hpull
  subst hsource
  simp only [pullSource, Run.onService, hpull, Nat.add_zero]

theorem pull_of_run (hmarks : p.marks = [.retry b]) {w : World σ} {result : Except Stop Page}
    {v : World (σ × Progress π)}
    (hrun : Retry.run b (.call form .list) p.path (pullSource service form)
      (w.withService (w.service, p.source, p.listed)) = (result, v)) :
    p.pull service form w = (result, { p with source := v.service.2.1, listed := v.service.2.2 },
      v.withService v.service.1) := by
  simp only [pull, hmarks, List.foldr, PagerMark.around, Run.withPart, hrun]

theorem pull_of_ok (hmarks : p.marks = [.retry b]) {w : World σ} {q q' : π} {page : Page} {s' : σ}
    (hsource : p.source = .service q)
    (hpull : service.pull form q w.service = (.ok page, q', s')) :
    ∃ p' w', p.pull service form w = (.ok page, p', w') ∧ p'.marks = [.retry b]
      ∧ p'.source = .service q' ∧ w'.service = s' := by
  obtain ⟨listed, hfirst⟩ := pullSource_of_ok
    (v := w.withService (w.service, p.source, p.listed)) hsource hpull
  have hrun := pull_of_run hmarks (Retry.attempts_of_ok (b := b) hfirst b.maxTimes)
  exact ⟨_, _, hrun, hmarks, rfl, rfl⟩

/-- A pull that fails for now and is repeated with success. -/
theorem pull_of_temporary (hmarks : p.marks = [.retry b]) {w : World σ} {q q' q'' : π} {e : Error}
    {page : Page} {s' s'' : σ} (hleft : 0 < b.maxTimes) (hsource : p.source = .service q)
    (hfails : service.pull form q w.service = (.error e, q', s')) (he : e.isTemporary)
    (hpull : service.pull form q' s' = (.ok page, q'', s'')) :
    ∃ p' w', p.pull service form w = (.ok page, p', w') ∧ p'.marks = [.retry b]
      ∧ p'.source = .service q'' ∧ w'.service = s'' := by
  obtain ⟨left, hleft⟩ := Nat.exists_eq_succ_of_ne_zero (Nat.pos_iff_ne_zero.1 hleft)
  have hfirst := pullSource_of_error
    (v := w.withService (w.service, p.source, p.listed)) hsource hfails
  have hretry : Retry.attempts b (.call form .list) p.path (pullSource service form) (left + 1) _
      = _ := Retry.attempts_of_temporary hfirst he left
  obtain ⟨listed, hsecond⟩ := pullSource_of_ok
    (v := { w.withService (s', PageSource.service q', p.listed) with
      events := w.events ++ [.retrying (.call form .list) p.path (b.maxTimes - left)
        (b.delay (b.maxTimes - left)) e] }) rfl hpull
  have hrun := pull_of_run hmarks (by
    rw [Retry.run, hleft]
    exact hretry.trans (Retry.attempts_of_ok hsecond left))
  exact ⟨_, _, hrun, hmarks, rfl, rfl⟩

/-! ### The pages up to the end -/

theorem pages_of_end {w w' : World σ} {p' : Pager π}
    (h : p.pull service form w = (.ok none, p', w')) (most : Nat) :
    ∃ w'', p.pages service form (most + 1) w = (.ok [.ok none], w'') := by
  refine ⟨{ w' with permits := p'.owes.foldl Permits.giveBack w'.permits }, ?_⟩
  simp only [pages, h]
  rfl

theorem pages_of_page {w w' w'' : World σ} {p' : Pager π} {entries : List Entry}
    {rest : List (Except Error Page)} {most : Nat}
    (h : p.pull service form w = (.ok (some entries), p', w'))
    (hrest : p'.pages service form most w' = (.ok rest, w'')) :
    p.pages service form (most + 1) w = (.ok (.ok (some entries) :: rest), w'') := by
  simp only [pages, h]
  rw [Run.bind_of_ok hrest]
  rfl

theorem pages_of_failed {w w' w'' : World σ} {p' : Pager π} {e : Error}
    {rest : List (Except Error Page)} {most : Nat}
    (h : p.pull service form w = (.error (.failed e), p', w'))
    (hrest : p'.pages service form most w' = (.ok rest, w'')) :
    p.pages service form (most + 1) w = (.ok (.error e :: rest), w'') := by
  simp only [pages, h]
  rw [Run.bind_of_ok hrest]
  rfl

end ObjectStorage.Pager

import ObjectStorage.Lister
import ObjectStorage.Proofs.Layer.Record
import ObjectStorage.Service.Scripted

/-!
# Listers

A lister hands out the entries of the pages of its pager one by one, as objects.  It comes to its
end with the listing or with the first error, and stays there: whoever asks it again gets nothing,
and the pager is left alone.  The async and the blocking form do the same.

* `Lister.polls` — what a lister answers when it is asked again and again;
* `Scripted.Pages.held`, `Scripted.Pages.failure?` — what a script has before its end, and the error
  that it ends with;
* `Scripted.Owes`, `Scripted.HasEnded` — a lister that follows a script, and one at its end;
* `Scripted.next_of_owes` — one answer;
* `Scripted.listers_fused` — all answers, in either form.
-/

namespace ObjectStorage

namespace Lister

variable {σ ρ π : Type}

/-- Ask for the next child, as an object. -/
def poll (op : Operator σ ρ π) (form : Form) (l : Lister π) :
    Run σ (Option (Except Error (Object σ ρ π)) × Lister π) := do
  let (item, l) ← l.next op.service form
  pure (item.map (Except.map fun e => op.object e.path), l)

/-- Ask so many times for the next child, whatever the answers are. -/
def polls (op : Operator σ ρ π) (form : Form) :
    (times : Nat) → Lister π → Run σ (List (Option (Except Error (Object σ ρ π))) × Lister π)
  | 0, l => pure ([], l)
  | times + 1, l => do
    let (item, l) ← l.poll op form
    let (items, l) ← polls op form times l
    pure (item :: items, l)

end Lister

namespace Scripted

/-! ### What a script tells -/

namespace Pages

/-- The pages of a script before the first result that is not a page. -/
def held : Pages → List (List Entry)
  | .ok (some page) :: rest => page :: held rest
  | _ => []

/-- The error that ends a script, unless it ends without one. -/
def failure? : Pages → Option Error
  | .ok (some _) :: rest => failure? rest
  | .error e :: _ => some e
  | _ => none

/-- The entries of the pages before the end, then the error. -/
def yielded (script : Pages) : List (Except Error Entry) :=
  script.held.flatten.map .ok ++ script.failure?.toList.map .error

/-- How often a lister has to be asked until it is at its end.  That it is there is the last answer,
unless an error has told it. -/
def answers (script : Pages) : Nat :=
  script.yielded.length + if script.failure?.isSome then 0 else 1

theorem yielded_page (page : List Entry) (rest : Pages) :
    yielded (.ok (some page) :: rest) = page.map .ok ++ rest.yielded := by
  rw [yielded, held, failure?, List.flatten_cons, List.map_append, List.append_assoc, yielded]

end Pages

/-! ### Pulls -/

variable {info : ServiceInfo} {form : Form} {w : World (State × List Contact)}

/-- The world after so many pulls, which the service has on record. -/
def pulled (form : Form) (times : Nat) (w : World (State × List Contact)) :
    World (State × List Contact) :=
  { w with service := (w.service.1, w.service.2 ++ List.replicate times (.pull form)) }

theorem pulled_pulled (m n : Nat) (w : World (State × List Contact)) :
    pulled form n (pulled form m w) = pulled form (m + n) w := by
  simp only [pulled, List.append_assoc, List.replicate_append_replicate]

/-- A pager without marks gives what its script has next, and nothing at the end of the script. -/
theorem pull_scripted (info : ServiceInfo) (form : Form) (w : World (State × List Contact))
    {p : Pager Pages} {script : Pages} (hsource : p.source = .service script)
    (hmarks : p.marks = []) :
    ∃ listed, p.pull (service info).recorded form w
      = ((script.headD (.ok none)).mapError .failed,
        { p with source := .service script.tail, listed }, pulled form 1 w) := by
  obtain ⟨source, path, listed, marks, owes⟩ := p
  dsimp only at hsource hmarks
  subst hsource hmarks
  cases script with
  | nil => exact ⟨_, rfl⟩
  | cons page rest =>
    obtain e | page := page
    · exact ⟨_, rfl⟩
    · exact ⟨_, rfl⟩

/-! ### One answer -/

/-- A lister at its end. -/
structure HasEnded (l : Lister Pages) : Prop where
  ended : l.ended = true
  buffer : l.buffer = []

/-- A lister that has still to give these items, for which it pulls so often. -/
structure Owes (items : List (Except Error Entry)) (pulls : Nat) (l : Lister Pages) : Prop where
  going : l.ended = false
  marks : l.pager.marks = []
  script : ∃ script, l.pager.source = .service script
    ∧ items = l.buffer.map .ok ++ script.yielded ∧ pulls = script.held.length + 1

/-- What comes of asking a lister with these items and pulls to come. -/
inductive Told (form : Form) (w : World (State × List Contact)) :
    List (Except Error Entry) → Nat →
      Except Stop (Option (Except Error Entry) × Lister Pages) × World (State × List Contact) → Prop
  /-- The next child, for which some of the pulls were needed. -/
  | child {e : Entry} {rest : List (Except Error Entry)} {l : Lister Pages} {k left : Nat}
      (h : Owes rest left l) :
      Told form w (.ok e :: rest) (k + left) (.ok (some (.ok e), l), pulled form k w)
  /-- The error that ends the listing. -/
  | failed {e : Error} {pulls : Nat} {l : Lister Pages} {w' : World (State × List Contact)}
      (hended : HasEnded l) (hw : w'.service = (pulled form pulls w).service) :
      Told form w [.error e] pulls (.ok (some (.error e), l), w')
  /-- The end. -/
  | finished {pulls : Nat} {l : Lister Pages} {w' : World (State × List Contact)}
      (hended : HasEnded l) (hw : w'.service = (pulled form pulls w).service) :
      Told form w [] pulls (.ok (none, l), w')

theorem Told.of_pulled {items : List (Except Error Entry)} {pulls : Nat}
    {answer : Except Stop (Option (Except Error Entry) × Lister Pages)
      × World (State × List Contact)}
    (h : Told form (pulled form 1 w) items pulls answer) :
    Told form w items (1 + pulls) answer := by
  cases h with
  | child h =>
    rw [pulled_pulled, ← Nat.add_assoc]
    exact .child h
  | failed hended hw => exact .failed hended (by rw [hw, pulled_pulled])
  | finished hended hw => exact .finished hended (by rw [hw, pulled_pulled])

/-- To end a lister leaves its buffer and the service alone. -/
theorem finish_apply (form : Form) (l : Lister Pages) (w : World (State × List Contact)) :
    ∃ l' w', l.finish form w = (.ok l', w') ∧ l'.ended = true ∧ l'.buffer = l.buffer
      ∧ w'.service = w.service := by
  cases form with
  | async => exact ⟨_, _, rfl, rfl, rfl, rfl⟩
  | blocking => exact ⟨_, _, rfl, rfl, rfl, rfl⟩

/-- A lister at its end stays there, and nothing happens. -/
theorem nextWithin_of_ended {l : Lister Pages} (h : HasEnded l) (pulls : Nat) :
    l.nextWithin (service info).recorded form pulls w = (.ok (none, l), w) := by
  obtain ⟨pager, buffer, ended⟩ := l
  obtain ⟨hended, hbuffer⟩ := h
  dsimp only at hended hbuffer
  subst hended hbuffer
  cases pulls with
  | zero => rfl
  | succ pulls => rfl

/-- What a lister without entries pulls: a page to go on with, or what ends it. -/
theorem pull_of_script (info : ServiceInfo) (form : Form) (w : World (State × List Contact))
    {l : Lister Pages} {script : Pages} (hmarks : l.pager.marks = [])
    (hsource : l.pager.source = .service script) :
    (∃ page rest pager, script = .ok (some page) :: rest ∧ pager.source = .service rest
        ∧ pager.marks = [] ∧ l.pull (service info).recorded form w
          = (.ok ({ l with pager, buffer := l.buffer ++ page }, none), pulled form 1 w))
      ∨ ∃ l' w', script.held = [] ∧ l'.ended = true ∧ l'.buffer = l.buffer
        ∧ w'.service = (pulled form 1 w).service
        ∧ l.pull (service info).recorded form w = (.ok (l', script.failure?), w') := by
  obtain ⟨listed, hpull⟩ := pull_scripted info form w hsource hmarks
  obtain ⟨l', w', hfinish, hended, hbuffer, hservice⟩ := finish_apply form
    { l with pager := { l.pager with source := .service script.tail, listed } } (pulled form 1 w)
  rcases script with _ | ⟨e | _ | page, rest⟩
  case cons.ok.some =>
    refine .inl ⟨page, rest, { l.pager with source := .service rest, listed }, rfl, rfl, hmarks, ?_⟩
    simp only [Lister.pull, hpull, List.headD, Except.mapError]
    rfl
  -- a script that is over, an error and the end of the listing all end the lister
  all_goals
    refine .inr ⟨l', w', rfl, hended, hbuffer, hservice, ?_⟩
    simp only [Lister.pull, hpull, List.headD, Except.mapError]
    rw [Run.bind_of_ok hfinish]
    rfl

/-- A lister without entries is where its pull leaves it, unless that fails. -/
theorem nextWithin_of_pull {l l' : Lister Pages} {failure : Option Error}
    {w' : World (State × List Contact)} (hbuffer : l.buffer = []) (hgoing : l.ended = false)
    (hpull : l.pull (service info).recorded form w = (.ok (l', failure), w')) (pulls : Nat) :
    l.nextWithin (service info).recorded form (pulls + 1) w
      = failure.elim (l'.nextWithin (service info).recorded form pulls w')
        fun e => (.ok (some (.error e), l'), w') := by
  obtain ⟨pager, buffer, ended⟩ := l
  dsimp only at hbuffer hgoing
  subst hbuffer hgoing
  rw [Lister.nextWithin, if_neg Bool.false_ne_true, Run.bind_of_ok hpull]
  · cases failure with
    | none => rfl
    | some e => rfl
  · intro _ _ _ _ h
    cases h

/-- The next child of a lister on a script.  By induction on the pulls that are allowed, as pages
without entries are passed over. -/
theorem nextWithin_of_script {pulls : Nat} {script : Pages} {l : Lister Pages}
    {w : World (State × List Contact)} (hgoing : l.ended = false) (hmarks : l.pager.marks = [])
    (hsource : l.pager.source = .service script) (hpulls : script.length < pulls) :
    Told form w (l.buffer.map .ok ++ script.yielded) (script.held.length + 1)
      (l.nextWithin (service info).recorded form pulls w) := by
  induction pulls generalizing script l w with
  | zero => exact absurd hpulls (Nat.not_lt_zero _)
  | succ pulls ih =>
    cases hbuffer : l.buffer with
    | cons e rest =>
      have hnext : l.nextWithin (service info).recorded form (pulls + 1) w
          = (.ok (some (.ok e), { l with buffer := rest }), pulled form 0 w) := by
        obtain ⟨pager, buffer, ended⟩ := l
        dsimp only at hbuffer
        subst hbuffer
        simp only [Lister.nextWithin, Run.pure_apply, pulled, List.replicate_zero, List.append_nil]
      rw [hnext, ← Nat.zero_add (script.held.length + 1)]
      exact .child ⟨hgoing, hmarks, script, hsource, rfl, rfl⟩
    | nil =>
      obtain ⟨page, rest, pager, rfl, hsource', hmarks', hpull⟩
        | ⟨l', w', hheld, hended, hbuffer', hservice, hpull⟩ :=
          pull_of_script info form w hmarks hsource
      · rw [nextWithin_of_pull hbuffer hgoing hpull, Pages.yielded_page, Pages.held,
          List.length_cons, Nat.add_comm]
        have hrest : rest.length < pulls := Nat.lt_of_succ_lt_succ hpulls
        have htold := ih (l := { l with pager, buffer := l.buffer ++ page })
          (w := pulled form 1 w) hgoing hmarks' hsource' hrest
        simp only [hbuffer, List.nil_append] at htold ⊢
        exact htold.of_pulled
      · have hend : HasEnded l' := ⟨hended, hbuffer'.trans hbuffer⟩
        rw [nextWithin_of_pull hbuffer hgoing hpull, Pages.yielded, hheld]
        cases script.failure? with
        | none =>
          rw [Option.elim_none, nextWithin_of_ended hend]
          exact .finished hend hservice
        | some e => exact .failed hend hservice

theorem next_of_owes (info : ServiceInfo) (form : Form) (w : World (State × List Contact))
    {items : List (Except Error Entry)} {pulls : Nat} {l : Lister Pages}
    (h : Owes items pulls l) :
    Told form w items pulls (l.next (service info).recorded form w) := by
  obtain ⟨hgoing, hmarks, script, hsource, rfl, rfl⟩ := h
  have hleft : script.length < l.pullsLeft (service info).recorded w.service := by
    rw [Lister.pullsLeft, Pager.pagesLeft, hsource]
    exact Nat.lt_succ_self _
  exact nextWithin_of_script hgoing hmarks hsource hleft

theorem next_of_ended {l : Lister Pages} (h : HasEnded l) :
    l.next (service info).recorded form w = (.ok (none, l), w) :=
  nextWithin_of_ended h _

/-! ### All answers -/

section

variable (info : ServiceInfo) (layers : List Layer)

/-- An operator on a scripted service that has on record what reaches it. -/
def recordedOperator : Operator (State × List Contact) Pieces Pages :=
  ⟨(service info).recorded, layers⟩

/-- A lister on a script. -/
def lister (script : Pages) (path : String) (owes : List Nat) : Lister Pages :=
  { pager := { source := .service script, path, owes } }

/-- What a lister gives for an item: the object of an entry, or the error. -/
def given (item : Except Error Entry) :
    Except Error (Object (State × List Contact) Pieces Pages) :=
  item.map fun e => (recordedOperator info layers).object e.path

end

variable {layers : List Layer}

theorem poll_of_next {l l' : Lister Pages} {w' : World (State × List Contact)}
    {item : Option (Except Error Entry)}
    (h : l.next (service info).recorded form w = (.ok (item, l'), w')) :
    l.poll (recordedOperator info layers) form w
      = (.ok (item.map (given info layers), l'), w') := by
  rw [Lister.poll]
  exact Run.bind_of_ok h

theorem polls_cons {l l' l'' : Lister Pages} {w' w'' : World (State × List Contact)} {n : Nat}
    {item : Option (Except Error (Object (State × List Contact) Pieces Pages))}
    {items : List (Option (Except Error (Object (State × List Contact) Pieces Pages)))}
    (hfirst : l.poll (recordedOperator info layers) form w = (.ok (item, l'), w'))
    (hrest : l'.polls (recordedOperator info layers) form n w' = (.ok (items, l''), w'')) :
    l.polls (recordedOperator info layers) form (n + 1) w = (.ok (item :: items, l''), w'') := by
  rw [Lister.polls, Run.bind_of_ok hfirst]
  exact Run.bind_of_ok hrest

/-- A lister at its end says so, however often it is asked, and nothing happens. -/
theorem polls_of_ended {l : Lister Pages} (h : HasEnded l) (n : Nat) :
    l.polls (recordedOperator info layers) form n w = (.ok (List.replicate n none, l), w) := by
  induction n with
  | zero => rfl
  | succ n ih => exact polls_cons (poll_of_next (next_of_ended h)) ih

/-- The answers of a fused stream with some items: the items in order, then nothing. -/
def answered {α : Type} (items : List α) (n : Nat) : List (Option α) :=
  (List.range n).map fun i => items[i]?

theorem answered_cons {α : Type} (item : α) (items : List α) (n : Nat) :
    answered (item :: items) (n + 1) = some item :: answered items n := by
  rw [answered, List.range_succ_eq_map, List.map_cons, List.map_map]
  rfl

theorem answered_nil {α : Type} (n : Nat) :
    answered ([] : List α) n = List.replicate n none := by
  simp [answered]

/-- After so many answers there is nothing to come: the end was told, or an error. -/
def Settled (items : List (Except Error Entry)) (n : Nat) : Prop :=
  items.length < n ∨ items.length ≤ n ∧ ∃ e, items.getLast? = some (.error e)

theorem Settled.of_cons {e : Entry} {rest : List (Except Error Entry)} {n : Nat}
    (h : Settled (.ok e :: rest) (n + 1)) : Settled rest n := by
  obtain hlt | ⟨hle, failure, hlast⟩ := h
  · exact .inl (Nat.lt_of_succ_lt_succ hlt)
  · refine .inr ⟨Nat.le_of_succ_le_succ hle, failure, ?_⟩
    cases rest with
    | nil => cases hlast
    | cons item rest => exact hlast

theorem settled_yielded (script : Pages) : Settled script.yielded script.answers := by
  rw [Settled, Pages.answers]
  cases hfailure : script.failure? with
  | none => exact .inl (Nat.lt_succ_self _)
  | some e =>
    refine .inr ⟨Nat.le_refl _, e, ?_⟩
    rw [Pages.yielded, hfailure]
    exact List.getLast?_concat

/-- **All answers of a lister** with items and pulls to come, by induction on their number. -/
theorem polls_of_owes (info : ServiceInfo) (layers : List Layer) (form : Form)
    {items : List (Except Error Entry)} {pulls : Nat} {l : Lister Pages} (h : Owes items pulls l)
    (w : World (State × List Contact)) (n : Nat) :
    ∃ l' w' k, l.polls (recordedOperator info layers) form n w
        = (.ok (answered (items.map (given info layers)) n, l'), w')
      ∧ k ≤ pulls ∧ w'.service = (pulled form k w).service
      ∧ (Settled items n → HasEnded l' ∧ k = pulls) := by
  induction n generalizing items pulls l w with
  | zero =>
    refine ⟨l, w, 0, rfl, Nat.zero_le _, ?_, ?_⟩
    · simp [pulled]
    · rintro (hlt | ⟨hle, e, hlast⟩)
      · exact absurd hlt (Nat.not_lt_zero _)
      · rw [List.eq_nil_of_length_eq_zero (Nat.le_zero.1 hle)] at hlast
        cases hlast
  | succ n ih =>
    have htold := next_of_owes info form w h
    generalize hnext : l.next (service info).recorded form w = answer at htold
    cases htold with
    | @child e rest l' k left howes =>
      obtain ⟨l'', w'', k', hrest, hle, hservice, hsettled⟩ := ih howes (pulled form k w)
      rw [pulled_pulled] at hservice
      refine ⟨l'', w'', k + k', ?_, Nat.add_le_add_left hle k, hservice, ?_⟩
      · rw [List.map_cons, answered_cons]
        exact polls_cons (poll_of_next hnext) hrest
      · intro hs
        obtain ⟨hended, hk⟩ := hsettled hs.of_cons
        exact ⟨hended, by rw [hk]⟩
    | @failed e pulls l' w' hended hservice =>
      refine ⟨l', w', pulls, ?_, Nat.le_refl _, hservice, fun _ => ⟨hended, rfl⟩⟩
      rw [List.map_singleton, answered_cons, answered_nil]
      exact polls_cons (poll_of_next hnext) (polls_of_ended hended n)
    | @finished pulls l' w' hended hservice =>
      refine ⟨l', w', pulls, ?_, Nat.le_refl _, hservice, fun _ => ⟨hended, rfl⟩⟩
      rw [List.map_nil, answered_nil, List.replicate_succ]
      exact polls_cons (poll_of_next hnext) (polls_of_ended hended n)

/-- Who asks on after the end gets nothing more, and changes nothing. -/
theorem polls_add {l l' : Lister Pages} {w w' : World (State × List Contact)} {n : Nat}
    {items : List (Option (Except Error (Object (State × List Contact) Pieces Pages)))}
    (h : l.polls (recordedOperator info layers) form n w = (.ok (items, l'), w'))
    (hend : HasEnded l') (m : Nat) :
    l.polls (recordedOperator info layers) form (n + m) w
      = (.ok (items ++ List.replicate m none, l'), w') := by
  induction n generalizing l w items with
  | zero =>
    cases h
    rw [Nat.zero_add, List.nil_append]
    exact polls_of_ended hend m
  | succ n ih =>
    rw [Lister.polls, Run.bind_apply] at h
    generalize hfirst : l.poll (recordedOperator info layers) form w = first at h
    obtain ⟨stop | ⟨item, l₁⟩, w₁⟩ := first
    · cases h
    dsimp only at h
    rw [Run.bind_apply] at h
    generalize hrest : l₁.polls (recordedOperator info layers) form n w₁ = rest at h
    obtain ⟨stop | ⟨items', l₂⟩, w₂⟩ := rest
    · cases h
    cases h
    rw [Nat.add_right_comm, List.cons_append]
    exact polls_cons hfirst (ih hrest)

theorem owes_lister (script : Pages) (path : String) (owes : List Nat) :
    Owes script.yielded (script.held.length + 1) (lister script path owes) where
  going := rfl
  marks := rfl
  script := ⟨script, rfl, rfl, rfl⟩

/-- **Listers are fused streams, and the same one in either form.**  Whatever results a pager has to
give, a lister on it answers with the objects of all pages before the first result that is not a
page, in order, then with the error if that ended them, and then with nothing, however often it is
asked.  It never pulls more than these pages and what ends them.  Once it has told the error or the
end, neither it nor the world changes: the pager is not pulled again. -/
theorem listers_fused (info : ServiceInfo) (layers : List Layer) (script : Pages) (path : String)
    (owes : List Nat) (w : World (State × List Contact)) (form : Form) :
    let polls := fun n => (lister script path owes).polls (recordedOperator info layers) form n w
    let told := answered (script.yielded.map (given info layers))
    let pulls := script.held.length + 1
    (∀ n, ∃ l w' k, polls n = (.ok (told n, l), w') ∧ k ≤ pulls
        ∧ w'.service.2 = w.service.2 ++ List.replicate k (.pull form))
      ∧ ∃ l w', w'.service.2 = w.service.2 ++ List.replicate pulls (.pull form)
        ∧ ∀ m, polls (script.answers + m) = (.ok (told (script.answers + m), l), w') := by
  intro polls told pulls
  have hrun := polls_of_owes info layers form (owes_lister script path owes) w
  constructor
  · intro n
    obtain ⟨l, w', k, hpolls, hle, hservice, -⟩ := hrun n
    exact ⟨l, w', k, hpolls, hle, congrArg Prod.snd hservice⟩
  · obtain ⟨l, w', k, hpolls, -, hservice, hsettled⟩ := hrun script.answers
    obtain ⟨hend, rfl⟩ := hsettled (settled_yielded script)
    refine ⟨l, w', congrArg Prod.snd hservice, fun m => ?_⟩
    obtain ⟨l'', w'', -, hagain, -⟩ := hrun (script.answers + m)
    have hsame := polls_add hpolls hend m
    have hanswers : told (script.answers + m) = told script.answers ++ List.replicate m none :=
      (Prod.mk.inj (Except.ok.inj (congrArg Prod.fst (hagain.symm.trans hsame)))).1
    rw [hanswers]
    exact hsame

end Scripted

end ObjectStorage

import Mathlib.Data.List.TakeWhile
import ObjectStorage.Url

/-!
# Paths of URLs

Of a URL that was read the path is written without the characters that begin a query or a fragment:
they end the path where it is read, and are encoded where they could come into it in another way.

* `staysInPath` — the characters that neither begin a query nor a fragment;
* `parse_cases` — the path of a URL is read in one of two ways;
* `staysInPath_of_mem_pathText` — what it is written in.
-/

namespace ObjectStorage.Url

/-- A character that neither begins a query nor a fragment. -/
def staysInPath (c : Char) : Bool := c ≠ '?' && c ≠ '#'

theorem staysInPath_of_mem_escapes {bs : Bytes} {c : Char} (h : c ∈ bs.flatMap escapeByte) :
    staysInPath c = true := by
  have hdigit : ∀ n < 16, staysInPath (hexDigit n) = true := by decide
  obtain ⟨b, -, hc⟩ := List.mem_flatMap.1 h
  have hsize : b.toNat < 256 := b.toNat_lt
  simp only [escapeByte, List.mem_cons, List.not_mem_nil, or_false] at hc
  obtain rfl | rfl | rfl := hc
  · rfl
  · exact hdigit _ (by omega)
  · exact hdigit _ (by omega)

/-- What is written of an encoded text: its characters that need not be encoded, and escapes. -/
theorem staysInPath_of_mem_encode {set : Char → Bool} {cs : List Char}
    (hset : ∀ c ∈ cs, set c = false → staysInPath c = true) {c : Char}
    (h : c ∈ (encode set cs).toList) : staysInPath c = true := by
  rw [encode, String.toList_ofList, List.mem_flatMap] at h
  obtain ⟨d, hd, hc⟩ := h
  rw [encodeChar] at hc
  split at hc
  · next hplain =>
    rw [List.mem_singleton.1 hc]
    exact hset d hd (by simpa using (Bool.and_eq_true_iff.1 hplain).2)
  · exact staysInPath_of_mem_escapes hc

theorem staysInPath_of_inPath {c : Char} (h : inPath c = false) : staysInPath c = true := by
  rw [staysInPath, Bool.and_eq_true, decide_eq_true_iff, decide_eq_true_iff]
  constructor
  · rintro rfl
    cases h
  · rintro rfl
    cases h

/-- Segments with nothing that ends a path. -/
def StayInPath (segments : List String) : Prop :=
  ∀ segment ∈ segments, ∀ c ∈ segment.toList, staysInPath c = true

theorem StayInPath.append {segments : List String} (h : StayInPath segments) {segment : String}
    (hsegment : ∀ c ∈ segment.toList, staysInPath c = true) :
    StayInPath (segments ++ [segment]) := by
  intro other hother
  rcases List.mem_append.1 hother with hmem | hmem
  · exact h other hmem
  · rw [List.mem_singleton.1 hmem]
    exact hsegment

theorem StayInPath.dropLast {segments : List String} (h : StayInPath segments) :
    StayInPath segments.dropLast :=
  fun segment hmem => h segment ((List.dropLast_sublist _).subset hmem)

/-- Segments are encoded, and dots leave empty ones. -/
theorem stayInPath_follow {done : List String} (hdone : StayInPath done)
    (segments : List (List Char)) : StayInPath (follow done segments) := by
  have hempty : ∀ c ∈ "".toList, staysInPath c = true := fun c hc => absurd hc List.not_mem_nil
  have hencode (segment : List Char) : ∀ c ∈ (encode inPath segment).toList, staysInPath c = true :=
    fun c hc => staysInPath_of_mem_encode (fun d _ => staysInPath_of_inPath) hc
  fun_induction follow done segments with
  | case1 done => exact hdone
  | case2 done segment hup => exact hdone.dropLast.append hempty
  | case3 done segment hup hdot => exact hdone.append hempty
  | case4 done segment hup hdot => exact hdone.append (hencode segment)
  | case5 done segment rest hrest hup ih => exact ih hdone.dropLast
  | case6 done segment rest hrest hup hdot ih => exact ih hdone
  | case7 done segment rest hrest hup hdot ih => exact ih (hdone.append (hencode segment))

theorem stayInPath_pathOf (special : Bool) (cs : List Char) :
    ∃ segments, pathOf special cs = .segments segments ∧ StayInPath segments := by
  have hnone : StayInPath [] := fun _ h => absurd h List.not_mem_nil
  unfold pathOf
  dsimp only
  split
  · exact ⟨[], rfl, hnone⟩
  · exact ⟨_, rfl, stayInPath_follow hnone _⟩

/-- What follows the authority of a URL is read at its end. -/
theorem withAuthority_cases {scheme : String} {cs : List Char} {url : Url}
    (h : withAuthority scheme cs = .ok url) :
    ∃ base rest, url = finish base (pathOf (isSpecial scheme)) rest := by
  unfold withAuthority at h
  simp only [bind, Except.bind, pure, Except.pure] at h
  -- some part is refused, or all of them are read
  repeat' split at h
  all_goals cases h
  all_goals exact ⟨_, _, rfl⟩

theorem fileUrl_cases {cs : List Char} {url : Url} (h : fileUrl cs = .ok url) :
    ∃ base rest, url = finish base (pathOf true) rest := by
  unfold fileUrl at h
  simp only [bind, Except.bind, pure, Except.pure] at h
  -- some part is refused, or all of them are read
  repeat' split at h
  all_goals cases h
  all_goals exact ⟨_, _, rfl⟩

/-- The path of a URL is read in one of two ways. -/
theorem parse_cases {s : String} {url : Url} (h : parse s = .ok url) :
    ∃ base rest, (∃ special, url = finish base (pathOf special) rest)
      ∨ url = finish base (fun cs => .rootless (encode isControl cs)) rest := by
  unfold parse at h
  split at h
  · cases h
  · next scheme rest _ =>
    split at h
    · obtain ⟨base, rest, hurl⟩ := fileUrl_cases h
      exact ⟨base, rest, .inl ⟨true, hurl⟩⟩
    · split at h
      · obtain ⟨base, rest, hurl⟩ := withAuthority_cases h
        exact ⟨base, rest, .inl ⟨_, hurl⟩⟩
      · split at h
        · next rest =>
          obtain ⟨base, rest, hurl⟩ := withAuthority_cases h
          exact ⟨base, rest, .inl ⟨_, hurl⟩⟩
        · cases h
          exact ⟨_, _, .inl ⟨false, rfl⟩⟩
        · cases h
          exact ⟨_, _, .inr rfl⟩

/-- **The path of a URL that was read neither begins a query nor a fragment.** -/
theorem staysInPath_of_mem_pathText {s : String} {url : Url} (h : parse s = .ok url) {c : Char}
    (hc : c ∈ url.pathText.toList) : staysInPath c = true := by
  obtain ⟨base, rest, ⟨special, rfl⟩ | rfl⟩ := parse_cases h
  · obtain ⟨segments, hpath, hstay⟩ :=
      stayInPath_pathOf special (rest.takeWhile fun c => c ≠ '?' && c ≠ '#')
    have htext : (finish base (pathOf special) rest).pathText
        = String.join (segments.map ("/" ++ ·)) := by
      rw [pathText, show (finish base (pathOf special) rest).path = _ from hpath]
    rw [htext, String.toList_join, List.mem_flatMap] at hc
    obtain ⟨text, htexts, hc⟩ := hc
    obtain ⟨segment, hsegment, rfl⟩ := List.mem_map.1 htexts
    rw [String.toList_append] at hc
    rcases List.mem_append.1 hc with hslash | hc
    · rw [List.mem_singleton.1 hslash]
      rfl
    · exact hstay segment hsegment c hc
  · have hc : c ∈ (encode isControl (rest.takeWhile fun c => c ≠ '?' && c ≠ '#')).toList := hc
    refine staysInPath_of_mem_encode (fun d hd _ => ?_) hc
    exact List.mem_takeWhile_imp hd

end ObjectStorage.Url

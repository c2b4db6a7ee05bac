import ObjectStorage.Proofs.Text.Utf8
import ObjectStorage.Proofs.Url.Encoding

/-!
# Texts that stand for themselves in a query

A query that is not encoded when it is written need not be read as it was.  A value ends at a `&`
and the query at a `#`; blanks are read in place of `+`, and one byte in place of an escape.  None
of this makes a value longer, so that nothing else in the query can make up for it.

* `escapes`, `Verbatim` — texts that stand for themselves in a query;
* `length_formDecode_le`, `formDecode_eq_iff` — what a value is read as;
* `formPairs_append`, `length_le_of_mem_formPairs` — the names and values of a query;
* `formPairs_setting` — a name and a value that are written as they are.
-/

namespace ObjectStorage.Url

/-! ### Values -/

/-- Is there an escape in a text? -/
def escapes : List Char → Bool
  | '%' :: a :: b :: rest =>
    (hexValue? a).isSome && (hexValue? b).isSome || escapes (a :: b :: rest)
  | _ :: rest => escapes rest
  | [] => false

/-- A text that stands for itself in a query. -/
structure Verbatim (cs : List Char) : Prop where
  ampersand : '&' ∉ cs
  hash : '#' ∉ cs
  plus : '+' ∉ cs
  escape : escapes cs = false

theorem length_scan_utf8EncodeChar (c : Char) (bs : Bytes) :
    (Text.scan (String.utf8EncodeChar c ++ bs)).length = (Text.scan bs).length + 1 := by
  rw [Text.scan_utf8EncodeChar_append, List.length_cons]

theorem escapes_of_ne {c : Char} (hc : c ≠ '%') (cs : List Char) :
    escapes (c :: cs) = escapes cs := by
  rw [escapes]
  rintro a b rest rfl
  exact absurd rfl hc

theorem escapes_of_not_mem {cs : List Char} (h : '%' ∉ cs) : escapes cs = false := by
  induction cs with
  | nil => rfl
  | cons c cs ih =>
    rw [List.mem_cons, not_or] at h
    rw [escapes_of_ne (Ne.symm h.1), ih h.2]

/-- A text begins with an escape, which stands for one byte, or with a character that stands for
itself. -/
theorem decodeChars_cons (c : Char) (cs : List Char) :
    (escapes (c :: cs) = true ∧ ∃ a b rest byte, cs = a :: b :: rest
        ∧ decodeChars (c :: cs) = byte :: decodeChars rest)
      ∨ (escapes (c :: cs) = escapes cs
        ∧ decodeChars (c :: cs) = String.utf8EncodeChar c ++ decodeChars cs) := by
  by_cases hc : c = '%'
  · subst hc
    have hbyte : String.utf8EncodeChar '%' = [UInt8.ofNat '%'.toNat] := by decide
    match cs with
    | [] => exact .inr ⟨rfl, rfl⟩
    | [a] => exact .inr ⟨rfl, by rw [hbyte]; rfl⟩
    | a :: b :: rest =>
      cases ha : hexValue? a with
      | none => exact .inr ⟨by simp [escapes, ha], by rw [hbyte, decodeChars]; simp [ha]⟩
      | some x =>
        cases hb : hexValue? b with
        | none => exact .inr ⟨by simp [escapes, hb], by rw [hbyte, decodeChars]; simp [hb]⟩
        | some y =>
          refine .inl ⟨by simp [escapes, ha, hb], a, b, rest, UInt8.ofNat (x * 16 + y), rfl, ?_⟩
          rw [decodeChars]
          simp [ha, hb]
  · exact .inr ⟨escapes_of_ne hc cs, decodeChars_of_ne hc cs⟩

/-- A text is not longer than it was written, and shorter if there is an escape in it. -/
theorem length_scan_decodeChars (cs : List Char) :
    (Text.scan (decodeChars cs)).length ≤ cs.length
      ∧ (escapes cs = true → (Text.scan (decodeChars cs)).length < cs.length) := by
  match cs with
  | [] => simp [escapes, decodeChars, Text.scan]
  | c :: cs =>
    obtain ⟨-, a, b, rest, byte, rfl, hdecode⟩ | ⟨hescapes, hdecode⟩ := decodeChars_cons c cs
    · have hrest := (length_scan_decodeChars rest).1
      have hbyte := Text.length_scan_cons_le byte (decodeChars rest)
      rw [hdecode]
      simp only [List.length_cons]
      exact ⟨by omega, fun _ => by omega⟩
    · obtain ⟨hle, hlt⟩ := length_scan_decodeChars cs
      rw [hdecode, length_scan_utf8EncodeChar, hescapes, List.length_cons]
      exact ⟨Nat.succ_le_succ hle, fun h => Nat.succ_lt_succ (hlt h)⟩
termination_by cs.length

/-- Without an escape a text stands for its characters. -/
theorem scan_decodeChars {cs : List Char} (h : escapes cs = false) :
    Text.scan (decodeChars cs) = cs.map some := by
  induction cs with
  | nil => simp [decodeChars, Text.scan]
  | cons c cs ih =>
    obtain ⟨hescapes, -⟩ | ⟨hescapes, hdecode⟩ := decodeChars_cons c cs
    · rw [h] at hescapes
      cases hescapes
    · rw [hdecode, Text.scan_utf8EncodeChar_append, ih (hescapes ▸ h), List.map_cons]

theorem hexValue?_plusToBlank (c : Char) :
    (hexValue? (plusToBlank c)).isSome = (hexValue? c).isSome := by
  unfold plusToBlank
  split
  · next hc =>
    rw [hc]
    rfl
  · rfl

/-- Blanks in place of `+` make no escape and are in none. -/
theorem escapes_map_plusToBlank (cs : List Char) : escapes (cs.map plusToBlank) = escapes cs := by
  have hpercent : plusToBlank '%' = '%' := by decide
  fun_induction escapes cs with
  | case1 a b rest ih =>
    simp only [List.map_cons] at ih ⊢
    rw [hpercent, escapes, hexValue?_plusToBlank, hexValue?_plusToBlank, ih]
  | case2 c rest hnot ih =>
    by_cases hc : c = '%'
    · subst hc
      match rest with
      | [] => rfl
      | [a] => exact ih
      | a :: b :: rest => exact absurd rfl (hnot a b rest rfl)
    · have hne : plusToBlank c ≠ '%' := by
        unfold plusToBlank
        split
        · decide
        · exact hc
      rw [List.map_cons, escapes_of_ne hne, ih]
  | case3 => rfl

theorem toList_formDecode (cs : List Char) :
    (formDecode cs).toList
      = (Text.scan (decodeChars (cs.map plusToBlank))).map fun c => c.getD (Char.ofNat 0xFFFD) :=
  String.toList_ofList

/-- **A value is not longer than it was written.** -/
theorem length_formDecode_le (cs : List Char) : (formDecode cs).length ≤ cs.length := by
  have hle := (length_scan_decodeChars (cs.map plusToBlank)).1
  rwa [← String.length_toList, toList_formDecode, List.length_map, ← List.length_map plusToBlank]

/-- **A value is what was written** just if there is no `+` and no escape in it. -/
theorem formDecode_eq_iff (cs : List Char) :
    (formDecode cs).toList = cs ↔ '+' ∉ cs ∧ escapes cs = false := by
  cases hescapes : escapes cs with
  | true =>
    have hlt := (length_scan_decodeChars (cs.map plusToBlank)).2
      ((escapes_map_plusToBlank cs).trans hescapes)
    constructor
    · intro heq
      have hlength := congrArg List.length heq
      rw [toList_formDecode, List.length_map] at hlength
      rw [List.length_map] at hlt
      omega
    · exact fun h => absurd h.2 Bool.noConfusion
  | false =>
    have hchars : (formDecode cs).toList = cs.map plusToBlank := by
      rw [toList_formDecode, scan_decodeChars ((escapes_map_plusToBlank cs).trans hescapes),
        List.map_map]
      exact List.map_id _
    rw [hchars]
    constructor
    · intro heq
      refine ⟨fun hplus => ?_, rfl⟩
      rw [← heq] at hplus
      obtain ⟨c, -, hc⟩ := List.mem_map.1 hplus
      unfold plusToBlank at hc
      split at hc
      · cases hc
      · next hne => exact hne hc
    · rintro ⟨hplus, -⟩
      refine (List.map_congr_left fun c hc => ?_).trans (List.map_id cs)
      exact if_neg fun heq : c = '+' => hplus (heq ▸ hc)

/-! ### Names and values -/

theorem Verbatim.formDecode_eq {cs : List Char} (h : Verbatim cs) :
    formDecode cs = String.ofList cs := by
  rw [← String.toList_inj, String.toList_ofList]
  exact (formDecode_eq_iff cs).2 ⟨h.plus, h.escape⟩

theorem splitAt_ne_nil (stop : Char → Bool) (cs : List Char) : splitAt stop cs ≠ [] := by
  cases cs with
  | nil => exact List.cons_ne_nil _ _
  | cons c cs =>
    rw [splitAt]
    split
    · exact List.cons_ne_nil _ _
    · split <;> exact List.cons_ne_nil _ _

/-- A text is split on both sides of a separator. -/
theorem splitAt_append_append {stop : Char → Bool} {c : Char} (hc : stop c = true)
    (before after : List Char) :
    splitAt stop (before ++ c :: after) = splitAt stop before ++ splitAt stop after := by
  induction before with
  | nil =>
    simp only [List.nil_append, splitAt, hc, if_true]
    rfl
  | cons d before ih =>
    rw [List.cons_append, splitAt, splitAt]
    split
    · rw [ih, List.cons_append]
    · rw [ih]
      cases hpieces : splitAt stop before with
      | nil => exact absurd hpieces (splitAt_ne_nil stop before)
      | cons p ps => rfl

theorem length_le_of_mem_splitAt {stop : Char → Bool} {cs p : List Char}
    (h : p ∈ splitAt stop cs) : p.length ≤ cs.length := by
  induction cs generalizing p with
  | nil =>
    rw [List.mem_singleton.1 h]
  | cons c cs ih =>
    rw [splitAt] at h
    split at h
    · rcases List.mem_cons.1 h with rfl | h
      · exact Nat.zero_le _
      · exact Nat.le_succ_of_le (ih h)
    · cases hpieces : splitAt stop cs with
      | nil => exact absurd hpieces (splitAt_ne_nil stop cs)
      | cons q qs =>
        rw [hpieces] at h ih
        rcases List.mem_cons.1 h with rfl | h
        · exact Nat.succ_le_succ (ih List.mem_cons_self)
        · exact Nat.le_succ_of_le (ih (List.mem_cons_of_mem q h))

/-- The names and values of a text on both sides of a separator. -/
theorem formPairs_append (before after : List Char) :
    formPairs (String.ofList (before ++ '&' :: after))
      = formPairs (String.ofList before) ++ formPairs (String.ofList after) := by
  simp only [formPairs, String.toList_ofList]
  rw [splitAt_append_append (by decide), List.filter_append, List.map_append]

/-- No value is longer than the query. -/
theorem length_le_of_mem_formPairs {cs : List Char} {pair : String × String}
    (h : pair ∈ formPairs (String.ofList cs)) : pair.2.length ≤ cs.length := by
  rw [formPairs, String.toList_ofList] at h
  obtain ⟨piece, hpiece, rfl⟩ := List.mem_map.1 h
  have hshort := length_le_of_mem_splitAt (List.mem_filter.1 hpiece).1
  have hdrop := ((List.drop_sublist 1 (piece.dropWhile (· ≠ '='))).trans
    (List.dropWhile_sublist _)).length_le
  exact (length_formDecode_le _).trans (hdrop.trans hshort)

/-- A name that stands for itself in a query. -/
def IsName (name : String) : Prop := Verbatim name.toList ∧ '=' ∉ name.toList

/-- A name and a value without a separator are one pair. -/
theorem formPairs_setting {name : String} (hname : IsName name) {value : List Char}
    (hvalue : '&' ∉ value) :
    formPairs (String.ofList (name.toList ++ '=' :: value)) = [(name, formDecode value)] := by
  have hfree : ∀ c ∈ name.toList ++ '=' :: value, decide (c = '&') = false := by
    intro c hc
    rw [decide_eq_false_iff_not]
    rintro rfl
    rcases List.mem_append.1 hc with hc | hc
    · exact hname.1.ampersand hc
    · rcases List.mem_cons.1 hc with hc | hc
      · cases hc
      · exact hvalue hc
  have hbefore : ∀ c ∈ name.toList, decide (c ≠ '=') = true := by
    intro c hc
    rw [decide_eq_true_iff]
    rintro rfl
    exact hname.2 hc
  have hfull : ∀ p ∈ [name.toList ++ '=' :: value], decide (p ≠ []) = true := by
    intro p hp
    rw [List.mem_singleton.1 hp, decide_eq_true_iff]
    exact List.append_ne_nil_of_right_ne_nil _ (List.cons_ne_nil _ _)
  rw [formPairs, String.toList_ofList, splitAt_of_free hfree, List.filter_eq_self.2 hfull,
    List.map_singleton, List.takeWhile_append_of_pos hbefore,
    List.dropWhile_append_of_pos hbefore, List.takeWhile_cons_of_neg (by decide),
    List.dropWhile_cons_of_neg (by decide), List.append_nil, List.drop_succ_cons, List.drop_zero,
    hname.1.formDecode_eq, String.ofList_toList]

end ObjectStorage.Url

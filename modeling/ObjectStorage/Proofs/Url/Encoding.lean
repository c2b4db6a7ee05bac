import ObjectStorage.Proofs.Text.Utf8
import ObjectStorage.Url.Encoding

/-!
# Queries read back

The names and values of a query are read as they were written.  Neither of the separators `&` and
`=` stands in an encoded text, and a `+` in it is always a blank.

* `decodeChars_escapeByte` — an escape is read back;
* `formDecode_formEncode` — a name or a value is read back;
* `splitAt_append` — a text is split at a separator;
* `formPairs_formQuery` — a query is read back.
-/

namespace ObjectStorage.Url

/-! ### Escapes -/

/-- Characters that have a meaning of their own in a query. -/
def isSeparator (c : Char) : Bool := c = '&' || c = '=' || c = '+'

theorem hexValue?_hexDigit : ∀ n < 16, hexValue? (hexDigit n) = some n := by decide

theorem isSeparator_hexDigit : ∀ n < 16, isSeparator (hexDigit n) = false := by decide

theorem decodeChars_of_ne {c : Char} (hc : c ≠ '%') (rest : List Char) :
    decodeChars (c :: rest) = String.utf8EncodeChar c ++ decodeChars rest := by
  rw [decodeChars.eq_def]
  exact if_neg hc

theorem decodeChars_escapeByte (b : UInt8) (rest : List Char) :
    decodeChars (escapeByte b ++ rest) = b :: decodeChars rest := by
  have hsize : b.toNat < 256 := b.toNat_lt
  have hhigh := hexValue?_hexDigit (b.toNat / 16) (by omega)
  have hlow := hexValue?_hexDigit (b.toNat % 16) (by omega)
  have hbyte : b.toNat / 16 * 16 + b.toNat % 16 = b.toNat := by omega
  simp only [escapeByte, List.cons_append, List.nil_append, decodeChars, if_true, hhigh, hlow,
    hbyte, UInt8.ofNat_toNat]

theorem decodeChars_escapeBytes (bs : Bytes) (rest : List Char) :
    decodeChars (bs.flatMap escapeByte ++ rest) = bs ++ decodeChars rest := by
  induction bs with
  | nil => rfl
  | cons b bs ih =>
    rw [List.flatMap_cons, List.append_assoc, decodeChars_escapeByte, ih, List.cons_append]

theorem isSeparator_escapeByte {b : UInt8} {c : Char} (h : c ∈ escapeByte b) :
    isSeparator c = false := by
  have hsize : b.toNat < 256 := b.toNat_lt
  simp only [escapeByte, List.mem_cons, List.not_mem_nil, or_false] at h
  obtain rfl | rfl | rfl := h
  · rfl
  · exact isSeparator_hexDigit _ (by omega)
  · exact isSeparator_hexDigit _ (by omega)

/-! ### Names and values -/

/-- A character of a name or a value, as it is written. -/
def formChar (c : Char) : List Char := if c = ' ' then ['+'] else encodeChar (fun c => !isPlain c) c

theorem toList_formEncode (s : String) : (formEncode s).toList = s.toList.flatMap formChar :=
  String.toList_ofList

/-- A character that stands for itself is neither a separator nor the start of an escape. -/
theorem isPlain_spec {c : Char} (h : isPlain c = true) :
    isSeparator c = false ∧ c ≠ '%' ∧ c ≠ ' ' := by
  have hne (d : Char) (hd : isPlain d = false) : c ≠ d := by
    rintro rfl
    rw [hd] at h
    cases h
  refine ⟨?_, hne '%' (by decide), hne ' ' (by decide)⟩
  simp [isSeparator, hne '&' (by decide), hne '=' (by decide), hne '+' (by decide)]

/-- How a character is written: a blank as `+`, plainly, or as escapes. -/
theorem formChar_cases (c : Char) :
    (c = ' ' ∧ formChar c = ['+']) ∨ (isPlain c = true ∧ formChar c = [c])
      ∨ formChar c = (String.utf8EncodeChar c).flatMap escapeByte := by
  unfold formChar
  by_cases hblank : c = ' '
  · exact .inl ⟨hblank, if_pos hblank⟩
  rw [if_neg hblank, encodeChar, Bool.not_not]
  by_cases hplain : (decide (c.toNat < 0x80) && isPlain c) = true
  · exact .inr (.inl ⟨(Bool.and_eq_true_iff.1 hplain).2, if_pos hplain⟩)
  · exact .inr (.inr (if_neg hplain))

/-- A blank for each `+`. -/
def plusToBlank (c : Char) : Char := if c = '+' then ' ' else c

theorem map_plusToBlank {cs : List Char} (h : ∀ c ∈ cs, isSeparator c = false) :
    cs.map plusToBlank = cs := by
  refine List.map_congr_left (g := id) (fun c hc => ?_) |>.trans (List.map_id cs)
  have hplus : c ≠ '+' := by
    rintro rfl
    cases h '+' hc
  exact if_neg hplus

theorem isSeparator_escapes {bs : Bytes} {c : Char} (h : c ∈ bs.flatMap escapeByte) :
    isSeparator c = false := by
  obtain ⟨b, -, hc⟩ := List.mem_flatMap.1 h
  exact isSeparator_escapeByte hc

theorem decodeChars_formChar (c : Char) (rest : List Char) :
    decodeChars ((formChar c).map plusToBlank ++ rest)
      = String.utf8EncodeChar c ++ decodeChars rest := by
  obtain ⟨rfl, hchar⟩ | ⟨hplain, hchar⟩ | hchar := formChar_cases c
  · rw [hchar]
    exact decodeChars_of_ne (by decide) rest
  · obtain ⟨hseparator, hpercent, -⟩ := isPlain_spec hplain
    rw [hchar, map_plusToBlank (by simpa using hseparator), List.singleton_append,
      decodeChars_of_ne hpercent]
  · rw [hchar, map_plusToBlank fun c hc => isSeparator_escapes hc, decodeChars_escapeBytes]

/-- **A name or a value is read as it was written.** -/
theorem formDecode_formEncode (s : String) : formDecode (formEncode s).toList = s := by
  have hbytes : decodeChars ((formEncode s).toList.map plusToBlank) = Text.utf8 s := by
    rw [toList_formEncode, Text.utf8]
    induction s.toList with
    | nil => rfl
    | cons c cs ih =>
      rw [List.flatMap_cons, List.map_append, decodeChars_formChar, ih, List.flatMap_cons]
  exact (congrArg Text.textLossy hbytes).trans (Text.textLossy_utf8 s)

/-- What ends a name or a value does not stand in one. -/
theorem not_mem_formEncode (s : String) :
    '&' ∉ (formEncode s).toList ∧ '=' ∉ (formEncode s).toList := by
  have hmem {c : Char} (h : c ∈ (formEncode s).toList) : c = '+' ∨ isSeparator c = false := by
    rw [toList_formEncode, List.mem_flatMap] at h
    obtain ⟨d, -, hc⟩ := h
    obtain ⟨-, hchar⟩ | ⟨hplain, hchar⟩ | hchar := formChar_cases d
    · rw [hchar, List.mem_singleton] at hc
      exact .inl hc
    · rw [hchar, List.mem_singleton] at hc
      rw [hc]
      exact .inr (isPlain_spec hplain).1
    · rw [hchar] at hc
      exact .inr (isSeparator_escapes hc)
  constructor
  · intro h
    obtain heq | heq := hmem h <;> cases heq
  · intro h
    obtain heq | heq := hmem h <;> cases heq

/-! ### Separators -/

section

variable {stop : Char → Bool}

theorem splitAt_of_free {p : List Char} (h : ∀ c ∈ p, stop c = false) : splitAt stop p = [p] := by
  induction p with
  | nil => rfl
  | cons c p ih =>
    obtain ⟨hc, hp⟩ := List.forall_mem_cons.1 h
    rw [splitAt, hc, ih hp]
    rfl

theorem splitAt_append {p : List Char} (h : ∀ c ∈ p, stop c = false) {c : Char}
    (hc : stop c = true) (rest : List Char) :
    splitAt stop (p ++ c :: rest) = p :: splitAt stop rest := by
  induction p with
  | nil => rw [List.nil_append, splitAt, if_pos hc]
  | cons d p ih =>
    obtain ⟨hd, hp⟩ := List.forall_mem_cons.1 h
    rw [List.cons_append, splitAt, hd, ih hp]
    rfl

/-- Texts with a separator between them are split into themselves. -/
theorem splitAt_intercalate {pieces : List (List Char)} (hne : pieces ≠ [])
    (h : ∀ p ∈ pieces, ∀ c ∈ p, stop c = false) {c : Char} (hc : stop c = true) :
    splitAt stop ([c].intercalate pieces) = pieces := by
  induction pieces with
  | nil => exact absurd rfl hne
  | cons p pieces ih =>
    obtain ⟨hp, hpieces⟩ := List.forall_mem_cons.1 h
    cases pieces with
    | nil => rw [List.intercalate_singleton, splitAt_of_free hp]
    | cons q pieces =>
      rw [List.intercalate_cons_cons, List.append_assoc, List.singleton_append,
        splitAt_append hp hc, ih (List.cons_ne_nil q pieces) hpieces]

end

/-! ### Queries -/

/-- A name and its value, as they are written. -/
def formPair (pair : String × String) : List Char :=
  (formEncode pair.1).toList ++ '=' :: (formEncode pair.2).toList

theorem toList_formQuery (pairs : List (String × String)) :
    (formQuery pairs).toList = ['&'].intercalate (pairs.map formPair) := by
  rw [formQuery, String.toList_intercalate, List.map_map]
  congr 1
  refine List.map_congr_left fun pair _ => ?_
  rw [Function.comp_apply, String.toList_append, String.toList_append, List.append_assoc]
  rfl

/-- A name and its value are told apart by the first `=`. -/
theorem formPair_read (pair : String × String) :
    (formDecode ((formPair pair).takeWhile (· ≠ '=')),
      formDecode (((formPair pair).dropWhile (· ≠ '=')).drop 1)) = pair := by
  have hname : ∀ c ∈ (formEncode pair.1).toList, decide (c ≠ '=') = true := by
    intro c hc
    rw [decide_eq_true_iff]
    rintro rfl
    exact (not_mem_formEncode pair.1).2 hc
  rw [formPair, List.takeWhile_append_of_pos hname, List.dropWhile_append_of_pos hname,
    List.takeWhile_cons_of_neg (by decide), List.dropWhile_cons_of_neg (by decide),
    List.append_nil, List.drop_succ_cons, List.drop_zero, formDecode_formEncode,
    formDecode_formEncode]

/-- **A query is read as it was written.** -/
theorem formPairs_formQuery (pairs : List (String × String)) :
    formPairs (formQuery pairs) = pairs := by
  cases pairs with
  | nil => rfl
  | cons pair pairs =>
    have hfree : ∀ p ∈ (pair :: pairs).map formPair, ∀ c ∈ p, decide (c = '&') = false := by
      intro p hp c hc
      obtain ⟨q, -, rfl⟩ := List.mem_map.1 hp
      rw [decide_eq_false_iff_not]
      rintro rfl
      obtain hc | hc := List.mem_append.1 hc
      · exact (not_mem_formEncode q.1).1 hc
      · rcases List.mem_cons.1 hc with hc | hc
        · cases hc
        · exact (not_mem_formEncode q.2).1 hc
    have hpieces : splitAt (· = '&') (formQuery (pair :: pairs)).toList
        = (pair :: pairs).map formPair := by
      rw [toList_formQuery]
      exact splitAt_intercalate (List.cons_ne_nil _ _) hfree (by decide)
    have hfull : ∀ p ∈ (pair :: pairs).map formPair, decide (p ≠ []) = true := by
      intro p hp
      obtain ⟨q, -, rfl⟩ := List.mem_map.1 hp
      rw [decide_eq_true_iff, formPair]
      exact List.append_ne_nil_of_right_ne_nil _ (List.cons_ne_nil _ _)
    rw [formPairs, hpieces, List.filter_eq_self.2 hfull, List.map_map]
    exact (List.map_congr_left fun q _ => formPair_read q).trans (List.map_id _)

end ObjectStorage.Url

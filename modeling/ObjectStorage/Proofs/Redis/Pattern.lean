import ObjectStorage.Proofs.Text.Utf8
import ObjectStorage.Redis

/-!
# Patterns of keys

A Redis server picks keys by a pattern.  It compares bytes: `*` stands for any bytes, `?` for any
byte, brackets for one byte of some ranges or, after `^`, of none of them, and a backslash makes the
next byte stand for itself.  A prefix is looked for with a backslash before each special character
and a `*` at the end.  The bytes of characters beyond ASCII are never special, so that this pattern
matches the keys that begin with the prefix and no others, whatever the prefix is.

* `Pattern.Piece`, `Pattern.pieces` — a pattern and its parts;
* `Pattern.Accepts`, `Pattern.Matches` — which keys match;
* `Pattern.pieces_escapeGlob` — the pattern of a prefix;
* `Pattern.matches_escapeGlob_iff` — what matches it.
-/

namespace ObjectStorage.Redis.Pattern

/-! ### The meaning of patterns -/

/-- One part of a pattern. -/
inductive Piece
  /-- Any bytes, or none. -/
  | many
  /-- Any byte. -/
  | one
  /-- This byte. -/
  | only (b : UInt8)
  /-- A byte of these ranges or, if inverted, of none of them. -/
  | among (inverted : Bool) (ranges : List (UInt8 × UInt8))
  deriving DecidableEq, Repr

mutual

/-- The parts of a pattern. -/
def pieces : Bytes → List Piece
  | [] => []
  | 42 :: rest => .many :: pieces rest
  | 63 :: rest => .one :: pieces rest
  | 91 :: 94 :: rest => ranges true [] rest
  | 91 :: rest => ranges false [] rest
  | 92 :: b :: rest => .only b :: pieces rest
  | b :: rest => .only b :: pieces rest

/-- The parts of a pattern within brackets, after some ranges.  Brackets that are not closed end
with the pattern, and the ends of a range may stand in either order. -/
def ranges (inverted : Bool) (found : List (UInt8 × UInt8)) : Bytes → List Piece
  | [] => [.among inverted found]
  | 92 :: b :: rest => ranges inverted ((b, b) :: found) rest
  | 93 :: rest => .among inverted found :: pieces rest
  | a :: 45 :: b :: rest => ranges inverted ((min a b, max a b) :: found) rest
  | b :: rest => ranges inverted ((b, b) :: found) rest

end

/-- A piece that stands for one byte allows it. -/
def Piece.Allows : Piece → UInt8 → Prop
  | .many, _ => False
  | .one, _ => True
  | .only b, c => c = b
  | .among inverted ranges, c => (∃ r ∈ ranges, r.1 ≤ c ∧ c ≤ r.2) ↔ inverted = false

/-- A key is made up as the pieces of a pattern say. -/
inductive Accepts : List Piece → Bytes → Prop
  | nil : Accepts [] []
  | many {ps : List Piece} {rest : Bytes} (skipped : Bytes) (h : Accepts ps rest) :
      Accepts (.many :: ps) (skipped ++ rest)
  | byte {p : Piece} {ps : List Piece} {c : UInt8} {rest : Bytes} (hc : p.Allows c)
      (h : Accepts ps rest) : Accepts (p :: ps) (c :: rest)

/-- A key matches a pattern. -/
def Matches (pattern key : Bytes) : Prop := Accepts (pieces pattern) key

/-! ### The pattern of a prefix -/

/-- Bytes that begin something else than themselves in a pattern. -/
def isSpecial (b : UInt8) : Bool := b = 42 || b = 63 || b = 91 || b = 92

theorem pieces_plain {b : UInt8} (h : isSpecial b = false) (rest : Bytes) :
    pieces (b :: rest) = .only b :: pieces rest := by
  simp only [isSpecial, Bool.or_eq_false_iff, decide_eq_false_iff_not] at h
  obtain ⟨⟨⟨h42, h63⟩, h91⟩, h92⟩ := h
  rw [pieces.eq_def]
  split <;> simp_all

theorem pieces_escaped (b : UInt8) (rest : Bytes) :
    pieces (92 :: b :: rest) = .only b :: pieces rest := by
  rw [pieces]

theorem pieces_append_plain {bs : Bytes} (h : ∀ b ∈ bs, isSpecial b = false) (rest : Bytes) :
    pieces (bs ++ rest) = bs.map .only ++ pieces rest := by
  induction bs with
  | nil => rfl
  | cons b bs ih =>
    obtain ⟨hb, hbs⟩ := List.forall_mem_cons.1 h
    rw [List.cons_append, pieces_plain hb, ih hbs, List.map_cons, List.cons_append]

/-- A character that is not escaped has no special byte. -/
theorem isSpecial_of_mem_utf8EncodeChar {c : Char} (hc : isGlob c = false) {b : UInt8}
    (h : b ∈ String.utf8EncodeChar c) : isSpecial b = false := by
  by_cases hwide : 0x7f < c.toNat
  · have hle := Text.le_of_mem_utf8EncodeChar hwide h
    have hne (d : UInt8) (hd : ¬0x80 ≤ d) : b ≠ d := by
      rintro rfl
      exact hd hle
    simp [isSpecial, hne 42 (by decide), hne 63 (by decide), hne 91 (by decide),
      hne 92 (by decide)]
  · rw [Text.utf8EncodeChar_ascii (Nat.le_of_not_lt hwide), List.mem_singleton] at h
    have hne (d : Char) (hsmall : d.toNat < 256) (hd : isGlob d = true) :
        b ≠ UInt8.ofNat d.toNat := by
      rw [h]
      intro heq
      have hnat := congrArg UInt8.toNat heq
      rw [UInt8.toNat_ofNat', UInt8.toNat_ofNat', Nat.mod_eq_of_lt (by omega),
        Nat.mod_eq_of_lt hsmall] at hnat
      rw [Char.toNat_inj.1 hnat, hd] at hc
      cases hc
    simpa [isSpecial] using ⟨⟨⟨hne '*' (by decide) rfl, hne '?' (by decide) rfl⟩,
      hne '[' (by decide) rfl⟩, hne '\\' (by decide) rfl⟩

/-- How a character stands in the pattern of a prefix. -/
def escaped (c : Char) : List Char := if isGlob c then ['\\', c] else [c]

theorem pieces_escaped_append (c : Char) (rest : Bytes) :
    pieces ((escaped c).flatMap String.utf8EncodeChar ++ rest)
      = (String.utf8EncodeChar c).map .only ++ pieces rest := by
  cases hc : isGlob c with
  | true =>
    obtain rfl | rfl | rfl | rfl | rfl : c = '*' ∨ c = '?' ∨ c = '[' ∨ c = ']' ∨ c = '\\' := by
      simpa [isGlob] using hc
    all_goals exact pieces_escaped _ rest
  | false =>
    rw [escaped, hc, if_neg Bool.false_ne_true, List.flatMap_singleton]
    exact pieces_append_plain (fun b hb => isSpecial_of_mem_utf8EncodeChar hc hb) rest

/-- **The pattern of a prefix** says nothing but the bytes of the prefix, and then anything. -/
theorem pieces_escapeGlob (start : String) :
    pieces (Text.utf8 (escapeGlob start ++ "*")) = (Text.utf8 start).map .only ++ [.many] := by
  have hpattern : Text.utf8 (escapeGlob start ++ "*")
      = (start.toList.flatMap escaped).flatMap String.utf8EncodeChar ++ [42] := by
    rw [Text.utf8, String.toList_append, List.flatMap_append, escapeGlob, String.toList_ofList]
    rfl
  rw [hpattern, Text.utf8]
  induction start.toList with
  | nil => rfl
  | cons c cs ih =>
    rw [List.flatMap_cons, List.flatMap_append, List.append_assoc, pieces_escaped_append, ih,
      List.flatMap_cons, List.map_append, List.append_assoc]

/-! ### What matches it -/

theorem accepts_many (key : Bytes) : Accepts [.many] key := by
  have h := Accepts.many key .nil
  rwa [List.append_nil] at h

theorem accepts_only_iff {bs key : Bytes} :
    Accepts (bs.map .only ++ [.many]) key ↔ bs <+: key := by
  induction bs generalizing key with
  | nil => exact ⟨fun _ => List.nil_prefix, fun _ => accepts_many key⟩
  | cons b bs ih =>
    rw [List.map_cons, List.cons_append]
    constructor
    · intro h
      cases h with
      | byte hc h =>
        obtain rfl : _ = b := hc
        exact List.cons_prefix_cons.2 ⟨rfl, ih.1 h⟩
    · intro h
      obtain ⟨rest, rfl⟩ := h
      exact .byte rfl (ih.2 (List.prefix_append bs rest))

/-- **The keys that match the pattern of a prefix are those that begin with it.** -/
theorem matches_escapeGlob_iff {start key : String} :
    Matches (Text.utf8 (escapeGlob start ++ "*")) (Text.utf8 key)
      ↔ start.toList <+: key.toList := by
  rw [Matches, pieces_escapeGlob, accepts_only_iff, Text.utf8_prefix_iff]

/-- The pattern of a prefix of special characters, and one of their other uses. -/
example : pieces (Text.utf8 "\\[*?") = [.only 91, .many, .one] := by decide

end ObjectStorage.Redis.Pattern

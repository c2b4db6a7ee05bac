/-!
# Blanks at the ends of a text

User supplied paths, roots and scheme names are trimmed before they are read.  What counts as
blank is the Unicode property `White_Space`: twenty-five characters, not only the ASCII ones.

* `isBlank` — the property, as a decidable test;
* `trimStart`, `trimEnd`, `trim` — drop the blanks at one end or at both;
* `trim_eq_self` — a text that neither starts nor ends with a blank is left alone.
-/

namespace ObjectStorage.Text

/-- The characters with the Unicode property `White_Space`. -/
def isBlank (c : Char) : Bool :=
  let n := c.toNat
  (0x09 ≤ n && n ≤ 0x0D) || n == 0x20 || n == 0x85 || n == 0xA0 || n == 0x1680
    || (0x2000 ≤ n && n ≤ 0x200A) || n == 0x2028 || n == 0x2029 || n == 0x202F
    || n == 0x205F || n == 0x3000

/-- Drop the blanks at the start. -/
def trimStart (cs : List Char) : List Char := cs.dropWhile isBlank

/-- Drop the blanks at the end. -/
def trimEnd (cs : List Char) : List Char := (cs.reverse.dropWhile isBlank).reverse

/-- Drop the blanks at both ends; blanks inside stay. -/
def trim (cs : List Char) : List Char := trimEnd (trimStart cs)

@[simp] theorem isBlank_slash : isBlank '/' = false := rfl

@[simp] theorem trim_nil : trim [] = [] := rfl

theorem trimStart_eq_self {cs : List Char} (h : ∀ c, cs.head? = some c → isBlank c = false) :
    trimStart cs = cs := by
  cases cs with
  | nil => rfl
  | cons c cs => simp [trimStart, h c rfl]

theorem trimEnd_eq_self {cs : List Char} (h : ∀ c, cs.getLast? = some c → isBlank c = false) :
    trimEnd cs = cs := by
  unfold trimEnd
  have h' : ∀ c, cs.reverse.head? = some c → isBlank c = false := by
    intro c hc
    exact h c (by simpa using hc)
  rw [← trimStart, trimStart_eq_self h', List.reverse_reverse]

/-- A text with no blank at either end is left alone. -/
theorem trim_eq_self {cs : List Char} (hs : ∀ c, cs.head? = some c → isBlank c = false)
    (he : ∀ c, cs.getLast? = some c → isBlank c = false) : trim cs = cs := by
  rw [trim, trimStart_eq_self hs, trimEnd_eq_self he]

end ObjectStorage.Text

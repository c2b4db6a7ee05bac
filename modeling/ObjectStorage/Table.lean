/-!
# Ordered tables

A table holds values under text keys, in the order of the keys.  That order is the one of the
bytes of the keys in UTF-8, which is also the one of their characters.

* `Table` — a table; that its keys increase is part of the type;
* `Table.get?`, `Table.insert`, `Table.erase` — one key at a time;
* `Table.scan` — the keys with a given start, read off from where they begin;
* `get?_insert`, `get?_erase` — what a table holds after a change.
-/

namespace ObjectStorage

/-- Values under text keys, in strictly increasing order of the keys. -/
structure Table (α : Type) where
  entries : List (String × α)
  sorted : entries.Pairwise fun a b => a.1 < b.1

namespace Table

variable {α : Type}

/-- Put a value into an ordered list of entries. -/
def insertEntry (key : String) (value : α) : List (String × α) → List (String × α)
  | [] => [(key, value)]
  | (k, v) :: rest =>
    if key < k then (key, value) :: (k, v) :: rest
    else if key = k then (key, value) :: rest
    else (k, v) :: insertEntry key value rest

theorem mem_insertEntry {key : String} {value : α} {l : List (String × α)} {x : String × α}
    (h : x ∈ insertEntry key value l) : x = (key, value) ∨ x ∈ l := by
  induction l with
  | nil => exact .inl (by simpa [insertEntry] using h)
  | cons kv l ih =>
    obtain ⟨k, v⟩ := kv
    simp only [insertEntry] at h
    split at h
    · rcases List.mem_cons.1 h with h | h
      · exact .inl h
      · exact .inr h
    · split at h
      · rcases List.mem_cons.1 h with h | h
        · exact .inl h
        · exact .inr (List.mem_cons_of_mem _ h)
      · rcases List.mem_cons.1 h with h | h
        · exact .inr (h ▸ List.mem_cons_self)
        · exact (ih h).imp id (List.mem_cons_of_mem _)

theorem lt_of_not_lt_of_ne {a b : String} (h : ¬a < b) (h' : a ≠ b) : b < a := by
  have hle : b ≤ a := String.not_lt.1 h
  by_cases hlt : b < a
  · exact hlt
  · exact absurd (String.le_antisymm (String.not_lt.1 hlt) hle) h'

theorem sorted_insertEntry (key : String) (value : α) {l : List (String × α)}
    (h : l.Pairwise fun a b => a.1 < b.1) :
    (insertEntry key value l).Pairwise fun a b => a.1 < b.1 := by
  induction l with
  | nil => simp [insertEntry]
  | cons kv l ih =>
    obtain ⟨k, v⟩ := kv
    obtain ⟨hk, hl⟩ := List.pairwise_cons.1 h
    simp only [insertEntry]
    split
    · next hlt =>
      refine List.pairwise_cons.2 ⟨fun x hx => ?_, h⟩
      rcases List.mem_cons.1 hx with rfl | hx
      · exact hlt
      · exact String.lt_trans hlt (hk x hx)
    · next hlt =>
      split
      · next heq => exact List.pairwise_cons.2 ⟨fun x hx => heq ▸ hk x hx, hl⟩
      · next hne =>
        refine List.pairwise_cons.2 ⟨fun x hx => ?_, ih hl⟩
        rcases mem_insertEntry hx with rfl | hx
        · exact lt_of_not_lt_of_ne hlt hne
        · exact hk x hx

/-- The table without entries. -/
def empty : Table α := ⟨[], .nil⟩

instance : Inhabited (Table α) := ⟨empty⟩

/-- The value under a key. -/
def get? (t : Table α) (key : String) : Option α := t.entries.lookup key

/-- Put a value under a key, in place of an earlier one. -/
def insert (t : Table α) (key : String) (value : α) : Table α :=
  ⟨insertEntry key value t.entries, sorted_insertEntry key value t.sorted⟩

/-- Remove a key and its value. -/
def erase (t : Table α) (key : String) : Table α :=
  ⟨t.entries.filter fun kv => kv.1 ≠ key, t.sorted.filter _⟩

/-- The keys in increasing order. -/
def keys (t : Table α) : List String := t.entries.map (·.1)

/-- The table that pairs of keys and values give one after the other. -/
def ofList (l : List (String × α)) : Table α :=
  l.foldl (fun t kv => t.insert kv.1 kv.2) empty

/-- Does a text begin with another one? -/
def startsWith (start s : String) : Bool := start.toList.isPrefixOf s.toList

/-- The keys that begin with a text: from the first key that is not below it for as long as they
do. -/
def scan (t : Table α) (start : String) : List String :=
  (t.keys.dropWhile (· < start)).takeWhile (startsWith start)

/-! ### What a table holds after a change -/

theorem lookup_insertEntry (key : String) (value : α) (l : List (String × α)) (k : String) :
    (insertEntry key value l).lookup k = if k = key then some value else l.lookup k := by
  induction l with
  | nil =>
    by_cases h : k = key
    · simp [insertEntry, h]
    · have : (k == key) = false := by simp [h]
      simp [insertEntry, List.lookup_cons, this, h]
  | cons kv l ih =>
    obtain ⟨a, v⟩ := kv
    simp only [insertEntry]
    by_cases h : k = key
    · subst h
      split
      · simp
      · split
        · simp
        · next hne =>
          have : (k == a) = false := by simp [hne]
          simp [List.lookup_cons, this, ih]
    · have hk : (k == key) = false := by simp [h]
      split
      · simp [List.lookup_cons, hk]
      · split
        · next heq =>
          subst heq
          simp [List.lookup_cons, hk]
        · simp [List.lookup_cons, ih, h]

@[simp] theorem get?_empty (key : String) : (empty : Table α).get? key = none := rfl

/-- After a change the key has its new value, and the other keys have what they had. -/
theorem get?_insert (t : Table α) (key : String) (value : α) (k : String) :
    (t.insert key value).get? k = if k = key then some value else t.get? k :=
  lookup_insertEntry key value t.entries k

theorem lookup_filter_ne {κ : Type} [DecidableEq κ] (l : List (κ × α)) (key k : κ) :
    (l.filter fun kv => kv.1 ≠ key).lookup k = if k = key then none else l.lookup k := by
  induction l with
  | nil => simp
  | cons kv l ih =>
    obtain ⟨a, v⟩ := kv
    by_cases ha : a = key
    · subst ha
      rw [List.filter_cons_of_neg (by simp), ih]
      by_cases hk : k = a
      · simp [hk]
      · have : (k == a) = false := by simp [hk]
        simp [hk, List.lookup_cons, this]
    · rw [List.filter_cons_of_pos (by simpa using ha), List.lookup_cons, List.lookup_cons, ih]
      by_cases hk : k = key
      · subst hk
        have : (k == a) = false := by simp [Ne.symm ha]
        simp [this]
      · simp [hk]

/-- After a removal the key has no value, and the other keys have what they had. -/
theorem get?_erase (t : Table α) (key k : String) :
    (t.erase key).get? k = if k = key then none else t.get? k :=
  lookup_filter_ne t.entries key k

/-- A table is known by the entries it holds. -/
theorem ext_of_mem {t t' : Table α} (h : ∀ x, x ∈ t.entries ↔ x ∈ t'.entries) : t = t' := by
  have hne {a b : String × α} (hlt : a.1 < b.1) : a ≠ b := by
    rintro rfl
    exact String.lt_irrefl a.1 hlt
  have hnodup (t : Table α) : t.entries.Nodup := t.sorted.imp hne
  have hperm : t.entries.Perm t'.entries :=
    (List.perm_ext_iff_of_nodup (hnodup t) (hnodup t')).2 h
  have hentries : t.entries = t'.entries :=
    hperm.eq_of_pairwise (fun x y _ _ hxy hyx => absurd (String.lt_trans hxy hyx)
      (String.lt_irrefl _)) t.sorted t'.sorted
  cases t
  cases t'
  rw [mk.injEq]
  exact hentries

/-! ### What a table of a list holds -/

/-- Where the keys tell the values, an entry that is put in takes the place of no other one. -/
theorem mem_insertEntry_iff {f : String → α} {key : String} {value : α} {l : List (String × α)}
    (hl : ∀ y ∈ l, y.2 = f y.1) (hvalue : value = f key) {x : String × α} :
    x ∈ insertEntry key value l ↔ x = (key, value) ∨ x ∈ l := by
  refine ⟨mem_insertEntry, fun h => ?_⟩
  induction l with
  | nil =>
    rcases h with rfl | h
    · exact List.mem_singleton_self _
    · exact absurd h List.not_mem_nil
  | cons kv l ih =>
    obtain ⟨k, v⟩ := kv
    have hkv : v = f k := hl (k, v) List.mem_cons_self
    rw [insertEntry]
    split
    · exact List.mem_cons.2 h
    · split
      · next heq =>
        subst heq
        rw [hvalue, ← hkv] at h ⊢
        rcases h with rfl | h
        · exact List.mem_cons_self
        · exact h
      · rw [List.mem_cons]
        rcases h with h | h
        · exact .inr (ih (fun y hy => hl y (List.mem_cons_of_mem _ hy)) (.inl h))
        · rcases List.mem_cons.1 h with h | h
          · exact .inl h
          · exact .inr (ih (fun y hy => hl y (List.mem_cons_of_mem _ hy)) (.inr h))

theorem mem_foldl_insert_iff {f : String → α} {l : List (String × α)}
    (hl : ∀ y ∈ l, y.2 = f y.1) {t : Table α} (ht : ∀ y ∈ t.entries, y.2 = f y.1)
    {x : String × α} :
    x ∈ (l.foldl (fun t kv => t.insert kv.1 kv.2) t).entries ↔ x ∈ l ∨ x ∈ t.entries := by
  induction l generalizing t with
  | nil => simp
  | cons kv l ih =>
    obtain ⟨k, v⟩ := kv
    have hkv : v = f k := hl (k, v) List.mem_cons_self
    have hinsert : ∀ {y}, y ∈ (t.insert k v).entries ↔ y = (k, v) ∨ y ∈ t.entries :=
      mem_insertEntry_iff ht hkv
    have hnext : ∀ y ∈ (t.insert k v).entries, y.2 = f y.1 := by
      intro y hy
      rcases hinsert.1 hy with rfl | hy
      · exact hkv
      · exact ht y hy
    rw [List.foldl_cons, ih (fun y hy => hl y (List.mem_cons_of_mem _ hy)) hnext, hinsert,
      List.mem_cons, ← or_assoc, or_comm (a := x ∈ l)]

/-- Where the keys tell the values, a table holds the pairs that it was made of. -/
theorem mem_ofList_iff {f : String → α} {l : List (String × α)}
    (hl : ∀ y ∈ l, y.2 = f y.1) {x : String × α} : x ∈ (ofList l).entries ↔ x ∈ l := by
  have hempty : ∀ y ∈ (empty : Table α).entries, y.2 = f y.1 := fun y hy =>
    absurd hy List.not_mem_nil
  rw [ofList, mem_foldl_insert_iff hl hempty]
  exact or_iff_left List.not_mem_nil

end Table

end ObjectStorage

/-!
# Keyed tables

A `Table` holds at most one row for each key.  Its rows have an order, the order in
which a scan meets them; nothing that is asked of a table by key depends on it, and
two tables whose rows are permutations of each other hold the same.
-/

namespace PickupLedger

/-- **Rows under distinct keys**, in the order of a scan. -/
structure Table (κ ρ : Type) where
  entries : List (κ × ρ)
  nodup : (entries.map Prod.fst).Nodup

namespace Table

variable {κ ρ : Type} [DecidableEq κ]

/-- A table without rows. -/
def empty : Table κ ρ := ⟨[], List.nodup_nil⟩

instance : Inhabited (Table κ ρ) := ⟨empty⟩

/-- The rows in the order of a scan. -/
def rows (t : Table κ ρ) : List ρ := t.entries.map Prod.snd

/-- The row under a key. -/
def get? (t : Table κ ρ) (k : κ) : Option ρ :=
  (t.entries.find? fun e => e.1 = k).map Prod.snd

/-- There is a row under the key. -/
def contains (t : Table κ ρ) (k : κ) : Bool := (t.get? k).isSome

theorem contains_of_none {t : Table κ ρ} {k : κ} (h : t.get? k = none) : t.contains k = false := by
  rw [contains, h]
  rfl

theorem get?_of_not_contains {t : Table κ ρ} {k : κ} (h : ¬ t.contains k = true) :
    t.get? k = none := by
  rwa [contains, Bool.not_eq_true, Option.isSome_eq_false_iff, Option.isNone_iff_eq_none] at h

/-- The entries with a row put under a key: in place of the one that is there, or
after all others. -/
def putEntry (k : κ) (r : ρ) : List (κ × ρ) → List (κ × ρ)
  | [] => [(k, r)]
  | e :: es => if e.1 = k then (k, r) :: es else e :: putEntry k r es

theorem mem_keys_putEntry {k k' : κ} {r : ρ} {es : List (κ × ρ)} :
    k' ∈ (putEntry k r es).map Prod.fst ↔ k' = k ∨ k' ∈ es.map Prod.fst := by
  induction es with
  | nil => simp [putEntry]
  | cons e es ih =>
    simp only [putEntry]
    split
    · next h => simp [h]
    · simp only [List.map_cons, List.mem_cons, ih]
      constructor
      · rintro (h | h | h) <;> simp_all
      · rintro (h | h | h) <;> simp_all

theorem nodup_putEntry {k : κ} {r : ρ} {es : List (κ × ρ)} (h : (es.map Prod.fst).Nodup) :
    ((putEntry k r es).map Prod.fst).Nodup := by
  induction es with
  | nil => simp [putEntry]
  | cons e es ih =>
    simp only [List.map_cons, List.nodup_cons] at h
    simp only [putEntry]
    split
    · next he => simpa [← he] using h
    · next he =>
      simp only [List.map_cons, List.nodup_cons]
      refine ⟨fun hm => ?_, ih h.2⟩
      rcases mem_keys_putEntry.1 hm with hk | hk
      · exact he hk
      · exact h.1 hk

/-- **The table with a row under a key**, replacing the one that was there. -/
def put (t : Table κ ρ) (k : κ) (r : ρ) : Table κ ρ :=
  ⟨putEntry k r t.entries, nodup_putEntry t.nodup⟩

/-- **The table without the row under a key.** -/
def erase (t : Table κ ρ) (k : κ) : Table κ ρ :=
  ⟨t.entries.filter fun e => e.1 ≠ k, t.nodup.sublist (List.filter_sublist.map _)⟩

/-- The table without the rows that fail a test. -/
def keep (t : Table κ ρ) (p : κ → ρ → Bool) : Table κ ρ :=
  ⟨t.entries.filter fun e => p e.1 e.2, t.nodup.sublist (List.filter_sublist.map _)⟩

/-- A table of rows under their own keys; a later row replaces an earlier one. -/
def ofRows (key : ρ → κ) (rs : List ρ) : Table κ ρ :=
  rs.foldl (fun t r => t.put (key r) r) empty

/-! ## What the operations do, key by key -/

omit [DecidableEq κ] in
@[ext] theorem ext {s t : Table κ ρ} (h : s.entries = t.entries) : s = t := by
  cases s; cases t; simp_all

omit [DecidableEq κ] in
theorem keep_eq_self {t : Table κ ρ} {p : κ → ρ → Bool} (h : ∀ e ∈ t.entries, p e.1 e.2 = true) :
    t.keep p = t :=
  Table.ext (List.filter_eq_self.mpr h)

omit [DecidableEq κ] in
theorem keep_eq_empty {t : Table κ ρ} {p : κ → ρ → Bool} (h : ∀ e ∈ t.entries, p e.1 e.2 = false) :
    t.keep p = empty :=
  Table.ext (List.filter_eq_nil_iff.mpr fun e he => by simp [h e he])

@[simp] theorem get?_empty (k : κ) : (empty : Table κ ρ).get? k = none := rfl

theorem get?_put (t : Table κ ρ) (k k' : κ) (r : ρ) :
    (t.put k r).get? k' = if k' = k then some r else t.get? k' := by
  obtain ⟨es, hes⟩ := t
  simp only [get?, put]
  clear hes
  induction es with
  | nil => by_cases h : k' = k <;> simp [putEntry, h, eq_comm]
  | cons e es ih =>
    simp only [putEntry]
    by_cases he : e.1 = k
    · by_cases h : k' = k
      · simp [he, h]
      · have : ¬ k = k' := fun e => h e.symm
        simp [he, h, this]
    · by_cases h : e.1 = k'
      · have : ¬ k' = k := fun e' => he (h.trans e')
        simp [h, this]
      · simpa [he, h] using ih

@[simp] theorem get?_put_self (t : Table κ ρ) (k : κ) (r : ρ) : (t.put k r).get? k = some r := by
  simp [get?_put]

theorem get?_erase (t : Table κ ρ) (k k' : κ) :
    (t.erase k).get? k' = if k' = k then none else t.get? k' := by
  obtain ⟨es, hes⟩ := t
  simp only [get?, erase]
  clear hes
  induction es with
  | nil => simp
  | cons e es ih =>
    by_cases he : e.1 = k
    · simp only [he, ne_eq, not_true_eq_false, decide_false, Bool.false_eq_true,
        not_false_eq_true, List.filter_cons_of_neg, ih]
      by_cases h : k' = k
      · simp [h]
      · have : ¬ k = k' := fun e => h e.symm
        simp [h, he, this]
    · by_cases h : e.1 = k'
      · have : ¬ k' = k := fun e' => he (h.trans e')
        simp [h, this]
      · simpa [he, h] using ih

/-- There is nothing to take from under a key that is free. -/
theorem erase_of_none {t : Table κ ρ} {k : κ} (h : t.get? k = none) : t.erase k = t := by
  rw [get?, Option.map_eq_none_iff, List.find?_eq_none] at h
  refine ext (List.filter_eq_self.mpr fun e he => ?_)
  simpa using h e he

/-- A row under a key that is free comes after all others. -/
theorem entries_put_of_none {t : Table κ ρ} {k : κ} (h : t.get? k = none) (r : ρ) :
    (t.put k r).entries = t.entries ++ [(k, r)] := by
  obtain ⟨es, hes⟩ := t
  simp only [get?, Option.map_eq_none_iff] at h
  simp only [put]
  clear hes
  induction es with
  | nil => rfl
  | cons e es ih =>
    rw [List.find?_eq_none] at h
    have hne : ¬ e.1 = k := by simpa using h e List.mem_cons_self
    have hrest : es.find? (fun e => e.1 = k) = none :=
      List.find?_eq_none.mpr fun e' he' => h e' (List.mem_cons_of_mem _ he')
    rw [putEntry, if_neg hne, ih hrest]
    rfl

/-- A row under a key that is taken comes in place of the one that is there. -/
theorem entries_put_of_entries {t : Table κ ρ} {before after : List (κ × ρ)} {k : κ} {r : ρ}
    (h : t.entries = before ++ (k, r) :: after) (r' : ρ) :
    (t.put k r').entries = before ++ (k, r') :: after := by
  have hnodup := t.nodup
  rw [h, List.map_append, List.nodup_append] at hnodup
  have hne : ∀ e ∈ before, e.1 ≠ k := fun e he =>
    hnodup.2.2 e.1 (List.mem_map_of_mem he) k List.mem_cons_self
  show putEntry k r' t.entries = _
  rw [h]
  clear h hnodup
  induction before with
  | nil => exact if_pos rfl
  | cons e es ih =>
    rw [List.cons_append, putEntry, if_neg (hne e List.mem_cons_self),
      ih fun e' he' => hne e' (List.mem_cons_of_mem _ he')]
    rfl

/-- The row under a key is one of the entries. -/
theorem get?_eq_some_iff {t : Table κ ρ} {k : κ} {r : ρ} :
    t.get? k = some r ↔ (k, r) ∈ t.entries := by
  obtain ⟨es, hes⟩ := t
  simp only [get?]
  induction es with
  | nil => simp
  | cons e es ih =>
    simp only [List.map_cons, List.nodup_cons] at hes
    by_cases he : e.1 = k
    · subst he
      simp only [decide_true, List.find?_cons_of_pos, Option.map_some, Option.some.injEq,
        List.mem_cons]
      constructor
      · rintro rfl; exact .inl rfl
      · rintro (h | h)
        · exact (congrArg Prod.snd h).symm
        · exact absurd (List.mem_map_of_mem (f := Prod.fst) h) hes.1
    · have hne : (k, r) ≠ e := fun h => he (congrArg Prod.fst h).symm
      simpa [he, hne] using ih hes.2

end Table
end PickupLedger

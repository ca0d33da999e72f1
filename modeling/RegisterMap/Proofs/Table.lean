import Mathlib.Data.List.Nodup
import RegisterMap.Table

/-!
Tables as finite maps: after `insertWith` or `unionWith` a lookup is given by the lookups
before it, combined through `Option.merge`, and tables with the same lookups are equal
(`Table.ext_find?`).
-/

namespace RegisterMap

namespace Table

variable {α : Type}

def lookup (l : List (Bytes × α)) (k : Bytes) : Option α := (l.find? (·.1 == k)).map (·.2)

theorem find?_eq_lookup (t : Table α) (k : Bytes) : t.find? k = lookup t.entries k := rfl

@[simp] theorem lookup_nil (k : Bytes) : lookup ([] : List (Bytes × α)) k = none := rfl

theorem lookup_cons (k' : Bytes) (v' : α) (rest : List (Bytes × α)) (k : Bytes) :
    lookup ((k', v') :: rest) k = if k' = k then some v' else lookup rest k := by
  by_cases h : k' = k <;> simp [lookup, h]

theorem lookup_eq_none_of_not_mem {l : List (Bytes × α)} {k : Bytes} (h : k ∉ l.map (·.1)) :
    lookup l k = none := by
  induction l with
  | nil => rfl
  | cons e rest ih =>
    simp only [List.map_cons, List.mem_cons, not_or] at h
    rw [lookup_cons, if_neg (Ne.symm h.1)]
    exact ih h.2

theorem isSome_lookup {l : List (Bytes × α)} {k : Bytes} : (lookup l k).isSome ↔ k ∈ l.map (·.1) := by
  induction l with
  | nil => simp
  | cons e rest ih =>
    obtain ⟨k', v'⟩ := e
    rw [lookup_cons]
    by_cases h : k' = k
    · simp [h]
    · simp [h, Ne.symm h, ih]

theorem lookup_of_mem {l : List (Bytes × α)} (hu : (l.map (·.1)).Nodup) {k : Bytes} {v : α}
    (h : (k, v) ∈ l) : lookup l k = some v := by
  induction l with
  | nil => simp at h
  | cons e rest ih =>
    obtain ⟨k', v'⟩ := e
    simp only [List.map_cons, List.nodup_cons] at hu
    rw [lookup_cons]
    rcases List.mem_cons.1 h with he | he
    · simp_all
    · -- the first name comes once, so it is not `k`
      have hk : k' ≠ k := fun hk => hu.1 (hk ▸ List.mem_map_of_mem (f := (·.1)) he)
      rw [if_neg hk]
      exact ih hu.2 he

theorem lookup_eq_none_of_lt {l : List (Bytes × α)} {k : Bytes} (h : ∀ x ∈ l.map (·.1), Bytes.lt k x) :
    lookup l k = none :=
  lookup_eq_none_of_not_mem fun hk => Bytes.ne_of_lt (h k hk) rfl

theorem lookup_eq_none_of_lt_first {k' : Bytes} {v' : α} {rest : List (Bytes × α)}
    (hrest : ∀ y ∈ rest.map (·.1), Bytes.lt k' y) {k : Bytes} (hk : Bytes.lt k k') :
    lookup ((k', v') :: rest) k = none := by
  apply lookup_eq_none_of_lt
  simp only [List.map_cons, List.mem_cons, forall_eq_or_imp]
  exact ⟨hk, fun y hy => Bytes.lt_trans hk (hrest y hy)⟩

theorem lookup_insertWithInto (f : α → α → α) (k : Bytes) (v : α) {l : List (Bytes × α)}
    (hl : Ascending l) (x : Bytes) :
    lookup (insertWithInto f k v l) x =
      if k = x then Option.merge f (lookup l x) (some v) else lookup l x := by
  induction l with
  | nil => by_cases h : k = x <;> simp [insertWithInto, lookup_cons, h]
  | cons e rest ih =>
    obtain ⟨k', v'⟩ := e
    simp only [Ascending, List.map_cons, List.pairwise_cons] at hl
    simp only [insertWithInto]
    split
    case isTrue hk =>
      have : k = k' := by simpa using hk
      subst this
      by_cases h : k = x <;> simp [lookup_cons, h]
    case isFalse hk =>
      have hne : k ≠ k' := by simpa using hk
      split
      case isTrue hlt =>
        by_cases h : k = x
        · subst h
          -- every name of the list comes after `k`, so `k` was not there
          simp [lookup_cons, lookup_eq_none_of_lt_first hl.1 hlt]
        · rw [lookup_cons, if_neg h]
          simp [h]
      case isFalse hlt =>
        rw [lookup_cons, ih hl.2, lookup_cons]
        by_cases h : k' = x
        · subst h
          simp [hne]
        · simp [h]

/-! ### Tables -/

theorem nodup_keys (t : Table α) : t.keys.Nodup :=
  t.ascending.imp Bytes.ne_of_lt

theorem mem_keys_iff_isSome {t : Table α} {k : Bytes} : k ∈ t.keys ↔ (t.find? k).isSome :=
  isSome_lookup.symm

theorem find?_eq_none_of_not_mem {t : Table α} {k : Bytes} (h : k ∉ t.keys) : t.find? k = none :=
  lookup_eq_none_of_not_mem h

theorem find?_of_mem (t : Table α) {k : Bytes} {v : α} (h : (k, v) ∈ t.entries) :
    t.find? k = some v :=
  lookup_of_mem t.nodup_keys h

theorem find?_insertWith (t : Table α) (f : α → α → α) (k : Bytes) (v : α) (x : Bytes) :
    (t.insertWith f k v).find? x = if k = x then Option.merge f (t.find? x) (some v) else t.find? x :=
  lookup_insertWithInto f k v t.ascending x

/-- Inserting entries with distinct names one by one, in any order: a name gets the value found
for it before, combined with its entry. -/
theorem find?_foldl_insertWith (f : α → α → α) {l : List (Bytes × α)} (hl : (l.map (·.1)).Nodup)
    (t : Table α) (x : Bytes) :
    (l.foldl (fun acc kv => acc.insertWith f kv.1 kv.2) t).find? x =
      Option.merge f (t.find? x) (lookup l x) := by
  induction l generalizing t with
  | nil =>
    rw [List.foldl_nil, lookup_nil]
    cases t.find? x <;> rfl
  | cons e rest ih =>
    obtain ⟨k, v⟩ := e
    simp only [List.map_cons, List.nodup_cons] at hl
    rw [List.foldl_cons, ih hl.2, find?_insertWith, lookup_cons]
    by_cases h : k = x
    · subst h
      -- the rest of the entries does not hold `k` again
      rw [lookup_eq_none_of_not_mem hl.1]
      simp
    · simp [h]

theorem find?_unionWith (t : Table α) (f : α → α → α) (u : Table α) (x : Bytes) :
    (t.unionWith f u).find? x = Option.merge f (t.find? x) (u.find? x) :=
  find?_foldl_insertWith f u.nodup_keys t x

/-- Unions with several tables in turn: a name gets the values found for it in those tables,
combined in the order of the tables. -/
theorem find?_foldl_unionWith (t : Table α) (f : α → α → α) (us : List (Table α)) (x : Bytes) :
    (us.foldl (fun acc u => acc.unionWith f u) t).find? x =
      (us.filterMap (·.find? x)).foldl (fun a v => Option.merge f a (some v)) (t.find? x) := by
  induction us generalizing t with
  | nil => rfl
  | cons u rest ih =>
    rw [List.foldl_cons, ih, find?_unionWith]
    cases hu : u.find? x <;> simp [hu]

/-- Entries in increasing order of name with the same lookups are the same entries: the first
names agree, since the smaller would be missing from the other list. -/
theorem eq_of_lookup {l m : List (Bytes × α)} (hl : Ascending l) (hm : Ascending m)
    (h : ∀ x, lookup l x = lookup m x) : l = m := by
  induction l generalizing m with
  | nil =>
    cases m with
    | nil => rfl
    | cons e rest =>
      obtain ⟨k, v⟩ := e
      have := h k
      simp [lookup_cons] at this
  | cons e rest ih =>
    obtain ⟨k, v⟩ := e
    cases m with
    | nil =>
      have := h k
      simp [lookup_cons] at this
    | cons e' rest' =>
      obtain ⟨k', v'⟩ := e'
      simp only [Ascending, List.map_cons, List.pairwise_cons] at hl hm
      have hkk : k = k' := by
        by_contra hne
        rcases Bytes.lt_or_gt_of_ne hne with hlt | hlt
        · have := h k
          rw [lookup_eq_none_of_lt_first hm.1 hlt, lookup_cons, if_pos rfl] at this
          simp at this
        · have := h k'
          rw [lookup_eq_none_of_lt_first hl.1 hlt, lookup_cons, if_pos rfl] at this
          simp at this
      subst hkk
      have hvv : v = v' := by simpa [lookup_cons] using h k
      subst hvv
      have hrest : rest = rest' := by
        refine ih hl.2 hm.2 fun x => ?_
        by_cases hx : k = x
        · subst hx
          rw [lookup_eq_none_of_lt hl.1, lookup_eq_none_of_lt hm.1]
        · simpa [lookup_cons, hx] using h x
      rw [hrest]

theorem ext_find? {t u : Table α} (h : ∀ x, t.find? x = u.find? x) : t = u := by
  obtain ⟨l, hl⟩ := t
  obtain ⟨m, hm⟩ := u
  obtain rfl := eq_of_lookup hl hm h
  rfl

end Table

end RegisterMap

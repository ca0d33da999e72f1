import RegisterMap.Text.Bytes

/-!
Tables from names to values: finite maps kept as lists of entries in strictly increasing order
of name, an order each table carries with it. Two tables with the same entries are equal, so
laws about merging tables can be stated as equations.
-/

namespace RegisterMap

namespace Bytes

theorem lt_irrefl (a : Bytes) : lt a a = false := by
  induction a with
  | nil => rfl
  | cons x xs ih => simp [lt, ih]

theorem lt_trans : ∀ {a b c : Bytes}, lt a b → lt b c → lt a c
  | [], _ :: _, _ :: _, _, _ => rfl
  | x :: xs, y :: ys, z :: zs, hab, hbc => by
    simp only [lt, Bool.or_eq_true, Bool.and_eq_true, beq_iff_eq, decide_eq_true_eq] at hab hbc ⊢
    rcases hab with hxy | ⟨rfl, hxs⟩ <;> rcases hbc with hyz | ⟨rfl, hys⟩
    · exact .inl (UInt8.lt_trans hxy hyz)
    · exact .inl hxy
    · exact .inl hyz
    · exact .inr ⟨rfl, lt_trans hxs hys⟩
  | [], [], _, h, _ | _ :: _, [], _, h, _ | _, _ :: _, [], _, h => by simp [lt] at h

theorem lt_or_gt_of_ne : ∀ {a b : Bytes}, a ≠ b → lt a b ∨ lt b a
  | [], [], h => absurd rfl h
  | [], _ :: _, _ => .inl rfl
  | _ :: _, [], _ => .inr rfl
  | x :: xs, y :: ys, h => by
    simp only [lt, Bool.or_eq_true, Bool.and_eq_true, beq_iff_eq, decide_eq_true_eq]
    by_cases hxy : x < y
    · exact .inl (.inl hxy)
    by_cases hyx : y < x
    · exact .inr (.inl hyx)
    have hx : x = y := by
      rw [UInt8.lt_iff_toNat_lt] at hxy hyx
      exact UInt8.toNat_inj.1 (by omega)
    subst hx
    have hne : xs ≠ ys := fun h' => h (h' ▸ rfl)
    rcases lt_or_gt_of_ne hne with h' | h'
    · exact .inl (.inr ⟨rfl, h'⟩)
    · exact .inr (.inr ⟨rfl, h'⟩)

theorem ne_of_lt {a b : Bytes} (h : lt a b) : a ≠ b := by
  rintro rfl
  simp [lt_irrefl] at h

end Bytes

namespace Table

def Ascending {α : Type} (l : List (Bytes × α)) : Prop := (l.map (·.1)).Pairwise fun a b => Bytes.lt a b

end Table

structure Table (α : Type) where
  entries : List (Bytes × α)
  ascending : Table.Ascending entries
  deriving Repr, DecidableEq

namespace Table

variable {α : Type}

def empty : Table α := ⟨[], List.Pairwise.nil⟩

def find? (t : Table α) (k : Bytes) : Option α := (t.entries.find? (·.1 == k)).map (·.2)

def keys (t : Table α) : List Bytes := t.entries.map (·.1)

/-- Puts `(k, v)` into entries ordered by name; an entry of the same name becomes
`(k, f old v)`. -/
def insertWithInto (f : α → α → α) (k : Bytes) (v : α) : List (Bytes × α) → List (Bytes × α)
  | [] => [(k, v)]
  | (k', v') :: rest =>
    if k == k' then (k, f v' v) :: rest
    else if Bytes.lt k k' then (k, v) :: (k', v') :: rest
    else (k', v') :: insertWithInto f k v rest

theorem mem_keys_insertWithInto (f : α → α → α) (k : Bytes) (v : α) (l : List (Bytes × α)) (x : Bytes) :
    x ∈ (insertWithInto f k v l).map (·.1) ↔ x = k ∨ x ∈ l.map (·.1) := by
  induction l with
  | nil => simp [insertWithInto]
  | cons e rest ih =>
    obtain ⟨k', v'⟩ := e
    simp only [insertWithInto]
    split
    · rename_i hk
      have : k = k' := by simpa using hk
      subst this
      simp
    · split <;> simp_all [or_left_comm]

theorem ascending_insertWithInto (f : α → α → α) (k : Bytes) (v : α) {l : List (Bytes × α)}
    (hl : Ascending l) : Ascending (insertWithInto f k v l) := by
  induction l with
  | nil => simp [insertWithInto, Ascending]
  | cons e rest ih =>
    obtain ⟨k', v'⟩ := e
    simp only [Ascending, List.map_cons, List.pairwise_cons] at hl ih ⊢
    simp only [insertWithInto]
    split
    case isTrue hk =>
      have : k = k' := by simpa using hk
      subst this
      simpa using hl
    case isFalse hk =>
      split
      case isTrue hlt =>
        simp only [List.map_cons, List.pairwise_cons, List.mem_cons, forall_eq_or_imp]
        exact ⟨⟨hlt, fun x hx => Bytes.lt_trans hlt (hl.1 x hx)⟩, hl⟩
      case isFalse hlt =>
        -- `k` is neither `k'` nor before it, so it comes after it
        have hgt : Bytes.lt k' k := by
          have hne : k ≠ k' := by simpa using hk
          simpa [hlt] using Bytes.lt_or_gt_of_ne hne
        simp only [List.map_cons, List.pairwise_cons, mem_keys_insertWithInto]
        refine ⟨fun x hx => ?_, ih hl.2⟩
        rcases hx with rfl | hx
        · exact hgt
        · exact hl.1 x hx

def insertWith (f : α → α → α) (k : Bytes) (v : α) (t : Table α) : Table α :=
  ⟨insertWithInto f k v t.entries, ascending_insertWithInto f k v t.ascending⟩

def insert (k : Bytes) (v : α) (t : Table α) : Table α := t.insertWith (fun _ w => w) k v

/-- A table from a list of entries; a later entry of a name combines with an earlier one
by `f`. -/
def ofListWith (f : α → α → α) (kvs : List (Bytes × α)) : Table α :=
  kvs.foldl (fun t kv => t.insertWith f kv.1 kv.2) empty

def unionWith (f : α → α → α) (t u : Table α) : Table α :=
  u.entries.foldl (fun acc kv => acc.insertWith f kv.1 kv.2) t

end Table

end RegisterMap

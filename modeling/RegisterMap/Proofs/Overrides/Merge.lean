import RegisterMap.Device
import RegisterMap.Proofs.Table

/-!
Merging override sets joins their tables name by name: lists are concatenated in set order, and
the documentation of a name is that of the last set with one. As tables with the same lookups
are equal, regrouping sets or adding an empty set changes nothing.
-/

namespace RegisterMap

namespace Overrides

theorem ext_find? {a b : Overrides}
    (hs : ∀ n, a.structs.find? n = b.structs.find? n)
    (hr : ∀ n, a.registers.find? n = b.registers.find? n)
    (hd : ∀ n, a.docs.find? n = b.docs.find? n) : a = b := by
  obtain ⟨s, r, d⟩ := a
  obtain ⟨s', r', d'⟩ := b
  obtain rfl := Table.ext_find? hs
  obtain rfl := Table.ext_find? hr
  obtain rfl := Table.ext_find? hd
  rfl

@[simp] theorem merge_empty (a : Overrides) : a.merge empty = a := rfl

theorem mergeAll_eq_foldl (sets : List (Option Overrides)) :
    mergeAll sets = (sets.filterMap id).foldl merge empty := by
  unfold mergeAll
  generalize empty = acc
  induction sets generalizing acc with
  | nil => rfl
  | cons s rest ih => cases s <;> simp [ih]

/-- Each table of a merge is the union of that table of the sets, whatever the other tables
hold. -/
theorem table_foldl_merge {α : Type} (proj : Overrides → Table α) (f : α → α → α)
    (hproj : ∀ a b, proj (a.merge b) = (proj a).unionWith f (proj b)) (os : List Overrides)
    (acc : Overrides) :
    proj (os.foldl merge acc) = (os.map proj).foldl (fun t u => t.unionWith f u) (proj acc) := by
  induction os generalizing acc with
  | nil => rfl
  | cons o rest ih => simp [ih, hproj]

section Table

variable {α : Type} (proj : Overrides → Table α) (f : α → α → α)
  (hproj : ∀ a b, proj (a.merge b) = (proj a).unionWith f (proj b)) (hempty : proj empty = Table.empty)
include hproj hempty

theorem find?_table_mergeAll (sets : List (Option Overrides)) (n : Bytes) :
    (proj (mergeAll sets)).find? n =
      ((sets.filterMap id).filterMap fun s => (proj s).find? n).foldl
        (fun a v => Option.merge f a (some v)) none := by
  rw [mergeAll_eq_foldl, table_foldl_merge proj f hproj, hempty,
    Table.find?_foldl_unionWith, List.filterMap_map]
  rfl

end Table

def joinFound {β : Type} : List (List β) → Option (List β)
  | [] => none
  | v :: vs => some (v ++ vs.flatten)

theorem foldl_merge_append {β : Type} (vs : List (List β)) (w : List β) :
    vs.foldl (fun a v => Option.merge (· ++ ·) a (some v)) (some w) = some (w ++ vs.flatten) := by
  induction vs generalizing w with
  | nil => simp
  | cons v rest ih =>
    rw [List.foldl_cons, show Option.merge (· ++ ·) (some w) (some v) = some (w ++ v) from rfl, ih]
    simp

theorem foldl_merge_eq_joinFound {β : Type} (vs : List (List β)) :
    vs.foldl (fun a v => Option.merge (· ++ ·) a (some v)) none = joinFound vs := by
  cases vs with
  | nil => rfl
  | cons v rest =>
    rw [List.foldl_cons, show Option.merge (· ++ ·) none (some v) = some v from rfl,
      foldl_merge_append]
    rfl

theorem foldl_merge_last {β : Type} (vs : List β) (a : Option β) :
    vs.foldl (fun a v => Option.merge (fun _ w => w) a (some v)) a = vs.getLast?.or a := by
  induction vs generalizing a with
  | nil => simp
  | cons v rest ih =>
    rw [List.foldl_cons, ih, List.getLast?_cons]
    cases a <;> cases rest.getLast? <;> rfl

theorem joinFound_getD {β : Type} (vs : List (List β)) : (joinFound vs).getD [] = vs.flatten := by
  cases vs <;> rfl

theorem joinFound_regroup {β : Type} (xs ys zs : List (List β)) :
    joinFound (xs ++ (joinFound ys).toList ++ zs) = joinFound (xs ++ ys ++ zs) := by
  cases ys with
  | nil => simp [joinFound]
  | cons y rest =>
    cases xs with
    | nil => simp [joinFound]
    | cons x xs => simp [joinFound]

theorem flatten_filterMap {β γ : Type} (g : β → Option (List γ)) (l : List β) :
    (l.filterMap g).flatten = l.flatMap fun b => (g b).getD [] := by
  induction l with
  | nil => rfl
  | cons b rest ih => cases h : g b <;> simp [h, ih]

section Lookups

variable (sets : List (Option Overrides))

theorem find?_structs_mergeAll (n : Bytes) :
    (mergeAll sets).structs.find? n = joinFound ((sets.filterMap id).filterMap (·.structs.find? n)) := by
  rw [find?_table_mergeAll (·.structs) _ (fun _ _ => rfl) rfl]
  exact foldl_merge_eq_joinFound _

theorem find?_registers_mergeAll (n : Bytes) :
    (mergeAll sets).registers.find? n =
      joinFound ((sets.filterMap id).filterMap (·.registers.find? n)) := by
  rw [find?_table_mergeAll (·.registers) _ (fun _ _ => rfl) rfl]
  exact foldl_merge_eq_joinFound _

theorem find?_docs_mergeAll (n : Bytes) :
    (mergeAll sets).docs.find? n = ((sets.filterMap id).filterMap (·.docs.find? n)).getLast? := by
  rw [find?_table_mergeAll (·.docs) _ (fun _ _ => rfl) rfl, foldl_merge_last,
    Option.or_none]

theorem structFields_mergeAll (n : Bytes) :
    (mergeAll sets).structFields n = (sets.filterMap id).flatMap (·.structFields n) := by
  rw [structFields, find?_structs_mergeAll, joinFound_getD, flatten_filterMap]
  rfl

theorem registerFields_mergeAll (n : Bytes) :
    (mergeAll sets).registerFields n = (sets.filterMap id).flatMap (·.registerFields n) := by
  rw [registerFields, find?_registers_mergeAll, joinFound_getD, flatten_filterMap]
  rfl

theorem doc_mergeAll (n : Bytes) :
    (mergeAll sets).doc n = (((sets.filterMap id).filterMap (·.docs.find? n)).getLast?).getD [] := by
  rw [doc, find?_docs_mergeAll]

end Lookups

theorem isSome_joinFound {β : Type} (vs : List (List β)) : (joinFound vs).isSome ↔ vs ≠ [] := by
  cases vs <;> simp [joinFound]

theorem mem_keys_of_joinFound {α β : Type} {t : Table (List β)} {os : List α} {g : α → Table (List β)}
    {n : Bytes} (ht : t.find? n = joinFound (os.filterMap fun s => (g s).find? n)) :
    n ∈ t.keys ↔ ∃ s ∈ os, n ∈ (g s).keys := by
  rw [Table.mem_keys_iff_isSome, ht, isSome_joinFound, Ne, List.filterMap_eq_nil_iff]
  simp [Table.mem_keys_iff_isSome, Option.isSome_iff_ne_none]

theorem filterMap_regroup {β : Type} (g : Overrides → Option β) (xs zs : List (Option Overrides))
    (m : Overrides) :
    ((xs ++ some m :: zs).filterMap id).filterMap g =
      (xs.filterMap id).filterMap g ++ (g m).toList ++ (zs.filterMap id).filterMap g := by
  cases hm : g m <;> simp [List.filterMap_append, hm]

theorem getLast?_regroup {β : Type} (xs ys zs : List β) :
    (xs ++ ys.getLast?.toList ++ zs).getLast? = (xs ++ ys ++ zs).getLast? := by
  cases hy : ys.getLast? <;> simp [List.getLast?_append, List.getLast?_cons, hy]

theorem mergeAll_regroup (xs ys zs : List (Option Overrides)) :
    mergeAll (xs ++ some (mergeAll ys) :: zs) = mergeAll (xs ++ ys ++ zs) := by
  apply ext_find?
  · intro n
    rw [find?_structs_mergeAll, find?_structs_mergeAll, filterMap_regroup, find?_structs_mergeAll,
      joinFound_regroup]
    simp [List.filterMap_append]
  · intro n
    rw [find?_registers_mergeAll, find?_registers_mergeAll, filterMap_regroup,
      find?_registers_mergeAll, joinFound_regroup]
    simp [List.filterMap_append]
  · intro n
    rw [find?_docs_mergeAll, find?_docs_mergeAll, filterMap_regroup, find?_docs_mergeAll,
      getLast?_regroup]
    simp [List.filterMap_append]

theorem mergeAll_none (xs ys : List (Option Overrides)) :
    mergeAll (xs ++ none :: ys) = mergeAll (xs ++ ys) := by
  simp [mergeAll_eq_foldl, List.filterMap_append]

theorem mergeAll_some_empty (xs ys : List (Option Overrides)) :
    mergeAll (xs ++ some empty :: ys) = mergeAll (xs ++ ys) := by
  simp [mergeAll_eq_foldl, List.filterMap_append]

/-- Merging is a union of tables: the field lists and bit field lists of a name are
concatenated in set order and the name is merged exactly when some set has it, the
documentation of a name is that of the last set that has it, the lookups of a merged set are
those of the sets joined the same way, and regrouping sets or adding a missing or an empty
set gives the same merged set. -/
theorem mergeAll_union (sets : List (Option Overrides)) :
    (∀ n, (mergeAll sets).structs.find? n =
        joinFound ((sets.filterMap id).filterMap (·.structs.find? n)) ∧
      (n ∈ (mergeAll sets).structs.keys ↔ ∃ s ∈ sets.filterMap id, n ∈ s.structs.keys)) ∧
    (∀ n, (mergeAll sets).registers.find? n =
        joinFound ((sets.filterMap id).filterMap (·.registers.find? n)) ∧
      (n ∈ (mergeAll sets).registers.keys ↔ ∃ s ∈ sets.filterMap id, n ∈ s.registers.keys)) ∧
    (∀ n, (mergeAll sets).docs.find? n = ((sets.filterMap id).filterMap (·.docs.find? n)).getLast?) ∧
    (∀ n, (mergeAll sets).structFields n = (sets.filterMap id).flatMap (·.structFields n)) ∧
    (∀ n, (mergeAll sets).registerFields n = (sets.filterMap id).flatMap (·.registerFields n)) ∧
    (∀ n, (mergeAll sets).doc n = (((sets.filterMap id).filterMap (·.docs.find? n)).getLast?).getD []) ∧
    (∀ xs ys zs, sets = xs ++ ys ++ zs → mergeAll (xs ++ some (mergeAll ys) :: zs) = mergeAll sets) ∧
    (∀ xs ys, sets = xs ++ ys →
      mergeAll (xs ++ none :: ys) = mergeAll sets ∧ mergeAll (xs ++ some empty :: ys) = mergeAll sets) := by
  refine ⟨fun n => ⟨find?_structs_mergeAll sets n,
      mem_keys_of_joinFound (find?_structs_mergeAll sets n)⟩,
    fun n => ⟨find?_registers_mergeAll sets n, mem_keys_of_joinFound (find?_registers_mergeAll sets n)⟩,
    find?_docs_mergeAll sets, structFields_mergeAll sets, registerFields_mergeAll sets,
    doc_mergeAll sets, ?_, ?_⟩
  · rintro xs ys zs rfl
    exact mergeAll_regroup xs ys zs
  · rintro xs ys rfl
    exact ⟨mergeAll_none xs ys, mergeAll_some_empty xs ys⟩

def blankDl0 : Overrides where
  structs := ⟨[(Bytes.ofString "Pds", [{ index := 4, name := Bytes.ofString "b", typeName := Bytes.ofString "B" }])],
    List.pairwise_singleton _ _⟩
  docs := ⟨[(Bytes.ofString "dl0_enable", [])], List.pairwise_singleton _ _⟩

/-- The curated set merged with `blankDl0`: the empty documentation hides the curated one, and
the added field comes after the curated field. -/
theorem mergeAll_union_hides_doc :
    (mergeAll [some builtin, none, some blankDl0]).doc (Bytes.ofString "dl0_enable") = [] ∧
    (mergeAll [some builtin, none, some blankDl0]).structFields (Bytes.ofString "Pds") =
      builtin.structFields (Bytes.ofString "Pds") ++ blankDl0.structFields (Bytes.ofString "Pds") := by
  obtain ⟨-, -, -, hfields, -, hdoc, -, -⟩ := mergeAll_union [some builtin, none, some blankDl0]
  refine ⟨?_, ?_⟩
  · rw [hdoc]
    decide
  · rw [hfields]
    rfl

end Overrides

end RegisterMap

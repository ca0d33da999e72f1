import Mathlib.Data.List.Induction
import Mathlib.Data.List.TakeWhile
import RegisterMap.Model.Builder
import RegisterMap.Proofs.Header.Marks

/-!
The layout of a block built from declarations: the override fields, then a field per register
declaration, and a register per type in the order of first declaration, holding the override
bit fields of the type and the bit fields declared after its last declaration.
-/

namespace RegisterMap

namespace Builder

def handleAll (b : Builder) (evs : List Header.Event) : Builder :=
  evs.foldl (fun b e => (b.handle e).1) b

end Builder

namespace Layout

open Header

variable (c : Ident.Cases) (name stem : Bytes) (o : Overrides)

def typeOf? : Event → Option Bytes
  | .offset _ base _ => some (Ident.typeNameBy c base name)
  | .bitField .. => none

def scannedFields (evs : List Event) : List Field :=
  evs.filterMap fun
    | .offset _ base index =>
      some { index, name := Ident.fieldNameBy c.lower base stem, typeName := Ident.typeNameBy c base name }
    | .bitField .. => none

def types (evs : List Event) : List Bytes := (evs.filterMap (typeOf? c name)).eraseDups

def lastType (evs : List Event) : Option Bytes := (evs.filterMap (typeOf? c name)).getLast?

def since (t : Bytes) (evs : List Event) : List Event :=
  (evs.reverse.takeWhile fun e => typeOf? c name e != some t).reverse

def segment (t : Bytes) (evs : List Event) : List Event :=
  (since c name t evs).takeWhile fun e => !e.isOffset

def bitFieldOf : Event → Option BitField
  | .bitField _ base start stop =>
    let n := Ident.bitFieldNameBy c.lower base stem
    some { start, stop, name := n, doc := o.doc n }
  | .offset .. => none

def registerOf (evs : List Event) (t : Bytes) : Register :=
  { name := t, bitFields := o.registerFields t ++ (segment c name t evs).filterMap (bitFieldOf c stem o) }

def builderOf (evs : List Event) : Builder :=
  { name, stem, overrides := o, cases := c,
    fields := o.structFields name ++ scannedFields c name stem evs,
    registers := (types c name evs).map (registerOf c name stem o evs),
    current := (lastType c name evs).map fun t => (types c name evs).idxOf t }

variable {c name stem o}

theorem scannedFields_append (evs : List Event) (e : Event) :
    scannedFields c name stem (evs ++ [e]) = scannedFields c name stem evs ++
      match e with
      | .offset _ base index =>
        [{ index, name := Ident.fieldNameBy c.lower base stem, typeName := Ident.typeNameBy c base name }]
      | .bitField .. => [] := by
  cases e <;> simp [scannedFields]

theorem types_append (evs : List Event) (e : Event) :
    types c name (evs ++ [e]) =
      match typeOf? c name e with
      | some t => if t ∈ types c name evs then types c name evs else types c name evs ++ [t]
      | none => types c name evs := by
  cases h : typeOf? c name e with
  | none => simp [types, h]
  | some t =>
    by_cases ht : t ∈ types c name evs
    · have ht' : ∃ a ∈ evs, typeOf? c name a = some t := by simpa [types] using ht
      simp [types, h, List.eraseDups_append, List.removeAll, ht']
    · have ht' : ¬∃ a ∈ evs, typeOf? c name a = some t := by simpa [types] using ht
      simp [types, h, List.eraseDups_append, List.removeAll, List.eraseDups_cons, ht']

theorem lastType_append (evs : List Event) (e : Event) :
    lastType c name (evs ++ [e]) = (typeOf? c name e).or (lastType c name evs) := by
  cases h : typeOf? c name e <;> simp [lastType, h]

theorem nodup_types (evs : List Event) : (types c name evs).Nodup := by
  induction evs using List.reverseRecOn with
  | nil => simp [types]
  | append_singleton evs e ih =>
    rw [types_append]
    cases h : typeOf? c name e with
    | none => exact ih
    | some t =>
      by_cases ht : t ∈ types c name evs
      · simpa [ht] using ih
      · simp only [ht, if_false]
        refine List.nodup_append.mpr ⟨ih, by simp, ?_⟩
        rintro a ha b hb rfl
        rw [List.mem_singleton] at hb
        exact ht (hb ▸ ha)

theorem since_append (t : Bytes) (evs : List Event) (e : Event) :
    since c name t (evs ++ [e]) = if typeOf? c name e = some t then [] else since c name t evs ++ [e] := by
  by_cases h : typeOf? c name e = some t <;> simp [since, h]

/-- After the last register of type `t` no register comes exactly when the last register is of
type `t`, or none was declared. -/
theorem all_since_iff (t : Bytes) (evs : List Event) :
    (since c name t evs).all (fun e => !e.isOffset) ↔ lastType c name evs = some t ∨ lastType c name evs = none := by
  induction evs using List.reverseRecOn with
  | nil => simp [since, lastType]
  | append_singleton evs e ih =>
    rw [since_append, lastType_append]
    cases e with
    | offset l base i =>
      by_cases h : Ident.typeNameBy c base name = t
      · simp [typeOf?, h]
      · simp [typeOf?, h, Event.isOffset]
    | bitField l base s f =>
      simpa [typeOf?, Event.isOffset] using ih

theorem takeWhile_append_singleton {α : Type} {p : α → Bool} (l : List α) (x : α) :
    (l ++ [x]).takeWhile p = if l.all p ∧ p x then l ++ [x] else l.takeWhile p := by
  induction l with
  | nil => by_cases h : p x <;> simp [h]
  | cons a l ih => by_cases h : p a <;> simp [h, ih]; split <;> simp_all

/-- A declaration after `evs` ends the segment of `t` when it declares a register of type `t`,
joins it when no register came after the last one of type `t`, and leaves it otherwise. -/
theorem segment_append (t : Bytes) (evs : List Event) (e : Event) :
    segment c name t (evs ++ [e]) =
      if typeOf? c name e = some t then []
      else if (since c name t evs).all (fun e => !e.isOffset) ∧ !e.isOffset then segment c name t evs ++ [e]
      else segment c name t evs := by
  rw [segment, since_append]
  split
  · rfl
  · rw [takeWhile_append_singleton]
    split
    · rename_i h
      rw [segment, List.takeWhile_eq_self_iff.mpr (by simpa using h.1)]
    · rfl

theorem types_eq_nil {evs : List Event} (h : lastType c name evs = none) : types c name evs = [] := by
  have h' : evs.filterMap (typeOf? c name) = [] := List.getLast?_eq_none_iff.mp h
  simp [types, h']

theorem mem_types_of_lastType {evs : List Event} {t : Bytes} (h : lastType c name evs = some t) :
    t ∈ types c name evs := by
  simpa [types] using List.mem_of_getLast? h

theorem registerOf_append_offset (evs : List Event) (l : Nat) (base : Bytes) (index : Nat)
    (t : Bytes) :
    registerOf c name stem o (evs ++ [.offset l base index]) t =
      if t = Ident.typeNameBy c base name then
        { name := Ident.typeNameBy c base name, bitFields := o.registerFields (Ident.typeNameBy c base name) }
      else registerOf c name stem o evs t := by
  unfold registerOf
  rw [segment_append]
  by_cases h : t = Ident.typeNameBy c base name
  · simp [typeOf?, h]
  · simp [typeOf?, Event.isOffset, Ne.symm h, h]

theorem registerOf_append_offset_fun (evs : List Event) (l : Nat) (base : Bytes) (index : Nat) :
    registerOf c name stem o (evs ++ [.offset l base index]) = fun t =>
      if t = Ident.typeNameBy c base name then
        { name := Ident.typeNameBy c base name, bitFields := o.registerFields (Ident.typeNameBy c base name) }
      else registerOf c name stem o evs t :=
  funext (registerOf_append_offset evs l base index)

theorem registerOf_append_bitField {evs : List Event} {last : Bytes}
    (hlast : lastType c name evs = some last) (l : Nat) (base : Bytes) (start stop : Nat)
    (t : Bytes) :
    registerOf c name stem o (evs ++ [.bitField l base start stop]) t =
      if t = last then
        { registerOf c name stem o evs t with
          bitFields := (registerOf c name stem o evs t).bitFields ++
            [{ start, stop, name := Ident.bitFieldNameBy c.lower base stem,
               doc := o.doc (Ident.bitFieldNameBy c.lower base stem) }] }
      else registerOf c name stem o evs t := by
  have hall := @all_since_iff c name t evs
  rw [hlast] at hall
  unfold registerOf
  rw [segment_append]
  by_cases h : t = last
  · subst h
    simp_all [typeOf?, Event.isOffset, bitFieldOf]
  · have hne : ¬(since c name t evs).all (fun e => !e.isOffset) := by
      simpa [hall] using Ne.symm h
    simp [typeOf?, hne, h]

theorem getElem_eq_iff_idxOf_eq {α : Type} [BEq α] [LawfulBEq α] {L : List α} (hL : L.Nodup)
    {T : α} (hT : T ∈ L) {j : Nat} (hj : j < L.length) : L[j] = T ↔ L.idxOf T = j := by
  have hi : L.idxOf T < L.length := List.idxOf_lt_length_of_mem hT
  have hT' : L[L.idxOf T] = T := List.getElem_idxOf hi
  constructor
  · intro h
    exact ((List.getElem_inj hL).mp (h.trans hT'.symm)).symm
  · rintro rfl
    exact hT'

theorem map_set_idxOf {α β : Type} [BEq α] [LawfulBEq α] [DecidableEq α] {L : List α} (hL : L.Nodup) {T : α}
    (hT : T ∈ L) (f : α → β) (r : β) :
    (L.map f).set (L.idxOf T) r = L.map fun t => if t = T then r else f t := by
  apply List.ext_getElem (by simp)
  intro j h₁ h₂
  have hj : j < L.length := by simpa using h₂
  rw [List.getElem_set]
  by_cases h : L.idxOf T = j <;> simp [h, getElem_eq_iff_idxOf_eq hL hT hj]

theorem map_modify_idxOf {α β : Type} [BEq α] [LawfulBEq α] [DecidableEq α] {L : List α} (hL : L.Nodup) {T : α}
    (hT : T ∈ L) (f : α → β) (g : β → β) :
    (L.map f).modify (L.idxOf T) g = L.map fun t => if t = T then g (f t) else f t := by
  apply List.ext_getElem (by simp)
  intro j h₁ h₂
  have hj : j < L.length := by simpa using h₂
  rw [List.getElem_modify]
  by_cases h : L.idxOf T = j <;> simp [h, getElem_eq_iff_idxOf_eq hL hT hj]

theorem findIdx?_registers (evs : List Event) (t : Bytes) :
    ((types c name evs).map (registerOf c name stem o evs)).findIdx? (·.name == t) =
      if t ∈ types c name evs then some ((types c name evs).idxOf t) else none := by
  rw [List.findIdx?_map]
  have hcomp : ((fun r : Register => r.name == t) ∘ registerOf c name stem o evs) = (· == t) := by
    funext u; simp [registerOf]
  rw [hcomp]
  split
  · rename_i h
    exact List.findIdx?_eq_some_iff_findIdx_eq.mpr ⟨List.idxOf_lt_length_of_mem h, rfl⟩
  · rename_i h
    refine List.findIdx?_eq_none_iff.mpr fun u hu => ?_
    have hut : u ≠ t := fun hut => h (hut ▸ hu)
    simpa using hut

theorem handle_builderOf (evs : List Event) (e : Event) :
    ((builderOf c name stem o evs).handle e).1 = builderOf c name stem o (evs ++ [e]) := by
  cases e with
  | offset l base index =>
    have hty : typeOf? c name (.offset l base index) = some (Ident.typeNameBy c base name) := rfl
    simp only [Builder.handle, Builder.offset, builderOf, findIdx?_registers]
    by_cases hT : Ident.typeNameBy c base name ∈ types c name evs
    · -- a type declared again keeps its slot and starts over
      simp only [hT, if_true, types_append, hty, lastType_append, scannedFields_append,
        List.append_assoc, map_set_idxOf (nodup_types evs) hT, registerOf_append_offset_fun,
        Option.some_or, Option.map_some]
    · -- a new type takes the next slot
      simp only [hT, if_false, types_append, hty, lastType_append, scannedFields_append,
        List.append_assoc, registerOf_append_offset_fun, Option.some_or, Option.map_some,
        List.map_append, List.map_cons, List.map_nil, if_true, List.length_map,
        List.idxOf_append, List.idxOf_cons_self, Nat.zero_add]
      -- the registers already there are of other types and stay as they are
      rw [List.map_congr_left fun t ht => if_neg fun (h : t = Ident.typeNameBy c base name) => hT (h ▸ ht)]
  | bitField l base start stop =>
    cases hlast : lastType c name evs with
    | none =>
      -- before any register a bit field is dropped
      simp [Builder.handle, Builder.bitField, builderOf, hlast, types_eq_nil hlast,
        lastType_append, types_append, scannedFields_append, typeOf?]
    | some last =>
      have hmem := mem_types_of_lastType hlast
      have hreg := funext (@registerOf_append_bitField c name stem o evs last hlast l base start stop)
      simp only [Builder.handle, Builder.bitField, builderOf, hlast, Option.map_some,
        map_modify_idxOf (nodup_types evs) hmem, types_append, typeOf?, lastType_append,
        scannedFields_append, Option.none_or, List.append_nil, hreg]

theorem handleAll_start (evs : List Event) :
    (Builder.startBy c name stem o).handleAll evs = builderOf c name stem o evs := by
  induction evs using List.reverseRecOn with
  | nil => simp [Builder.startBy, Builder.handleAll, builderOf, scannedFields, types, lastType]
  | append_singleton evs e ih =>
    simp only [Builder.handleAll, List.foldl_append, List.foldl_cons, List.foldl_nil] at ih ⊢
    rw [ih]
    exact handle_builderOf evs e

theorem filter_mergeSort_index (l : List Field) (i : Nat) :
    (l.mergeSort fun x y => decide (x.index ≤ y.index)).filter (·.index == i) =
      l.filter (·.index == i) := by
  have htrans : ∀ a b c : Field, decide (a.index ≤ b.index) → decide (b.index ≤ c.index) →
      decide (a.index ≤ c.index) := by
    simp only [decide_eq_true_eq]; omega
  have htotal : ∀ a b : Field, (decide (a.index ≤ b.index) || decide (b.index ≤ a.index)) := by
    simp only [Bool.or_eq_true, decide_eq_true_eq]; omega
  -- the fields at offset `i` are sorted already, so the sort keeps them as a sublist
  have hsorted : (l.filter (·.index == i)).Pairwise fun x y => decide (x.index ≤ y.index) := by
    rw [List.pairwise_filter]
    exact List.pairwise_of_forall fun x y hx hy => by simp_all
  have hsub := (List.sublist_mergeSort htrans htotal hsorted (List.filter_sublist)).filter
    (·.index == i)
  rw [List.filter_filter] at hsub
  simp only [Bool.and_self] at hsub
  exact (hsub.eq_of_length ((List.mergeSort_perm l _).filter _).length_eq.symm).symm

theorem pairwise_mergeSort_index (l : List Field) :
    (l.mergeSort fun x y => decide (x.index ≤ y.index)).Pairwise fun x y => x.index ≤ y.index := by
  refine (List.pairwise_mergeSort ?_ ?_ l).imp fun h => by simpa using h
  · simp only [decide_eq_true_eq]; omega
  · simp only [Bool.or_eq_true, decide_eq_true_eq]; omega

theorem finish_start_handleAll (evs : List Event) (doc : Bytes) :
    ((Builder.startBy c name stem o).handleAll evs).finish doc =
      { name, doc,
        fields := (o.structFields name ++ scannedFields c name stem evs).mergeSort
          fun x y => decide (x.index ≤ y.index),
        registers := (types c name evs).map (registerOf c name stem o evs) } := by
  simp [Builder.finish, handleAll_start, builderOf]

theorem mem_of_mem_segment {t : Bytes} {evs : List Event} {e : Event} (h : e ∈ segment c name t evs) :
    e ∈ evs := by
  have hsince := (List.takeWhile_sublist _).subset h
  unfold since at hsince
  exact List.mem_reverse.mp ((List.takeWhile_sublist _).subset (List.mem_reverse.mp hsince))

theorem bitFieldOf_eq_some {e : Event} {f : BitField} (h : bitFieldOf c stem o e = some f) :
    ∃ l base, e = .bitField l base f.start f.stop ∧ f.name = Ident.bitFieldNameBy c.lower base stem := by
  cases e with
  | offset => cases h
  | bitField l base start stop =>
    simp only [bitFieldOf, Option.some.injEq] at h
    subst h
    exact ⟨l, base, rfl, rfl⟩

/-- Every register of a finished block holds the override bit fields of its type and then bit
fields declared among the declarations. -/
theorem bitFields_of_mem_registers {evs : List Event} {doc : Bytes} {r : Register}
    (hr : r ∈ (((Builder.startBy c name stem o).handleAll evs).finish doc).registers) :
    ∃ declared, r.bitFields = o.registerFields r.name ++ declared ∧
      ∀ f ∈ declared, ∃ l base, .bitField l base f.start f.stop ∈ evs ∧
        f.name = Ident.bitFieldNameBy c.lower base stem := by
  rw [finish_start_handleAll] at hr
  obtain ⟨t, -, rfl⟩ := List.mem_map.mp hr
  refine ⟨(segment c name t evs).filterMap (bitFieldOf c stem o), rfl, fun f hf => ?_⟩
  obtain ⟨e, he, hef⟩ := List.mem_filterMap.mp hf
  obtain ⟨l, base, rfl, hname⟩ := bitFieldOf_eq_some hef
  exact ⟨l, base, mem_of_mem_segment he, hname⟩

end Layout

end RegisterMap

namespace RegisterMap.Layout

open Header

/-- The block built from any declarations has the name and documentation given. Its fields
are the override fields of the block followed by one field per register declaration, sorted
by offset and stably so, which puts override fields before scanned ones at equal offsets. Its
registers are one per register type, in the order of first declaration, each holding the
override bit fields of its type and then the bit fields declared after the last declaration
of the type and before the next register. -/
theorem finish_handleAll (c : Ident.Cases) (name stem : Bytes) (o : Overrides) (evs : List Event)
    (doc : Bytes) :
    let blk := ((Builder.startBy c name stem o).handleAll evs).finish doc
    let listed := o.structFields name ++ scannedFields c name stem evs
    blk.name = name ∧ blk.doc = doc ∧
    blk.fields.Pairwise (fun x y => x.index ≤ y.index) ∧ blk.fields.Perm listed ∧
    (∀ i, blk.fields.filter (·.index == i) = listed.filter (·.index == i)) ∧
    blk.registers = (types c name evs).map (registerOf c name stem o evs) := by
  intro blk listed
  have hb : blk = _ := finish_start_handleAll evs doc
  rw [hb]
  exact ⟨rfl, rfl, pairwise_mergeSort_index listed, List.mergeSort_perm listed _,
    filter_mergeSort_index listed, rfl⟩

end RegisterMap.Layout

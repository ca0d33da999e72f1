import Mathlib.Data.List.Sort
import Mathlib.Logic.Relation
import RegisterMap.Model.Overlap

/-!
Overlap groups are connected components. For any routine that partitions the nodes of the
overlap graph into components (`Graph.IsComponents`), the groups are the components of two or
more places, in layout order; the program's own search keeps that promise. The test is bit
sharing only for fields that hold a bit: an empty range passes it against a field around it.
-/

namespace RegisterMap

namespace BitField

theorem overlaps_comm (a b : BitField) : a.overlaps b = b.overlaps a := by
  simp only [overlaps, Bool.and_comm]

/-- Fields that share a bit pass the overlap test; for fields of at least one bit each the
test is exactly that. -/
theorem overlaps_iff_shares {a b : BitField} (ha : a.start < a.stop) (hb : b.start < b.stop) :
    a.overlaps b ↔ ∃ k, a.start ≤ k ∧ k < a.stop ∧ b.start ≤ k ∧ k < b.stop := by
  simp only [overlaps, Bool.and_eq_true, decide_eq_true_eq]
  constructor
  · rintro ⟨h1, h2⟩
    exact ⟨max a.start b.start, by omega, by omega, by omega, by omega⟩
  · rintro ⟨k, h1, h2, h3, h4⟩
    omega

end BitField

namespace Graph

variable (g : Graph)

def Adj (i j : Nat) : Prop := i < g.nodes ∧ j < g.nodes ∧ g.adj i j = true

def Connected : Nat → Nat → Prop := Relation.ReflTransGen g.Adj

/-- What a graph library promises of the connected components it returns, in whatever order:
every node is in exactly one of them, and each holds exactly the nodes connected to any of its
members. -/
structure IsComponents (cs : List (List Nat)) : Prop where
  nodup : cs.flatten.Nodup
  mem : ∀ i, (∃ c ∈ cs, i ∈ c) ↔ i < g.nodes
  connected : ∀ c ∈ cs, ∀ x ∈ c, ∀ j, j ∈ c ↔ g.Connected x j

variable {g}

theorem adj_comm (i j : Nat) : g.adj i j = g.adj j i := by
  simp only [adj, Bool.or_comm]

theorem Adj.symm {i j : Nat} (h : g.Adj i j) : g.Adj j i :=
  ⟨h.2.1, h.1, by rw [adj_comm]; exact h.2.2⟩

theorem Connected.symm {i j : Nat} (h : g.Connected i j) : g.Connected j i := by
  induction h with
  | refl => exact .refl
  | tail _ hbc ih => exact .head hbc.symm ih

theorem Connected.trans {i j k : Nat} (h₁ : g.Connected i j) (h₂ : g.Connected j k) :
    g.Connected i k :=
  Relation.ReflTransGen.trans h₁ h₂

theorem Connected.lt_nodes {i j : Nat} (h : g.Connected i j) (hi : i < g.nodes) : j < g.nodes := by
  induction h with
  | refl => exact hi
  | tail _ hbc _ => exact hbc.2.1

theorem Connected.exists_adj {i j : Nat} (h : g.Connected i j) (hne : i ≠ j) : ∃ k, g.Adj i k := by
  rcases Relation.ReflTransGen.cases_head h with rfl | ⟨k, hk, -⟩
  · exact absurd rfl hne
  · exact ⟨k, hk⟩

/-! ### The program's search -/

theorem mem_grow {ms : List Nat} {j : Nat} :
    j ∈ g.grow ms ↔ j < g.nodes ∧ (j ∈ ms ∨ ∃ i ∈ ms, g.adj i j = true) := by
  simp only [grow, List.mem_filter, List.mem_range, Bool.or_eq_true, List.contains_iff_mem,
    List.any_eq_true]

/-- What holds of the nodes found so far from node `i`: they are nodes of the graph in order,
`i` among them, each connected to `i`. -/
structure Reached (g : Graph) (i : Nat) (ms : List Nat) : Prop where
  sublist : ms.Sublist (List.range g.nodes)
  self : i ∈ ms
  connected : ∀ j ∈ ms, g.Connected i j

theorem Reached.lt_nodes {i : Nat} {ms : List Nat} (h : Reached g i ms) {j : Nat} (hj : j ∈ ms) :
    j < g.nodes :=
  List.mem_range.mp (h.sublist.subset hj)

theorem Reached.subset_grow {i : Nat} {ms : List Nat} (h : Reached g i ms) : ms ⊆ g.grow ms :=
  fun _ hj => mem_grow.mpr ⟨h.lt_nodes hj, .inl hj⟩

theorem Reached.grow {i : Nat} {ms : List Nat} (h : Reached g i ms) : Reached g i (g.grow ms) where
  sublist := List.filter_sublist
  self := h.subset_grow h.self
  connected j hj := by
    obtain ⟨hjn, hm | ⟨k, hk, hkj⟩⟩ := mem_grow.mp hj
    · exact h.connected j hm
    · exact (h.connected k hk).tail ⟨h.lt_nodes hk, hjn, hkj⟩

theorem reached_grow_self {i : Nat} (hi : i < g.nodes) : Reached g i (g.grow [i]) :=
  Reached.grow ⟨by simpa using List.mem_range.mpr hi, List.mem_singleton_self i,
    fun j hj => by rw [List.mem_singleton.mp hj]; exact .refl⟩

theorem mem_of_closed {i : Nat} {ms : List Nat} (h : Reached g i ms) (hclosed : g.grow ms ⊆ ms)
    {j : Nat} (hj : g.Connected i j) : j ∈ ms := by
  induction hj with
  | refl => exact h.self
  | tail _ hbc ih => exact hclosed (mem_grow.mpr ⟨hbc.2.1, .inr ⟨_, ih, hbc.2.2⟩⟩)

/-- Growing with enough fuel stops at nodes closed under growing: every step that adds a node
uses one unit of fuel, and there are not more nodes than the graph has. -/
theorem closeUnder_closed {i : Nat} (fuel : Nat) {ms : List Nat} (h : Reached g i ms)
    (hfuel : g.nodes + 1 ≤ fuel + ms.length) :
    Reached g i (g.closeUnder fuel ms) ∧ g.grow (g.closeUnder fuel ms) ⊆ g.closeUnder fuel ms := by
  induction fuel generalizing ms with
  | zero =>
    have := h.sublist.length_le
    simp at this
    omega
  | succ fuel ih =>
    have hsub : ms.Subperm (g.grow ms) :=
      List.subperm_of_subset (h.sublist.nodup List.nodup_range) h.subset_grow
    simp only [closeUnder]
    split
    · rename_i hlen
      exact ⟨h, (hsub.perm_of_length_le hlen.le).symm.subset⟩
    · rename_i hlen
      have hgrew : ms.length < (g.grow ms).length := by
        have := hsub.length_le
        omega
      exact ih h.grow (by omega)

theorem component_closed {i : Nat} (hi : i < g.nodes) :
    Reached g i (g.component i) ∧ g.grow (g.component i) ⊆ g.component i := by
  have hpos : 0 < (g.grow [i]).length := List.length_pos_of_mem (reached_grow_self hi).self
  exact closeUnder_closed g.nodes (reached_grow_self hi) (by omega)

theorem mem_component {i : Nat} (hi : i < g.nodes) {j : Nat} :
    j ∈ g.component i ↔ g.Connected i j := by
  obtain ⟨h, hclosed⟩ := component_closed hi
  exact ⟨h.connected j, mem_of_closed h hclosed⟩

theorem pairwise_component {i : Nat} (hi : i < g.nodes) : (g.component i).Pairwise (· < ·) :=
  List.pairwise_lt_range.sublist (component_closed hi).1.sublist

theorem component_eq_of_connected {i j : Nat} (hi : i < g.nodes) (h : g.Connected i j) :
    g.component j = g.component i := by
  have hj := h.lt_nodes hi
  refine (pairwise_component hj).eq_of_mem_iff (pairwise_component hi) fun k => ?_
  rw [mem_component hj, mem_component hi]
  exact ⟨h.trans, h.symm.trans⟩

theorem foldl_range_induction {σ : Type} (step : σ → Nat → σ) (P : Nat → σ → Prop) {n : Nat}
    {s : σ} (h0 : P 0 s) (hstep : ∀ k acc, k < n → P k acc → P (k + 1) (step acc k)) :
    P n ((List.range n).foldl step s) := by
  suffices ∀ k ≤ n, P k ((List.range k).foldl step s) from this n le_rfl
  intro k hk
  induction k with
  | zero => exact h0
  | succ k ih =>
    rw [List.range_succ, List.foldl_append, List.foldl_cons, List.foldl_nil]
    exact hstep k _ (by omega) (ih (by omega))

theorem head?_ne_of_mem_lt {l : List Nat} (hl : l.Pairwise (· < ·)) {x k : Nat} (hx : x ∈ l)
    (hxk : x < k) : l.head? ≠ some k := by
  cases l with
  | nil => simp at hx
  | cons h t =>
    intro hh
    obtain rfl : h = k := by simpa using hh
    rcases List.mem_cons.mp hx with rfl | hx
    · omega
    · have := (List.pairwise_cons.mp hl).1 x hx
      omega

theorem head?_eq_of_forall_le {l : List Nat} (hl : l.Pairwise (· < ·)) {k : Nat} (hk : k ∈ l)
    (hle : ∀ x ∈ l, k ≤ x) : l.head? = some k := by
  cases l with
  | nil => simp at hk
  | cons h t =>
    rcases List.mem_cons.mp hk with rfl | hk
    · rfl
    · have := (List.pairwise_cons.mp hl).1 k hk
      have := hle h List.mem_cons_self
      omega

theorem components_eq :
    g.components = ((List.range g.nodes).filter fun i => (g.component i).head? = some i).map
      g.component := by
  unfold components
  -- the nodes seen after the first `k` are those connected to one of them, and the components
  -- found are those led by one of them
  refine (foldl_range_induction _ (fun k (acc : List Nat × List (List Nat)) =>
      (∀ j, j ∈ acc.1 ↔ ∃ i < k, g.Connected i j) ∧
      acc.2 = ((List.range k).filter fun i => (g.component i).head? = some i).map g.component)
    ⟨by simp, rfl⟩ ?_).2
  rintro k ⟨seen, found⟩ hk ⟨hseen, hfound⟩
  dsimp only at hseen hfound ⊢
  have hself : k ∈ g.component k := (mem_component hk).mpr .refl
  rw [List.range_succ, List.filter_append, List.map_append, ← hfound]
  by_cases hin : k ∈ seen
  · -- a node connected to an earlier one leads nothing, and adds no new node
    obtain ⟨i, hik, hcon⟩ := (hseen k).mp hin
    have hi : i < g.nodes := by omega
    have hlead : (g.component k).head? ≠ some k := by
      rw [component_eq_of_connected hi hcon]
      exact head?_ne_of_mem_lt (pairwise_component hi) ((mem_component hi).mpr .refl) hik
    simp only [List.contains_iff_mem, hin, if_true, List.filter_cons, List.filter_nil, hlead,
      decide_false, Bool.false_eq_true, if_false, List.map_nil, List.append_nil, and_true]
    intro j
    rw [hseen j, Nat.exists_lt_succ_right]
    exact ⟨.inl, fun h => h.elim id fun hkj => ⟨i, hik, hcon.trans hkj⟩⟩
  · -- a node connected to no earlier one is the first of its component
    have hfirst : ∀ x ∈ g.component k, k ≤ x := by
      intro x hx
      refine Decidable.byContradiction fun hlt => ?_
      exact hin ((hseen k).mpr ⟨x, by omega, ((mem_component hk).mp hx).symm⟩)
    have hhead := head?_eq_of_forall_le (pairwise_component hk) hself hfirst
    simp only [List.contains_iff_mem, hin, if_false, List.filter_cons, List.filter_nil, hhead,
      decide_true, if_true, List.map_cons, List.map_nil, and_true]
    intro j
    rw [List.mem_append, hseen j, mem_component hk, Nat.exists_lt_succ_right]

theorem mem_components {c : List Nat} :
    c ∈ g.components ↔ ∃ i < g.nodes, (g.component i).head? = some i ∧ g.component i = c := by
  simp [components_eq, and_assoc]

theorem isComponents_components (g : Graph) : g.IsComponents g.components where
  nodup := by
    rw [components_eq, List.nodup_flatten, List.pairwise_map]
    refine ⟨fun c hc => ?_, (List.pairwise_lt_range.filter _).imp_of_mem fun {i i'} hi hi' hlt => ?_⟩
    · obtain ⟨i, hi, -, rfl⟩ := mem_components.mp (by rwa [components_eq])
      exact (pairwise_component hi).nodup
    · simp only [List.mem_filter, List.mem_range, decide_eq_true_eq] at hi hi'
      intro x hx hx'
      -- a node in both would connect the two first nodes, and give both components one head
      have hcon : g.Connected i i' :=
        ((mem_component hi.1).mp hx).trans ((mem_component hi'.1).mp hx').symm
      have := hi'.2
      rw [component_eq_of_connected hi.1 hcon, hi.2, Option.some.injEq] at this
      omega
  mem i := by
    constructor
    · rintro ⟨c, hc, hic⟩
      obtain ⟨k, hk, -, rfl⟩ := mem_components.mp hc
      exact ((mem_component hk).mp hic).lt_nodes hk
    · intro hi
      -- the component of `i` is found from its first node
      have hself : i ∈ g.component i := (mem_component hi).mpr .refl
      obtain ⟨m, t, hmt⟩ := List.exists_cons_of_ne_nil (List.ne_nil_of_mem hself)
      have hm : g.Connected i m := (mem_component hi).mp (by simp [hmt])
      have hsame := component_eq_of_connected hi hm
      refine ⟨g.component i, mem_components.mpr ⟨m, hm.lt_nodes hi, ?_, hsame⟩, hself⟩
      rw [hsame, hmt]
      rfl
  connected c hc x hx j := by
    obtain ⟨k, hk, -, rfl⟩ := mem_components.mp hc
    have hkx := (mem_component hk).mp hx
    rw [← component_eq_of_connected hk hkx, mem_component (hkx.lt_nodes hk)]

/-! ### What the promise gives -/

variable {cs : List (List Nat)}

theorem IsComponents.nodup_of_mem (h : g.IsComponents cs) {c : List Nat} (hc : c ∈ cs) :
    c.Nodup :=
  (List.nodup_flatten.mp h.nodup).1 c hc

theorem IsComponents.exists_mem (h : g.IsComponents cs) {i j : Nat} (hne : i ≠ j)
    (hij : g.Connected i j) : ∃ c ∈ cs, 2 ≤ c.length ∧ i ∈ c ∧ j ∈ c := by
  obtain ⟨k, hk⟩ := hij.exists_adj hne
  obtain ⟨c, hc, hic⟩ := (h.mem i).mpr hk.1
  have hjc := (h.connected c hc i hic j).mpr hij
  refine ⟨c, hc, ?_, hic, hjc⟩
  -- two different members
  match c, hic, hjc with
  | [a], hi, hj =>
    rw [List.mem_singleton] at hi hj
    exact absurd (hi.trans hj.symm) hne
  | _ :: _ :: _, _, _ => simp

end Graph

/-! ### Sorting what the library returns -/

theorem pairwise_mergeSort_key {α : Type} (key : α → Nat) (l : List α) :
    (l.mergeSort fun a b => key a ≤ key b).Pairwise fun a b => key a ≤ key b := by
  simpa using @List.pairwise_mergeSort _ (fun a b => decide (key a ≤ key b))
    (fun a b c hab hbc => by simp only [decide_eq_true_eq] at *; omega)
    (fun a b => by simp only [Bool.or_eq_true, decide_eq_true_eq]; omega) l

theorem pairwise_lt_mergeSort {c : List Nat} (h : c.Nodup) :
    (c.mergeSort (· ≤ ·)).Pairwise (· < ·) := by
  have hle : (c.mergeSort (· ≤ ·)).Pairwise (· ≤ ·) := pairwise_mergeSort_key id c
  have hnd : (c.mergeSort (· ≤ ·)).Nodup := (List.mergeSort_perm c _).nodup_iff.mpr h
  exact (hle.and hnd).imp fun ⟨h1, h2⟩ => Nat.lt_of_le_of_ne h1 h2

/-- Sorted by their first members, lists with no member in common have increasing first
members. -/
theorem pairwise_head_mergeSort {L : List (List Nat)} (hne : ∀ c ∈ L, c ≠ [])
    (hdisj : L.Pairwise fun c d => ∀ x ∈ c, x ∉ d) :
    (L.mergeSort fun a b => a.headD 0 ≤ b.headD 0).Pairwise fun c d =>
      (∃ x y, c.head? = some x ∧ d.head? = some y ∧ x < y) ∧ ∀ x ∈ c, x ∉ d := by
  have hperm := List.mergeSort_perm L fun a b => a.headD 0 ≤ b.headD 0
  have hle := pairwise_mergeSort_key (fun c : List Nat => c.headD 0) L
  have hdisj' := (hperm.pairwise_iff fun {c d} h x hx hx' => h x hx' hx).mpr hdisj
  refine (hle.and hdisj').imp_of_mem fun {c d} hc hd ⟨hcd, hdis⟩ => ⟨?_, hdis⟩
  obtain ⟨x, c', rfl⟩ := List.exists_cons_of_ne_nil (hne c (hperm.mem_iff.mp hc))
  obtain ⟨y, d', rfl⟩ := List.exists_cons_of_ne_nil (hne d (hperm.mem_iff.mp hd))
  -- different first members, since no member is in both
  have hxy : x ≠ y := fun hxy => hdis x List.mem_cons_self (hxy ▸ List.mem_cons_self)
  exact ⟨x, y, rfl, rfl, Nat.lt_of_le_of_ne hcd hxy⟩

namespace Register

variable (fs : List BitField)

def Linked (i j : Nat) : Prop :=
  i ≠ j ∧ ∃ a b, fs[i]? = some a ∧ fs[j]? = some b ∧ a.overlaps b

def Connected : Nat → Nat → Prop := Relation.ReflTransGen (Linked fs)

variable {fs}

theorem overlapsAt_comm (i j : Nat) : overlapsAt fs i j = overlapsAt fs j i := by
  unfold overlapsAt
  cases fs[i]? <;> cases fs[j]? <;> simp [BitField.overlaps_comm]

theorem overlapsAt_eq_true {i j : Nat} :
    overlapsAt fs i j = true ↔ ∃ a b, fs[i]? = some a ∧ fs[j]? = some b ∧ a.overlaps b := by
  unfold overlapsAt
  cases fs[i]? <;> cases fs[j]? <;> simp

@[simp] theorem overlapGraph_nodes : (overlapGraph fs).nodes = fs.length := rfl

theorem mem_overlapGraph_edges {i j : Nat} : (i, j) ∈ (overlapGraph fs).edges ↔
    i < fs.length ∧ j < fs.length ∧ i < j ∧ overlapsAt fs i j = true := by
  simp only [overlapGraph, List.mem_flatMap, List.mem_range, List.mem_map, List.mem_filter,
    Bool.and_eq_true, decide_eq_true_eq, Prod.mk.injEq]
  constructor
  · rintro ⟨i', hi', j', ⟨hj', hlt, hov⟩, rfl, rfl⟩
    exact ⟨hi', hj', hlt, hov⟩
  · rintro ⟨hi, hj, hlt, hov⟩
    exact ⟨i, hi, j, ⟨hj, hlt, hov⟩, rfl, rfl⟩

theorem adj_overlapGraph {i j : Nat} : (overlapGraph fs).Adj i j ↔ Linked fs i j := by
  simp only [Graph.Adj, Graph.adj, Bool.or_eq_true, List.contains_iff_mem, mem_overlapGraph_edges,
    overlapGraph_nodes, Linked, ← overlapsAt_eq_true]
  constructor
  · rintro ⟨-, -, ⟨-, -, hlt, hov⟩ | ⟨-, -, hlt, hov⟩⟩
    · exact ⟨by omega, hov⟩
    · exact ⟨by omega, by rwa [overlapsAt_comm]⟩
  · rintro ⟨hne, hov⟩
    obtain ⟨a, b, ha, hb, -⟩ := overlapsAt_eq_true.mp hov
    have hi := (List.getElem?_eq_some_iff.mp ha).1
    have hj := (List.getElem?_eq_some_iff.mp hb).1
    rcases Nat.lt_or_gt_of_ne hne with hlt | hlt
    · exact ⟨hi, hj, .inl ⟨hi, hj, hlt, hov⟩⟩
    · exact ⟨hi, hj, .inr ⟨hj, hi, hlt, by rwa [overlapsAt_comm]⟩⟩

theorem connected_overlapGraph {i j : Nat} : (overlapGraph fs).Connected i j ↔ Connected fs i j :=
  ⟨Relation.ReflTransGen.mono (fun _ _ h => adj_overlapGraph.mp h) i j,
    Relation.ReflTransGen.mono (fun _ _ h => adj_overlapGraph.mpr h) i j⟩

/-! ### The groups are the components -/

variable {components : Components}

theorem mem_groupPlacesBy {c : List Nat} :
    c ∈ groupPlacesBy components fs ↔ ∃ c₀ ∈ components (overlapGraph fs), 2 ≤ c₀.length ∧
      c₀.mergeSort (· ≤ ·) = c := by
  simp [groupPlacesBy, List.mem_mergeSort, and_assoc]

section Promise

variable (hc : (overlapGraph fs).IsComponents (components (overlapGraph fs)))
include hc

theorem component_of_mem_groupPlacesBy {c : List Nat} (hm : c ∈ groupPlacesBy components fs) :
    c.Pairwise (· < ·) ∧ 2 ≤ c.length ∧ ∀ x ∈ c, ∀ j, j ∈ c ↔ Connected fs x j := by
  obtain ⟨c₀, hc₀, h2, rfl⟩ := mem_groupPlacesBy.mp hm
  refine ⟨pairwise_lt_mergeSort (hc.nodup_of_mem hc₀), by rwa [List.length_mergeSort], ?_⟩
  intro x hx j
  rw [List.mem_mergeSort] at hx ⊢
  rw [hc.connected c₀ hc₀ x hx j, connected_overlapGraph]

theorem exists_mem_groupPlacesBy {i j : Nat} (hne : i ≠ j) (h : Connected fs i j) :
    ∃ c ∈ groupPlacesBy components fs, i ∈ c ∧ j ∈ c := by
  obtain ⟨c₀, hc₀, h2, hi, hj⟩ := hc.exists_mem hne (connected_overlapGraph.mpr h)
  exact ⟨_, mem_groupPlacesBy.mpr ⟨c₀, hc₀, h2, rfl⟩, List.mem_mergeSort.mpr hi,
    List.mem_mergeSort.mpr hj⟩

theorem pairwise_groupPlacesBy :
    (groupPlacesBy components fs).Pairwise fun c d =>
      (∃ x y, c.head? = some x ∧ d.head? = some y ∧ x < y) ∧ ∀ x ∈ c, x ∉ d := by
  have hdisj := (List.nodup_flatten.mp hc.nodup).2
  refine pairwise_head_mergeSort ?_ ?_
  · intro c hm
    obtain ⟨c₀, h2, rfl⟩ := List.mem_map.mp hm
    rw [← List.length_pos_iff_ne_nil, List.length_mergeSort]
    have := (List.mem_filter.mp h2).2
    simp only [decide_eq_true_eq] at this
    omega
  · -- components share no node, and sorting a component keeps its nodes
    rw [List.pairwise_map]
    refine (hdisj.filter _).imp fun {c d} hcd x hx hx' => ?_
    exact hcd (List.mem_mergeSort.mp hx) (List.mem_mergeSort.mp hx')

theorem mem_groupPlacesBy_iff_linked {i : Nat} :
    (∃ c ∈ groupPlacesBy components fs, i ∈ c) ↔ ∃ j, Linked fs i j := by
  constructor
  · rintro ⟨c, hm, hic⟩
    obtain ⟨hsorted, h2, hcomp⟩ := component_of_mem_groupPlacesBy hc hm
    -- a group of two places holds one besides `i`, and the chain to it starts with a link
    obtain ⟨x, hx, hxi⟩ : ∃ x ∈ c, x ≠ i := by
      match c, h2 with
      | a :: b :: t, _ =>
        by_cases ha : a = i
        · exact ⟨b, by simp, fun hb => by
            have := (List.pairwise_cons.mp hsorted).1 b (by simp)
            omega⟩
        · exact ⟨a, by simp, ha⟩
    have hix := (hcomp i hic x).mp hx
    obtain ⟨k, hk⟩ := (connected_overlapGraph.mpr hix).exists_adj hxi.symm
    exact ⟨k, adj_overlapGraph.mp hk⟩
  · rintro ⟨j, hj⟩
    obtain ⟨c, hm, hic, -⟩ := exists_mem_groupPlacesBy hc hj.1 (.single hj)
    exact ⟨c, hm, hic⟩

end Promise

end Register

/-- Whatever order a graph library returns the connected components of the overlap graph in,
the overlap groups of a register are the connected components of at least two places of the
graph that links two places when their fields pass the overlap test: each listed by its fields
in layout order, every place linked to another in one of them, ordered by their first place and
pairwise disjoint. For fields of at least one bit each the test is bit sharing. -/
theorem overlapGroups_components (components : Components) (r : Register)
    (hc : (Register.overlapGraph r.bitFields).IsComponents
      (components (Register.overlapGraph r.bitFields))) :
    (∀ a b : BitField, a.start < a.stop → b.start < b.stop →
      (a.overlaps b ↔ ∃ k, a.start ≤ k ∧ k < a.stop ∧ b.start ≤ k ∧ k < b.stop)) ∧
    ∃ comps : List (List Nat),
      r.overlapGroupsBy components = comps.map (fun c => c.filterMap fun i => r.bitFields[i]?) ∧
      (∀ c ∈ comps, c.Pairwise (· < ·) ∧ 2 ≤ c.length ∧
        ∀ x ∈ c, ∀ j, j ∈ c ↔ Register.Connected r.bitFields x j) ∧
      (∀ i j, i ≠ j → Register.Connected r.bitFields i j → ∃ c ∈ comps, i ∈ c ∧ j ∈ c) ∧
      comps.Pairwise (fun c d =>
        (∃ x y, c.head? = some x ∧ d.head? = some y ∧ x < y) ∧ ∀ x ∈ c, x ∉ d) ∧
      ∀ i, (∃ c ∈ comps, i ∈ c) ↔ ∃ j, Register.Linked r.bitFields i j :=
  ⟨fun _ _ ha hb => BitField.overlaps_iff_shares ha hb, Register.groupPlacesBy components r.bitFields,
    rfl, fun _ hm => Register.component_of_mem_groupPlacesBy hc hm,
    fun _ _ hne h => Register.exists_mem_groupPlacesBy hc hne h,
    Register.pairwise_groupPlacesBy hc, fun _ => Register.mem_groupPlacesBy_iff_linked hc⟩

/-- The program's own search keeps the library's promise at a register whose two fields share
bits 2 and 3, and those fields pass the overlap test. -/
theorem overlapGroups_components_sharing :
    let a : BitField := ⟨0, 4, Bytes.ofString "low", []⟩
    let b : BitField := ⟨2, 8, Bytes.ofString "high", []⟩
    let r : Register := ⟨[], [a, b]⟩
    (Register.overlapGraph r.bitFields).IsComponents
      (Graph.components (Register.overlapGraph r.bitFields)) ∧ a.overlaps b = true := by
  intro a b r
  have hc := Graph.isComponents_components (Register.overlapGraph r.bitFields)
  exact ⟨hc, ((overlapGroups_components Graph.components r hc).1 a b (by decide) (by decide)).mpr
    ⟨2, by decide, by decide, by decide, by decide⟩⟩

/-- An empty field at bit 5 is grouped with a field of bits 0 to 9, though it shares no bit
with it, whatever order the graph library returns components in; the program gives the one
group of both. -/
theorem overlapGroups_joins_empty_field :
    let empty : BitField := ⟨5, 5, Bytes.ofString "empty", []⟩
    let wide : BitField := ⟨0, 10, Bytes.ofString "wide", []⟩
    let r : Register := ⟨Bytes.ofString "R", [empty, wide]⟩
    (∀ components : Components, (Register.overlapGraph r.bitFields).IsComponents
        (components (Register.overlapGraph r.bitFields)) →
      ∃ g ∈ r.overlapGroupsBy components, empty ∈ g ∧ wide ∈ g) ∧
    r.overlapGroups = [[empty, wide]] ∧
    ¬∃ k, empty.start ≤ k ∧ k < empty.stop ∧ wide.start ≤ k ∧ k < wide.stop := by
  intro empty wide r
  refine ⟨fun components hc => ?_, ?_, ?_⟩
  · have hlink : Register.Linked r.bitFields 0 1 := ⟨by decide, empty, wide, rfl, rfl, by decide⟩
    obtain ⟨c, hm, h0, h1⟩ := Register.exists_mem_groupPlacesBy hc (by decide) (.single hlink)
    refine ⟨c.filterMap fun i => r.bitFields[i]?, List.mem_map_of_mem hm, ?_, ?_⟩
    · exact List.mem_filterMap.mpr ⟨0, h0, rfl⟩
    · exact List.mem_filterMap.mpr ⟨1, h1, rfl⟩
  · -- the search finds the one component, already in order
    have hfound : Graph.components (Register.overlapGraph r.bitFields) = [[0, 1]] := by decide
    have hsorted : ([0, 1].mergeSort fun a b : Nat => decide (a ≤ b)) = [0, 1] :=
      List.mergeSort_eq_self (· ≤ ·) (by decide)
    simp [Register.overlapGroups, Register.overlapGroupsBy, Register.groupPlacesBy, hfound,
      hsorted, r]
  · rintro ⟨k, h1, h2, -, -⟩
    exact absurd (Nat.lt_of_le_of_lt h1 h2) (Nat.lt_irrefl 5)

end RegisterMap

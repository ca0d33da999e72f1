import Mathlib.Algebra.Group.Nat.Defs
import RegisterMap.Text.Case

/-!
Lower case of a character as the case table gives it: lowering twice changes nothing, and a
character that lowering changes is cased and not case-ignorable. Each is checked over the whole
table at once, with sets of code points written as the bits of a number.
-/

namespace RegisterMap

namespace Text

def CaseRun.domain (r : CaseRun) : List Nat :=
  (List.range' r.lo (r.hi + 1 - r.lo)).filter fun n => (n - r.lo) % r.step == 0

theorem CaseRun.mem_domain_of_image? {r : CaseRun} {n m : Nat} (h : r.image? n = some m) :
    n ∈ r.domain := by
  unfold CaseRun.image? at h
  split at h
  · rename_i hn
    simp only [CaseRun.domain, List.mem_filter, List.mem_range'_1, beq_iff_eq]
    omega
  · cases h

def pointMask (ns : List Nat) : Nat := ns.foldl (fun m n => m ||| 1 <<< n) 0

def rangeMask (rs : List (Nat × Nat)) : Nat := rs.foldl (fun m r => m ||| (2 ^ (r.2 + 1) - 2 ^ r.1)) 0

theorem testBit_foldl_or {α : Type} (f : α → Nat) (xs : List α) (init i : Nat) :
    (xs.foldl (fun m x => m ||| f x) init).testBit i = (init.testBit i || xs.any fun x => (f x).testBit i) := by
  induction xs generalizing init with
  | nil => simp
  | cons x xs ih => simp [ih, Nat.testBit_or, Bool.or_assoc]

theorem testBit_pointMask (ns : List Nat) (i : Nat) : (pointMask ns).testBit i = true ↔ i ∈ ns := by
  simp only [pointMask, testBit_foldl_or, Nat.zero_testBit, Bool.false_or, List.any_eq_true,
    Nat.one_shiftLeft, Nat.testBit_two_pow, decide_eq_true_eq]
  exact ⟨fun ⟨_, hx, h⟩ => h ▸ hx, fun h => ⟨i, h, rfl⟩⟩

theorem testBit_range (a b i : Nat) : (2 ^ (b + 1) - 2 ^ a).testBit i = (a ≤ i && i ≤ b) := by
  by_cases hab : a ≤ b + 1
  · have h : 2 ^ (b + 1) - 2 ^ a = 2 ^ a * (2 ^ (b + 1 - a) - 1) := by
      rw [Nat.mul_sub, Nat.mul_one, ← Nat.pow_add, Nat.add_sub_cancel' hab]
    rw [h, Nat.testBit_two_pow_mul, Nat.testBit_two_pow_sub_one]
    -- below `a` the shifted mask is clear; from `a` on it holds `b + 1 - a` bits
    by_cases hi : a ≤ i
    · simp [hi]
      omega
    · simp [hi]
  · have h : 2 ^ (b + 1) - 2 ^ a = 0 :=
      Nat.sub_eq_zero_of_le (Nat.pow_le_pow_right (by decide) (by omega))
    rw [h, Nat.zero_testBit]
    by_cases hi : a ≤ i
    · simp [hi]
      omega
    · simp [hi]

theorem testBit_rangeMask (rs : List (Nat × Nat)) (i : Nat) : (rangeMask rs).testBit i = inRanges rs i := by
  simp [rangeMask, testBit_foldl_or, testBit_range, inRanges]

def lowerDomain : List Nat := lowerSpecial.map (·.1) ++ lowerRuns.flatMap CaseRun.domain

def lowerImages : List Nat := lowerRuns.flatMap fun r => r.domain.filterMap r.image?

theorem lowerDomain_cased :
    pointMask lowerDomain &&& rangeMask casedRanges = pointMask lowerDomain := by
  decide +kernel

theorem lowerDomain_not_ignorable : pointMask lowerDomain &&& rangeMask ignorableRanges = 0 := by
  decide +kernel

theorem lowerImages_not_mapped : pointMask lowerImages &&& pointMask lowerDomain = 0 := by
  decide +kernel

theorem zero_not_mem_lowerDomain : 0 ∉ lowerDomain := by
  decide +kernel

theorem lowerSpecial_lower : ∀ p ∈ lowerSpecial, p.2 ≠ [] ∧
    ∀ m ∈ p.2, lowerChar (Char.ofNat m) = [Char.ofNat m] := by
  decide +kernel

/-- What lower case does to a character: nothing, or it is one of the mapped code points and
goes to a special case or to the image of a run. -/
theorem lowerChar_cases (c : Char) :
    lowerChar c = [c] ∨ c.toNat ∈ lowerDomain ∧
      ((∃ p ∈ lowerSpecial, lowerChar c = p.2.map Char.ofNat) ∨
        ∃ m ∈ lowerImages, lowerChar c = [Char.ofNat m]) := by
  unfold lowerChar mapChar
  split
  · rename_i k t hf
    have hk : k = c.toNat := by simpa using List.find?_some hf
    refine .inr ⟨List.mem_append_left _ (List.mem_map.2 ⟨(k, t), List.mem_of_find?_eq_some hf, hk⟩),
      .inl ⟨(k, t), List.mem_of_find?_eq_some hf, rfl⟩⟩
  · split
    · rename_i n hf
      obtain ⟨r, hr, hn⟩ := List.exists_of_findSome?_eq_some hf
      have hd := CaseRun.mem_domain_of_image? hn
      refine .inr ⟨List.mem_append_right _ (List.mem_flatMap.2 ⟨r, hr, hd⟩), .inr ⟨n, ?_, rfl⟩⟩
      exact List.mem_flatMap.2 ⟨r, hr, List.mem_filterMap.2 ⟨_, hd, hn⟩⟩
    · exact .inl rfl

theorem lowerChar_of_not_mem {c : Char} (h : c.toNat ∉ lowerDomain) : lowerChar c = [c] := by
  rcases lowerChar_cases c with hc | ⟨hm, -⟩
  · exact hc
  · exact absurd hm h

theorem toNat_ofNat_cases (m : Nat) : (Char.ofNat m).toNat = m ∨ (Char.ofNat m).toNat = 0 := by
  rw [Char.ofNat]
  by_cases h : m.isValidChar
  · rw [dif_pos h]
    exact .inl rfl
  · rw [dif_neg h]
    exact .inr rfl

theorem lowerChar_ofNat_of_mem_lowerImages {m : Nat} (hm : m ∈ lowerImages) :
    lowerChar (Char.ofNat m) = [Char.ofNat m] := by
  apply lowerChar_of_not_mem
  rcases toNat_ofNat_cases m with h | h <;> rw [h]
  · intro hd
    have := congrArg (Nat.testBit · m) lowerImages_not_mapped
    simp only [Nat.testBit_and, (testBit_pointMask _ _).2 hm, (testBit_pointMask _ _).2 hd,
      Bool.and_self, Nat.zero_testBit] at this
    cases this
  · exact zero_not_mem_lowerDomain

theorem lowerChar_of_mem_lowerChar {c d : Char} (hd : d ∈ lowerChar c) : lowerChar d = [d] := by
  rcases lowerChar_cases c with hc | ⟨-, ⟨p, hp, hc⟩ | ⟨m, hm, hc⟩⟩
  · rw [hc, List.mem_singleton] at hd
    rw [hd, hc]
  · rw [hc, List.mem_map] at hd
    obtain ⟨m, hm, rfl⟩ := hd
    exact (lowerSpecial_lower p hp).2 m hm
  · rw [hc, List.mem_singleton] at hd
    rw [hd]
    exact lowerChar_ofNat_of_mem_lowerImages hm

theorem lowerChar_ne_nil (c : Char) : lowerChar c ≠ [] := by
  rcases lowerChar_cases c with hc | ⟨-, ⟨p, hp, hc⟩ | ⟨m, -, hc⟩⟩ <;> rw [hc]
  · exact List.cons_ne_nil _ _
  · exact fun h => (lowerSpecial_lower p hp).1 (List.map_eq_nil_iff.1 h)
  · exact List.cons_ne_nil _ _

theorem mem_lowerDomain_of_ne {c : Char} (h : lowerChar c ≠ [c]) : c.toNat ∈ lowerDomain :=
  Decidable.byContradiction fun hc => h (lowerChar_of_not_mem hc)

theorem lowerChar_of_not_cased {c : Char} (h : (Glyph.char c).isCased = false) :
    lowerChar c = [c] := by
  refine Decidable.byContradiction fun hne => ?_
  have hd := (testBit_pointMask _ _).2 (mem_lowerDomain_of_ne hne)
  have := congrArg (Nat.testBit · c.toNat) lowerDomain_cased
  simp only [Nat.testBit_and, hd, Bool.true_and, testBit_rangeMask] at this
  simp [Glyph.isCased, this] at h

theorem lowerChar_of_ignorable {c : Char} (h : (Glyph.char c).isIgnorable = true) :
    lowerChar c = [c] := by
  refine Decidable.byContradiction fun hne => ?_
  have hd := (testBit_pointMask _ _).2 (mem_lowerDomain_of_ne hne)
  have := congrArg (Nat.testBit · c.toNat) lowerDomain_not_ignorable
  simp only [Nat.testBit_and, hd, Bool.true_and, testBit_rangeMask, Nat.zero_testBit] at this
  simp [Glyph.isIgnorable, this] at h

theorem lowerChar_smallSigma :
    lowerChar (Char.ofNat 0x3C3) = [Char.ofNat 0x3C3] ∧ lowerChar (Char.ofNat 0x3C2) = [Char.ofNat 0x3C2] := by
  decide +kernel

theorem lowerChar_capitalSigma : lowerChar (Char.ofNat 0x3A3) ≠ [Char.ofNat 0x3A3] := by
  decide +kernel

theorem lowerChar_ne_of_capital {c : Char} (h1 : 65 ≤ c.toNat) (h2 : c.toNat ≤ 90) : lowerChar c ≠ [c] := by
  have hcap : ∀ n < 26, lowerChar (Char.ofNat (65 + n)) ≠ [Char.ofNat (65 + n)] := by
    decide +kernel
  rw [← Char.ofNat_toNat c, show c.toNat = 65 + (c.toNat - 65) by omega]
  exact hcap _ (by omega)

end Text

end RegisterMap

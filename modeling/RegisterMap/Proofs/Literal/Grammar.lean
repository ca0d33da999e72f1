import Mathlib.Data.List.Forall2
import Mathlib.Data.List.TakeWhile
import Mathlib.Data.Nat.Digits.Defs
import RegisterMap.Header.Scan
import RegisterMap.Proofs.Literal.ReadBack

/-!
The grammar of integer literals: a decimal or `0x` hexadecimal core wrapped in parentheses and
unsigned marks, with a value below `Literal.bound`. `value?_eq_some_iff` says that reading a
literal accepts exactly this grammar with exactly this value.
-/

namespace RegisterMap.Literal

/-- A numeral of base `base`: a non-empty run of its digits, most significant first, whose
digit values read as a number give `n`. -/
def IsNumeral (base : Nat) (ds : Bytes) (n : Nat) : Prop :=
  ds ≠ [] ∧ ∃ vs, List.Forall₂ (fun b d => digit? base b = some d) ds vs ∧
    Nat.ofDigits base vs.reverse = n

def IsCore (c : Bytes) (n : Nat) : Prop :=
  IsNumeral 10 c n ∨ ∃ ds, c = Bytes.ofString "0x" ++ ds ∧ IsNumeral 16 ds n

def Spells (v : Bytes) (n : Nat) : Prop :=
  ∃ l c r, v = l ++ c ++ r ∧ (∀ b ∈ l, isWrapper b) ∧ (∀ b ∈ r, isWrapper b) ∧
    IsCore c n ∧ n < bound

/-! ### Digits -/

/-- The digits: `0` to `9`, then `a` to `f` and `A` to `F` for ten to fifteen, each a digit of
the bases it is below. -/
theorem digit?_eq_some_iff {base : Nat} {b : UInt8} {d : Nat} :
    digit? base b = some d ↔ d < base ∧
      ((48 ≤ b.toNat ∧ b.toNat ≤ 57 ∧ d = b.toNat - 48) ∨
        (97 ≤ b.toNat ∧ b.toNat ≤ 102 ∧ d = b.toNat - 87) ∨
        (65 ≤ b.toNat ∧ b.toNat ≤ 70 ∧ d = b.toNat - 55)) := by
  unfold digit?
  by_cases h1 : 48 ≤ b.toNat ∧ b.toNat ≤ 57
  · simp only [h1, and_self, if_true]
    split <;> constructor <;> intro h <;> simp_all <;> omega
  · by_cases h2 : 97 ≤ b.toNat ∧ b.toNat ≤ 102
    · simp only [h1, h2, if_false, and_self, if_true]
      split <;> constructor <;> intro h <;> simp_all <;> omega
    · by_cases h3 : 65 ≤ b.toNat ∧ b.toNat ≤ 70
      · simp only [h1, h2, h3, if_false, and_self, if_true]
        split <;> constructor <;> intro h <;> simp_all <;> omega
      · simp only [h1, h2, h3, if_false, reduceCtorEq, false_iff]
        omega

theorem isWrapper_eq_false_of_digit? {base : Nat} {b : UInt8} {d : Nat}
    (h : digit? base b = some d) : isWrapper b = false := by
  obtain ⟨-, h⟩ := digit?_eq_some_iff.mp h
  have hb : b.toNat ≠ 40 ∧ b.toNat ≠ 41 ∧ b.toNat ≠ 117 ∧ b.toNat ≠ 85 := by omega
  simp only [isWrapper, Bool.or_eq_false_iff, beq_eq_false_iff_ne]
  refine ⟨⟨⟨?_, ?_⟩, ?_⟩, ?_⟩ <;> intro e <;> simp [e] at hb

/-- A run of digits read after the value `acc` of the digits before it: the value of the run,
shifted past it. -/
theorem digitsFrom_eq_some_iff (base acc : Nat) (ds : Bytes) (m : Nat) :
    digitsFrom base acc ds = some m ↔ ∃ vs, List.Forall₂ (fun b d => digit? base b = some d) ds vs ∧
      m = base ^ ds.length * acc + Nat.ofDigits base vs.reverse := by
  induction ds generalizing acc with
  | nil => simp [digitsFrom, eq_comm]
  | cons b bs ih =>
    cases hb : digit? base b with
    | none =>
      simp only [digitsFrom, hb, reduceCtorEq, false_iff, not_exists, not_and]
      intro vs hvs
      cases hvs with
      | cons hd _ => simp [hb] at hd
    | some d =>
      -- the digit `d` goes to the end of the little-endian digits, and into the shifted prefix
      have hshift : ∀ vs : List Nat, vs.length = bs.length →
          base ^ bs.length * (acc * base + d) + Nat.ofDigits base vs.reverse =
            base ^ (bs.length + 1) * acc + Nat.ofDigits base (d :: vs).reverse := by
        intro vs hlen
        rw [List.reverse_cons, Nat.ofDigits_append, Nat.ofDigits_singleton, List.length_reverse,
          hlen, pow_succ]
        ring
      simp only [digitsFrom, hb, ih, List.forall₂_cons_left_iff, List.length_cons]
      constructor
      · rintro ⟨vs, hvs, rfl⟩
        exact ⟨d :: vs, ⟨d, vs, rfl, hvs, rfl⟩, hshift vs hvs.length_eq.symm⟩
      · rintro ⟨_, ⟨d', vs, hd', hvs, rfl⟩, rfl⟩
        obtain rfl : d = d' := Option.some_inj.mp hd'
        exact ⟨vs, hvs, (hshift vs hvs.length_eq.symm).symm⟩

theorem digitsFrom_zero_eq_some_iff (base : Nat) (ds : Bytes) (m : Nat) :
    digitsFrom base 0 ds = some m ↔
      ∃ vs, List.Forall₂ (fun b d => digit? base b = some d) ds vs ∧ Nat.ofDigits base vs.reverse = m := by
  rw [digitsFrom_eq_some_iff]
  refine exists_congr fun vs => and_congr_right fun _ => ?_
  rw [Nat.mul_zero, Nat.zero_add, eq_comm]

theorem numeral?_eq_some_iff {base : Nat} {ds : Bytes} {n : Nat} :
    numeral? base ds = some n ↔ IsNumeral base ds n ∧ n < bound := by
  have hnum : numeral? base ds = some n ↔ ds ≠ [] ∧ digitsFrom base 0 ds = some n ∧ n < bound := by
    unfold numeral?
    cases hv : digitsFrom base 0 ds with
    | none => simp
    | some v =>
      by_cases he : ds = []
      · simp [he]
      · by_cases hlt : v < bound
        · simp only [he, hlt, List.isEmpty_iff, if_false, if_true, Option.some.injEq, ne_eq,
            not_false_eq_true, true_and]
          exact ⟨fun h => ⟨h, h ▸ hlt⟩, fun h => h.1⟩
        · simp only [he, hlt, List.isEmpty_iff, if_false, reduceCtorEq, Option.some.injEq, ne_eq,
            not_false_eq_true, true_and, false_iff, not_and]
          exact fun h => h ▸ hlt
  rw [hnum, digitsFrom_zero_eq_some_iff, IsNumeral, and_assoc]

theorem digit?_of_mem {base : Nat} {ds : Bytes} {vs : List Nat}
    (h : List.Forall₂ (fun b d => digit? base b = some d) ds vs) {b : UInt8} (hb : b ∈ ds) :
    ∃ d, digit? base b = some d := by
  induction h with
  | nil => simp at hb
  | cons hd _ ih =>
    rcases List.mem_cons.mp hb with rfl | hb
    · exact ⟨_, hd⟩
    · exact ih hb

theorem isWrapper_eq_false_of_mem_numeral {base n : Nat} {ds : Bytes} (h : IsNumeral base ds n) :
    ∀ b ∈ ds, isWrapper b = false := by
  obtain ⟨-, vs, hvs, -⟩ := h
  intro b hb
  obtain ⟨d, hd⟩ := digit?_of_mem hvs hb
  exact isWrapper_eq_false_of_digit? hd

/-! ### Trimming -/

theorem eq_append_trim (p : UInt8 → Bool) (v : Bytes) :
    ∃ l r, v = l ++ Bytes.trim p v ++ r ∧ (∀ b ∈ l, p b) ∧ (∀ b ∈ r, p b) := by
  set u := v.dropWhile p
  refine ⟨v.takeWhile p, (u.reverse.takeWhile p).reverse, ?_, fun b hb => List.mem_takeWhile_imp hb,
    fun b hb => List.mem_takeWhile_imp (List.mem_reverse.mp hb)⟩
  -- what is left after the leading bytes splits again at its trailing ones
  have hu : u = (u.reverse.dropWhile p).reverse ++ (u.reverse.takeWhile p).reverse := by
    rw [← List.reverse_append, List.takeWhile_append_dropWhile, List.reverse_reverse]
  calc v = v.takeWhile p ++ u := List.takeWhile_append_dropWhile.symm
    _ = v.takeWhile p ++ Bytes.trim p v ++ (u.reverse.takeWhile p).reverse := by
      rw [List.append_assoc, Bytes.trim, Bytes.trimRight, Bytes.trimLeft]
      exact congrArg _ hu

theorem trim_append_of_ends {p : UInt8 → Bool} {l c r : Bytes} (hl : ∀ b ∈ l, p b)
    (hr : ∀ b ∈ r, p b) (hc : c ≠ []) (hhead : ∀ b ∈ c.head?, p b = false)
    (hlast : ∀ b ∈ c.getLast?, p b = false) : Bytes.trim p (l ++ c ++ r) = c := by
  have hleft : (l ++ c ++ r).dropWhile p = c ++ r := by
    rw [List.append_assoc, List.dropWhile_append_of_pos hl]
    obtain ⟨x, xs, rfl⟩ := List.exists_cons_of_ne_nil hc
    exact List.dropWhile_cons_of_neg (by simp [hhead x rfl])
  have hright : (c ++ r).reverse.dropWhile p = c.reverse := by
    rw [List.reverse_append, List.dropWhile_append_of_pos (fun b hb => hr b (List.mem_reverse.mp hb))]
    obtain ⟨x, xs, hx⟩ := List.exists_cons_of_ne_nil (List.reverse_ne_nil_iff.mpr hc)
    have hpx : p x = false := hlast x (by simp [← List.head?_reverse, hx])
    rw [hx]
    exact List.dropWhile_cons_of_neg (by simp [hpx])
  rw [Bytes.trim, Bytes.trimLeft, hleft, Bytes.trimRight, hright, List.reverse_reverse]

theorem trim_of_isCore {l c r : Bytes} {n : Nat} (hl : ∀ b ∈ l, isWrapper b)
    (hr : ∀ b ∈ r, isWrapper b) (hc : IsCore c n) : Bytes.trim isWrapper (l ++ c ++ r) = c := by
  rcases hc with hc | ⟨ds, rfl, hds⟩
  · exact trim_append_of_ends hl hr hc.1
      (fun b hb => isWrapper_eq_false_of_mem_numeral hc b (List.mem_of_head? hb))
      (fun b hb => isWrapper_eq_false_of_mem_numeral hc b (List.mem_of_getLast? hb))
  · refine trim_append_of_ends hl hr (by simp [ofString_hexMark]) ?_ ?_
    · simp [ofString_hexMark, isWrapper]
    · intro b hb
      rw [List.getLast?_append_of_ne_nil _ hds.1] at hb
      exact isWrapper_eq_false_of_mem_numeral hds b (List.mem_of_getLast? hb)

theorem dropPrefix?_hexMark_of_decimal {c : Bytes} {n : Nat} (h : IsNumeral 10 c n) :
    Bytes.dropPrefix? (Bytes.ofString "0x") c = none := by
  cases hp : Bytes.dropPrefix? (Bytes.ofString "0x") c with
  | none => rfl
  | some rest =>
    obtain ⟨-, vs, hvs, -⟩ := h
    rw [Bytes.eq_append_of_dropPrefix? hp, ofString_hexMark] at hvs
    obtain ⟨d, hx⟩ := digit?_of_mem hvs (b := 120) (by simp)
    have h120 : (120 : UInt8).toNat = 120 := rfl
    have := (digit?_eq_some_iff.mp hx).2
    omega

/-! ### The grammar -/

theorem value?_eq_some_iff (v : Bytes) (n : Nat) : value? v = some n ↔ Spells v n := by
  constructor
  · intro h
    obtain ⟨l, r, hv, hl, hr⟩ := eq_append_trim isWrapper v
    refine ⟨l, Bytes.trim isWrapper v, r, hv, hl, hr, ?_⟩
    -- the trimmed text is the core, of the base its prefix says
    cases hp : Bytes.dropPrefix? (Bytes.ofString "0x") (Bytes.trim isWrapper v) with
    | none =>
      have h10 : numeral? 10 (Bytes.trim isWrapper v) = some n := by simpa [value?, hp] using h
      obtain ⟨hnum, hlt⟩ := numeral?_eq_some_iff.mp h10
      exact ⟨.inl hnum, hlt⟩
    | some ds =>
      have h16 : numeral? 16 ds = some n := by simpa [value?, hp] using h
      obtain ⟨hnum, hlt⟩ := numeral?_eq_some_iff.mp h16
      exact ⟨.inr ⟨ds, Bytes.eq_append_of_dropPrefix? hp, hnum⟩, hlt⟩
  · rintro ⟨l, c, r, rfl, hl, hr, hc, hlt⟩
    simp only [value?, trim_of_isCore hl hr hc]
    rcases hc with hc | ⟨ds, rfl, hds⟩
    · rw [dropPrefix?_hexMark_of_decimal hc]
      exact numeral?_eq_some_iff.mpr ⟨hc, hlt⟩
    · rw [Bytes.dropPrefix?_append]
      exact numeral?_eq_some_iff.mpr ⟨hds, hlt⟩

theorem isNumeral_decimal (n : Nat) : IsNumeral 10 (Bytes.decimal n) n := by
  have hne : Bytes.decimal n ≠ [] := by
    rw [decimal_eq]; split <;> simp
  have hread : digitsFrom 10 0 (Bytes.decimal n) = some n := by
    simp [digitsFrom_decimal]
  exact ⟨hne, (digitsFrom_zero_eq_some_iff 10 _ n).mp hread⟩

/-- Integer literals: reading accepts exactly the grammar, with the value of the core; a text
it refuses stops a scan as no literal, under the message that quotes it; and inside any
wrappers the decimal numeral of a value, and `0x` with any hexadecimal numeral of it, read back
as that value. -/
theorem value?_grammar :
    (∀ v n, value? v = some n ↔ Spells v n) ∧
    (∀ v, (∀ n, ¬Spells v n) → ∀ k name,
      Header.value k ⟨name, v⟩ = .error (.badValue k ⟨name, v⟩ .notLiteral) ∧
      Header.Fault.message v .notLiteral = "invalid macro integer value " ++ v.quote) ∧
    (∀ n l r, n < bound → (∀ b ∈ l, isWrapper b) → (∀ b ∈ r, isWrapper b) →
      value? (l ++ Bytes.decimal n ++ r) = some n ∧
      ∀ ds, IsNumeral 16 ds n → value? (l ++ Bytes.ofString "0x" ++ ds ++ r) = some n) := by
  refine ⟨value?_eq_some_iff, fun v hv k name => ⟨?_, rfl⟩, fun n l r hn hl hr => ⟨?_, fun ds hds => ?_⟩⟩
  · have hnone : value? v = none := by
      cases h : value? v with
      | none => rfl
      | some n => exact absurd ((value?_eq_some_iff v n).mp h) (hv n)
    simp [Header.value, hnone]
  · exact (value?_eq_some_iff _ n).mpr ⟨l, Bytes.decimal n, r, rfl, hl, hr, .inl (isNumeral_decimal n), hn⟩
  · exact (value?_eq_some_iff _ n).mpr
      ⟨l, Bytes.ofString "0x" ++ ds, r, by simp, hl, hr, .inr ⟨ds, rfl, hds⟩, hn⟩

/-- `(0x01fU)` reads as 31, and `0x` alone is no literal. -/
theorem value?_grammar_wrapped :
    value? ([40] ++ Bytes.ofString "0x" ++ [48, 49, 102] ++ [85, 41]) = some 31 ∧
    Header.value 1 ⟨[65], Bytes.ofString "0x"⟩ =
      .error (.badValue 1 ⟨[65], Bytes.ofString "0x"⟩ .notLiteral) := by
  refine ⟨(value?_grammar.2.2 31 [40] [85, 41] (by decide) (by simp [isWrapper])
    (by simp [isWrapper])).2 [48, 49, 102] ⟨by simp, [0, 1, 15], by simp [digit?], by simp [Nat.ofDigits]⟩, ?_⟩
  have hv : value? (Bytes.ofString "0x") = none := by decide
  refine (value?_grammar.2.1 (Bytes.ofString "0x") (fun n hs => ?_) 1 [65]).1
  simp [(value?_grammar.1 _ n).mpr hs] at hv

end RegisterMap.Literal

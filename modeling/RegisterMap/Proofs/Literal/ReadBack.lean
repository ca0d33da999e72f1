import Mathlib.Algebra.Group.Nat.Defs
import RegisterMap.Literal

/-!
Numerals written by the definitions read back as literals: offsets in upper-case hexadecimal
after `0x` and bit bounds in decimal read back with their value, below `Literal.bound`.
-/

namespace RegisterMap.Literal

def isUpperHex (b : UInt8) : Bool := (48 ≤ b.toNat && b.toNat ≤ 57) || (65 ≤ b.toNat && b.toNat ≤ 70)

theorem digit?_hexDigit : ∀ d, d < 16 → digit? 16 (Bytes.hexDigit true d) = some d := by decide

theorem isUpperHex_hexDigit : ∀ d, d < 16 → isUpperHex (Bytes.hexDigit true d) := by decide

theorem digit?_decimalDigit : ∀ d, d < 10 → digit? 10 (48 + d).toUInt8 = some d := by decide

theorem utf8EncodeChar_digitChar : ∀ d, d < 10 →
    String.utf8EncodeChar (Nat.digitChar d) = [(48 + d).toUInt8] := by decide

theorem isWrapper_eq_false {b : UInt8} (h : 48 ≤ b.toNat ∧ b.toNat ≤ 57 ∨ 65 ≤ b.toNat ∧ b.toNat ≤ 70) :
    isWrapper b = false := by
  have h40 : b ≠ 40 := fun e => by subst e; simp at h
  have h41 : b ≠ 41 := fun e => by subst e; simp at h
  have h117 : b ≠ 117 := fun e => by subst e; simp at h
  have h85 : b ≠ 85 := fun e => by subst e; simp at h
  simp [isWrapper, h40, h41, h117, h85]

theorem ofString_hexMark : Bytes.ofString "0x" = [48, 120] := by decide

theorem digitsFrom_append (base acc : Nat) (xs ys : Bytes) :
    digitsFrom base acc (xs ++ ys) = (digitsFrom base acc xs).bind fun a => digitsFrom base a ys := by
  induction xs generalizing acc with
  | nil => rfl
  | cons x xs ih =>
    simp only [List.cons_append, digitsFrom]
    cases digit? base x with
    | none => rfl
    | some d => exact ih _

theorem digitsFrom_zeros {base : Nat} (hb : 0 < base) (k : Nat) (ys : Bytes) :
    digitsFrom base 0 (List.replicate k 48 ++ ys) = digitsFrom base 0 ys := by
  have h0 : digit? base 48 = some 0 := by simp [digit?, hb]
  induction k with
  | zero => rfl
  | succ k ih => simp [List.replicate_succ, digitsFrom, h0, ih]

/-- The hexadecimal digits of `n` read as the numeral of `n`, shifted past what was read
before them. -/
theorem digitsFrom_hexDigits (n acc : Nat) :
    digitsFrom 16 acc (Bytes.hexDigits true n) = some (acc * 16 ^ (Bytes.hexDigits true n).length + n) := by
  fun_induction Bytes.hexDigits true n generalizing acc with
  | case1 n hn => simp [digitsFrom, digit?_hexDigit n hn]
  | case2 n hn ih =>
    rw [digitsFrom_append, ih]
    simp only [Option.bind_some, digitsFrom, digit?_hexDigit (n % 16) (Nat.mod_lt n (by omega)),
      List.length_append, List.length_singleton, Nat.pow_succ, Option.some.injEq]
    have := Nat.div_add_mod n 16
    rw [Nat.add_mul, Nat.mul_assoc]
    omega

theorem hexDigits_ne_nil (n : Nat) : Bytes.hexDigits true n ≠ [] := by
  fun_induction Bytes.hexDigits true n <;> simp

theorem hexDigits_of_lt {n : Nat} (h : n < 16) : Bytes.hexDigits true n = [Bytes.hexDigit true n] := by
  rw [Bytes.hexDigits, if_pos h]

theorem head_hexDigits {n : Nat} (hn : 0 < n) : (Bytes.hexDigits true n).head? ≠ some 48 := by
  fun_induction Bytes.hexDigits true n with
  | case1 n h16 =>
    have hdig : ∀ d, d < 16 → 0 < d → Bytes.hexDigit true d ≠ 48 := by decide
    simpa using hdig n h16 hn
  | case2 n h16 ih =>
    obtain ⟨x, xs, hx⟩ := List.exists_cons_of_ne_nil (hexDigits_ne_nil (n / 16))
    have ih := ih (by omega)
    rw [hx] at ih ⊢
    simpa using ih

theorem isUpperHex_of_mem_hexDigits {n : Nat} {b : UInt8} (h : b ∈ Bytes.hexDigits true n) :
    isUpperHex b := by
  fun_induction Bytes.hexDigits true n with
  | case1 n hn =>
    rw [List.mem_singleton] at h
    exact h ▸ isUpperHex_hexDigit n hn
  | case2 n hn ih =>
    rcases List.mem_append.mp h with h | h
    · exact ih h
    · rw [List.mem_singleton] at h
      exact h ▸ isUpperHex_hexDigit _ (Nat.mod_lt n (by omega))

/-- An offset is written with at least three upper-case hexadecimal digits, and with no
leading zero beyond three. -/
theorem hexIndex_digits (n : Nat) :
    3 ≤ (Bytes.padLeft 3 48 (Bytes.hexDigits true n)).length ∧
    (3 < (Bytes.padLeft 3 48 (Bytes.hexDigits true n)).length →
      (Bytes.padLeft 3 48 (Bytes.hexDigits true n)).head? ≠ some 48) ∧
    ∀ b ∈ Bytes.padLeft 3 48 (Bytes.hexDigits true n), isUpperHex b := by
  have hlen : (Bytes.padLeft 3 48 (Bytes.hexDigits true n)).length =
      3 - (Bytes.hexDigits true n).length + (Bytes.hexDigits true n).length := by
    simp [Bytes.padLeft]
  refine ⟨by omega, fun h3 => ?_, fun b hb => ?_⟩
  · -- past three digits nothing is padded, and a number of more than one digit is positive
    have hpad : Bytes.padLeft 3 48 (Bytes.hexDigits true n) = Bytes.hexDigits true n := by
      simp [Bytes.padLeft, show 3 - (Bytes.hexDigits true n).length = 0 by omega]
    have hn : 16 ≤ n := by
      rcases Nat.lt_or_ge n 16 with h16 | h16
      · simp [hexDigits_of_lt h16, Bytes.padLeft] at h3
      · exact h16
    rw [hpad]
    exact head_hexDigits (by omega)
  · rcases List.mem_append.mp hb with hb | hb
    · rw [(List.mem_replicate.mp hb).2]
      decide
    · exact isUpperHex_of_mem_hexDigits hb

theorem lt_bound_of_numeral? {base n : Nat} {ds : Bytes} (h : numeral? base ds = some n) :
    n < bound := by
  unfold numeral? at h
  split at h
  · cases h
  · split at h
    · split at h
      · rename_i hv
        exact Option.some_inj.mp h ▸ hv
      · cases h
    · cases h

theorem lt_bound_of_value? {v : Bytes} {n : Nat} (h : value? v = some n) : n < bound := by
  unfold value? at h
  dsimp only at h
  split at h <;> exact lt_bound_of_numeral? h

theorem trim_eq_self {v : Bytes} (hhead : ∀ b ∈ v.head?, isWrapper b = false)
    (hlast : ∀ b ∈ v.getLast?, isWrapper b = false) : Bytes.trim isWrapper v = v := by
  have hl : Bytes.trimLeft isWrapper v = v := by
    cases v with
    | nil => rfl
    | cons b bs => simp [Bytes.trimLeft, hhead b rfl]
  rw [Bytes.trim, hl, Bytes.trimRight]
  cases hv : v.reverse with
  | nil => simp_all
  | cons b bs =>
    have hb : isWrapper b = false := hlast b (by simp [← List.head?_reverse, hv])
    rw [List.dropWhile_cons_of_neg (by simp [hb]), ← hv, List.reverse_reverse]

theorem value?_hexIndex {n : Nat} (hn : n < bound) :
    value? (Bytes.ofString "0x" ++ Bytes.padLeft 3 48 (Bytes.hexDigits true n)) = some n := by
  have hne := hexDigits_ne_nil n
  have hupper : ∀ b ∈ Bytes.hexDigits true n, isWrapper b = false := fun b hb => by
    have := isUpperHex_of_mem_hexDigits hb
    simp only [isUpperHex, Bool.or_eq_true, Bool.and_eq_true, decide_eq_true_eq] at this
    exact isWrapper_eq_false this
  obtain ⟨l, hl⟩ : ∃ l, (Bytes.hexDigits true n).getLast? = some l :=
    Option.isSome_iff_exists.mp (List.getLast?_isSome.mpr hne)
  have htrim : Bytes.trim isWrapper (Bytes.ofString "0x" ++ Bytes.padLeft 3 48 (Bytes.hexDigits true n)) =
      Bytes.ofString "0x" ++ Bytes.padLeft 3 48 (Bytes.hexDigits true n) := by
    refine trim_eq_self (by simp [ofString_hexMark, isWrapper]) ?_
    intro b hb
    simp only [Bytes.padLeft, List.getLast?_append, hl, Option.some_or, Option.mem_def,
      Option.some.injEq] at hb
    exact hupper b (hb ▸ List.mem_of_getLast? hl)
  have hdig : digitsFrom 16 0 (Bytes.padLeft 3 48 (Bytes.hexDigits true n)) = some n := by
    simp [Bytes.padLeft, digitsFrom_zeros (by decide : 0 < 16), digitsFrom_hexDigits]
  have hpad : (Bytes.padLeft 3 48 (Bytes.hexDigits true n)).isEmpty = false := by
    simp [Bytes.padLeft, hne]
  simp only [value?, htrim, Bytes.dropPrefix?_append, numeral?, hpad, hdig, hn]
  rfl

theorem decimal_eq (n : Nat) :
    Bytes.decimal n =
      if n < 10 then [(48 + n).toUInt8] else Bytes.decimal (n / 10) ++ [(48 + n % 10).toUInt8] := by
  have hd : ∀ m, Bytes.decimal m = (Nat.toDigits 10 m).flatMap String.utf8EncodeChar := fun m => by
    simp [Bytes.decimal, Bytes.ofString]
  rw [hd, Nat.toDigits_eq_if (by decide)]
  split
  · rename_i h
    simp [utf8EncodeChar_digitChar n h]
  · rw [List.flatMap_append, ← hd]
    simp [utf8EncodeChar_digitChar (n % 10) (Nat.mod_lt n (by decide))]

theorem digitsFrom_decimal (n acc : Nat) :
    digitsFrom 10 acc (Bytes.decimal n) = some (acc * 10 ^ (Bytes.decimal n).length + n) := by
  induction n using Nat.strongRecOn generalizing acc with
  | ind n ih =>
    rw [decimal_eq]
    split
    · rename_i h
      simp only [digitsFrom, digit?_decimalDigit n h, List.length_singleton, Nat.pow_one]
    · rename_i h
      rw [digitsFrom_append, ih (n / 10) (by omega)]
      simp only [Option.bind_some, digitsFrom, digit?_decimalDigit (n % 10) (Nat.mod_lt n (by omega)),
        List.length_append, List.length_singleton, Nat.pow_succ, Option.some.injEq]
      have := Nat.div_add_mod n 10
      rw [Nat.add_mul, Nat.mul_assoc]
      omega

theorem isDigit_of_mem_decimal {n : Nat} {b : UInt8} (h : b ∈ Bytes.decimal n) :
    48 ≤ b.toNat ∧ b.toNat ≤ 57 := by
  induction n using Nat.strongRecOn with
  | ind n ih =>
    rw [decimal_eq] at h
    have hdig : ∀ d, d < 10 → 48 ≤ (48 + d).toUInt8.toNat ∧ (48 + d).toUInt8.toNat ≤ 57 := by decide
    split at h
    · rename_i hn
      rw [List.mem_singleton] at h
      exact h ▸ hdig n hn
    · rename_i hn
      rcases List.mem_append.mp h with h | h
      · exact ih (n / 10) (by omega) h
      · rw [List.mem_singleton] at h
        exact h ▸ hdig (n % 10) (Nat.mod_lt n (by omega))

theorem value?_decimalBound {n : Nat} (hn : n < bound) :
    value? (Bytes.padLeft 2 48 (Bytes.decimal n)) = some n := by
  have hdigits : ∀ b ∈ Bytes.padLeft 2 48 (Bytes.decimal n), 48 ≤ b.toNat ∧ b.toNat ≤ 57 := by
    intro b hb
    rcases List.mem_append.mp hb with hb | hb
    · rw [(List.mem_replicate.mp hb).2]
      decide
    · exact isDigit_of_mem_decimal hb
  have hne : Bytes.decimal n ≠ [] := by
    rw [decimal_eq]; split <;> simp
  have htrim : Bytes.trim isWrapper (Bytes.padLeft 2 48 (Bytes.decimal n)) =
      Bytes.padLeft 2 48 (Bytes.decimal n) :=
    trim_eq_self (fun b hb => isWrapper_eq_false (.inl (hdigits b (List.mem_of_head? hb))))
      (fun b hb => isWrapper_eq_false (.inl (hdigits b (List.mem_of_getLast? hb))))
  -- no `0x` starts a run of decimal digits
  have hhex : Bytes.dropPrefix? (Bytes.ofString "0x") (Bytes.padLeft 2 48 (Bytes.decimal n)) = none := by
    cases hp : Bytes.dropPrefix? (Bytes.ofString "0x") (Bytes.padLeft 2 48 (Bytes.decimal n)) with
    | none => rfl
    | some r =>
      have hx := hdigits 120 (by rw [Bytes.eq_append_of_dropPrefix? hp, ofString_hexMark]; simp)
      simp at hx
  have hdig : digitsFrom 10 0 (Bytes.padLeft 2 48 (Bytes.decimal n)) = some n := by
    simp [Bytes.padLeft, digitsFrom_zeros (by decide : 0 < 10), digitsFrom_decimal]
  have hpad : (Bytes.padLeft 2 48 (Bytes.decimal n)).isEmpty = false := by
    simp [Bytes.padLeft, hne]
  simp only [value?, htrim, hhex, numeral?, hpad, hdig, hn]
  rfl

end RegisterMap.Literal

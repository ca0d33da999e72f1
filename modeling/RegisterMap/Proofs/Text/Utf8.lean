import Mathlib.Algebra.Group.Nat.Defs
import RegisterMap.Text.Utf8

/-!
Reading UTF-8 back: decoding the encoding of a character gives it back whatever follows, and
encoding the glyphs decoded from any bytes gives the bytes (`encode_decode`). Facts about a
single byte are checked over all 256 of them.
-/

namespace RegisterMap

theorem decodeOnto_eq_append (acc : List Glyph) (b : Bytes) :
    decodeOnto acc b = acc.reverse ++ decode b := by
  -- every accumulator at once: each step reads the same glyph onto `a` and onto `[]`
  suffices ∀ a, decodeOnto a b = a.reverse ++ decodeOnto [] b from this acc
  induction acc, b using decodeOnto.induct with
  | case1 => simp [decodeOnto]
  | case2 _ b rest hb ih =>
    intro a
    rw [decodeOnto.eq_2, decodeOnto.eq_2, if_pos hb, if_pos hb, ih, ih (_ :: [])]
    simp
  | case3 _ b rest hb c n hm ih =>
    intro a
    rw [decodeOnto.eq_2, decodeOnto.eq_2, if_neg hb, if_neg hb, hm]
    dsimp only
    rw [ih, ih (_ :: [])]
    simp
  | case4 _ b rest hb hm ih =>
    intro a
    rw [decodeOnto.eq_2, decodeOnto.eq_2, if_neg hb, if_neg hb, hm]
    dsimp only
    rw [ih, ih (_ :: [])]
    simp

@[simp] theorem decode_nil : decode [] = [] := by
  simp [decode, decodeOnto]

theorem decode_cons_of_lt {b : UInt8} (hb : b < 0x80) (rest : Bytes) :
    decode (b :: rest) = .char (Char.ofNat b.toNat) :: decode rest := by
  rw [decode, decodeOnto.eq_2, if_pos hb, decodeOnto_eq_append]
  rfl

theorem decode_cons_of_multi? {b : UInt8} {rest : Bytes} (hb : ¬b < 0x80) {c : Char} {n : Nat}
    (h : Glyph.multi? b rest = some (c, n)) : decode (b :: rest) = .char c :: decode (rest.drop n) := by
  rw [decode, decodeOnto.eq_2, if_neg hb, h]
  dsimp only
  rw [decodeOnto_eq_append]
  rfl

theorem decode_cons_of_stray {b : UInt8} {rest : Bytes} (hb : ¬b < 0x80)
    (h : Glyph.multi? b rest = none) : decode (b :: rest) = .stray b :: decode rest := by
  rw [decode, decodeOnto.eq_2, if_neg hb, h]
  dsimp only
  rw [decodeOnto_eq_append]
  rfl

theorem not_lt_of_le_toNat {b : UInt8} (h : 0x80 ≤ b.toNat) : ¬b < 0x80 := by
  simp only [UInt8.lt_iff_toNat_lt, UInt8.reduceToNat]
  omega

theorem forall_uint8 {P : UInt8 → Prop} (h : ∀ n < 256, P (UInt8.ofNat n)) (b : UInt8) : P b := by
  have := h b.toNat b.toNat_lt
  rwa [UInt8.ofNat_toNat] at this

namespace Glyph

theorem isTrailing_iff (b : UInt8) : isTrailing b = true ↔ 128 ≤ b.toNat ∧ b.toNat < 192 :=
  forall_uint8 (P := fun b => isTrailing b = true ↔ 128 ≤ b.toNat ∧ b.toNat < 192) (by decide +kernel) b

theorem payload_eq (b : UInt8) : payload b = b.toNat % 64 :=
  forall_uint8 (P := fun b => payload b = b.toNat % 64) (by decide +kernel) b

theorem toNat_and_lead (b : UInt8) :
    (b &&& 0x1F).toNat = b.toNat % 32 ∧ (b &&& 0x0F).toNat = b.toNat % 16 ∧
      (b &&& 0x07).toNat = b.toNat % 8 :=
  forall_uint8 (P := fun b => (b &&& 0x1F).toNat = b.toNat % 32 ∧ (b &&& 0x0F).toNat = b.toNat % 16 ∧
      (b &&& 0x07).toNat = b.toNat % 8) (by decide +kernel) b

end Glyph

theorem toNat_or_and (y : UInt8) :
    (y &&& 0x1f ||| 0xc0).toNat = y.toNat % 32 + 192 ∧ (y &&& 0x0f ||| 0xe0).toNat = y.toNat % 16 + 224 ∧
      (y &&& 0x07 ||| 0xf0).toNat = y.toNat % 8 + 240 ∧ (y &&& 0x3f ||| 0x80).toNat = y.toNat % 64 + 128 :=
  forall_uint8 (P := fun y => (y &&& 0x1f ||| 0xc0).toNat = y.toNat % 32 + 192 ∧
    (y &&& 0x0f ||| 0xe0).toNat = y.toNat % 16 + 224 ∧ (y &&& 0x07 ||| 0xf0).toNat = y.toNat % 8 + 240 ∧
    (y &&& 0x3f ||| 0x80).toNat = y.toNat % 64 + 128) (by decide +kernel) y

theorem toNat_toUInt8_shiftRight (c : Char) (k : UInt32) (hk : k.toNat < 32) :
    ((c.val >>> k).toUInt8).toNat = c.toNat / 2 ^ k.toNat % 256 := by
  rw [UInt32.toNat_toUInt8, UInt32.toNat_shiftRight, Nat.mod_eq_of_lt hk, Nat.shiftRight_eq_div_pow]
  rfl

theorem toNat_toUInt8_val (c : Char) : c.val.toUInt8.toNat = c.toNat % 256 := by
  rw [UInt32.toNat_toUInt8]
  rfl

theorem Char.toNat_ofNat_of_valid {n : Nat} (h : n.isValidChar) : (Char.ofNat n).toNat = n := by
  rw [Char.ofNat, dif_pos h]
  rfl

theorem Char.valid_toNat (c : Char) : c.toNat < 0xD800 ∨ (0xDFFF < c.toNat ∧ c.toNat < 0x110000) :=
  c.valid

theorem utf8Size_of_toNat (c : Char) :
    (c.toNat < 0x80 → c.utf8Size = 1) ∧ (0x80 ≤ c.toNat → c.toNat < 0x800 → c.utf8Size = 2) ∧
      (0x800 ≤ c.toNat → c.toNat < 0x10000 → c.utf8Size = 3) ∧ (0x10000 ≤ c.toNat → c.utf8Size = 4) := by
  have hv : c.toNat = c.val.toNat := rfl
  refine ⟨fun h => ?_, fun h1 h2 => ?_, fun h1 h2 => ?_, fun h => ?_⟩
  · exact Char.utf8Size_eq_one_iff.2 (UInt32.le_iff_toNat_le.2 (by simp; omega))
  · exact Char.utf8Size_eq_two_iff.2 ⟨UInt32.lt_iff_toNat_lt.2 (by simp; omega),
      UInt32.le_iff_toNat_le.2 (by simp; omega)⟩
  · exact Char.utf8Size_eq_three_iff.2 ⟨UInt32.lt_iff_toNat_lt.2 (by simp; omega),
      UInt32.le_iff_toNat_le.2 (by simp; omega)⟩
  · exact Char.utf8Size_eq_four_iff.2 (UInt32.lt_iff_toNat_lt.2 (by simp; omega))

theorem utf8EncodeChar_one {c : Char} (h : c.toNat < 0x80) :
    String.utf8EncodeChar c = [UInt8.ofNat c.toNat] := by
  rw [String.utf8EncodeChar_eq_singleton ((utf8Size_of_toNat c).1 h)]
  congr 1

theorem utf8EncodeChar_two {c : Char} (h1 : 0x80 ≤ c.toNat) (h2 : c.toNat < 0x800) :
    ∃ b0 b1 : UInt8, String.utf8EncodeChar c = [b0, b1] ∧ b0.toNat = c.toNat / 64 + 192 ∧
      b1.toNat = c.toNat % 64 + 128 := by
  rw [String.utf8EncodeChar_eq_cons_cons ((utf8Size_of_toNat c).2.1 h1 h2)]
  refine ⟨_, _, rfl, ?_, ?_⟩
  · rw [(toNat_or_and _).1, toNat_toUInt8_shiftRight c 6 (by decide)]
    simp only [UInt32.reduceToNat, Nat.reducePow]
    omega
  · rw [(toNat_or_and _).2.2.2, toNat_toUInt8_val]
    omega

theorem utf8EncodeChar_three {c : Char} (h1 : 0x800 ≤ c.toNat) (h2 : c.toNat < 0x10000) :
    ∃ b0 b1 b2 : UInt8, String.utf8EncodeChar c = [b0, b1, b2] ∧ b0.toNat = c.toNat / 4096 + 224 ∧
      b1.toNat = c.toNat / 64 % 64 + 128 ∧ b2.toNat = c.toNat % 64 + 128 := by
  rw [String.utf8EncodeChar_eq_cons_cons_cons ((utf8Size_of_toNat c).2.2.1 h1 h2)]
  refine ⟨_, _, _, rfl, ?_, ?_, ?_⟩
  · rw [(toNat_or_and _).2.1, toNat_toUInt8_shiftRight c 12 (by decide)]
    simp only [UInt32.reduceToNat, Nat.reducePow]
    omega
  · rw [(toNat_or_and _).2.2.2, toNat_toUInt8_shiftRight c 6 (by decide)]
    simp only [UInt32.reduceToNat, Nat.reducePow]
    omega
  · rw [(toNat_or_and _).2.2.2, toNat_toUInt8_val]
    omega

theorem utf8EncodeChar_four {c : Char} (h : 0x10000 ≤ c.toNat) :
    ∃ b0 b1 b2 b3 : UInt8, String.utf8EncodeChar c = [b0, b1, b2, b3] ∧
      b0.toNat = c.toNat / 262144 + 240 ∧ b1.toNat = c.toNat / 4096 % 64 + 128 ∧
      b2.toNat = c.toNat / 64 % 64 + 128 ∧ b3.toNat = c.toNat % 64 + 128 := by
  have hc := Char.valid_toNat c
  rw [String.utf8EncodeChar_eq_cons_cons_cons_cons ((utf8Size_of_toNat c).2.2.2 h)]
  refine ⟨_, _, _, _, rfl, ?_, ?_, ?_, ?_⟩
  · rw [(toNat_or_and _).2.2.1, toNat_toUInt8_shiftRight c 18 (by decide)]
    simp only [UInt32.reduceToNat, Nat.reducePow]
    omega
  · rw [(toNat_or_and _).2.2.2, toNat_toUInt8_shiftRight c 12 (by decide)]
    simp only [UInt32.reduceToNat, Nat.reducePow]
    omega
  · rw [(toNat_or_and _).2.2.2, toNat_toUInt8_shiftRight c 6 (by decide)]
    simp only [UInt32.reduceToNat, Nat.reducePow]
    omega
  · rw [(toNat_or_and _).2.2.2, toNat_toUInt8_val]
    omega

theorem ite_le_iff {p : Prop} [Decidable p] {a a' x : UInt8} :
    (if p then a else a') ≤ x ↔ (p → a.toNat ≤ x.toNat) ∧ (¬p → a'.toNat ≤ x.toNat) := by
  split <;> simp_all [UInt8.le_iff_toNat_le]

theorem le_ite_iff {p : Prop} [Decidable p] {a a' x : UInt8} :
    x ≤ (if p then a else a') ↔ (p → x.toNat ≤ a.toNat) ∧ (¬p → x.toNat ≤ a'.toNat) := by
  split <;> simp_all [UInt8.le_iff_toNat_le]

theorem eq_iff_toNat_eq {b a : UInt8} : b = a ↔ b.toNat = a.toNat := UInt8.toNat_inj.symm

namespace Glyph

theorem multi?_two (b0 b1 : UInt8) (z : Bytes) (h0 : 0xC2 ≤ b0.toNat ∧ b0.toNat ≤ 0xDF)
    (h1 : isTrailing b1 = true) :
    multi? b0 (b1 :: z) = some (Char.ofNat (b0.toNat % 32 * 64 + b1.toNat % 64), 1) := by
  have hc : 0xC2 ≤ b0 ∧ b0 ≤ 0xDF := by
    simp only [UInt8.le_iff_toNat_le, UInt8.reduceToNat]
    exact h0
  simp only [multi?, if_pos hc, h1, if_true, payload_eq, (toNat_and_lead b0).1]

theorem multi?_three (b0 b1 b2 : UInt8) (z : Bytes) (h0 : 0xE0 ≤ b0.toNat ∧ b0.toNat ≤ 0xEF)
    (hlo : b0.toNat = 0xE0 → 0xA0 ≤ b1.toNat) (hhi : b0.toNat = 0xED → b1.toNat ≤ 0x9F)
    (h1 : isTrailing b1 = true) (h2 : isTrailing b2 = true) :
    multi? b0 (b1 :: b2 :: z) =
      some (Char.ofNat (b0.toNat % 16 * 4096 + b1.toNat % 64 * 64 + b2.toNat % 64), 2) := by
  have h1' := (isTrailing_iff b1).1 h1
  have hn : ¬(0xC2 ≤ b0 ∧ b0 ≤ 0xDF) := by
    simp only [UInt8.le_iff_toNat_le, UInt8.reduceToNat]
    omega
  have hc : 0xE0 ≤ b0 ∧ b0 ≤ 0xEF := by
    simp only [UInt8.le_iff_toNat_le, UInt8.reduceToNat]
    exact h0
  have hb1 : (if b0 = 0xE0 then (0xA0 : UInt8) else 0x80) ≤ b1 ∧
      b1 ≤ (if b0 = 0xED then (0x9F : UInt8) else 0xBF) := by
    simp only [ite_le_iff, le_ite_iff, eq_iff_toNat_eq, UInt8.reduceToNat]
    omega
  simp only [multi?, if_neg hn, if_pos hc, payload_eq, (toNat_and_lead b0).2.1]
  rw [if_pos ⟨hb1.1, hb1.2, h2⟩]

theorem multi?_four (b0 b1 b2 b3 : UInt8) (z : Bytes) (h0 : 0xF0 ≤ b0.toNat ∧ b0.toNat ≤ 0xF4)
    (hlo : b0.toNat = 0xF0 → 0x90 ≤ b1.toNat) (hhi : b0.toNat = 0xF4 → b1.toNat ≤ 0x8F)
    (h1 : isTrailing b1 = true) (h2 : isTrailing b2 = true) (h3 : isTrailing b3 = true) :
    multi? b0 (b1 :: b2 :: b3 :: z) = some (Char.ofNat (b0.toNat % 8 * 262144 + b1.toNat % 64 * 4096 +
      b2.toNat % 64 * 64 + b3.toNat % 64), 3) := by
  have h1' := (isTrailing_iff b1).1 h1
  have hn : ¬(0xC2 ≤ b0 ∧ b0 ≤ 0xDF) := by
    simp only [UInt8.le_iff_toNat_le, UInt8.reduceToNat]
    omega
  have hn' : ¬(0xE0 ≤ b0 ∧ b0 ≤ 0xEF) := by
    simp only [UInt8.le_iff_toNat_le, UInt8.reduceToNat]
    omega
  have hc : 0xF0 ≤ b0 ∧ b0 ≤ 0xF4 := by
    simp only [UInt8.le_iff_toNat_le, UInt8.reduceToNat]
    exact h0
  have hb1 : (if b0 = 0xF0 then (0x90 : UInt8) else 0x80) ≤ b1 ∧
      b1 ≤ (if b0 = 0xF4 then (0x8F : UInt8) else 0xBF) := by
    simp only [ite_le_iff, le_ite_iff, eq_iff_toNat_eq, UInt8.reduceToNat]
    omega
  simp only [multi?, if_neg hn, if_neg hn', if_pos hc, payload_eq, (toNat_and_lead b0).2.2]
  rw [if_pos ⟨hb1.1, hb1.2, h2, h3⟩]

end Glyph

/-- The lead byte of a character of several bytes reads the character from the bytes after it,
whatever follows them. -/
theorem multi?_of_utf8EncodeChar {c : Char} {b : UInt8} {tail : Bytes}
    (he : String.utf8EncodeChar c = b :: tail) (h : 0x80 ≤ c.toNat) (z : Bytes) :
    Glyph.multi? b (tail ++ z) = some (c, tail.length) := by
  have hv := Char.valid_toNat c
  by_cases h2 : c.toNat < 0x800
  · obtain ⟨b0, b1, he', hb0, hb1⟩ := utf8EncodeChar_two h h2
    obtain ⟨rfl, rfl⟩ := List.cons.inj (he.symm.trans he')
    rw [List.singleton_append, Glyph.multi?_two b b1 z (by omega) ((Glyph.isTrailing_iff b1).2 (by omega)),
      show b.toNat % 32 * 64 + b1.toNat % 64 = c.toNat by omega, Char.ofNat_toNat]
    rfl
  by_cases h3 : c.toNat < 0x10000
  · obtain ⟨b0, b1, b2, he', hb0, hb1, hb2⟩ := utf8EncodeChar_three (Nat.le_of_not_lt h2) h3
    obtain ⟨rfl, rfl⟩ := List.cons.inj (he.symm.trans he')
    rw [List.cons_append, List.singleton_append, Glyph.multi?_three b b1 b2 z (by omega) (by omega)
      (by omega) ((Glyph.isTrailing_iff b1).2 (by omega)) ((Glyph.isTrailing_iff b2).2 (by omega)),
      show b.toNat % 16 * 4096 + b1.toNat % 64 * 64 + b2.toNat % 64 = c.toNat by omega,
      Char.ofNat_toNat]
    rfl
  · obtain ⟨b0, b1, b2, b3, he', hb0, hb1, hb2, hb3⟩ := utf8EncodeChar_four (Nat.le_of_not_lt h3)
    obtain ⟨rfl, rfl⟩ := List.cons.inj (he.symm.trans he')
    rw [List.cons_append, List.cons_append, List.singleton_append, Glyph.multi?_four b b1 b2 b3 z
      (by omega) (by omega) (by omega) ((Glyph.isTrailing_iff b1).2 (by omega))
      ((Glyph.isTrailing_iff b2).2 (by omega)) ((Glyph.isTrailing_iff b3).2 (by omega)),
      show b.toNat % 8 * 262144 + b1.toNat % 64 * 4096 + b2.toNat % 64 * 64 + b3.toNat % 64 =
        c.toNat by omega, Char.ofNat_toNat]
    rfl

theorem utf8EncodeChar_ofNat_two {b0 b1 : UInt8} (h0 : 0xC2 ≤ b0.toNat ∧ b0.toNat ≤ 0xDF)
    (h1 : 128 ≤ b1.toNat ∧ b1.toNat < 192) :
    String.utf8EncodeChar (Char.ofNat (b0.toNat % 32 * 64 + b1.toNat % 64)) = [b0, b1] := by
  have hv := Char.toNat_ofNat_of_valid (n := b0.toNat % 32 * 64 + b1.toNat % 64) (Or.inl (by omega))
  generalize Char.ofNat _ = d at hv ⊢
  obtain ⟨e0, e1, he, he0, he1⟩ := utf8EncodeChar_two (c := d) (by omega) (by omega)
  rw [he, UInt8.toNat_inj.1 (show e0.toNat = b0.toNat by omega),
    UInt8.toNat_inj.1 (show e1.toNat = b1.toNat by omega)]

theorem utf8EncodeChar_ofNat_three {b0 b1 b2 : UInt8} (h0 : 0xE0 ≤ b0.toNat ∧ b0.toNat ≤ 0xEF)
    (hlo : b0.toNat = 0xE0 → 0xA0 ≤ b1.toNat) (hhi : b0.toNat = 0xED → b1.toNat ≤ 0x9F)
    (h1 : 128 ≤ b1.toNat ∧ b1.toNat < 192) (h2 : 128 ≤ b2.toNat ∧ b2.toNat < 192) :
    String.utf8EncodeChar (Char.ofNat (b0.toNat % 16 * 4096 + b1.toNat % 64 * 64 + b2.toNat % 64)) =
      [b0, b1, b2] := by
  have hv := Char.toNat_ofNat_of_valid (n := b0.toNat % 16 * 4096 + b1.toNat % 64 * 64 + b2.toNat % 64)
    (by unfold Nat.isValidChar; omega)
  generalize Char.ofNat _ = d at hv ⊢
  obtain ⟨e0, e1, e2, he, he0, he1, he2⟩ := utf8EncodeChar_three (c := d) (by omega) (by omega)
  rw [he, UInt8.toNat_inj.1 (show e0.toNat = b0.toNat by omega),
    UInt8.toNat_inj.1 (show e1.toNat = b1.toNat by omega),
    UInt8.toNat_inj.1 (show e2.toNat = b2.toNat by omega)]

theorem utf8EncodeChar_ofNat_four {b0 b1 b2 b3 : UInt8} (h0 : 0xF0 ≤ b0.toNat ∧ b0.toNat ≤ 0xF4)
    (hlo : b0.toNat = 0xF0 → 0x90 ≤ b1.toNat) (hhi : b0.toNat = 0xF4 → b1.toNat ≤ 0x8F)
    (h1 : 128 ≤ b1.toNat ∧ b1.toNat < 192) (h2 : 128 ≤ b2.toNat ∧ b2.toNat < 192)
    (h3 : 128 ≤ b3.toNat ∧ b3.toNat < 192) :
    String.utf8EncodeChar (Char.ofNat (b0.toNat % 8 * 262144 + b1.toNat % 64 * 4096 +
      b2.toNat % 64 * 64 + b3.toNat % 64)) = [b0, b1, b2, b3] := by
  have hv := Char.toNat_ofNat_of_valid (n := b0.toNat % 8 * 262144 + b1.toNat % 64 * 4096 +
    b2.toNat % 64 * 64 + b3.toNat % 64) (by unfold Nat.isValidChar; omega)
  generalize Char.ofNat _ = d at hv ⊢
  obtain ⟨e0, e1, e2, e3, he, he0, he1, he2, he3⟩ := utf8EncodeChar_four (c := d) (by omega)
  rw [he, UInt8.toNat_inj.1 (show e0.toNat = b0.toNat by omega),
    UInt8.toNat_inj.1 (show e1.toNat = b1.toNat by omega),
    UInt8.toNat_inj.1 (show e2.toNat = b2.toNat by omega),
    UInt8.toNat_inj.1 (show e3.toNat = b3.toNat by omega)]

theorem utf8EncodeChar_of_multi? {b0 : UInt8} {rest : Bytes} {c : Char} {n : Nat}
    (h : Glyph.multi? b0 rest = some (c, n)) :
    String.utf8EncodeChar c = b0 :: rest.take n ∧ n ≤ rest.length := by
  unfold Glyph.multi? at h
  split at h
  · rename_i h0
    simp only [UInt8.le_iff_toNat_le, UInt8.reduceToNat] at h0
    split at h
    · rename_i b1 z
      split at h
      · rename_i ht
        obtain ⟨rfl, rfl⟩ := Prod.mk.inj (Option.some.inj h)
        rw [Glyph.payload_eq, (Glyph.toNat_and_lead b0).1]
        exact ⟨utf8EncodeChar_ofNat_two h0 ((Glyph.isTrailing_iff b1).1 ht), by simp⟩
      · cases h
    · cases h
  · split at h
    · rename_i h0
      simp only [UInt8.le_iff_toNat_le, UInt8.reduceToNat] at h0
      split at h
      · rename_i b1 b2 z
        obtain ⟨hb, h⟩ := Option.ite_none_right_eq_some.1 h
        simp only [ite_le_iff, le_ite_iff, eq_iff_toNat_eq, UInt8.reduceToNat] at hb
        obtain ⟨rfl, rfl⟩ := Prod.mk.inj (Option.some.inj h)
        rw [Glyph.payload_eq, Glyph.payload_eq, (Glyph.toNat_and_lead b0).2.1]
        have h2 := (Glyph.isTrailing_iff b2).1 hb.2.2
        exact ⟨utf8EncodeChar_ofNat_three h0 (fun he => by have := hb.1.1 he; omega)
          (fun he => by have := hb.2.1.1 he; omega) (by omega) h2, by simp⟩
      · cases h
    · split at h
      · rename_i h0
        simp only [UInt8.le_iff_toNat_le, UInt8.reduceToNat] at h0
        split at h
        · rename_i b1 b2 b3 z
          obtain ⟨hb, h⟩ := Option.ite_none_right_eq_some.1 h
          simp only [ite_le_iff, le_ite_iff, eq_iff_toNat_eq, UInt8.reduceToNat] at hb
          obtain ⟨rfl, rfl⟩ := Prod.mk.inj (Option.some.inj h)
          rw [Glyph.payload_eq, Glyph.payload_eq, Glyph.payload_eq, (Glyph.toNat_and_lead b0).2.2]
          exact ⟨utf8EncodeChar_ofNat_four h0 (fun he => by have := hb.1.1 he; omega)
            (fun he => by have := hb.2.1.1 he; omega) (by omega)
            ((Glyph.isTrailing_iff b2).1 hb.2.2.1) ((Glyph.isTrailing_iff b3).1 hb.2.2.2), by simp⟩
        · cases h
      · cases h

theorem encode_cons (g : Glyph) (gs : List Glyph) : encode (g :: gs) = g.bytes ++ encode gs := by
  simp [encode]

@[simp] theorem encode_nil : encode [] = [] := rfl

theorem utf8EncodeChar_ofNat_ascii {b : UInt8} (hb : b < 0x80) :
    String.utf8EncodeChar (Char.ofNat b.toNat) = [b] := by
  have hb' : b.toNat < 0x80 := UInt8.lt_iff_toNat_lt.1 hb
  have hv := Char.toNat_ofNat_of_valid (n := b.toNat) (Or.inl (by omega))
  rw [utf8EncodeChar_one (by omega), hv, UInt8.ofNat_toNat]

theorem encode_decode : (b : Bytes) → encode (decode b) = b
  | [] => by simp
  | x :: rest => by
    by_cases hx : x < 0x80
    · rw [decode_cons_of_lt hx, encode_cons, encode_decode rest, Glyph.bytes,
        utf8EncodeChar_ofNat_ascii hx, List.singleton_append]
    · match hm : Glyph.multi? x rest with
      | some (c, n) =>
        rw [decode_cons_of_multi? hx hm, encode_cons, encode_decode (rest.drop n), Glyph.bytes,
          (utf8EncodeChar_of_multi? hm).1, List.cons_append, List.take_append_drop]
      | none =>
        rw [decode_cons_of_stray hx hm, encode_cons, encode_decode rest]
        rfl
termination_by b => b.length

theorem not_lt_of_stray_mem_decode : (b : Bytes) → ∀ x, Glyph.stray x ∈ decode b → ¬x < 0x80
  | [] => by simp
  | y :: rest => by
    intro x hx
    by_cases hy : y < 0x80
    · rw [decode_cons_of_lt hy] at hx
      exact not_lt_of_stray_mem_decode rest x (by simpa using hx)
    · match hm : Glyph.multi? y rest with
      | some (c, n) =>
        rw [decode_cons_of_multi? hy hm] at hx
        exact not_lt_of_stray_mem_decode (rest.drop n) x (by simpa using hx)
      | none =>
        rw [decode_cons_of_stray hy hm] at hx
        rcases List.mem_cons.1 hx with h | h
        · cases h
          exact hy
        · exact not_lt_of_stray_mem_decode rest x h
termination_by b => b.length

theorem utf8EncodeChar_shape (c : Char) :
    (c.toNat < 0x80 ∧ String.utf8EncodeChar c = [UInt8.ofNat c.toNat]) ∨
      0x80 ≤ c.toNat ∧ ∃ b tail, String.utf8EncodeChar c = b :: tail ∧
        (0xC2 ≤ b.toNat ∧ b.toNat ≤ 0xF4) ∧ ∀ x ∈ tail, Glyph.isTrailing x = true := by
  have hv := Char.valid_toNat c
  by_cases h1 : c.toNat < 0x80
  · exact .inl ⟨h1, utf8EncodeChar_one h1⟩
  refine .inr ⟨Nat.le_of_not_lt h1, ?_⟩
  by_cases h2 : c.toNat < 0x800
  · obtain ⟨b0, b1, he, hb0, hb1⟩ := utf8EncodeChar_two (Nat.le_of_not_lt h1) h2
    refine ⟨b0, [b1], he, by omega, ?_⟩
    simp only [List.mem_singleton, forall_eq, Glyph.isTrailing_iff]
    omega
  by_cases h3 : c.toNat < 0x10000
  · obtain ⟨b0, b1, b2, he, hb0, hb1, hb2⟩ := utf8EncodeChar_three (Nat.le_of_not_lt h2) h3
    refine ⟨b0, [b1, b2], he, by omega, ?_⟩
    simp only [List.mem_cons, List.not_mem_nil, or_false, forall_eq_or_imp,
      forall_eq, Glyph.isTrailing_iff]
    omega
  · obtain ⟨b0, b1, b2, b3, he, hb0, hb1, hb2, hb3⟩ := utf8EncodeChar_four (Nat.le_of_not_lt h3)
    refine ⟨b0, [b1, b2, b3], he, by omega, ?_⟩
    simp only [List.mem_cons, List.not_mem_nil, or_false, forall_eq_or_imp,
      forall_eq, Glyph.isTrailing_iff]
    omega

theorem decode_utf8EncodeChar_append (c : Char) (z : Bytes) :
    decode (String.utf8EncodeChar c ++ z) = .char c :: decode z := by
  rcases utf8EncodeChar_shape c with ⟨h, he⟩ | ⟨h, b, tail, he, hb, -⟩
  · rw [he, List.singleton_append, decode_cons_of_lt (UInt8.lt_iff_toNat_lt.2 (by simp; omega)),
      UInt8.toNat_ofNat', Nat.mod_eq_of_lt (by omega), Char.ofNat_toNat]
  · rw [he, List.cons_append, decode_cons_of_multi? (not_lt_of_le_toNat (by omega))
      (multi?_of_utf8EncodeChar he h z), List.drop_left]

theorem decode_encode_chars_append (cs : List Char) (z : Bytes) :
    decode (encode (cs.map .char) ++ z) = cs.map .char ++ decode z := by
  induction cs with
  | nil => rfl
  | cons c cs ih =>
    rw [List.map_cons, encode_cons, Glyph.bytes, List.append_assoc, decode_utf8EncodeChar_append, ih,
      List.cons_append]

theorem utf8EncodeChar_head (c : Char) :
    ∃ b tail, String.utf8EncodeChar c = b :: tail ∧ Glyph.isTrailing b = false := by
  rcases utf8EncodeChar_shape c with ⟨h, he⟩ | ⟨-, b, tail, he, hb, -⟩
  · refine ⟨_, [], he, ?_⟩
    rw [Bool.eq_false_iff, ne_eq, Glyph.isTrailing_iff, UInt8.toNat_ofNat']
    omega
  · refine ⟨b, tail, he, ?_⟩
    rw [Bool.eq_false_iff, ne_eq, Glyph.isTrailing_iff]
    omega

theorem toNat_of_mem_utf8EncodeChar {c : Char} {x : UInt8} (hx : x ∈ String.utf8EncodeChar c)
    (h : x.toNat < 0x80) : c.toNat = x.toNat := by
  rcases utf8EncodeChar_shape c with ⟨h1, he⟩ | ⟨-, b, tail, he, hb, ht⟩
  · rw [he, List.mem_singleton] at hx
    subst hx
    rw [UInt8.toNat_ofNat']
    omega
  · rw [he, List.mem_cons] at hx
    rcases hx with rfl | hx
    · omega
    · have := (Glyph.isTrailing_iff x).1 (ht x hx)
      omega

theorem le_length_takeWhile {p : UInt8 → Bool} : ∀ {w : Bytes} {n : Nat}, n ≤ w.length →
    (∀ x ∈ w.take n, p x = true) → n ≤ (w.takeWhile p).length
  | [], _, hn, _ => hn
  | _ :: _, 0, _, _ => Nat.zero_le _
  | x :: w, n + 1, hn, hp => by
    rw [List.take_succ_cons] at hp
    rw [List.takeWhile_cons_of_pos (hp x List.mem_cons_self), List.length_cons]
    exact Nat.succ_le_succ (le_length_takeWhile (Nat.le_of_succ_le_succ hn)
      fun y hy => hp y (List.mem_cons_of_mem _ hy))

theorem le_takeWhile_of_multi? {b : UInt8} {w : Bytes} {c : Char} {n : Nat}
    (h : Glyph.multi? b w = some (c, n)) : n ≤ (w.takeWhile Glyph.isTrailing).length := by
  obtain ⟨he, hn⟩ := utf8EncodeChar_of_multi? h
  apply le_length_takeWhile hn
  rcases utf8EncodeChar_shape c with ⟨-, he'⟩ | ⟨-, b', tail, he', -, ht⟩
  · rw [he'] at he
    have : (w.take n).length = 0 := by simpa using (List.cons.inj he).2.symm
    simp [List.length_eq_zero_iff.1 this]
  · rw [he'] at he
    rw [← (List.cons.inj he).2]
    exact ht

theorem lead_of_multi? {b : UInt8} {rest : Bytes} {p : Char × Nat}
    (h : Glyph.multi? b rest = some p) : 0xC2 ≤ b.toNat ∧ b.toNat ≤ 0xF4 := by
  unfold Glyph.multi? at h
  split at h
  · rename_i h0
    simp only [UInt8.le_iff_toNat_le, UInt8.reduceToNat] at h0
    omega
  · split at h
    · rename_i h0
      simp only [UInt8.le_iff_toNat_le, UInt8.reduceToNat] at h0
      omega
    · split at h
      · rename_i h0
        simp only [UInt8.le_iff_toNat_le, UInt8.reduceToNat] at h0
        omega
      · cases h

theorem le_toNat_char_of_multi? {b : UInt8} {rest : Bytes} {c : Char} {n : Nat}
    (h : Glyph.multi? b rest = some (c, n)) : 0x80 ≤ c.toNat := by
  have hb := lead_of_multi? h
  rcases utf8EncodeChar_shape c with ⟨-, he⟩ | ⟨hc, -⟩
  · rw [(utf8EncodeChar_of_multi? h).1] at he
    have := congrArg UInt8.toNat (List.cons.inj he).1
    rw [UInt8.toNat_ofNat'] at this
    omega
  · exact hc

theorem multi?_append {b : UInt8} {w : Bytes} {c : Char} {n : Nat}
    (h : Glyph.multi? b w = some (c, n)) (z : Bytes) : Glyph.multi? b (w ++ z) = some (c, n) := by
  obtain ⟨he, hn⟩ := utf8EncodeChar_of_multi? h
  have hm := multi?_of_utf8EncodeChar he (le_toNat_char_of_multi? h) (w.drop n ++ z)
  rwa [← List.append_assoc, List.take_append_drop, List.length_take_of_le hn] at hm

theorem multi?_of_append {b : UInt8} {w z : Bytes} {c : Char} {n : Nat}
    (h : Glyph.multi? b (w ++ z) = some (c, n)) (hn : n ≤ w.length) : Glyph.multi? b w = some (c, n) := by
  have he := (utf8EncodeChar_of_multi? h).1
  rw [List.take_append_of_le_length hn] at he
  have hm := multi?_of_utf8EncodeChar he (le_toNat_char_of_multi? h) (w.drop n)
  rwa [List.take_append_drop, List.length_take_of_le hn] at hm

theorem multi?_eq_none_of_lt {b : UInt8} (h : b.toNat < 0xC2) (rest : Bytes) :
    Glyph.multi? b rest = none := by
  cases hm : Glyph.multi? b rest with
  | none => rfl
  | some p => exact absurd (lead_of_multi? hm).1 (by omega)

theorem decode_trailing_append {t : Bytes} (ht : ∀ x ∈ t, Glyph.isTrailing x = true) (z : Bytes) :
    decode (t ++ z) = t.map .stray ++ decode z := by
  induction t with
  | nil => rfl
  | cons x t ih =>
    have hx := (Glyph.isTrailing_iff x).1 (ht x List.mem_cons_self)
    rw [List.cons_append, decode_cons_of_stray (not_lt_of_le_toNat (by omega))
      (multi?_eq_none_of_lt (by omega) _), ih fun y hy => ht y (List.mem_cons_of_mem _ hy)]
    rfl

end RegisterMap

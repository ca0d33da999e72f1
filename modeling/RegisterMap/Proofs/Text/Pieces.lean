import Mathlib.Tactic.SplitIfs
import RegisterMap.Text.Lower
import RegisterMap.Proofs.Text.Utf8
import RegisterMap.Proofs.Text.Case

/-!
Text read in pieces (`pieceAt`): a character, or bytes that start none. A piece read from a
window is the piece at the same place of the whole input; `Lowers x o y` says what a pass may
write for the pieces of `x`, and what it writes is lower-case text (`isLower_of_lowers`).
-/

namespace RegisterMap

namespace Text

theorem announced_eq (b : UInt8) :
    announced b = if b.toNat < 0xC2 then 1 else if b.toNat < 0xE0 then 2 else if b.toNat < 0xF0 then 3
      else if b.toNat < 0xF8 then 4 else 1 := by
  simp only [announced, UInt8.lt_iff_toNat_lt, UInt8.reduceToNat]

theorem announced_le_four (b : UInt8) : announced b ≤ 4 := by
  rw [announced_eq]
  split_ifs <;> omega

theorem one_le_announced (b : UInt8) : 1 ≤ announced b := by
  rw [announced_eq]
  split_ifs <;> omega

theorem announced_of_lt {b : UInt8} (h : b.toNat < 0xC2) : announced b = 1 := by
  rw [announced_eq, if_pos h]

theorem announced_utf8EncodeChar {c : Char} {b : UInt8} {tail : Bytes}
    (he : String.utf8EncodeChar c = b :: tail) : announced b = tail.length + 1 := by
  have hv := Char.valid_toNat c
  rw [announced_eq]
  by_cases h1 : c.toNat < 0x80
  · rw [utf8EncodeChar_one h1] at he
    obtain ⟨rfl, rfl⟩ := List.cons.inj he.symm
    rw [UInt8.toNat_ofNat', if_pos (by omega)]
    rfl
  by_cases h2 : c.toNat < 0x800
  · obtain ⟨b0, b1, he', hb0, -⟩ := utf8EncodeChar_two (Nat.le_of_not_lt h1) h2
    obtain ⟨rfl, rfl⟩ := List.cons.inj (he.symm.trans he')
    split_ifs <;> first | rfl | omega
  by_cases h3 : c.toNat < 0x10000
  · obtain ⟨b0, b1, b2, he', hb0, -⟩ := utf8EncodeChar_three (Nat.le_of_not_lt h2) h3
    obtain ⟨rfl, rfl⟩ := List.cons.inj (he.symm.trans he')
    split_ifs <;> first | rfl | omega
  · obtain ⟨b0, b1, b2, b3, he', hb0, -⟩ := utf8EncodeChar_four (Nat.le_of_not_lt h3)
    obtain ⟨rfl, rfl⟩ := List.cons.inj (he.symm.trans he')
    split_ifs <;> first | rfl | omega

theorem announced_of_multi? {b : UInt8} {rest : Bytes} {c : Char} {n : Nat}
    (h : Glyph.multi? b rest = some (c, n)) : announced b = n + 1 := by
  obtain ⟨he, hn⟩ := utf8EncodeChar_of_multi? h
  rw [announced_utf8EncodeChar he, List.length_take_of_le hn]

def tailOf (b : UInt8) (rest : Bytes) : Bytes := (rest.take (announced b - 1)).takeWhile Glyph.isTrailing

/-- What reading a piece can give: an ASCII character; a byte alone that starts nothing, or a
lead byte cut by the end of the input; or a lead byte with the continuation bytes after it, a
character when they are all there and well-formed. -/
theorem pieceAt_cons_whole {x : Bool} {b : UInt8} {rest p : Bytes} {c : Option Char}
    (h : pieceAt x (b :: rest) = some (.whole p c)) :
    (b < 0x80 ∧ p = [b] ∧ c = some (Char.ofNat b.toNat)) ∨
    (¬b < 0x80 ∧ p = [b] ∧ c = none ∧ (announced b = 1 ∨ x = true ∧ rest.length + 1 < announced b)) ∨
    (¬b < 0x80 ∧ announced b ≠ 1 ∧ announced b ≤ rest.length + 1 ∧ p = b :: tailOf b rest ∧
      ((tailOf b rest).length + 1 < announced b ∧ c = none ∨
        (tailOf b rest).length + 1 = announced b ∧ c = (Glyph.multi? b rest).map (·.1))) := by
  dsimp only [pieceAt] at h
  split_ifs at h with h1 h2 h3 hx h4
  · cases h
    exact .inl ⟨h1, rfl, rfl⟩
  · cases h
    exact .inr (.inl ⟨h1, rfl, rfl, .inl h2⟩)
  · cases h
    exact .inr (.inl ⟨h1, rfl, rfl, .inr ⟨hx, h3⟩⟩)
  · cases h
  · cases h
    exact .inr (.inr ⟨h1, h2, by omega, rfl, .inl ⟨h4, rfl⟩⟩)
  · cases h
    have hle : (tailOf b rest).length ≤ announced b - 1 :=
      Nat.le_trans (List.takeWhile_prefix _).length_le (List.length_take_le _ _)
    have h4' : ¬(tailOf b rest).length + 1 < announced b := h4
    have := one_le_announced b
    exact .inr (.inr ⟨h1, h2, by omega, rfl, .inr ⟨by omega, rfl⟩⟩)

theorem pieceAt_nil (x : Bool) : pieceAt x [] = none := rfl

theorem pieceAt_cons_ne_none (x : Bool) (b : UInt8) (rest : Bytes) : pieceAt x (b :: rest) ≠ none := by
  dsimp only [pieceAt]
  split_ifs <;> simp

theorem pieceAt_eq_cut {x : Bool} {w : Bytes} (h : pieceAt x w = some .cut) : x = false ∧ w.length < 4 := by
  cases w with
  | nil => cases h
  | cons b rest =>
    dsimp only [pieceAt] at h
    split_ifs at h with h1 h2 h3 hx <;> try cases h
    have := announced_le_four b
    exact ⟨by simpa using hx, by simp only [List.length_cons]; omega⟩

theorem trailing_of_mem_tailOf {b y : UInt8} {rest : Bytes} (hy : y ∈ tailOf b rest) :
    Glyph.isTrailing y = true :=
  List.all_eq_true.1 List.all_takeWhile y hy

theorem tailOf_append_drop (b : UInt8) (rest : Bytes) :
    tailOf b rest ++ rest.drop (tailOf b rest).length = rest :=
  List.prefix_iff_eq_append.1 ((List.takeWhile_prefix _).trans (List.take_prefix _ _))

/-- A piece is a lead byte and some of the continuation bytes after it, fewer than it announces,
at the front of what was read. -/
theorem pieceAt_whole_spec {x : Bool} {r p : Bytes} {c : Option Char} (h : pieceAt x r = some (.whole p c)) :
    ∃ b tail, p = b :: tail ∧ r = p ++ r.drop p.length ∧ tail.length < announced b ∧
      ∀ y ∈ tail, Glyph.isTrailing y = true := by
  cases r with
  | nil => cases h
  | cons b rest =>
    rcases pieceAt_cons_whole h with ⟨-, rfl, -⟩ | ⟨-, rfl, -⟩ | ⟨-, -, -, rfl, -⟩
    · exact ⟨b, [], rfl, rfl, one_le_announced b, by simp⟩
    · exact ⟨b, [], rfl, rfl, one_le_announced b, by simp⟩
    · refine ⟨b, tailOf b rest, rfl, ?_, ?_, fun y hy => trailing_of_mem_tailOf hy⟩
      · simp only [List.length_cons, List.drop_succ_cons, List.cons_append]
        rw [tailOf_append_drop]
      · have : (tailOf b rest).length ≤ announced b - 1 :=
          Nat.le_trans (List.takeWhile_prefix _).length_le (List.length_take_le _ _)
        have := one_le_announced b
        omega

theorem length_le_of_pieceAt {x : Bool} {r p : Bytes} {c : Option Char}
    (h : pieceAt x r = some (.whole p c)) : 1 ≤ p.length ∧ p.length ≤ 4 ∧ p.length ≤ r.length := by
  obtain ⟨b, tail, rfl, hr, hlt, -⟩ := pieceAt_whole_spec h
  have := announced_le_four b
  have hl := congrArg List.length hr
  simp only [List.length_append, List.length_cons] at hl ⊢
  omega

theorem utf8EncodeChar_of_pieceAt {x : Bool} {r p : Bytes} {d : Char}
    (h : pieceAt x r = some (.whole p (some d))) : String.utf8EncodeChar d = p := by
  cases r with
  | nil => cases h
  | cons b rest =>
    rcases pieceAt_cons_whole h with ⟨hb, rfl, hd⟩ | ⟨-, -, hd, -⟩ | ⟨-, -, hlen, rfl, ⟨-, hd⟩ | ⟨htl, hd⟩⟩
    · cases hd
      exact utf8EncodeChar_ofNat_ascii hb
    · cases hd
    · cases hd
    · obtain ⟨⟨d', n⟩, hm, hd'⟩ := Option.map_eq_some_iff.1 hd.symm
      cases hd'
      obtain ⟨he, hn⟩ := utf8EncodeChar_of_multi? hm
      have hna := announced_of_multi? hm
      rw [he]
      congr 1
      -- the continuation bytes taken are all of the `n` that the character uses
      have hpre : tailOf b rest <+: rest.take n := by
        rw [show n = announced b - 1 by omega]
        exact List.takeWhile_prefix _
      exact (hpre.eq_of_length (by rw [List.length_take_of_le hn]; omega)).symm

theorem tailOf_take {b : UInt8} {rest : Bytes} {m : Nat} (h : announced b - 1 ≤ m) :
    tailOf b (rest.take m) = tailOf b rest := by
  unfold tailOf
  rw [List.take_take, Nat.min_eq_left h]

theorem multi?_take {b : UInt8} {rest : Bytes} {m : Nat} (h : announced b - 1 ≤ (rest.take m).length) :
    Glyph.multi? b (rest.take m) = Glyph.multi? b rest := by
  cases hm : Glyph.multi? b rest with
  | some p =>
    have hn := announced_of_multi? hm
    exact multi?_of_append (z := rest.drop m) (by rwa [List.take_append_drop]) (by omega)
  | none =>
    cases hw : Glyph.multi? b (rest.take m) with
    | none => rfl
    | some p =>
      have := multi?_append hw (rest.drop m)
      rw [List.take_append_drop, hm] at this
      cases this

/-- A piece read whole from a window that the input goes on after is the piece read there from
the whole input. -/
theorem pieceAt_of_take {r p : Bytes} {c : Option Char} {k : Nat}
    (h : pieceAt false (r.take k) = some (.whole p c)) (x : Bool) : pieceAt x r = some (.whole p c) := by
  cases r with
  | nil => simp [pieceAt] at h
  | cons b rest =>
    cases k with
    | zero => simp [pieceAt] at h
    | succ m =>
      rw [List.take_succ_cons] at h
      rcases pieceAt_cons_whole h with ⟨hb, rfl, rfl⟩ | ⟨hb, rfl, rfl, h1 | ⟨hx, -⟩⟩ |
          ⟨hb, h1, hlen, rfl, hc⟩
      · dsimp only [pieceAt]
        rw [if_pos hb]
      · dsimp only [pieceAt]
        rw [if_neg hb, if_pos h1]
      · cases hx
      · have hm : announced b - 1 ≤ m := by
          have := List.length_take_le m rest
          omega
        have hr : ¬rest.length + 1 < announced b := by
          have := List.length_take_le' m rest
          omega
        rw [tailOf_take hm] at hc ⊢
        rw [multi?_take (by omega)] at hc
        dsimp only [pieceAt]
        rw [if_neg hb, if_neg h1, if_neg hr]
        show (if (tailOf b rest).length + 1 < announced b then _ else _) = _
        rcases hc with ⟨hl, rfl⟩ | ⟨hl, rfl⟩
        · rw [if_pos hl]
          rfl
        · rw [if_neg (by omega)]
          rfl

theorem pieceAt_of_trailing {b : UInt8} (hb : Glyph.isTrailing b = true) (x : Bool) (rest : Bytes) :
    pieceAt x (b :: rest) = some (.whole [b] none) := by
  have hb' := (Glyph.isTrailing_iff b).1 hb
  dsimp only [pieceAt]
  rw [if_neg (not_lt_of_le_toNat (by omega)), if_pos (announced_of_lt (by omega))]

theorem pieceAt_utf8EncodeChar (x : Bool) (c : Char) (z : Bytes) :
    pieceAt x (String.utf8EncodeChar c ++ z) = some (.whole (String.utf8EncodeChar c) (some c)) := by
  rcases utf8EncodeChar_shape c with ⟨h, he⟩ | ⟨h, b, tail, he, hb, ht⟩
  · have hb : UInt8.ofNat c.toNat < 0x80 := UInt8.lt_iff_toNat_lt.2 (by simp; omega)
    rw [he, List.singleton_append]
    dsimp only [pieceAt]
    rw [if_pos hb, UInt8.toNat_ofNat', Nat.mod_eq_of_lt (by omega), Char.ofNat_toNat]
  · have hn := announced_utf8EncodeChar he
    have h2 : 2 ≤ announced b := by
      rw [announced_eq]
      split_ifs <;> omega
    have htail : tailOf b (tail ++ z) = tail := by
      unfold tailOf
      rw [hn, Nat.add_sub_cancel, List.take_left, ← List.append_nil tail,
        List.takeWhile_append_of_pos ht, List.takeWhile_nil]
    rw [he, List.cons_append]
    dsimp only [pieceAt]
    rw [if_neg (not_lt_of_le_toNat (by omega)), if_neg (by omega), if_neg (by simp; omega)]
    show (if (tailOf b (tail ++ z)).length + 1 < announced b then _ else _) = _
    rw [htail, if_neg (by omega), multi?_of_utf8EncodeChar he h z]
    show some (Piece.whole (b :: tailOf b (tail ++ z)) (some c)) = _
    rw [htail]

def leadingTrail (z : Bytes) : Nat := (z.takeWhile Glyph.isTrailing).length

theorem leadingTrail_append_of_trailing {t : Bytes} (ht : ∀ x ∈ t, Glyph.isTrailing x = true) (z : Bytes) :
    leadingTrail (t ++ z) = t.length + leadingTrail z := by
  simp only [leadingTrail, List.takeWhile_append_of_pos ht, List.length_append]

theorem leadingTrail_cons_of_trailing {y : UInt8} (hy : Glyph.isTrailing y = true) (z : Bytes) :
    leadingTrail (y :: z) = leadingTrail z + 1 := by
  simp [leadingTrail, List.takeWhile_cons_of_pos hy]

theorem leadingTrail_cons_of_not_trailing {y : UInt8} (hy : Glyph.isTrailing y = false) (z : Bytes) :
    leadingTrail (y :: z) = 0 := by
  simp [leadingTrail, hy]

theorem leadingTrail_le_length (z : Bytes) : leadingTrail z ≤ z.length :=
  (List.takeWhile_prefix _).length_le

theorem one_le_of_multi? {b : UInt8} {w : Bytes} {d : Char} {n : Nat} (h : Glyph.multi? b w = some (d, n)) :
    1 ≤ n := by
  have hb := lead_of_multi? h
  have hn := announced_of_multi? h
  rw [announced_eq, if_neg (by omega)] at hn
  split_ifs at hn <;> omega

/-- Where a piece stops short of what its lead byte announces, a byte that continues nothing
follows it. -/
theorem leadingTrail_after_short {b : UInt8} {tail r : Bytes}
    (htail : tail = tailOf b (tail ++ r)) (hlen : announced b ≤ (tail ++ r).length + 1)
    (hl : tail.length + 1 < announced b) : leadingTrail r = 0 := by
  have ht : ∀ x ∈ tail, Glyph.isTrailing x = true := fun x hx => by
    rw [htail] at hx
    exact trailing_of_mem_tailOf hx
  have hk : (tail ++ r).take (announced b - 1) = tail ++ r.take (announced b - 1 - tail.length) := by
    rw [List.take_append, List.take_of_length_le (by omega)]
  unfold tailOf at htail
  rw [hk, List.takeWhile_append_of_pos ht] at htail
  have hnil : (r.take (announced b - 1 - tail.length)).takeWhile Glyph.isTrailing = [] := by
    simpa using htail
  cases r with
  | nil => simp at hlen; omega
  | cons y r =>
    obtain ⟨k, hk⟩ : ∃ k, announced b - 1 - tail.length = k + 1 := ⟨_, (Nat.succ_pred_eq_of_pos (by omega)).symm⟩
    rw [hk, List.take_succ_cons] at hnil
    cases hy : Glyph.isTrailing y
    · exact leadingTrail_cons_of_not_trailing hy r
    · rw [List.takeWhile_cons_of_pos hy] at hnil
      cases hnil

/-- The bytes of a piece without a character are read as stray bytes, whatever follows them,
unless what follows starts with more continuation bytes than the input did there. -/
theorem decode_of_stray_piece {p r z : Bytes} (h : pieceAt true (p ++ r) = some (.whole p none))
    (hz : leadingTrail z ≤ leadingTrail r) : decode (p ++ z) = p.map .stray ++ decode z := by
  obtain ⟨b, tail, rfl, -, -, ht⟩ := pieceAt_whole_spec h
  rw [List.cons_append] at h
  -- the lead byte reads no character from what follows: it would need more continuation bytes
  have hnone : Glyph.multi? b (tail ++ z) = none := by
    cases hm : Glyph.multi? b (tail ++ z) with
    | none => rfl
    | some q =>
      obtain ⟨d, n⟩ := q
      have hn := announced_of_multi? hm
      have hnz := le_takeWhile_of_multi? hm
      have h1 := one_le_of_multi? hm
      rcases pieceAt_cons_whole h with ⟨-, -, hc⟩ | ⟨-, hp, -, h1' | ⟨-, htr⟩⟩ | ⟨-, -, hlen, hp, ⟨hl, -⟩ | ⟨hl, hc⟩⟩
      · cases hc
      · omega
      · obtain rfl : tail = [] := (List.cons.inj hp).2
        have := leadingTrail_le_length r
        simp only [List.nil_append] at htr hnz
        change n ≤ leadingTrail z at hnz
        omega
      · have htail := (List.cons.inj hp).2
        rw [← htail] at hl
        have h0 := leadingTrail_after_short htail hlen hl
        change n ≤ leadingTrail (tail ++ z) at hnz
        rw [leadingTrail_append_of_trailing ht] at hnz
        omega
      · have htail := (List.cons.inj hp).2
        rw [← htail] at hl
        have hmt := multi?_of_append hm (by omega)
        rw [multi?_append hmt r] at hc
        cases hc
  have hb : ¬b < 0x80 := by
    rcases pieceAt_cons_whole h with ⟨-, -, hc⟩ | ⟨hb, -⟩ | ⟨hb, -⟩
    · cases hc
    · exact hb
    · exact hb
  rw [List.cons_append, decode_cons_of_stray hb hnone, decode_trailing_append ht, List.map_cons,
    List.cons_append]

def pieceGlyphs (p : Bytes) : Option Char → List Glyph
  | some d => [.char d]
  | none => p.map .stray

theorem decode_of_pieceAt {p r : Bytes} {c : Option Char} (h : pieceAt true (p ++ r) = some (.whole p c)) :
    decode (p ++ r) = pieceGlyphs p c ++ decode r := by
  cases c with
  | some d =>
    rw [← utf8EncodeChar_of_pieceAt h, decode_utf8EncodeChar_append]
    rfl
  | none => exact decode_of_stray_piece h (Nat.le_refl _)

def IsLower (t : Bytes) : Prop := ∀ c, Glyph.char c ∈ decode t → lowerChar c = [c]

theorem IsLower.piece {p r : Bytes} {c : Option Char} (ht : IsLower (p ++ r))
    (h : pieceAt true (p ++ r) = some (.whole p c)) : (∀ d, c = some d → lowerChar d = [d]) ∧ IsLower r := by
  rw [IsLower, decode_of_pieceAt h] at ht
  refine ⟨fun d hd => ht d ?_, fun d hd => ht d (List.mem_append_right _ hd)⟩
  subst hd
  exact List.mem_append_left _ (List.mem_singleton_self _)

theorem sigmaBytes_eq (cased : Bool) :
    sigmaBytes cased = String.utf8EncodeChar (Char.ofNat (if cased then 0x3C3 else 0x3C2)) := by
  cases cased <;> decide

theorem capitalSigmaBytes_eq : capitalSigmaBytes = String.utf8EncodeChar (Char.ofNat 0x3A3) := by
  decide

theorem pieceAt_capitalSigma (x : Bool) (z : Bytes) :
    pieceAt x (capitalSigmaBytes ++ z) = some (.whole capitalSigmaBytes (some (Char.ofNat 0x3A3))) := by
  rw [capitalSigmaBytes_eq]
  exact pieceAt_utf8EncodeChar x _ z

theorem lowered_some (p : Bytes) (d : Char) : Piece.lowered p (some d) = encode ((lowerChar d).map .char) :=
  rfl

theorem lowered_of_lower {x : Bool} {r p : Bytes} {c : Option Char} (h : pieceAt x r = some (.whole p c))
    (hc : ∀ d, c = some d → lowerChar d = [d]) : Piece.lowered p c = p := by
  cases c with
  | none => rfl
  | some d =>
    rw [lowered_some, hc d rfl, List.map_cons, List.map_nil, encode_cons, encode_nil, List.append_nil,
      Glyph.bytes, utf8EncodeChar_of_pieceAt h]

theorem ne_capitalSigma_of_lower {x : Bool} {r p : Bytes} {c : Option Char}
    (h : pieceAt x r = some (.whole p c)) (hc : ∀ d, c = some d → lowerChar d = [d]) :
    p ≠ capitalSigmaBytes := by
  -- a capital sigma is no lower-case text
  rintro rfl
  obtain ⟨-, -, -, hr, -⟩ := pieceAt_whole_spec h
  rw [hr, pieceAt_capitalSigma] at h
  injection h with h
  injection h with _ hsig
  exact lowerChar_capitalSigma (hc _ hsig.symm)

/-- What a pass may write for a piece `p` with character `c`: the piece as it is, where the
character is not cased or is case-ignorable; its lower case; or, for a capital sigma, either
small sigma. -/
inductive Written (p : Bytes) (c : Option Char) : Bytes → Prop where
  | copy : Piece.cased c = false ∨ Piece.ignorable c = true → Written p c p
  | lower : Written p c (Piece.lowered p c)
  | sigma (cased : Bool) : p = capitalSigmaBytes → Written p c (sigmaBytes cased)

inductive Lowers : Bytes → Bytes → Bytes → Prop where
  | nil (y : Bytes) : Lowers [] [] y
  | cons {p x o o' y : Bytes} {c : Option Char} : pieceAt true (p ++ x ++ y) = some (.whole p c) →
      Written p c o → Lowers x o' y → Lowers (p ++ x) (o ++ o') y

theorem Lowers.single {p o y : Bytes} {c : Option Char} (h : pieceAt true (p ++ y) = some (.whole p c))
    (hw : Written p c o) : Lowers p o y := by
  have := Lowers.cons (x := []) (by rwa [List.append_nil]) hw (Lowers.nil y)
  rwa [List.append_nil, List.append_nil] at this

theorem Lowers.append {x o x' o' y : Bytes} (h : Lowers x o (x' ++ y)) (h' : Lowers x' o' y) :
    Lowers (x ++ x') (o ++ o') y := by
  generalize hz : x' ++ y = z at h
  induction h with
  | nil => simpa using h'
  | cons hp hw _ ih =>
    subst hz
    rw [List.append_assoc, List.append_assoc]
    exact .cons (by simpa [List.append_assoc] using hp) hw (ih rfl)

def LowerGlyphs (gs : List Glyph) : Prop := ∀ d, Glyph.char d ∈ gs → lowerChar d = [d]

theorem lowerGlyphs_append {gs hs : List Glyph} (hg : LowerGlyphs gs) (hh : LowerGlyphs hs) :
    LowerGlyphs (gs ++ hs) := fun d hd =>
  (List.mem_append.1 hd).elim (hg d) (hh d)

theorem lowerGlyphs_of_char {d : Char} (h : lowerChar d = [d]) : LowerGlyphs [.char d] := by
  intro e he
  rw [List.mem_singleton, Glyph.char.injEq] at he
  rwa [he]

theorem lowerGlyphs_stray (p : Bytes) : LowerGlyphs (p.map .stray) := by
  intro d hd
  obtain ⟨_, -, h⟩ := List.mem_map.1 hd
  cases h

/-- What a pass writes for a piece reads back as lower-case glyphs, whatever follows it, unless
what follows starts with more continuation bytes than the input did there. -/
theorem Written.decode {p r z o : Bytes} {c : Option Char} (hw : Written p c o)
    (h : pieceAt true (p ++ r) = some (.whole p c)) (hz : leadingTrail z ≤ leadingTrail r) :
    ∃ gs, RegisterMap.decode (o ++ z) = gs ++ RegisterMap.decode z ∧ LowerGlyphs gs := by
  -- a piece without a character is copied and reads back as stray bytes
  have hstray : c = none → ∃ gs, RegisterMap.decode (p ++ z) = gs ++ RegisterMap.decode z ∧ LowerGlyphs gs :=
    fun hc => ⟨_, decode_of_stray_piece (hc ▸ h) hz, lowerGlyphs_stray p⟩
  cases hw with
  | copy hc =>
    cases c with
    | none => exact hstray rfl
    | some d =>
      refine ⟨[.char d], ?_, lowerGlyphs_of_char ?_⟩
      · rw [← utf8EncodeChar_of_pieceAt h, decode_utf8EncodeChar_append]
        rfl
      · rcases hc with hc | hc
        · exact lowerChar_of_not_cased hc
        · exact lowerChar_of_ignorable hc
  | lower =>
    cases c with
    | none => exact hstray rfl
    | some d =>
      refine ⟨(lowerChar d).map .char, ?_, fun e he => ?_⟩
      · rw [lowered_some, decode_encode_chars_append]
      · obtain ⟨e', he', hee⟩ := List.mem_map.1 he
        cases hee
        exact lowerChar_of_mem_lowerChar he'
  | sigma cased _ =>
    refine ⟨[.char (Char.ofNat (if cased then 0x3C3 else 0x3C2))], ?_, lowerGlyphs_of_char ?_⟩
    · rw [sigmaBytes_eq, decode_utf8EncodeChar_append]
      rfl
    · cases cased
      · exact lowerChar_smallSigma.2
      · exact lowerChar_smallSigma.1

theorem Written.leadingTrail_eq_zero {p o : Bytes} {c : Option Char} {b : UInt8} {p' : Bytes}
    (hw : Written p c o) (hp : p = b :: p') (hb : Glyph.isTrailing b = false) (z : Bytes) :
    leadingTrail (o ++ z) = 0 := by
  cases hw with
  | copy => rw [hp, List.cons_append, leadingTrail_cons_of_not_trailing hb]
  | lower =>
    cases c with
    | none => rw [show Piece.lowered p none = p from rfl, hp, List.cons_append, leadingTrail_cons_of_not_trailing hb]
    | some d =>
      obtain ⟨d₁, ds, hd⟩ := List.exists_cons_of_ne_nil (lowerChar_ne_nil d)
      obtain ⟨y, t, he, hy⟩ := utf8EncodeChar_head d₁
      rw [lowered_some, hd, List.map_cons, encode_cons, Glyph.bytes, he, List.cons_append, List.cons_append,
        leadingTrail_cons_of_not_trailing hy]
  | sigma cased _ =>
    cases cased <;> exact leadingTrail_cons_of_not_trailing (by decide) _

theorem Written.leadingTrail_le {p r z o : Bytes} {c : Option Char} (hw : Written p c o)
    (h : pieceAt true (p ++ r) = some (.whole p c)) (hz : leadingTrail z ≤ leadingTrail r) :
    leadingTrail (o ++ z) ≤ leadingTrail (p ++ r) := by
  obtain ⟨b, tail, rfl, -⟩ := pieceAt_whole_spec h
  cases hb : Glyph.isTrailing b
  · rw [hw.leadingTrail_eq_zero rfl hb]
    exact Nat.zero_le _
  · -- a continuation byte at the front is a piece of its own, copied as it is
    rw [List.cons_append, pieceAt_of_trailing hb true] at h
    obtain ⟨rfl, rfl⟩ : tail = [] ∧ c = none := by
      injection h with h
      injection h with h1 h2
      exact ⟨(List.cons.inj h1).2.symm, h2.symm⟩
    have ho : o = [b] := by
      cases hw with
      | copy => rfl
      | lower => rfl
      | sigma _ hs =>
        obtain rfl : b = 0xCE := (List.cons.inj hs).1
        cases hb
    rw [ho, List.singleton_append, List.singleton_append, leadingTrail_cons_of_trailing hb,
      leadingTrail_cons_of_trailing hb]
    omega

theorem Lowers.leadingTrail_le {x o y z : Bytes} (h : Lowers x o y) (hz : leadingTrail z ≤ leadingTrail y) :
    leadingTrail (o ++ z) ≤ leadingTrail (x ++ y) := by
  induction h with
  | nil => simpa using hz
  | cons hp hw _ ih =>
    rw [List.append_assoc, List.append_assoc]
    exact hw.leadingTrail_le (by rwa [← List.append_assoc]) (ih hz)

theorem Lowers.decode {x o y z : Bytes} (h : Lowers x o y) (hz : leadingTrail z ≤ leadingTrail y) :
    ∃ gs, RegisterMap.decode (o ++ z) = gs ++ RegisterMap.decode z ∧ LowerGlyphs gs := by
  induction h with
  | nil => exact ⟨[], rfl, fun _ h => by cases h⟩
  | cons hp hw hl ih =>
    obtain ⟨gs₂, h₂, hg₂⟩ := ih hz
    obtain ⟨gs₁, h₁, hg₁⟩ := hw.decode (by rwa [← List.append_assoc]) (hl.leadingTrail_le hz)
    refine ⟨gs₁ ++ gs₂, ?_, lowerGlyphs_append hg₁ hg₂⟩
    rw [List.append_assoc, h₁, h₂, List.append_assoc]

theorem isLower_of_lowers {x o y : Bytes} (h : Lowers x o y) : IsLower o := by
  obtain ⟨gs, hd, hg⟩ := h.decode (z := []) (by simp [leadingTrail])
  rw [List.append_nil, decode_nil, List.append_nil] at hd
  intro d hmem
  rw [hd] at hmem
  exact hg d hmem

theorem Written.eq_self {x : Bool} {r p o : Bytes} {c : Option Char} (hw : Written p c o)
    (h : pieceAt x r = some (.whole p c)) (hc : ∀ d, c = some d → lowerChar d = [d]) : o = p := by
  cases hw with
  | copy => rfl
  | lower => exact lowered_of_lower h hc
  | sigma _ hs => exact absurd hs (ne_capitalSigma_of_lower h hc)

theorem eq_of_lowers {x o y : Bytes} (h : Lowers x o y) (ht : IsLower (x ++ y)) : o = x := by
  induction h with
  | nil => rfl
  | @cons p x o o' y c hp hw _ ih =>
    rw [List.append_assoc] at hp ht
    obtain ⟨hc, hr⟩ := ht.piece hp
    rw [ih hr, hw.eq_self hp hc]

theorem IsLower.of_lowers {x o y : Bytes} (ht : IsLower (o ++ y)) (h : Lowers x o y) : IsLower y := by
  obtain ⟨gs, hd, -⟩ := h.decode (z := y) (Nat.le_refl _)
  intro d hmem
  exact ht d (by rw [hd]; exact List.mem_append_right _ hmem)

end Text

end RegisterMap

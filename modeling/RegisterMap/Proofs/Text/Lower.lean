import RegisterMap.Proofs.Text.Pieces

/-!
Lower case through buffers: whatever stops a pass, it has written the lower case of what it
read (`passDone_passFrom`), so the buffered loops give lower-case text (`isLower_lowerStream`)
and keep text that is lower case already (`lowerStream_eq_self_iff`).
-/

namespace RegisterMap

namespace Text

theorem take_add_of_drop {r x : Bytes} {n : Nat} (h : r.drop n = x ++ r.drop (n + x.length)) :
    r.take (n + x.length) = r.take n ++ x := by
  rw [List.take_add, h, List.take_left' rfl]

theorem drop_eq_piece_append {r p : Bytes} {c : Option Char} {n : Nat}
    (h : pieceAt true (r.drop n) = some (.whole p c)) : r.drop n = p ++ r.drop (n + p.length) := by
  obtain ⟨-, -, -, hr, -⟩ := pieceAt_whole_spec h
  rwa [List.drop_drop] at hr

theorem Lowers.extend {r o o' p : Bytes} {c : Option Char} {n : Nat}
    (hl : Lowers (r.take n) o (r.drop n))
    (h : pieceAt true (r.drop n) = some (.whole p c)) (hw : Written p c o') :
    Lowers (r.take (n + p.length)) (o ++ o') (r.drop (n + p.length)) := by
  have hr := drop_eq_piece_append h
  rw [take_add_of_drop hr]
  rw [hr] at hl h
  exact hl.append (Lowers.single h hw)

section Window

variable {r w : Bytes} {k : Nat} {atEnd : Bool}

theorem pieceAt_of_window (hw : w = r.take k) (hEnd : atEnd = true → w = r) {n : Nat} {p : Bytes}
    {c : Option Char} (h : pieceAt atEnd (w.drop n) = some (.whole p c)) :
    pieceAt true (r.drop n) = some (.whole p c) := by
  -- a window cut off before the end still holds whole every piece it reads whole
  cases atEnd with
  | false =>
    rw [hw, List.drop_take] at h
    exact pieceAt_of_take h true
  | true => rwa [← hEnd rfl]

/-- What a pass has done in each stage over the window `w` of `r`: the first `used` bytes are
read and their lower case written (reversed, in `out`); after a capital sigma it is not yet
written, and neither are the ignorable pieces after it, kept reversed in `ignored`. -/
def PassState (r w : Bytes) : Stage → Bytes → Nat → Bytes → Prop
  | .reading _, out, used, rest =>
    used ≤ w.length ∧ rest = w.drop used ∧ Lowers (r.take used) out.reverse (r.drop used)
  | .afterSigma ignored len _, out, used, rest =>
    used + 2 + len ≤ w.length ∧ rest = w.drop (used + 2 + len) ∧
      Lowers (r.take used) out.reverse (r.drop used) ∧ len = ignored.length ∧
      r.drop used = capitalSigmaBytes ++ ignored.reverse ++ r.drop (used + 2 + len) ∧
      Lowers ignored.reverse ignored.reverse (r.drop (used + 2 + len))

/-- A pass that started with `used₀` bytes read ends with more read, all within the window,
and their lower case written. -/
def PassDone (r w : Bytes) (used₀ : Nat) (q : Pass) : Prop :=
  used₀ ≤ q.used ∧ q.used ≤ w.length ∧ Lowers (r.take q.used) q.out (r.drop q.used)

theorem PassDone.of_le {used used' : Nat} {q : Pass} (h : used ≤ used')
    (hq : PassDone r w used' q) :
    PassDone r w used q :=
  ⟨Nat.le_trans h hq.1, hq.2⟩

theorem PassState.consumed {stage : Stage} {out rest : Bytes} {used : Nat}
    (hs : PassState r w stage out used rest) :
    used ≤ w.length ∧ Lowers (r.take used) out.reverse (r.drop used) := by
  cases stage with
  | reading => exact ⟨hs.1, hs.2.2⟩
  | afterSigma => exact ⟨by have := hs.1; omega, hs.2.2.1⟩

theorem PassState.stop {stage : Stage} {out rest : Bytes} {used : Nat}
    (hs : PassState r w stage out used rest) (e : PassEnd) :
    PassDone r w used ⟨out.reverse, used, e⟩ :=
  ⟨Nat.le_refl _, hs.consumed.1, hs.consumed.2⟩

theorem PassState.advance (hw : w = r.take k) (hEnd : atEnd = true → w = r) {inWord : Bool}
    {out rest p o : Bytes} {used : Nat} {c : Option Char}
    (hs : PassState r w (.reading inWord) out used rest)
    (hp : pieceAt atEnd rest = some (.whole p c)) (ho : Written p c o) (word : Bool) :
    PassState r w (.reading word) (o.reverse ++ out) (used + p.length) (rest.drop p.length) := by
  obtain ⟨hu, hrest, hl⟩ := hs
  rw [hrest] at hp
  have hlen := (length_le_of_pieceAt hp).2.2
  rw [List.length_drop] at hlen
  refine ⟨by omega, by rw [hrest, List.drop_drop], ?_⟩
  rw [List.reverse_append, List.reverse_reverse]
  exact hl.extend (pieceAt_of_window hw hEnd hp) ho

theorem PassState.enterSigma (hw : w = r.take k) (hEnd : atEnd = true → w = r) {inWord : Bool}
    {out rest : Bytes} {used : Nat} {c : Option Char}
    (hs : PassState r w (.reading inWord) out used rest)
    (hp : pieceAt atEnd rest = some (.whole capitalSigmaBytes c)) (left : Nat) :
    PassState r w (.afterSigma [] 0 left) out used (rest.drop 2) := by
  obtain ⟨hu, hrest, hl⟩ := hs
  rw [hrest] at hp
  have h2 : capitalSigmaBytes.length = 2 := rfl
  have hlen := (length_le_of_pieceAt hp).2.2
  have hr := drop_eq_piece_append (pieceAt_of_window hw hEnd hp)
  rw [List.length_drop, h2] at hlen
  rw [h2] at hr
  refine ⟨by omega, by rw [hrest, List.drop_drop], hl, rfl, ?_, Lowers.nil _⟩
  rw [List.reverse_nil, List.append_nil]
  exact hr

theorem lowers_sigma {o ignored : Bytes} {used len : Nat}
    (hl : Lowers (r.take used) o (r.drop used))
    (hlen : len = ignored.length)
    (hr : r.drop used = capitalSigmaBytes ++ ignored.reverse ++ r.drop (used + 2 + len))
    (hig : Lowers ignored.reverse ignored.reverse (r.drop (used + 2 + len))) (cased : Bool) :
    Lowers (r.take (used + 2 + len)) (o ++ (sigmaBytes cased ++ ignored.reverse))
      (r.drop (used + 2 + len)) := by
  have e : used + 2 + len = used + (capitalSigmaBytes ++ ignored.reverse).length := by
    have h2 : capitalSigmaBytes.length = 2 := rfl
    rw [List.length_append, List.length_reverse, ← hlen, h2]
    omega
  rw [e] at hr hig ⊢
  rw [take_add_of_drop hr]
  rw [hr] at hl
  exact hl.append ((Lowers.single (pieceAt_capitalSigma true _) (.sigma cased rfl)).append hig)

theorem PassState.resume {ignored out rest : Bytes} {len left used : Nat}
    (hs : PassState r w (.afterSigma ignored len left) out used rest) (cased : Bool) :
    PassState r w (.reading true) (ignored ++ (sigmaBytes cased).reverse ++ out) (used + 2 + len)
      rest := by
  obtain ⟨hu, hrest, hl, hlen, hr, hig⟩ := hs
  exact ⟨hu, hrest, by simpa using lowers_sigma hl hlen hr hig cased⟩

theorem PassState.hold (hw : w = r.take k) (hEnd : atEnd = true → w = r)
    {ignored out rest p : Bytes} {len left used : Nat} {c : Option Char}
    (hs : PassState r w (.afterSigma ignored len left) out used rest)
    (hp : pieceAt atEnd rest = some (.whole p c)) (hc : Written p c p) (left' : Nat) :
    PassState r w (.afterSigma (p.reverse ++ ignored) (len + p.length) left') out used
      (rest.drop p.length) := by
  obtain ⟨hu, hrest, hl, hlen, hr, hig⟩ := hs
  rw [hrest] at hp
  have hplen := (length_le_of_pieceAt hp).2.2
  have hg := pieceAt_of_window hw hEnd hp
  have hd := drop_eq_piece_append hg
  rw [List.length_drop] at hplen
  simp only [PassState, List.reverse_append, List.reverse_reverse, ← Nat.add_assoc]
  refine ⟨by omega, by rw [hrest, List.drop_drop], hl, ?_, ?_, ?_⟩
  · simp only [List.length_append, List.length_reverse, hlen]
    omega
  · rw [hr, hd, List.append_assoc, List.append_assoc, List.append_assoc]
  · rw [hd] at hig hg
    exact hig.append (Lowers.single hg hc)

section Step

variable (hw : w = r.take k) (hEnd : atEnd = true → w = r) {room fuel : Nat}
  (ih : ∀ stage out used rest, PassState r w stage out used rest →
    PassDone r w used (passFrom room atEnd w.length fuel stage out used rest))

include hw hEnd ih

theorem passDone_reading {inWord : Bool} {out rest : Bytes} {used : Nat}
    (hs : PassState r w (.reading inWord) out used rest) :
    PassDone r w used
      (passFrom room atEnd w.length (fuel + 1) (.reading inWord) out used rest) := by
  rw [passFrom.eq_2]
  rcases hp : pieceAt atEnd rest with _ | (⟨p, c⟩ | _)
  · exact hs.stop _
  rotate_left
  · exact hs.stop _
  -- every branch but the capital sigma writes the piece and reads on, if it fits
  have emit : ∀ o word, Written p c o →
      PassDone r w used (if out.length + o.length ≤ room then
        passFrom room atEnd w.length fuel (.reading word) (o.reverse ++ out) (used + p.length)
          (rest.drop p.length)
        else ⟨out.reverse, used, .full⟩) := by
    intro o word ho
    split
    · exact (ih _ _ _ _ (hs.advance hw hEnd hp ho word)).of_le (Nat.le_add_right _ _)
    · exact hs.stop _
  dsimp only
  split
  · split
    · exact emit _ _ .lower
    · rename_i hc
      exact emit _ _ (.copy (.inl (by simpa using hc)))
  split
  · rename_i hc
    simp only [Bool.and_eq_true, Bool.not_eq_eq_eq_not, Bool.not_true] at hc
    exact emit _ _ (.copy (.inl hc.1))
  split
  · exact emit _ _ .lower
  split
  · exact hs.stop _
  -- a capital sigma waits for what follows it
  rename_i hsig _
  obtain rfl : p = capitalSigmaBytes := Decidable.of_not_not hsig
  exact ih _ _ _ _ (hs.enterSigma hw hEnd hp _)

theorem passDone_afterSigma {ignored out rest : Bytes} {len left used : Nat}
    (hs : PassState r w (.afterSigma ignored len left) out used rest) :
    PassDone r w used
      (passFrom room atEnd w.length (fuel + 1) (.afterSigma ignored len left) out used rest) := by
  have hu := hs.1
  rw [passFrom.eq_3]
  rcases hp : pieceAt atEnd rest with _ | (⟨p, c⟩ | _)
  · dsimp only
    split
    · -- at the end of the text the sigma ends a word
      have hnil : w.drop (used + 2 + len) = [] := by
        rw [← hs.2.1]
        cases rest with
        | nil => rfl
        | cons b t => exact absurd hp (pieceAt_cons_ne_none _ _ _)
      have htot : w.length = used + 2 + len := by
        rw [List.drop_eq_nil_iff] at hnil
        omega
      refine ⟨(by omega : used ≤ w.length), Nat.le_refl _, ?_⟩
      dsimp only
      rw [htot]
      exact (hs.resume false).2.2
    · exact hs.stop _
  rotate_left
  · exact hs.stop _
  dsimp only
  split
  · -- a piece that is not ignorable tells whether the sigma ends a word
    exact (ih _ _ _ _ (hs.resume (Piece.cased c))).of_le (by omega)
  rename_i hign
  have hc : Written p c p := .copy (.inr (by simpa using hign))
  split
  · exact hs.stop _
  cases left with
  | zero =>
    -- no more ignorable pieces may be held back: the sigma is written as final
    have hq := ih _ _ _ _ ((hs.resume false).advance hw hEnd hp hc true)
    simp only [List.append_assoc] at hq ⊢
    exact hq.of_le (by omega)
  | succ left => exact ih _ _ _ _ (hs.hold hw hEnd hp hc left)

end Step

theorem passDone_passFrom (hw : w = r.take k) (hEnd : atEnd = true → w = r) (room fuel : Nat) :
    ∀ stage out used rest, PassState r w stage out used rest →
      PassDone r w used (passFrom room atEnd w.length fuel stage out used rest) := by
  induction fuel with
  | zero =>
    intro stage out used rest hs
    rw [passFrom.eq_1]
    exact hs.stop _
  | succ fuel ih =>
    intro stage out used rest hs
    cases stage with
    | reading => exact passDone_reading hw hEnd ih hs
    | afterSigma => exact passDone_afterSigma hw hEnd ih hs

theorem passDone_pass (room : Nat) (hw : w = r.take k) (hEnd : atEnd = true → w = r) :
    PassDone r w 0 (pass room atEnd w) :=
  passDone_passFrom hw hEnd room _ _ _ _ _ ⟨Nat.zero_le _, rfl, Lowers.nil r⟩

end Window

section Fixed

variable {r w : Bytes} {k : Nat} {atEnd : Bool}

-- In a word or not, a lower-case piece is copied and reading goes on, if it fits.
theorem passFrom_reading_of_lower {rest p : Bytes} {c : Option Char}
    (hp : pieceAt atEnd rest = some (.whole p c)) (hc : ∀ d, c = some d → lowerChar d = [d])
    (room total fuel : Nat) (inWord : Bool) (out : Bytes) (used : Nat)
    (hroom : out.length + p.length ≤ room) :
    ∃ word, passFrom room atEnd total (fuel + 1) (.reading inWord) out used rest =
      passFrom room atEnd total fuel (.reading word) (p.reverse ++ out) (used + p.length)
        (rest.drop p.length) := by
  rw [passFrom.eq_2, hp]
  dsimp only
  rw [lowered_of_lower hp hc]
  simp only [hroom, ↓reduceIte]
  split
  · split
    · exact ⟨true, rfl⟩
    · exact ⟨false, rfl⟩
  split
  · exact ⟨false, rfl⟩
  rw [if_pos (ne_capitalSigma_of_lower hp hc)]
  exact ⟨true, rfl⟩

/-- A pass over lower-case text reads at least its first piece, when the window is not empty,
holds a whole piece and the output has room for it. -/
theorem pass_used_pos (hr : IsLower r) (hw : w = r.take k) (hEnd : atEnd = true → w = r)
    (hne : w ≠ []) {room : Nat} (hroom : 4 ≤ room) (hcut : atEnd = true ∨ 4 ≤ w.length) :
    0 < (pass room atEnd w).used := by
  obtain ⟨b, t, hbt⟩ := List.exists_cons_of_ne_nil hne
  rcases hp : pieceAt atEnd w with _ | (⟨p, c⟩ | _)
  · rw [hbt] at hp
    exact absurd hp (pieceAt_cons_ne_none _ _ _)
  · have hg : pieceAt true r = some (.whole p c) := pieceAt_of_window (n := 0) hw hEnd hp
    obtain ⟨-, -, -, hsplit, -⟩ := pieceAt_whole_spec hg
    rw [hsplit] at hr hg
    have hc := (hr.piece hg).1
    have hlen := length_le_of_pieceAt hp
    obtain ⟨word, heq⟩ :=
      passFrom_reading_of_lower hp hc room w.length (2 * w.length + 1) false [] 0
      (by rw [List.length_nil]; omega)
    have ho : Written p c p := by
      have := Written.lower (p := p) (c := c)
      rwa [lowered_of_lower hp hc] at this
    have hs : PassState r w (.reading false) [] 0 w := ⟨Nat.zero_le _, rfl, Lowers.nil r⟩
    have hq :=
      passDone_passFrom hw hEnd room (2 * w.length + 1) _ _ _ _ (hs.advance hw hEnd hp ho word)
    rw [pass, show 2 * w.length + 2 = 2 * w.length + 1 + 1 from rfl, heq]
    have := hq.1
    omega
  · obtain ⟨rfl, hlt⟩ := pieceAt_eq_cut hp
    rcases hcut with h | h
    · cases h
    · omega

end Fixed

section Buffers

variable {s : Bytes}

theorem window_atEnd {read n : Nat}
    (h : (read + ((s.drop read).take n).length == s.length) = true) :
    (s.drop read).take n = s.drop read := by
  rw [beq_iff_eq, List.length_take, List.length_drop] at h
  exact List.take_of_length_le (by rw [List.length_drop]; omega)

theorem passDone_window (room n read : Nat) :
    PassDone (s.drop read) ((s.drop read).take n) 0
      (pass room (read + ((s.drop read).take n).length == s.length) ((s.drop read).take n)) :=
  passDone_pass room rfl window_atEnd

theorem PassDone.le_length {read n : Nat} {q : Pass}
    (hq : PassDone (s.drop read) ((s.drop read).take n) 0 q)
    (hr : read ≤ s.length) : read + q.used ≤ s.length := by
  have := hq.2.1
  rw [List.length_take, List.length_drop] at this
  omega

theorem Lowers.after_pass {o w : Bytes} {read : Nat} {q : Pass}
    (hl : Lowers (s.take read) o (s.drop read))
    (hq : PassDone (s.drop read) w 0 q) :
    Lowers (s.take (read + q.used)) (o ++ q.out) (s.drop (read + q.used)) := by
  rw [List.take_add, ← List.drop_drop]
  rw [← List.take_append_drop q.used (s.drop read)] at hl
  exact hl.append hq.2.2

theorem lowers_lowerRest (fuel : Nat) : ∀ out size window read, read ≤ s.length →
    Lowers (s.take read) out (s.drop read) →
    ∃ k ≤ s.length, Lowers (s.take k) (lowerRest s fuel out size window read) (s.drop k) := by
  induction fuel with
  | zero => exact fun _ _ _ read hr hl => ⟨read, hr, hl⟩
  | succ fuel ih =>
    intro out size window read hr hl
    have hq := passDone_window (s := s) (size - out.length) window read
    have hl' := hl.after_pass hq
    have hr' := hq.le_length hr
    rw [lowerRest]
    generalize pass _ _ _ = q at hq hl' hr' ⊢
    split
    · split
      · exact ⟨_, hr', hl'⟩
      · exact ih _ _ _ _ hr' hl'
    · exact ih _ _ _ _ hr' hl'
    · split
      · exact ⟨_, hr', hl'⟩
      · exact ih _ _ _ _ hr' hl'

theorem take_append_of_copy {read n : Nat} {q : Pass}
    (hq : PassDone (s.drop read) ((s.drop read).take n) 0 q)
    (hcopy : q.out = ((s.drop read).take n).take q.used) :
    s.take read ++ q.out = s.take (read + q.used) := by
  have hu := hq.2.1
  rw [List.length_take] at hu
  rw [hcopy, List.take_take, Nat.min_eq_left (by omega), List.take_add]

theorem lowers_lowerSame (fuel : Nat) : ∀ read, read ≤ s.length → s.length < read + fuel →
    Lowers (s.take read) (s.take read) (s.drop read) →
    ∃ k ≤ s.length, Lowers (s.take k) (lowerSame s fuel read) (s.drop k) := by
  induction fuel with
  | zero => intro read hr hf; omega
  | succ fuel ih =>
    intro read hr hf hl
    have hq := passDone_window (s := s) initialBuffer initialBuffer read
    have hl' := hl.after_pass hq
    have hr' := hq.le_length hr
    rw [lowerSame]
    generalize pass _ _ _ = q at hq hl' hr' ⊢
    split
    · -- the pass changed its window: the passes with their own buffer take over
      exact lowers_lowerRest _ _ _ _ _ hr' hl'
    rename_i hsame
    simp only [Bool.or_eq_true, beq_iff_eq, bne_iff_ne, ne_eq, not_or, Decidable.not_not] at hsame
    rw [take_append_of_copy hq hsame.2] at hl'
    split
    · rename_i hend
      rw [beq_iff_eq] at hend
      rw [hend, List.take_length] at hl'
      exact ⟨s.length, Nat.le_refl _, by rw [List.take_length]; exact hl'⟩
    · exact ih _ hr' (by omega) hl'

theorem lowers_lowerStream (s : Bytes) :
    ∃ k ≤ s.length, Lowers (s.take k) (lowerStream s) (s.drop k) := by
  unfold lowerStream
  split
  · exact ⟨0, Nat.zero_le _, Lowers.nil s⟩
  · exact lowers_lowerSame _ 0 (Nat.zero_le _) (by omega) (Lowers.nil s)

theorem isLower_lowerStream (s : Bytes) : IsLower (lowerStream s) := by
  obtain ⟨k, -, h⟩ := lowers_lowerStream s
  exact isLower_of_lowers h

theorem lowerSame_of_isLower (hs : IsLower s) (fuel : Nat) : ∀ read, read < s.length →
    s.length < read + fuel → Lowers (s.take read) (s.take read) (s.drop read) →
    lowerSame s fuel read = s := by
  induction fuel with
  | zero => intro read hr hf; omega
  | succ fuel ih =>
    intro read hr hf hl
    have hq := passDone_window (s := s) initialBuffer initialBuffer read
    have hrest : IsLower (s.drop read) := by
      rw [← List.take_append_drop read s] at hs
      exact hs.of_lowers hl
    have hpos : 0 < (pass initialBuffer
        (read + ((s.drop read).take initialBuffer).length == s.length)
        ((s.drop read).take initialBuffer)).used :=
      pass_used_pos hrest rfl window_atEnd
        (by rw [ne_eq, List.take_eq_nil_iff, List.drop_eq_nil_iff, initialBuffer]; omega)
        (by decide)
        (by simp only [beq_iff_eq, List.length_take, List.length_drop, initialBuffer]; omega)
    rw [lowerSame]
    generalize pass _ _ _ = q at hq hpos ⊢
    -- each pass over lower-case text gives back what it read
    have hcopy : q.out = ((s.drop read).take initialBuffer).take q.used := by
      rw [List.take_take, Nat.min_eq_left (Nat.le_trans hq.2.1 (List.length_take_le _ _)),
        eq_of_lowers hq.2.2 (by rwa [List.take_append_drop])]
    have hl' := hl.after_pass hq
    have hr' := hq.le_length (Nat.le_of_lt hr)
    rw [if_neg (by simp [hcopy]; omega)]
    rw [take_append_of_copy hq hcopy] at hl'
    split
    · rfl
    · rename_i hend
      rw [beq_iff_eq] at hend
      exact ih _ (by omega) (by omega) hl'

theorem lowerStream_of_isLower (h : IsLower s) : lowerStream s = s := by
  unfold lowerStream
  split
  · rename_i he
    exact (List.isEmpty_iff.1 he).symm
  · rename_i he
    rw [List.isEmpty_iff] at he
    exact lowerSame_of_isLower h _ 0 (List.length_pos_iff.2 he) (by omega) (Lowers.nil s)

theorem lowerStream_eq_self_iff : lowerStream s = s ↔ IsLower s :=
  ⟨fun h => h ▸ isLower_lowerStream s, lowerStream_of_isLower⟩

theorem lowerStream_lowerStream (s : Bytes) : lowerStream (lowerStream s) = lowerStream s :=
  lowerStream_of_isLower (isLower_lowerStream s)

theorem IsLower.not_capital {t : Bytes} (h : IsLower t) {b : UInt8} (hb : b ∈ t) :
    b < 65 ∨ 90 < b := by
  refine Decidable.byContradiction fun hcap => ?_
  have hn : 65 ≤ b.toNat ∧ b.toNat ≤ 90 := by
    simp only [UInt8.lt_iff_toNat_lt, not_or] at hcap
    simp at hcap
    omega
  rw [← encode_decode t, encode, List.mem_flatMap] at hb
  obtain ⟨g, hg, hbg⟩ := hb
  cases g with
  | stray x =>
    -- a byte below 0x80 is never stray
    rw [Glyph.bytes, List.mem_singleton] at hbg
    subst hbg
    exact not_lt_of_stray_mem_decode t b hg (by rw [UInt8.lt_iff_toNat_lt]; simp; omega)
  | char c =>
    rw [Glyph.bytes] at hbg
    have hc := toNat_of_mem_utf8EncodeChar hbg (by omega)
    exact lowerChar_ne_of_capital (by omega) (by omega) (h c hg)

end Buffers

end Text

end RegisterMap

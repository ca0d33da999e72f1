import Mathlib.Data.List.TakeWhile
import RegisterMap.Header.Scan

/-!
What a header has declared so far: whether a register is open, and which position waits for
its length, read off the definitions seen so far. `Context.step_contextOf` says that one step
of the scan from that context declares, notes or stops as `eventOf`, `noteOf` and `faultOf` say.
-/

namespace RegisterMap

namespace Define

def role (d : Define) : Role := (Role.ofName d.name).1

def base (d : Define) : Bytes := (Role.ofName d.name).2

def declaresRegister (d : Define) : Bool := d.role == .offset && d.value != d.name

def isMark (d : Define) : Bool := d.role == .position || d.role == .length

theorem isMark_eq_false_of_declaresRegister {d : Define} (h : d.declaresRegister) :
    d.isMark = false := by
  simp_all [declaresRegister, isMark]

end Define

namespace Header

def Event.line : Event → Nat
  | .offset n _ _ => n
  | .bitField n _ _ _ => n

def Event.isOffset : Event → Bool
  | .offset .. => true
  | .bitField .. => false

def opened (pre : List Define) : Bool := pre.any Define.declaresRegister

def sinceOpen (pre : List Define) : List Define := pre.dropWhile fun d => !d.declaresRegister

def lastMark (pre : List Define) : Option Define := ((sinceOpen pre).filter Define.isMark).getLast?

def waiting (pre : List Define) : Bool := (lastMark pre).any (·.role == .position)

def pendingOf (pre : List Define) : Option Nat :=
  match lastMark pre with
  | some p => if p.role = .position then Literal.value? p.value else none
  | none => none

def contextOf (pre : List Define) : Context := { inRegister := opened pre, pending := pendingOf pre }

def Parsed (pre : List Define) : Prop :=
  ∀ p, lastMark pre = some p → p.role = .position →
    ∃ v, Literal.value? p.value = some v ∧ v ≤ maxBits

/-- What is wrong with the bits of a position or length on line `n`: a value that is no
literal, or one of more than `maxBits` bits. -/
def bitsFault? (n : Nat) (d : Define) : Option ScanError :=
  match Literal.value? d.value with
  | none => some (.badValue n d .notLiteral)
  | some v => if maxBits < v then some (.badValue n d (.tooWide v)) else none

/-- The fault that stops the scan at the definition `d` on line `n` after `pre`: a register
whose value is no literal, and after the first register a position, or a length for which a
position waits, whose bits are wrong. -/
def faultOf (pre : List Define) (n : Nat) (d : Define) : Option ScanError :=
  if d.declaresRegister then
    match Literal.value? d.value with
    | none => some (.badValue n d .notLiteral)
    | some _ => none
  else if opened pre then
    match d.role with
    | .position => bitsFault? n d
    | .length => if waiting pre then bitsFault? n d else none
    | _ => none
  else none

/-- The declaration of `d` on line `n` after `pre`: a register at the value of its offset, or
for a length whose nearest mark is a position `p`, the bits from the value of `p` on for the
value of the length. -/
def eventOf (pre : List Define) (n : Nat) (d : Define) : Option Event :=
  if d.declaresRegister then (Literal.value? d.value).map (.offset n d.base)
  else if d.role = .length then
    match lastMark pre with
    | some p =>
      if p.role = .position then
        match Literal.value? p.value, Literal.value? d.value with
        | some s, some l => some (.bitField n d.base s (s + l))
        | _, _ => none
      else none
    | none => none
  else none

def noteOf (pre : List Define) (n : Nat) (d : Define) : Option String :=
  if opened pre && d.role == .length && !waiting pre then some (orphanNote n d) else none

def effectOf (pre : List Define) (n : Nat) (d : Define) : Effect :=
  { context := contextOf (pre ++ [d]), event := eventOf pre n d, note := noteOf pre n d }

theorem opened_append (pre : List Define) (d : Define) :
    opened (pre ++ [d]) = (opened pre || d.declaresRegister) := by
  simp [opened]

theorem sinceOpen_eq_nil {pre : List Define} (h : opened pre = false) : sinceOpen pre = [] := by
  simp_all [sinceOpen, opened, List.dropWhile_eq_nil_iff]

theorem lastMark_eq_none {pre : List Define} (h : opened pre = false) : lastMark pre = none := by
  simp [lastMark, sinceOpen_eq_nil h]

theorem lastMark_append (pre : List Define) (d : Define) :
    lastMark (pre ++ [d]) = if d.isMark && opened pre then some d else lastMark pre := by
  cases ho : opened pre with
  | false =>
    -- before the first register only `d` itself can open one, and then it is no mark
    have hd : ((if d.declaresRegister then [d] else []).filter Define.isMark) = [] := by
      cases hr : d.declaresRegister <;> simp [Define.isMark_eq_false_of_declaresRegister, hr]
    have hs : sinceOpen (pre ++ [d]) = if d.declaresRegister then [d] else [] := by
      rw [sinceOpen, List.dropWhile_append, ← sinceOpen, sinceOpen_eq_nil ho]
      cases hr : d.declaresRegister <;> simp [hr]
    simp [lastMark, hs, hd, sinceOpen_eq_nil ho]
  | true =>
    have hne : (sinceOpen pre).isEmpty = false := by
      simpa [sinceOpen, opened, List.dropWhile_eq_nil_iff] using ho
    have hs : sinceOpen (pre ++ [d]) = sinceOpen pre ++ [d] := by
      rw [sinceOpen, List.dropWhile_append, ← sinceOpen, hne]; rfl
    cases hm : d.isMark <;> simp [lastMark, hs, List.filter_append, hm]

theorem pendingOf_append (pre : List Define) (d : Define) :
    pendingOf (pre ++ [d]) =
      if d.isMark && opened pre then
        (if d.role = .position then Literal.value? d.value else none)
      else pendingOf pre := by
  unfold pendingOf
  rw [lastMark_append]
  by_cases hm : d.isMark <;> by_cases ho : opened pre <;> simp [hm, ho]

theorem waiting_append (pre : List Define) (d : Define) :
    waiting (pre ++ [d]) = if d.isMark && opened pre then d.role == .position else waiting pre := by
  unfold waiting
  rw [lastMark_append]
  by_cases hm : d.isMark <;> by_cases ho : opened pre <;> simp [hm, ho]

theorem pendingOf_isSome {pre : List Define} (hp : Parsed pre) :
    (pendingOf pre).isSome = waiting pre := by
  unfold pendingOf waiting
  cases hl : lastMark pre with
  | none => rfl
  | some p =>
    by_cases hr : p.role = .position
    · obtain ⟨v, hv, -⟩ := hp p hl hr
      simp [hr, hv]
    · simp [hr]

theorem bits_eq (n : Nat) (d : Define) :
    bits n d = match bitsFault? n d with
      | some e => .error e
      | none => .ok ((Literal.value? d.value).getD 0) := by
  unfold bits value bitsFault?
  cases Literal.value? d.value with
  | none => rfl
  | some v => by_cases h : maxBits < v <;> simp [h]

theorem eventOf_eq_of_length (pre : List Define) (n : Nat) {d : Define} (h : d.role = .length) :
    eventOf pre n d = match pendingOf pre, Literal.value? d.value with
      | some s, some l => some (.bitField n d.base s (s + l))
      | _, _ => none := by
  have hd : d.declaresRegister = false := by simp [Define.declaresRegister, h]
  unfold eventOf pendingOf
  rw [if_neg (by simp [hd]), if_pos h]
  cases lastMark pre with
  | none => rfl
  | some p => by_cases hp : p.role = .position <;> simp [hp]

/-- One step of the scan from the context reached after `pre` stops at the fault of the
definition, and otherwise has the effect read off `pre`. -/
theorem Context.step_contextOf {pre : List Define} (hp : Parsed pre) (n : Nat) (d : Define) :
    (contextOf pre).step n d = match faultOf pre n d with
      | some e => .error e
      | none => .ok (effectOf pre n d) := by
  rcases hrb : Role.ofName d.name with ⟨r, b⟩
  have hr : d.role = r := by simp [Define.role, hrb]
  have hb : d.base = b := by simp [Define.base, hrb]
  simp only [Context.step, hrb]
  by_cases hreg : d.declaresRegister
  · -- an offset that declares a register
    have hoff : r = .offset ∧ d.value ≠ d.name := by
      simpa [Define.declaresRegister, hr] using hreg
    have hm : d.isMark = false := Define.isMark_eq_false_of_declaresRegister hreg
    cases hv : Literal.value? d.value with
    | none => simp [hoff, faultOf, hreg, value, hv]
    | some v =>
      simp [hoff, faultOf, hreg, value, hv, effectOf, eventOf, noteOf, contextOf, opened_append,
        pendingOf_append, hm, hb, hr]
  have hoff : ¬(r = .offset ∧ d.value ≠ d.name) := by
    simpa [Define.declaresRegister, hr] using hreg
  simp only [if_neg hoff, contextOf]
  by_cases ho : opened pre = false
  · -- before the first register nothing but an offset counts
    have hl : lastMark pre = none := lastMark_eq_none ho
    simp [faultOf, hreg, ho, effectOf, eventOf, noteOf, contextOf, opened_append, pendingOf_append, hl]
  · simp only [Bool.not_eq_false] at ho
    cases r with
    | offset =>
      simp [faultOf, hreg, ho, hr, effectOf, eventOf, noteOf, contextOf, opened_append,
        pendingOf_append, Define.isMark]
    | other =>
      simp [faultOf, hreg, ho, hr, effectOf, eventOf, noteOf, contextOf, opened_append,
        pendingOf_append, Define.isMark]
    | position =>
      rw [bits_eq]
      cases hf : bitsFault? n d with
      | some e => simp [faultOf, hreg, ho, hr, hf]
      | none =>
        obtain ⟨v, hv, -⟩ : ∃ v, Literal.value? d.value = some v ∧ v ≤ maxBits := by
          unfold bitsFault? at hf
          split at hf <;> simp_all
        simp [faultOf, hreg, ho, hr, hf, hv, effectOf, eventOf, noteOf, contextOf, opened_append,
          pendingOf_append, Define.isMark]
    | length =>
      have hw := pendingOf_isSome hp
      have he := eventOf_eq_of_length pre n hr
      cases hpend : pendingOf pre with
      | none =>
        have hw' : waiting pre = false := by simpa [hpend] using hw.symm
        simp [faultOf, hreg, ho, hr, hw', effectOf, he, hpend, noteOf, contextOf, opened_append,
          pendingOf_append, Define.isMark]
      | some s =>
        have hw' : waiting pre = true := by simpa [hpend] using hw.symm
        rw [bits_eq]
        cases hf : bitsFault? n d with
        | some e => simp [faultOf, hreg, ho, hr, hw', hf]
        | none =>
          obtain ⟨l, hl, -⟩ : ∃ l, Literal.value? d.value = some l ∧ l ≤ maxBits := by
            unfold bitsFault? at hf
            split at hf <;> simp_all
          simp [faultOf, hreg, ho, hr, hw', hf, hl, effectOf, he, hpend, hb, noteOf, contextOf,
            opened_append, pendingOf_append, Define.isMark]

theorem value_of_bitsFault? {n : Nat} {d : Define} (h : bitsFault? n d = none) :
    ∃ v, Literal.value? d.value = some v ∧ v ≤ maxBits := by
  unfold bitsFault? at h
  split at h
  · cases h
  · rename_i v hv
    split at h
    · cases h
    · exact ⟨v, hv, by omega⟩

theorem parsed_append {pre : List Define} (hp : Parsed pre) {n : Nat} {d : Define}
    (hf : faultOf pre n d = none) : Parsed (pre ++ [d]) := by
  intro p hl hpos
  rw [lastMark_append] at hl
  split at hl
  · -- the new mark is a position read in a register, so its bits were checked
    cases hl
    have ho : opened pre = true := by simp_all
    have hnd : d.declaresRegister = false := by simp [Define.declaresRegister, hpos]
    simp only [faultOf, hnd, ho, hpos, Bool.false_eq_true, if_false, if_true] at hf
    exact value_of_bitsFault? hf
  · exact hp p hl hpos

theorem opened_of_waiting {pre : List Define} (h : waiting pre) : opened pre := by
  cases ho : opened pre with
  | true => rfl
  | false => simp [waiting, lastMark_eq_none ho] at h

theorem Event.line_of_eventOf {pre : List Define} {n : Nat} {d : Define} {e : Event}
    (h : eventOf pre n d = some e) : e.line = n := by
  unfold eventOf at h
  split at h
  · obtain ⟨v, -, rfl⟩ := Option.map_eq_some_iff.mp h
    rfl
  · split at h
    · split at h
      · split at h
        · split at h
          · cases h; rfl
          · cases h
        · cases h
      · cases h
    · cases h

theorem eventOf_of_declaresRegister {pre : List Define} {n : Nat} {d : Define}
    (hf : faultOf pre n d = none) (h : d.declaresRegister) :
    ∃ v, Literal.value? d.value = some v ∧ eventOf pre n d = some (.offset n d.base v) := by
  cases hv : Literal.value? d.value with
  | none => simp [faultOf, h, hv] at hf
  | some v => exact ⟨v, rfl, by simp [eventOf, h, hv]⟩

theorem declaresRegister_of_eventOf {pre : List Define} {n : Nat} {d : Define} {e : Event}
    (he : eventOf pre n d = some e) (ho : e.isOffset) : d.declaresRegister := by
  cases hreg : d.declaresRegister
  · by_cases hlen : d.role = .length
    · rw [eventOf_eq_of_length pre n hlen] at he
      split at he
      · cases he
        simp [Event.isOffset] at ho
      · cases he
    · simp [eventOf, hreg, hlen] at he
  · rfl

theorem bitsFault?_of_waiting {pre : List Define} {n : Nat} {d : Define}
    (hf : faultOf pre n d = none) (h : d.role = .length) (hw : waiting pre) :
    bitsFault? n d = none := by
  have hd : d.declaresRegister = false := by simp [Define.declaresRegister, h]
  simpa [faultOf, hd, opened_of_waiting hw, h, hw] using hf

/-- A length without fault declares a bit field exactly when a position waits, from the
value of that position on for its own value. -/
theorem eventOf_of_length {pre : List Define} (hp : Parsed pre) {n : Nat} {d : Define}
    (hf : faultOf pre n d = none) (h : d.role = .length) :
    (waiting pre = false → eventOf pre n d = none) ∧
    (waiting pre = true → ∃ p s l, lastMark pre = some p ∧ p.role = .position ∧
      Literal.value? p.value = some s ∧ Literal.value? d.value = some l ∧
      eventOf pre n d = some (.bitField n d.base s (s + l))) := by
  have hd : d.declaresRegister = false := by simp [Define.declaresRegister, h]
  constructor
  · intro hw
    have hpend : pendingOf pre = none := by
      simpa [hw] using pendingOf_isSome hp
    simp [eventOf_eq_of_length pre n h, hpend]
  · intro hw
    have hl : ∃ p, lastMark pre = some p ∧ p.role = .position := by
      unfold waiting at hw
      cases hlm : lastMark pre with
      | none => simp [hlm] at hw
      | some p => exact ⟨p, rfl, by simpa [hlm] using hw⟩
    obtain ⟨p, hlp, hpos⟩ := hl
    obtain ⟨s, hs, -⟩ := hp p hlp hpos
    obtain ⟨l, hl, -⟩ := value_of_bitsFault? (bitsFault?_of_waiting hf h hw)
    exact ⟨p, s, l, hlp, hpos, hs, hl, by simp [eventOf, hd, h, hlp, hpos, hs, hl]⟩

/-- A bit field declared without fault is that of a length, from a position of at most
`maxBits` bits for a length of at most `maxBits` bits. -/
theorem bitField_of_eventOf {pre : List Define} (hp : Parsed pre) {n : Nat} {d : Define}
    (hf : faultOf pre n d = none) {m : Nat} {b : Bytes} {s t : Nat}
    (he : eventOf pre n d = some (.bitField m b s t)) :
    d.role = .length ∧ b = d.base ∧
      ∃ l, Literal.value? d.value = some l ∧ t = s + l ∧ s ≤ maxBits ∧ l ≤ maxBits := by
  have hd : d.declaresRegister = false := by
    cases hreg : d.declaresRegister
    · rfl
    · simp [eventOf, hreg] at he
  have hlen : d.role = .length := by
    by_contra hlen
    simp [eventOf, hd, hlen] at he
  cases hw : waiting pre
  · simp [(eventOf_of_length hp hf hlen).1 hw] at he
  · obtain ⟨p, s', l, hlp, hpos, hs', hl, hev⟩ := (eventOf_of_length hp hf hlen).2 hw
    obtain ⟨-, hb, rfl, rfl⟩ : n = m ∧ d.base = b ∧ s' = s ∧ s' + l = t := by
      simpa [hev] using he
    -- the position was checked when it was read, the length now
    obtain ⟨v, hv, hvle⟩ := hp p hlp hpos
    obtain ⟨l', hl', hle⟩ := value_of_bitsFault? (bitsFault?_of_waiting hf hlen hw)
    have hvs : v = s' := Option.some_inj.mp (hv.symm.trans hs')
    have hll : l' = l := Option.some_inj.mp (hl'.symm.trans hl)
    exact ⟨hlen, hb.symm, l, hl, rfl, hvs ▸ hvle, hll ▸ hle⟩

end Header

end RegisterMap

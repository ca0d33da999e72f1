import Mathlib.Data.List.Forall2
import RegisterMap.Pipeline
import RegisterMap.Proofs.Header.Declarations
import RegisterMap.Proofs.Model.Layout
import RegisterMap.Proofs.Literal.ReadBack

/-!
From a header to its definitions: `build` and `generate` give the scan's error when it stops
with one, and otherwise the block the declarations build, written so that it reads back as what
the header defines.
-/

namespace RegisterMap

open Header

theorem foldl_feed (s : Scan) (b : Builder) (log : List String) :
    (s.findings.foldl feed (b, log)).1 = b.handleAll s.events := by
  obtain ⟨fs, err⟩ := s
  simp only [Scan.events]
  induction fs generalizing b log with
  | nil => rfl
  | cons f fs ih =>
    cases f with
    | event e => exact ih (b.handle e).1 _
    | note t => exact ih b _

theorem build_result (text : Bytes) (cfg : Config) :
    (build text cfg).result = match (scan text).error with
      | some e => .error e
      | none => .ok (((Builder.startBy cfg.cases cfg.name cfg.stem cfg.overrides).handleAll
          (scan text).events).finish cfg.doc) := by
  cases h : (scan text).error <;> simp [build, foldl_feed, h]

theorem generate_result (text : Bytes) (cfg : Config) :
    (generate text cfg).result = (build text cfg).result.map cfg.dialect.render := rfl

namespace Header

def registerDefines (raws : List Bytes) : List Define :=
  (definesOf raws).filter Define.declaresRegister

theorem registerDefines_cons (raw : Bytes) (raws : List Bytes) :
    registerDefines (raw :: raws) =
      (Define.ofLine? (dropReturn raw)).toList.filter Define.declaresRegister ++
        registerDefines raws := by
  rw [registerDefines, registerDefines, ← List.filter_append]
  cases h : Define.ofLine? (dropReturn raw) <;> simp [definesOf, h]

theorem events_of_soundFrom {text : Bytes} (hs : SoundFrom [] (rawLines text)) :
    (scan text).events = eventsFrom [] (rawLines text) := by
  rw [Scan.events_of_findings (scan_findings text), linesRead_of_soundFrom hs]

theorem mem_eventsFrom {pre raws : List Bytes} {e : Event} (h : e ∈ eventsFrom pre raws) :
    ∃ before raw after, raws = before ++ raw :: after ∧ lineEvent (pre ++ before) raw = some e := by
  induction raws generalizing pre with
  | nil => simp [eventsFrom] at h
  | cons raw rs ih =>
    simp only [eventsFrom, List.mem_append, Option.mem_toList] at h
    rcases h with h | h
    · exact ⟨[], raw, rs, rfl, by simpa using h⟩
    · obtain ⟨before, r, after, rfl, hr⟩ := ih h
      exact ⟨raw :: before, r, after, rfl, by simpa using hr⟩

/-- The fields scanned from sound lines are those of their register definitions, in order,
each at the value of its offset and named after the base of its name. -/
theorem forall₂_scannedFields (c : Ident.Cases) (name stem : Bytes) {pre raws : List Bytes}
    (hs : SoundFrom pre raws) :
    List.Forall₂ (fun (d : Define) (f : Field) => Literal.value? d.value = some f.index ∧
        f.name = Ident.fieldNameBy c.lower d.base stem ∧ f.typeName = Ident.typeNameBy c d.base name)
      (registerDefines raws) (Layout.scannedFields c name stem (eventsFrom pre raws)) := by
  induction raws generalizing pre with
  | nil => exact .nil
  | cons raw rs ih =>
    obtain ⟨hraw, hrest⟩ := soundFrom_cons.mp hs
    have hsplit : Layout.scannedFields c name stem (eventsFrom pre (raw :: rs)) =
        Layout.scannedFields c name stem (lineEvent pre raw).toList ++
          Layout.scannedFields c name stem (eventsFrom (pre ++ [raw]) rs) := by
      simp only [eventsFrom, Layout.scannedFields, List.filterMap_append]
    rw [registerDefines_cons, hsplit]
    cases hd : Define.ofLine? (dropReturn raw) with
    | none => simpa [lineEvent, hd, Layout.scannedFields] using ih hrest
    | some d =>
      by_cases hreg : d.declaresRegister
      · obtain ⟨v, hv, hev⟩ := eventOf_of_declaresRegister (faultOf_of_lineFault hraw hd) hreg
        simp only [lineEvent, hd, hev, Option.toList, List.filter_cons, hreg,
          if_true, List.filter_nil, Layout.scannedFields, List.filterMap_cons, List.filterMap_nil,
          List.singleton_append]
        exact .cons ⟨hv, rfl, rfl⟩ (ih hrest)
      · -- any other line declares no register
        have hnone : Layout.scannedFields c name stem (lineEvent pre raw).toList = [] := by
          cases he : lineEvent pre raw with
          | none => rfl
          | some e =>
            have hev : eventOf (definesOf pre) (pre.length + 1) d = some e := by
              simpa [lineEvent, hd] using he
            cases e with
            | offset => exact absurd (declaresRegister_of_eventOf hev rfl) hreg
            | bitField => rfl
        simpa [hreg, hnone] using ih hrest

/-- A bit field declared by sound lines is that of a length line, for the value of that
length from a position of at most `maxBits` bits. -/
theorem bitField_of_mem_eventsFrom {raws : List Bytes} (hs : SoundFrom [] raws) {m : Nat}
    {b : Bytes} {s t : Nat} (he : .bitField m b s t ∈ eventsFrom [] raws) :
    ∃ before raw after d l, raws = before ++ raw :: after ∧ Define.ofLine? (dropReturn raw) = some d ∧
      lineEvent before raw = some (.bitField (before.length + 1) d.base s t) ∧ d.role = .length ∧
      b = d.base ∧ Literal.value? d.value = some l ∧ t = s + l ∧ s ≤ maxBits ∧ l ≤ maxBits := by
  obtain ⟨before, raw, after, hsplit, hev⟩ := mem_eventsFrom he
  rw [List.nil_append] at hev
  cases hd : Define.ofLine? (dropReturn raw) with
  | none => simp [lineEvent, hd] at hev
  | some d =>
    have hraw := lineFault_of_soundFrom hs hsplit
    have hev' : eventOf (definesOf before) (before.length + 1) d = some (.bitField m b s t) := by
      simpa [lineEvent, hd] using hev
    have hm : m = before.length + 1 := Event.line_of_eventOf hev'
    obtain ⟨hlen, hb, l, hl, hbits⟩ := bitField_of_eventOf (parsed_of_soundFrom (hsplit ▸ hs))
      (faultOf_of_lineFault hraw hd) hev'
    subst hm hb
    exact ⟨before, raw, after, d, l, hsplit, hd, hev, hlen, rfl, hl, hbits⟩

end Header

/-- From a header to its definitions. `build` and `generate` fail exactly when the scan of the
header stops with an error, and with that error. Otherwise `build` gives the block its
declarations build and `generate` writes it: the field entries by non-decreasing offset, each
offset in at least three upper-case hexadecimal digits that read back as the offset; the fields
are the override fields of the block and one field per register definition of the header, in
order, at the value of its offset, the override fields first among equal offsets; and each
register holds its override bit fields and then bit fields declared by length lines, whose
bounds, written in decimal, read back as a position and that position plus the length. -/
theorem generate_of_scan (text : Bytes) (cfg : Config) :
    let blk := ((Builder.startBy cfg.cases cfg.name cfg.stem cfg.overrides).handleAll (scan text).events).finish
      cfg.doc
    let hex := fun f : Field => Bytes.padLeft 3 48 (Bytes.hexDigits true f.index)
    (∀ e, (build text cfg).result = .error e ↔ (scan text).error = some e) ∧
    (∀ e, (generate text cfg).result = .error e ↔ (scan text).error = some e) ∧
    ((scan text).error = none →
      (build text cfg).result = .ok blk ∧ (generate text cfg).result = .ok (cfg.dialect.render blk) ∧
      (∃ head mid, cfg.dialect.render blk =
        head ++ blk.fields.flatMap cfg.dialect.fieldLine ++ mid ++
          blk.registers.flatMap cfg.dialect.registerText) ∧
      blk.fields.Pairwise (fun x y => x.index ≤ y.index) ∧
      (∀ f ∈ blk.fields, 3 ≤ (hex f).length ∧ (3 < (hex f).length → (hex f).head? ≠ some 48) ∧
        (∀ b ∈ hex f, Literal.isUpperHex b) ∧
        (f.index < Literal.bound → Literal.value? (Bytes.ofString "0x" ++ hex f) = some f.index)) ∧
      (∃ scanned : List Field,
        blk.fields.Perm (cfg.overrides.structFields cfg.name ++ scanned) ∧
        (∀ i, blk.fields.filter (·.index == i) =
          (cfg.overrides.structFields cfg.name).filter (·.index == i) ++
            scanned.filter (·.index == i)) ∧
        List.Forall₂ (fun (d : Define) (f : Field) => Literal.value? d.value = some f.index ∧
            Literal.value? (Bytes.ofString "0x" ++ hex f) = some f.index ∧
            f.name = Ident.fieldNameBy cfg.cases.lower d.base cfg.stem ∧
              f.typeName = Ident.typeNameBy cfg.cases d.base cfg.name)
          (registerDefines (rawLines text)) scanned) ∧
      ∀ r ∈ blk.registers, ∃ declared : List BitField,
        r.bitFields = cfg.overrides.registerFields r.name ++ declared ∧
        ∀ f ∈ declared, ∃ before raw after d l, rawLines text = before ++ raw :: after ∧
          Define.ofLine? (dropReturn raw) = some d ∧ d.role = .length ∧
          Literal.value? d.value = some l ∧
          lineEvent before raw = some (.bitField (before.length + 1) d.base f.start f.stop) ∧
          f.name = Ident.bitFieldNameBy cfg.cases.lower d.base cfg.stem ∧
          Literal.value? (Bytes.padLeft 2 48 (Bytes.decimal f.start)) = some f.start ∧
          Literal.value? (Bytes.padLeft 2 48 (Bytes.decimal f.stop)) = some (f.start + l)) := by
  intro blk hex
  refine ⟨fun e => ?_, fun e => ?_, fun hnone => ?_⟩
  · rw [build_result]
    cases (scan text).error <;> simp
  · rw [generate_result, build_result]
    cases (scan text).error <;> simp [Except.map]
  have hs : SoundFrom [] (rawLines text) := (scan_error_eq_none_iff text).mp hnone
  have hev : (scan text).events = eventsFrom [] (rawLines text) := events_of_soundFrom hs
  have hblk : blk = _ := Layout.finish_start_handleAll (scan text).events cfg.doc
  have hbuild : (build text cfg).result = .ok blk := by rw [build_result, hnone]
  refine ⟨hbuild, by rw [generate_result, hbuild]; rfl, ⟨_, _, rfl⟩, ?_, fun f _ => ?_, ?_,
    fun r hr => ?_⟩
  · rw [hblk]
    exact Layout.pairwise_mergeSort_index _
  · obtain ⟨h3, hlead, hupper⟩ := Literal.hexIndex_digits f.index
    exact ⟨h3, hlead, hupper, Literal.value?_hexIndex⟩
  · -- the scanned fields are those of the register definitions, read through the scan
    refine ⟨Layout.scannedFields cfg.cases cfg.name cfg.stem (scan text).events, ?_, fun i => ?_, ?_⟩
    · rw [hblk]
      exact List.mergeSort_perm _ _
    · rw [hblk, Layout.filter_mergeSort_index, List.filter_append]
    · rw [hev]
      exact (forall₂_scannedFields cfg.cases cfg.name cfg.stem hs).imp fun d f ⟨hv, hn, ht⟩ =>
        ⟨hv, Literal.value?_hexIndex (Literal.lt_bound_of_value? hv), hn, ht⟩
  · -- each declared bit field goes back to its length line, both bounds below the literal bound
    obtain ⟨declared, hbits, hdecl⟩ := Layout.bitFields_of_mem_registers hr
    refine ⟨declared, hbits, fun f hf => ?_⟩
    obtain ⟨m, base, hmem, hname⟩ := hdecl f hf
    rw [hev] at hmem
    obtain ⟨before, raw, after, d, l, hsplit, hd, hline, hlen, rfl, hl, hstop, hsb, hlb⟩ :=
      bitField_of_mem_eventsFrom hs hmem
    have hbound : maxBits + maxBits < Literal.bound := by decide
    refine ⟨before, raw, after, d, l, hsplit, hd, hlen, hl, hline, hname,
      Literal.value?_decimalBound (by omega), ?_⟩
    rw [hstop]
    exact Literal.value?_decimalBound (by omega)

end RegisterMap

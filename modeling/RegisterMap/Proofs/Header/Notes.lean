import RegisterMap.Proofs.Header.Run

/-!
The scan notes only a length read in a register while no position waits for it, with its line
and its name. A position replaced before any length, or still waiting at the end, is dropped
without a note.
-/

namespace RegisterMap.Header

def lineNote (before : List Bytes) (raw : Bytes) : Option String :=
  match Define.ofLine? (dropReturn raw) with
  | some d => noteOf (definesOf before) (before.length + 1) d
  | none => none

def notesFrom (before : List Bytes) : List Bytes → List String
  | [] => []
  | raw :: rest => (lineNote before raw).toList ++ notesFrom (before ++ [raw]) rest

theorem Scan.log_of_findings {s : Scan} {pre raws : List Bytes}
    (h : s.findings = findingsFrom pre raws) : s.log = notesFrom pre raws := by
  unfold Scan.log
  rw [h]
  clear h
  induction raws generalizing pre with
  | nil => rfl
  | cons raw rs ih =>
    simp only [findingsFrom, notesFrom, List.filterMap_append, ih]
    congr 1
    unfold lineFindings lineNote
    cases Define.ofLine? (dropReturn raw) with
    | none => rfl
    | some d =>
      simp only [effectOf, Effect.findings, List.filterMap_append, List.filterMap_map]
      cases eventOf (definesOf pre) (pre.length + 1) d <;>
        cases noteOf (definesOf pre) (pre.length + 1) d <;> rfl

theorem mem_notesFrom {pre raws : List Bytes} {t : String} :
    t ∈ notesFrom pre raws ↔
      ∃ before raw after, raws = before ++ raw :: after ∧ lineNote (pre ++ before) raw = some t := by
  induction raws generalizing pre with
  | nil => simp [notesFrom]
  | cons raw rs ih =>
    simp only [notesFrom, List.mem_append, Option.mem_toList, ih]
    constructor
    · rintro (h | ⟨before, r, after, rfl, hr⟩)
      · exact ⟨[], raw, rs, rfl, by simpa using h⟩
      · exact ⟨raw :: before, r, after, rfl, by simpa using hr⟩
    · rintro ⟨before, r, after, hsplit, hr⟩
      cases before with
      | nil =>
        obtain ⟨rfl, rfl⟩ := List.cons_eq_cons.mp hsplit
        exact .inl (by simpa using hr)
      | cons x before =>
        obtain ⟨rfl, rfl⟩ := List.cons_eq_cons.mp hsplit
        exact .inr ⟨before, r, after, rfl, by simpa using hr⟩

/-- A definition is noted exactly when it is a length read in a register with no position
waiting, and the note names it and its line. -/
theorem noteOf_eq_some_iff {pre : List Define} {n : Nat} {d : Define} {t : String} :
    noteOf pre n d = some t ↔
      d.role = .length ∧ opened pre ∧ waiting pre = false ∧ orphanNote n d = t := by
  unfold noteOf
  by_cases hl : d.role = .length <;> cases opened pre <;> cases waiting pre <;> simp [hl]

/-- The notes of a scan: one for each length read, before the scan stops, in a register while
no position waits, in line order, naming the length and its line; nothing else is noted. A
position that no length takes, whether replaced by a later one or still waiting at the end,
leaves no note. -/
theorem scan_log_orphans (text : Bytes) :
    let read := linesRead [] (rawLines text)
    (scan text).log = notesFrom [] read ∧
    ∀ t, t ∈ (scan text).log ↔ ∃ before raw after d, read = before ++ raw :: after ∧
      Define.ofLine? (dropReturn raw) = some d ∧ d.role = .length ∧
      opened (definesOf before) ∧ waiting (definesOf before) = false ∧
      orphanNote (before.length + 1) d = t := by
  intro read
  have hlog : (scan text).log = notesFrom [] read := Scan.log_of_findings (scan_findings text)
  refine ⟨hlog, fun t => ?_⟩
  rw [hlog, mem_notesFrom]
  constructor
  · rintro ⟨before, raw, after, hsplit, hnote⟩
    -- a line with a note holds a definition, and the note is that definition's
    cases hd : Define.ofLine? (dropReturn raw) with
    | none => simp [lineNote, hd] at hnote
    | some d =>
      simp only [lineNote, hd, List.nil_append, noteOf_eq_some_iff] at hnote
      exact ⟨before, raw, after, d, hsplit, hd, hnote⟩
  · rintro ⟨before, raw, after, d, hsplit, hd, hnote⟩
    exact ⟨before, raw, after, hsplit, by simpa [lineNote, hd] using noteOf_eq_some_iff.mpr hnote⟩

/-- A register at line 1, a position on line 2 that the position on line 3 replaces before the
length on line 4: the bit field starts at the second position, the first starts nothing, and
nothing is noted. -/
theorem scan_log_silent_on_positions :
    let text := Bytes.ofString
      "#define A_OFFSET 0\n#define A_X_POS 1\n#define A_Y_POS 2\n#define A_Y_LEN 1\n"
    (scan text).events = [.offset 1 (Bytes.ofString "A") 0, .bitField 4 (Bytes.ofString "A_Y") 2 3] ∧
    (scan text).log = [] := by
  decide +kernel

end RegisterMap.Header

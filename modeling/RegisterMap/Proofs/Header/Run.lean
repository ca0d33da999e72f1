import RegisterMap.Proofs.Header.Marks

/-!
The scan of a header read line by line: a line stops the walk when it is too long or faulty
after the lines before it, and otherwise adds the findings of its definition. The run lemma
`foldl_stateAfter` carries the context read off the definitions seen so far.
-/

namespace RegisterMap

namespace Header

def scanLines (raws : List Bytes) : Scan :=
  let ls := readLines raws
  let p := (ls.lines.zipIdx 1).foldl Progress.line {}
  { findings := p.findings.reverse,
    error := match p.error with
      | some e => some e
      | none => if ls.tooLong then some .lineTooLong else none }

theorem scan_eq_scanLines (text : Bytes) : scan text = scanLines (rawLines text) := rfl

def definesOf (raws : List Bytes) : List Define :=
  raws.filterMap fun raw => Define.ofLine? (dropReturn raw)

/-- What stops the scan at the raw line `raw` read after the lines `before`: a line too long
to be read, or the fault of its definition. -/
def lineFault (before : List Bytes) (raw : Bytes) : Option ScanError :=
  if maxLineBytes ≤ raw.length then some .lineTooLong
  else match Define.ofLine? (dropReturn raw) with
    | some d => faultOf (definesOf before) (before.length + 1) d
    | none => none

def lineEvent (before : List Bytes) (raw : Bytes) : Option Event :=
  match Define.ofLine? (dropReturn raw) with
  | some d => eventOf (definesOf before) (before.length + 1) d
  | none => none

def lineFindings (before : List Bytes) (raw : Bytes) : List Finding :=
  match Define.ofLine? (dropReturn raw) with
  | some d => (effectOf (definesOf before) (before.length + 1) d).findings
  | none => []

def findingsFrom (before : List Bytes) : List Bytes → List Finding
  | [] => []
  | raw :: rest => lineFindings before raw ++ findingsFrom (before ++ [raw]) rest

def eventsFrom (before : List Bytes) : List Bytes → List Event
  | [] => []
  | raw :: rest => (lineEvent before raw).toList ++ eventsFrom (before ++ [raw]) rest

def SoundFrom (pre raws : List Bytes) : Prop :=
  ∀ before raw after, raws = before ++ raw :: after → lineFault (pre ++ before) raw = none

def linesRead (pre : List Bytes) : List Bytes → List Bytes
  | [] => []
  | raw :: rest => if lineFault pre raw = none then raw :: linesRead (pre ++ [raw]) rest else []

def stateAfter (before : List Bytes) : Progress :=
  { context := contextOf (definesOf before), findings := (findingsFrom [] before).reverse }

theorem definesOf_append (before : List Bytes) (raw : Bytes) :
    definesOf (before ++ [raw]) = definesOf before ++ (Define.ofLine? (dropReturn raw)).toList := by
  cases h : Define.ofLine? (dropReturn raw) <;> simp [definesOf, h]

theorem findingsFrom_append (pre xs : List Bytes) (raw : Bytes) :
    findingsFrom pre (xs ++ [raw]) = findingsFrom pre xs ++ lineFindings (pre ++ xs) raw := by
  induction xs generalizing pre with
  | nil => simp [findingsFrom]
  | cons x xs ih => simp [findingsFrom, ih]

theorem soundFrom_nil (pre : List Bytes) : SoundFrom pre [] := by
  intro before raw after h
  simp at h

theorem soundFrom_cons {pre rest : List Bytes} {raw : Bytes} :
    SoundFrom pre (raw :: rest) ↔ lineFault pre raw = none ∧ SoundFrom (pre ++ [raw]) rest := by
  constructor
  · intro h
    refine ⟨by simpa using h [] raw rest rfl, fun before r after hr => ?_⟩
    simpa using h (raw :: before) r after (by simp [hr])
  · rintro ⟨hraw, hrest⟩ before r after h
    cases before with
    | nil => simp_all
    | cons x before =>
      obtain ⟨rfl, hb⟩ := List.cons_eq_cons.mp h
      simpa using hrest before r after hb

theorem short_of_lineFault {before : List Bytes} {raw : Bytes} (h : lineFault before raw = none) :
    raw.length < maxLineBytes := by
  unfold lineFault at h
  split at h
  · simp at h
  · omega

theorem faultOf_of_lineFault {before : List Bytes} {raw : Bytes} (h : lineFault before raw = none)
    {d : Define} (hd : Define.ofLine? (dropReturn raw) = some d) :
    faultOf (definesOf before) (before.length + 1) d = none := by
  simpa [lineFault, Nat.not_le.mpr (short_of_lineFault h), hd] using h

theorem readLines_nil : readLines [] = ⟨[], false⟩ := rfl

theorem readLines_cons_short {raw : Bytes} (h : raw.length < maxLineBytes) (rest : List Bytes) :
    readLines (raw :: rest) = ⟨dropReturn raw :: (readLines rest).lines, (readLines rest).tooLong⟩ := by
  simp [readLines, lineStep, Nat.not_le.mpr h]

theorem readLines_cons_long {raw : Bytes} (h : maxLineBytes ≤ raw.length) (rest : List Bytes) :
    readLines (raw :: rest) = ⟨[], true⟩ := by
  simp [readLines, lineStep, h]

theorem readLines_append {pre before : List Bytes} (h : SoundFrom pre before) (rest : List Bytes) :
    readLines (before ++ rest) =
      ⟨before.map dropReturn ++ (readLines rest).lines, (readLines rest).tooLong⟩ := by
  induction before generalizing pre with
  | nil => rfl
  | cons raw before ih =>
    obtain ⟨hraw, hs⟩ := soundFrom_cons.mp h
    simp [readLines_cons_short (short_of_lineFault hraw), ih hs]

theorem Progress.foldl_line_of_error {p : Progress} (h : p.error.isSome) (ls : List (Bytes × Nat)) :
    ls.foldl Progress.line p = p := by
  induction ls with
  | nil => rfl
  | cons l ls ih => simp [Progress.line, h, ih]

/-- The step lemma: a line read after a sound prefix stops the scan at its fault, and
otherwise adds its findings. -/
theorem Progress.line_stateAfter {before : List Bytes} (hp : Parsed (definesOf before)) {raw : Bytes}
    (hshort : raw.length < maxLineBytes) :
    (stateAfter before).line (dropReturn raw, before.length + 1) =
      match lineFault before raw with
      | some e => { stateAfter before with error := some e }
      | none => stateAfter (before ++ [raw]) := by
  have hl : ¬maxLineBytes ≤ raw.length := Nat.not_le.mpr hshort
  simp only [Progress.line, stateAfter, Option.isSome_none, Bool.false_eq_true, if_false]
  cases hd : Define.ofLine? (dropReturn raw) with
  | none => simp [lineFault, hl, hd, definesOf_append, findingsFrom_append, lineFindings]
  | some d =>
    simp only [Context.step_contextOf hp, lineFault, hl, if_false, hd]
    cases hf : faultOf (definesOf before) (before.length + 1) d with
    | some e => rfl
    | none =>
      simp [effectOf, definesOf_append, findingsFrom_append, lineFindings, hd]

theorem parsed_definesOf {pre before : List Bytes} (hp : Parsed (definesOf pre))
    (h : SoundFrom pre before) : Parsed (definesOf (pre ++ before)) := by
  induction before generalizing pre with
  | nil => simpa using hp
  | cons raw before ih =>
    obtain ⟨hraw, hs⟩ := soundFrom_cons.mp h
    have hp' : Parsed (definesOf (pre ++ [raw])) := by
      rw [definesOf_append]
      cases hd : Define.ofLine? (dropReturn raw) with
      | none => simpa using hp
      | some d => exact parsed_append hp (faultOf_of_lineFault hraw hd)
    simpa using ih hp' hs

/-- The run lemma: reading a sound run of lines after a sound prefix reaches the scan after
both. -/
theorem foldl_stateAfter {pre before : List Bytes} (hp : Parsed (definesOf pre))
    (h : SoundFrom pre before) :
    ((before.map dropReturn).zipIdx (pre.length + 1)).foldl Progress.line (stateAfter pre) =
      stateAfter (pre ++ before) := by
  induction before generalizing pre with
  | nil => simp
  | cons raw before ih =>
    obtain ⟨hraw, hs⟩ := soundFrom_cons.mp h
    have hstep := Progress.line_stateAfter hp (short_of_lineFault hraw)
    rw [hraw] at hstep
    have hp' : Parsed (definesOf (pre ++ [raw])) := by
      simpa using parsed_definesOf hp (soundFrom_cons.mpr ⟨hraw, soundFrom_nil _⟩)
    have hlen : (pre ++ [raw]).length + 1 = pre.length + 1 + 1 := by simp
    simp only [List.map_cons, List.zipIdx_cons, List.foldl_cons, hstep]
    rw [← hlen, ih hp' hs]
    simp

theorem stateAfter_nil : stateAfter [] = {} := rfl

theorem parsed_nil : Parsed (definesOf []) := by
  intro p h
  simp [definesOf, lastMark, sinceOpen] at h

theorem foldl_stateAfter_nil {before : List Bytes} (h : SoundFrom [] before) :
    ((before.map dropReturn).zipIdx 1).foldl Progress.line {} = stateAfter before := by
  simpa [stateAfter_nil] using foldl_stateAfter parsed_nil h

theorem scanLines_sound {raws : List Bytes} (h : SoundFrom [] raws) :
    scanLines raws = { findings := findingsFrom [] raws } := by
  have hr : readLines raws = ⟨raws.map dropReturn, false⟩ := by
    simpa [readLines_nil] using readLines_append h []
  simp only [scanLines, hr, foldl_stateAfter_nil h]
  simp [stateAfter]

/-- The scan of lines stops at the first faulty one, with its fault and with the findings of
the lines before it. -/
theorem scanLines_fault {before : List Bytes} (h : SoundFrom [] before) {raw : Bytes}
    {e : ScanError} (hf : lineFault before raw = some e) (after : List Bytes) :
    scanLines (before ++ raw :: after) = { findings := findingsFrom [] before, error := some e } := by
  have hrun := foldl_stateAfter_nil h
  by_cases hlong : maxLineBytes ≤ raw.length
  · -- a line too long to be read ends the lines, and the scan stops after the others
    have he : e = .lineTooLong := by simp_all [lineFault]
    simp [scanLines, readLines_append h, readLines_cons_long hlong, hrun, stateAfter, he]
  · have hshort : raw.length < maxLineBytes := Nat.not_le.mp hlong
    have hstep := Progress.line_stateAfter (parsed_definesOf parsed_nil h) hshort
    simp only [List.nil_append, hf] at hstep
    have herr : ({ stateAfter before with error := some e } : Progress).error.isSome := rfl
    simp only [scanLines, readLines_append h, readLines_cons_short hshort, List.zipIdx_append,
      List.foldl_append, hrun, List.length_map, List.zipIdx_cons, List.foldl_cons]
    rw [Nat.add_comm 1, hstep, Progress.foldl_line_of_error herr]
    simp [stateAfter]

theorem soundFrom_of_append {pre xs ys : List Bytes} (h : SoundFrom pre (xs ++ ys)) :
    SoundFrom pre xs := by
  intro before raw after hx
  exact h before raw (after ++ ys) (by simp [hx])

theorem lineFault_of_soundFrom {raws before after : List Bytes} {raw : Bytes} (h : SoundFrom [] raws)
    (hsplit : raws = before ++ raw :: after) : lineFault before raw = none := by
  simpa using h before raw after hsplit

theorem parsed_of_soundFrom {before rest : List Bytes} (h : SoundFrom [] (before ++ rest)) :
    Parsed (definesOf before) := by
  simpa using parsed_definesOf parsed_nil (soundFrom_of_append h)

theorem linesRead_spec (pre raws : List Bytes) :
    SoundFrom pre (linesRead pre raws) ∧ ∃ rest, raws = linesRead pre raws ++ rest ∧
      (rest = [] ∨ ∃ raw after e, rest = raw :: after ∧
        lineFault (pre ++ linesRead pre raws) raw = some e) := by
  induction raws generalizing pre with
  | nil => exact ⟨soundFrom_nil pre, [], rfl, .inl rfl⟩
  | cons raw rs ih =>
    by_cases hf : lineFault pre raw = none
    · obtain ⟨hs, rest, hsplit, hrest⟩ := ih (pre ++ [raw])
      refine ⟨by simpa [linesRead, hf] using soundFrom_cons.mpr ⟨hf, hs⟩, rest,
        by simp [linesRead, hf, ← hsplit], ?_⟩
      simpa [linesRead, hf] using hrest
    · obtain ⟨e, he⟩ := Option.ne_none_iff_exists'.mp hf
      exact ⟨by simpa [linesRead, hf] using soundFrom_nil pre, raw :: rs, by simp [linesRead, hf],
        .inr ⟨raw, rs, e, rfl, by simpa [linesRead, hf] using he⟩⟩

theorem scan_findings (text : Bytes) :
    (scan text).findings = findingsFrom [] (linesRead [] (rawLines text)) := by
  obtain ⟨hs, rest, hsplit, hrest⟩ := linesRead_spec [] (rawLines text)
  generalize linesRead [] (rawLines text) = read at hs hsplit hrest ⊢
  rw [scan_eq_scanLines, hsplit]
  rcases hrest with rfl | ⟨raw, after, e, rfl, hf⟩
  · simp [scanLines_sound hs]
  · rw [scanLines_fault hs (by simpa using hf)]

theorem linesRead_of_soundFrom {pre raws : List Bytes} (h : SoundFrom pre raws) :
    linesRead pre raws = raws := by
  induction raws generalizing pre with
  | nil => rfl
  | cons raw rs ih =>
    obtain ⟨hraw, hrest⟩ := soundFrom_cons.mp h
    simp [linesRead, hraw, ih hrest]

theorem scan_error_eq_none_iff (text : Bytes) :
    (scan text).error = none ↔ SoundFrom [] (rawLines text) := by
  constructor
  · intro hnone
    -- split the lines at the first faulty one: there is none, or the scan would stop there
    obtain ⟨hs, rest, hsplit, hrest⟩ := linesRead_spec [] (rawLines text)
    rcases hrest with rfl | ⟨raw, after, e, rfl, hf⟩
    · rw [List.append_nil] at hsplit
      rw [hsplit]
      exact hs
    · rw [scan_eq_scanLines, hsplit, scanLines_fault hs (by simpa using hf)] at hnone
      cases hnone
  · intro hs
    rw [scan_eq_scanLines, scanLines_sound hs]

end Header

end RegisterMap

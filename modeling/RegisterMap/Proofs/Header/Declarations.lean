import RegisterMap.Proofs.Header.Run

/-!
The declarations a scan reports, each on its own line number. An offset not defined as its own
name declares its register, and a length declares a bit field exactly when the nearest position
or length after the first register is a position, whatever offsets stand between them.
-/

namespace RegisterMap.Header

theorem Scan.events_of_findings {s : Scan} {pre raws : List Bytes}
    (h : s.findings = findingsFrom pre raws) : s.events = eventsFrom pre raws := by
  unfold Scan.events
  rw [h]
  clear h
  induction raws generalizing pre with
  | nil => rfl
  | cons raw rs ih =>
    simp only [findingsFrom, eventsFrom, List.filterMap_append, ih]
    congr 1
    unfold lineFindings lineEvent
    cases Define.ofLine? (dropReturn raw) with
    | none => rfl
    | some d =>
      simp only [effectOf, Effect.findings, List.filterMap_append, List.filterMap_map]
      cases eventOf (definesOf pre) (pre.length + 1) d <;>
        cases noteOf (definesOf pre) (pre.length + 1) d <;> rfl

theorem lt_line_of_mem_eventsFrom {pre raws : List Bytes} {e : Event}
    (h : e ∈ eventsFrom pre raws) : pre.length < e.line := by
  induction raws generalizing pre with
  | nil => simp [eventsFrom] at h
  | cons raw rs ih =>
    simp only [eventsFrom, List.mem_append, Option.mem_toList] at h
    rcases h with h | h
    · unfold lineEvent at h
      split at h
      · rw [Event.line_of_eventOf h]; omega
      · cases h
    · have := ih h
      simp at this
      omega

theorem pairwise_line_eventsFrom (pre raws : List Bytes) :
    ((eventsFrom pre raws).map Event.line).Pairwise (· < ·) := by
  induction raws generalizing pre with
  | nil => simp [eventsFrom]
  | cons raw rs ih =>
    simp only [eventsFrom, List.map_append, List.pairwise_append]
    refine ⟨by cases lineEvent pre raw <;> simp, ih _, ?_⟩
    -- the line's own declaration is on its number, those after it on later ones
    intro a ha b hb
    obtain ⟨e, he, rfl⟩ := List.mem_map.mp ha
    obtain ⟨f, hf, rfl⟩ := List.mem_map.mp hb
    have hf' := lt_line_of_mem_eventsFrom hf
    have he' : e.line = pre.length + 1 := by
      simp only [Option.mem_toList, lineEvent] at he
      split at he
      · exact Event.line_of_eventOf he
      · cases he
    simp at hf'
    omega

theorem head_isOffset_eventsFrom {pre raws : List Bytes} (hs : SoundFrom pre raws)
    (ho : opened (definesOf pre) = false) : ∀ e ∈ (eventsFrom pre raws).head?, e.isOffset := by
  induction raws generalizing pre with
  | nil => simp [eventsFrom]
  | cons raw rs ih =>
    obtain ⟨hraw, hrest⟩ := soundFrom_cons.mp hs
    unfold eventsFrom lineEvent
    cases hd : Define.ofLine? (dropReturn raw) with
    | none => simpa [definesOf_append, hd] using ih hrest (by simpa [definesOf_append, hd] using ho)
    | some d =>
      have hf := faultOf_of_lineFault hraw hd
      by_cases hreg : d.declaresRegister
      · obtain ⟨v, -, hv⟩ := eventOf_of_declaresRegister hf hreg
        simp [hv, Event.isOffset]
      · -- nothing else declares anything before a register, and the register stays closed
        have hnone : eventOf (definesOf pre) (pre.length + 1) d = none := by
          simp [eventOf, hreg, lastMark_eq_none ho]
        have ho' : opened (definesOf (pre ++ [raw])) = false := by
          simp [definesOf_append, hd, opened_append, ho, hreg]
        simpa [hnone] using ih hrest ho'

/-- The declarations of a header: those of the lines read before the scan stops, line by
line, on strictly increasing line numbers, with a register first. On each such line an
offset not defined as its own name declares its register at its value, and a length declares
a bit field exactly when the nearest position or length after the first register is a
position `p`, for the bits from the value of `p` on for the value of the length. -/
theorem scan_events_declared (text : Bytes) :
    let read := linesRead [] (rawLines text)
    (scan text).events = eventsFrom [] read ∧
    ((scan text).events.map Event.line).Pairwise (· < ·) ∧
    (∀ e ∈ (scan text).events.head?, e.isOffset) ∧
    ∀ before raw after d, read = before ++ raw :: after →
      Define.ofLine? (dropReturn raw) = some d →
      (d.declaresRegister → ∃ v, Literal.value? d.value = some v ∧
        lineEvent before raw = some (.offset (before.length + 1) d.base v)) ∧
      (d.role = .length →
        (waiting (definesOf before) = false → lineEvent before raw = none) ∧
        (waiting (definesOf before) = true → ∃ p s l, lastMark (definesOf before) = some p ∧
          p.role = .position ∧ Literal.value? p.value = some s ∧ Literal.value? d.value = some l ∧
          lineEvent before raw = some (.bitField (before.length + 1) d.base s (s + l)))) := by
  intro read
  have hs : SoundFrom [] read := (linesRead_spec [] (rawLines text)).1
  have hev : (scan text).events = eventsFrom [] read := Scan.events_of_findings (scan_findings text)
  refine ⟨hev, hev ▸ pairwise_line_eventsFrom [] read,
    hev ▸ head_isOffset_eventsFrom hs rfl, ?_⟩
  intro before raw after d hsplit hd
  -- the line is read after a sound prefix, so its definition has no fault
  have hf := faultOf_of_lineFault (lineFault_of_soundFrom hs hsplit) hd
  have hp : Parsed (definesOf before) := parsed_of_soundFrom (hsplit ▸ hs)
  simp only [lineEvent, hd]
  exact ⟨eventOf_of_declaresRegister hf, eventOf_of_length hp hf⟩

end RegisterMap.Header

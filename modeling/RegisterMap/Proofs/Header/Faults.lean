import RegisterMap.Proofs.Header.Run

/-!
Where the scan of a header stops. A line is faulty (`lineFault`) when it is too long, or when,
after the lines before it, its value is no literal or too wide. The scan stops with the fault of
the first faulty line and reports what the lines before it report on their own.
-/

namespace RegisterMap.Header

/-- The scan of a header stops with an error exactly when one of its lines is faulty. The
first faulty line gives the error; the scan then finds what the lines before it find on their
own, and whatever follows that line leaves the scan as it is. -/
theorem scan_error_first_fault (text : Bytes) :
    ((scan text).error = none ↔ SoundFrom [] (rawLines text)) ∧
    ∀ before raw after e, rawLines text = before ++ raw :: after → SoundFrom [] before →
      lineFault before raw = some e →
      (scan text).error = some e ∧ (scan text).findings = (scanLines before).findings ∧
      (scanLines before).error = none ∧ ∀ later, scanLines (before ++ raw :: later) = scan text := by
  refine ⟨scan_error_eq_none_iff text, ?_⟩
  intro before raw after e hsplit hs hf
  have hstop : scan text = { findings := findingsFrom [] before, error := some e } := by
    rw [scan_eq_scanLines, hsplit, scanLines_fault hs hf]
  refine ⟨by rw [hstop], by rw [hstop, scanLines_sound hs], by rw [scanLines_sound hs],
    fun later => by rw [hstop, scanLines_fault hs hf]⟩

end RegisterMap.Header

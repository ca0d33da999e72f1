import RegisterMap.Ident
import RegisterMap.Proofs.Text.Utf8
import RegisterMap.Proofs.Text.Lower

/-!
Field names are normal forms: they never start with a digit, and under a case mapping with the
laws of `Ident.Lowering` naming them again gives them back. The program's streaming lower case
has those laws (`lowering_lowerStream`).
-/

namespace RegisterMap

namespace Ident

structure Lowering (lower : Bytes → Bytes) : Prop where
  idem : ∀ s, lower (lower s) = lower s
  noCapital : ∀ s, ∀ b ∈ lower s, b < 65 ∨ 90 < b
  underscore : ∀ w, lower w = w → lower (underscore :: w) = underscore :: lower w

variable {lower : Bytes → Bytes}

theorem startsWithDigit_underscore (w : Bytes) : startsWithDigit (underscore :: w) = false := by
  have hd : decode (underscore :: w) = .char (Char.ofNat 95) :: decode w := by
    rw [decode, decodeOnto.eq_2, if_pos (by decide), decodeOnto_eq_append]
    rfl
  rw [startsWithDigit, hd]
  exact (by decide : Text.isDecimalDigit (Char.ofNat 95) = false)

theorem startsWithDigit_normalizeBy (lower : Bytes → Bytes) (name : Bytes) :
    startsWithDigit (normalizeBy lower name) = false := by
  dsimp only [normalizeBy]
  split
  · exact startsWithDigit_underscore _
  · rename_i hd
    simpa using hd

theorem strip_nil (x : Bytes) : strip x [] = x := by
  simp [strip, Bytes.dropPrefix?]

theorem normalizeBy_of_not_digit {name : Bytes} (h : startsWithDigit (lower name) = false) :
    normalizeBy lower name = lower name := by
  simp [normalizeBy, h]

theorem lower_normalizeBy (h : Lowering lower) (name : Bytes) :
    lower (normalizeBy lower name) = normalizeBy lower name := by
  dsimp only [normalizeBy]
  split
  · rw [h.underscore _ (h.idem name), h.idem]
  · exact h.idem name

theorem normalizeBy_normalizeBy (h : Lowering lower) (name : Bytes) :
    normalizeBy lower (normalizeBy lower name) = normalizeBy lower name := by
  have hlow := lower_normalizeBy h name
  rw [normalizeBy_of_not_digit (by rw [hlow]; exact startsWithDigit_normalizeBy lower name), hlow]

theorem head?_normalizeBy (h : Lowering lower) (name : Bytes) :
    (normalizeBy lower name).head? ≠ some 82 := by
  dsimp only [normalizeBy]
  split
  · simp [underscore]
  · intro hr
    have hmem : (82 : UInt8) ∈ lower name := List.mem_of_mem_head? hr
    rcases h.noCapital name 82 hmem with h82 | h82 <;> revert h82 <;> decide

theorem dropMarker_of_head? {x : Bytes} (hx : x.head? ≠ some 82) : dropMarker x markers = x := by
  -- both markers start with `R`
  cases x with
  | nil => rfl
  | cons c rest =>
    have hc : c ≠ 82 := fun hc => hx (by simp [hc])
    have hm : markers = [[82, 69, 71, 95], [82, 69, 71, 50, 95]] := by decide
    simp [dropMarker, hm, Bytes.dropPrefix?, Ne.symm hc]

theorem fieldNameBy_fieldNameBy (h : Lowering lower) (base pre : Bytes) :
    fieldNameBy lower (fieldNameBy lower base pre) [] = fieldNameBy lower base pre := by
  show normalizeBy lower (strip (fieldNameBy lower base pre) []) = _
  rw [strip_nil]
  exact normalizeBy_normalizeBy h _

theorem bitFieldNameBy_bitFieldNameBy (h : Lowering lower) (base pre : Bytes) :
    bitFieldNameBy lower (bitFieldNameBy lower base pre) [] = bitFieldNameBy lower base pre := by
  show normalizeBy lower (dropMarker (strip (normalizeBy lower (dropMarker (strip base pre) markers)) [])
    markers) = normalizeBy lower (dropMarker (strip base pre) markers)
  rw [strip_nil, dropMarker_of_head? (head?_normalizeBy h _)]
  exact normalizeBy_normalizeBy h _

/-- Field and bit field names never start with a decimal digit, and with a lower case that
has the laws of `Lowering` they are fixed points of naming without a prefix. -/
theorem names_normal (lower : Bytes → Bytes) (base pre : Bytes) :
    startsWithDigit (fieldNameBy lower base pre) = false ∧
    startsWithDigit (bitFieldNameBy lower base pre) = false ∧
    (Lowering lower →
      fieldNameBy lower (fieldNameBy lower base pre) [] = fieldNameBy lower base pre ∧
      bitFieldNameBy lower (bitFieldNameBy lower base pre) [] = bitFieldNameBy lower base pre) :=
  ⟨startsWithDigit_normalizeBy lower _, startsWithDigit_normalizeBy lower _,
    fun h => ⟨fieldNameBy_fieldNameBy h base pre, bitFieldNameBy_bitFieldNameBy h base pre⟩⟩

def asciiLowerByte (b : UInt8) : UInt8 := if 65 ≤ b ∧ b ≤ 90 then b + 32 else b

def asciiLower : Bytes → Bytes := List.map asciiLowerByte

theorem asciiLowerByte_not_capital (b : UInt8) : asciiLowerByte b < 65 ∨ 90 < asciiLowerByte b := by
  unfold asciiLowerByte
  split
  · rename_i hb
    simp only [UInt8.le_iff_toNat_le, UInt8.lt_iff_toNat_lt, UInt8.toNat_add] at hb ⊢
    simp at hb ⊢
    omega
  · rename_i hb
    simp only [UInt8.le_iff_toNat_le, UInt8.lt_iff_toNat_lt] at hb ⊢
    simp at hb ⊢
    omega

theorem asciiLowerByte_of_not_capital {b : UInt8} (h : b < 65 ∨ 90 < b) : asciiLowerByte b = b := by
  have hb : ¬(65 ≤ b ∧ b ≤ 90) := by
    simp only [UInt8.le_iff_toNat_le, UInt8.lt_iff_toNat_lt] at h ⊢
    simp at h ⊢
    omega
  simp [asciiLowerByte, hb]

theorem lowering_asciiLower : Lowering asciiLower where
  idem s := by
    simp only [asciiLower, List.map_map]
    exact List.map_congr_left fun b _ => asciiLowerByte_of_not_capital (asciiLowerByte_not_capital b)
  noCapital s b hb := by
    obtain ⟨a, -, rfl⟩ := List.mem_map.1 hb
    exact asciiLowerByte_not_capital a
  underscore w _ := by
    simp only [asciiLower, List.map_cons, underscore]
    rw [asciiLowerByte_of_not_capital (by decide)]

/-- `GLB_2ND_FIELD` without the prefix `GLB_` starts with a digit and gets an underscore; the
program's lower case agrees there with `asciiLower`, and naming the result again keeps it. -/
theorem names_normal_leadingDigit :
    Lowering asciiLower ∧
    fieldName (Bytes.ofString "GLB_2ND_FIELD") (Bytes.ofString "GLB_") =
      fieldNameBy asciiLower (Bytes.ofString "GLB_2ND_FIELD") (Bytes.ofString "GLB_") ∧
    fieldNameBy asciiLower (Bytes.ofString "GLB_2ND_FIELD") (Bytes.ofString "GLB_") =
      Bytes.ofString "_2nd_field" ∧
    fieldNameBy asciiLower (Bytes.ofString "_2nd_field") [] = Bytes.ofString "_2nd_field" := by
  obtain ⟨-, -, hidem⟩ :=
    names_normal asciiLower (Bytes.ofString "GLB_2ND_FIELD") (Bytes.ofString "GLB_")
  have hname : fieldNameBy asciiLower (Bytes.ofString "GLB_2ND_FIELD") (Bytes.ofString "GLB_") =
      Bytes.ofString "_2nd_field" := by decide +kernel
  refine ⟨lowering_asciiLower, by decide +kernel, hname, ?_⟩
  rw [← hname]
  exact (hidem lowering_asciiLower).1

theorem isLower_underscore_cons {w : Bytes} (hw : Text.IsLower w) :
    Text.IsLower (underscore :: w) := by
  intro c hc
  rw [decode_cons_of_lt (by decide)] at hc
  rcases List.mem_cons.1 hc with hc | hc
  · injection hc with hc
    subst hc
    decide +kernel
  · exact hw c hc

theorem lowering_lowerStream : Lowering Text.lowerStream where
  idem := Text.lowerStream_lowerStream
  noCapital s _ hb := (Text.isLower_lowerStream s).not_capital hb
  underscore w h := by
    have hw := Text.lowerStream_eq_self_iff.1 h
    rw [Text.lowerStream_of_isLower (isLower_underscore_cons hw), h]

theorem fieldName_fieldName (base pre : Bytes) :
    fieldName (fieldName base pre) [] = fieldName base pre :=
  fieldNameBy_fieldNameBy lowering_lowerStream base pre

theorem bitFieldName_bitFieldName (base pre : Bytes) :
    bitFieldName (bitFieldName base pre) [] = bitFieldName base pre :=
  bitFieldNameBy_bitFieldNameBy lowering_lowerStream base pre

end Ident

end RegisterMap

import RegisterMap.Overrides.Read
import RegisterMap.Proofs.Overrides.Merge

/-!
A set of overrides passes its check exactly when every field has a name and a type and every
bit field a name and a non-empty range (`Overrides.Valid`). A merge passes exactly when every
set does, and a set read from YAML, with any decoder, is the decoded set if it passes.
-/

namespace RegisterMap

namespace Overrides

/-- What the check of a set asks: named and typed fields, named bit fields of at least one
bit. -/
structure Valid (o : Overrides) : Prop where
  fields : ∀ n, ∀ f ∈ o.structFields n, f.name ≠ [] ∧ f.typeName ≠ []
  bitFields : ∀ n, ∀ f ∈ o.registerFields n, f.name ≠ [] ∧ f.start < f.stop

theorem fieldProblems_eq_nil_iff (owner : Bytes) (f : Field) :
    fieldProblems owner f = [] ↔ f.name ≠ [] ∧ f.typeName ≠ [] := by
  unfold fieldProblems
  by_cases h : f.name = [] ∨ f.typeName = []
  · simp only [if_pos h, reduceCtorEq, false_iff, not_and_or, ne_eq, not_not]
    exact h
  · simp only [if_neg h, true_iff]
    exact not_or.1 h

theorem bitFieldProblems_eq_nil_iff (owner : Bytes) (f : BitField) :
    bitFieldProblems owner f = [] ↔ f.name ≠ [] ∧ f.start < f.stop := by
  by_cases hn : f.name = [] <;> by_cases hr : f.stop ≤ f.start <;> simp_all [bitFieldProblems]

theorem flatMap_entries {β γ : Type} (t : Table (List β)) (g : Bytes → β → List γ) :
    t.entries.flatMap (fun e => e.2.flatMap (g e.1)) =
      t.keys.flatMap fun n => ((t.find? n).getD []).flatMap (g n) := by
  rw [Table.keys, List.flatMap_map]
  apply List.flatMap_congr
  rintro ⟨k, v⟩ he
  rw [Table.find?_of_mem t he]
  rfl

/-- The problems of a set: by block name, then by register type name, in the order of the
tables. -/
theorem problems_eq_keys (o : Overrides) :
    problems o = o.structs.keys.flatMap (fun n => (o.structFields n).flatMap (fieldProblems n)) ++
      o.registers.keys.flatMap (fun n => (o.registerFields n).flatMap (bitFieldProblems n)) := by
  rw [problems, flatMap_entries o.structs, flatMap_entries o.registers]
  rfl

theorem getD_find?_of_not_mem {β : Type} {t : Table (List β)} {n : Bytes} (hn : n ∉ t.keys) :
    (t.find? n).getD [] = [] := by
  rw [Table.find?_eq_none_of_not_mem hn]
  rfl

theorem problems_eq_nil_iff (o : Overrides) : problems o = [] ↔ o.Valid := by
  rw [problems_eq_keys, List.append_eq_nil_iff, List.flatMap_eq_nil_iff, List.flatMap_eq_nil_iff]
  simp only [List.flatMap_eq_nil_iff, fieldProblems_eq_nil_iff, bitFieldProblems_eq_nil_iff]
  constructor
  · rintro ⟨hs, hr⟩
    -- a name outside a table looks up nothing, so only the names of the tables need checking
    refine ⟨fun n f hf => ?_, fun n f hf => ?_⟩
    · by_cases hn : n ∈ o.structs.keys
      · exact hs n hn f hf
      · simp [structFields, getD_find?_of_not_mem hn] at hf
    · by_cases hn : n ∈ o.registers.keys
      · exact hr n hn f hf
      · simp [registerFields, getD_find?_of_not_mem hn] at hf
  · intro hv
    exact ⟨fun n _ => hv.fields n, fun n _ => hv.bitFields n⟩

theorem valid_mergeAll_iff (sets : List (Option Overrides)) :
    (mergeAll sets).Valid ↔ ∀ s ∈ sets.filterMap id, s.Valid := by
  constructor
  · intro hv s hs
    refine ⟨fun n f hf => hv.fields n f ?_, fun n f hf => hv.bitFields n f ?_⟩
    · rw [structFields_mergeAll]
      exact List.mem_flatMap.2 ⟨s, hs, hf⟩
    · rw [registerFields_mergeAll]
      exact List.mem_flatMap.2 ⟨s, hs, hf⟩
  · intro hv
    refine ⟨fun n f hf => ?_, fun n f hf => ?_⟩
    · rw [structFields_mergeAll] at hf
      obtain ⟨s, hs, hf⟩ := List.mem_flatMap.1 hf
      exact (hv s hs).fields n f hf
    · rw [registerFields_mergeAll] at hf
      obtain ⟨s, hs, hf⟩ := List.mem_flatMap.1 hf
      exact (hv s hs).bitFields n f hf

theorem problems_mergeAll_eq_nil_iff (sets : List (Option Overrides)) :
    problems (mergeAll sets) = [] ↔ ∀ s ∈ sets.filterMap id, problems s = [] := by
  rw [problems_eq_nil_iff, valid_mergeAll_iff]
  exact forall₂_congr fun s _ => (problems_eq_nil_iff s).symm

theorem Problem.message_invalid (p : Problem) : ∃ rest, p.message = "invalid override: " ++ rest := by
  cases p with
  | unnamedField o i =>
    refine ⟨"field of " ++ o.toLossy ++ " at " ++ hexMarked i ++ " needs a name and a type", ?_⟩
    unfold Problem.message
    rw [show "invalid override: field of " = "invalid override: " ++ "field of " from rfl]
    simp only [String.append_assoc, -String.reduceAppend]
  | unnamedBitField o s e =>
    refine ⟨"unnamed bit field [" ++ Nat.repr s ++ ".." ++ Nat.repr e ++ "] in " ++ o.toLossy, ?_⟩
    unfold Problem.message
    rw [show "invalid override: unnamed bit field [" =
      "invalid override: " ++ "unnamed bit field [" from rfl]
    simp only [String.append_assoc, -String.reduceAppend]
  | emptyRange o n s e =>
    refine ⟨"empty bit range [" ++ Nat.repr s ++ ".." ++ Nat.repr e ++ "] of " ++ o.toLossy ++ "." ++
      n.toLossy, ?_⟩
    unfold Problem.message
    rw [show "invalid override: empty bit range [" = "invalid override: " ++ "empty bit range [" from rfl]
    simp only [String.append_assoc, -String.reduceAppend]

section Decoder

variable (decode : Yaml.Decoder LiteralError)

theorem readBy_eq_ok_iff (text : String) (o : Overrides) :
    readBy decode text = .ok o ↔ ∃ d, decode LiteralError.read schema schema.zero text = .ok d ∧
      ofDatum d = o ∧ problems o = [] := by
  unfold readBy
  cases decode LiteralError.read schema schema.zero text with
  | error e => simp
  | ok d =>
    dsimp only
    cases hp : problems (ofDatum d) with
    | nil =>
      simp only [Except.ok.injEq]
      constructor
      · rintro rfl
        exact ⟨d, rfl, rfl, hp⟩
      · rintro ⟨d', hd', rfl, -⟩
        cases hd'
        rfl
    | cons p ps =>
      simp only [reduceCtorEq, Except.ok.injEq, false_iff, not_exists, not_and]
      rintro d' rfl rfl hnil
      simp [hp] at hnil

theorem readBy_eq_invalid_iff (text : String) (ps : List Problem) :
    readBy decode text = .error (.invalid ps) ↔
      ∃ d, decode LiteralError.read schema schema.zero text = .ok d ∧
        ps = problems (ofDatum d) ∧ ps ≠ [] := by
  unfold readBy
  cases decode LiteralError.read schema schema.zero text with
  | error e => cases e <;> simp [ReadError.ofDecode]
  | ok d =>
    dsimp only
    cases hp : problems (ofDatum d) with
    | nil => simp [hp]
    | cons p qs =>
      simp only [Except.error.injEq, ReadError.invalid.injEq, Except.ok.injEq, exists_eq_left', hp,
        ne_eq]
      constructor
      · rintro rfl
        exact ⟨rfl, List.cons_ne_nil p qs⟩
      · rintro ⟨rfl, -⟩
        rfl

theorem readBy_of_decode_error {text : String} {e : Yaml.DecodeError LiteralError}
    (he : decode LiteralError.read schema schema.zero text = .error e) :
    readBy decode text = .error (ReadError.ofDecode e) := by
  simp [readBy, he]

theorem valid_of_readBy_eq_ok {text : String} {o : Overrides} (hr : readBy decode text = .ok o) :
    o.Valid := by
  obtain ⟨d, -, rfl, hp⟩ := (readBy_eq_ok_iff decode text o).1 hr
  exact (problems_eq_nil_iff _).1 hp

end Decoder

/-- The check of override sets: a set passes exactly when it is valid, and its
problems come by block name and then by register type name, both in increasing order, the
entries of a name in list order, each entry with its own problems; the empty set, which a
missing set behaves as, passes; every message says that the override is invalid; a merge of
sets passes exactly when every set does; and with any YAML decoder, a set reads exactly when
the text decodes to a set that passes, and otherwise the reading fails with the decoding error
or the problems of the decoded set, so that every set that reads is valid. -/
theorem problems_exact (decode : Yaml.Decoder LiteralError) :
    (∀ o : Overrides,
      (problems o = [] ↔ o.Valid) ∧
      problems o = o.structs.keys.flatMap (fun n => (o.structFields n).flatMap (fieldProblems n)) ++
        o.registers.keys.flatMap (fun n => (o.registerFields n).flatMap (bitFieldProblems n)) ∧
      o.structs.keys.Pairwise (fun a b => Bytes.lt a b) ∧
      o.registers.keys.Pairwise (fun a b => Bytes.lt a b)) ∧
    problems empty = [] ∧
    (∀ n f, fieldProblems n f = [] ↔ f.name ≠ [] ∧ f.typeName ≠ []) ∧
    (∀ n f, bitFieldProblems n f = [] ↔ f.name ≠ [] ∧ f.start < f.stop) ∧
    (∀ p : Problem, ∃ rest, p.message = "invalid override: " ++ rest) ∧
    (∀ sets : List (Option Overrides),
      (problems (mergeAll sets) = [] ↔ ∀ s ∈ sets.filterMap id, problems s = [])) ∧
    (∀ text o, readBy decode text = .ok o ↔
      ∃ d, decode LiteralError.read schema schema.zero text = .ok d ∧
        ofDatum d = o ∧ problems o = []) ∧
    (∀ text ps, readBy decode text = .error (.invalid ps) ↔
      ∃ d, decode LiteralError.read schema schema.zero text = .ok d ∧
        ps = problems (ofDatum d) ∧ ps ≠ []) ∧
    (∀ text e, decode LiteralError.read schema schema.zero text = .error e →
      readBy decode text = .error (ReadError.ofDecode e)) ∧
    (∀ text o, readBy decode text = .ok o → o.Valid) := by
  refine ⟨fun o => ⟨problems_eq_nil_iff o, problems_eq_keys o, o.structs.ascending,
      o.registers.ascending⟩,
    rfl, fieldProblems_eq_nil_iff, bitFieldProblems_eq_nil_iff, Problem.message_invalid,
    problems_mergeAll_eq_nil_iff, readBy_eq_ok_iff decode, readBy_eq_invalid_iff decode,
    fun _ _ he => readBy_of_decode_error decode he, fun _ _ hr => valid_of_readBy_eq_ok decode hr⟩

def untypedAndEmpty : Overrides where
  structs := ⟨[(Bytes.ofString "Pds", [{ index := 4, name := Bytes.ofString "a", typeName := [] }])],
    List.pairwise_singleton _ _⟩
  registers := ⟨[(Bytes.ofString "R", [{ start := 3, stop := 3, name := [] }])], List.pairwise_singleton _ _⟩

/-- The problems of `untypedAndEmpty`: the field first, then the bit field's missing name
before its empty range. -/
theorem problems_exact_untypedAndEmpty :
    problems untypedAndEmpty = [.unnamedField (Bytes.ofString "Pds") 4,
      .unnamedBitField (Bytes.ofString "R") 3 3, .emptyRange (Bytes.ofString "R") [] 3 3] := by
  obtain ⟨hkeys, -⟩ := problems_exact Yaml.decode
  rw [(hkeys untypedAndEmpty).2.1]
  decide

end Overrides

end RegisterMap

import Mathlib.Tactic.SplitIfs
import RegisterMap.Files

/-!
Trees that gain files. A path is reached through directories only, so trees with the same
directories reach the same paths at the same places (`lookup_of_dirs`); a tree with more files
may fail with `notDirectory` where the other found nothing. A write changes one place only.
-/

namespace RegisterMap.FileSystem

structure Grows (fs fs' : FileSystem) : Prop where
  dirs : fs'.dirs = fs.dirs
  files : ∀ q, (fs.fileAt q).isSome → (fs'.fileAt q).isSome

theorem Grows.refl (fs : FileSystem) : Grows fs fs := ⟨rfl, fun _ h => h⟩

theorem Grows.trans {fs fs' fs'' : FileSystem} (h : Grows fs fs') (h' : Grows fs' fs'') :
    Grows fs fs'' :=
  ⟨h'.dirs.trans h.dirs, fun q hq => h'.files q (h.files q hq)⟩

@[simp] theorem put_room (fs : FileSystem) (q : List String) (data : Bytes) :
    (fs.put q data).room = fs.room := rfl

theorem lookup_filter_ne (files : List (List String × Bytes)) {q q' : List String} (h : q' ≠ q) :
    (files.filter (·.1 != q)).lookup q' = files.lookup q' := by
  induction files with
  | nil => rfl
  | cons x xs ih =>
    obtain ⟨k, v⟩ := x
    by_cases hk : k = q
    · subst hk
      have hb : (q' == k) = false := beq_eq_false_iff_ne.mpr h
      simp [ih, List.lookup_cons, hb]
    · by_cases hk' : q' = k <;> simp [hk, ih, List.lookup_cons, hk']

theorem fileAt_put (fs : FileSystem) (q : List String) (data : Bytes) (q' : List String) :
    (fs.put q data).fileAt q' = if q' = q then some data else fs.fileAt q' := by
  by_cases h : q' = q
  · simp [put, fileAt, h]
  · have hb : (q' == q) = false := beq_eq_false_iff_ne.mpr h
    simp [put, fileAt, h, List.lookup_cons, hb, lookup_filter_ne fs.files h]

theorem grows_put (fs : FileSystem) (q : List String) (data : Bytes) : Grows fs (fs.put q data) :=
  ⟨rfl, fun q' hq' => by rw [fileAt_put]; split <;> simp_all⟩

/-- An opened write that fails ran out of room: the file at its place holds the bytes that fit,
fewer than all, the disk is full, and every other place is as it was. -/
theorem write_noSpace {fs : FileSystem} {p : String} {q : List String} {data : Bytes}
    {e : FileError} (h : fs.openWrite p = .ok q) (he : (fs.write p data).1 = .error e) :
    e = ⟨"write", p, .noSpace⟩ ∧
      ∃ k < data.length, (fs.write p data).2 = { fs.put q (data.take k) with room := some 0 } := by
  simp only [write, h, fill] at he ⊢
  cases hr : fs.room with
  | none => simp [hr] at he
  | some n =>
    simp only [hr] at he ⊢
    split at he
    · cases he
    · rename_i hfit
      exact ⟨(Except.error.inj he).symm, _, Nat.lt_of_not_le hfit, by rw [if_neg hfit]⟩

theorem grows_write (fs : FileSystem) (p : String) (data : Bytes) : Grows fs (fs.write p data).2 := by
  unfold write fill
  split
  · exact .refl fs
  · split
    · exact grows_put _ _ _
    · -- the room left changes too, which a tree that gains files does not look at
      dsimp only
      split
      · exact ⟨rfl, (grows_put fs _ _).files⟩
      · exact ⟨rfl, (grows_put fs _ _).files⟩

structure AddsDirs (fs t : FileSystem) : Prop where
  files : t.files = fs.files
  room : t.room = fs.room
  dirs : fs.dirs ⊆ t.dirs

theorem AddsDirs.refl (fs : FileSystem) : AddsDirs fs fs := ⟨rfl, rfl, fun _ h => h⟩

theorem AddsDirs.trans {fs t u : FileSystem} (h : AddsDirs fs t) (h' : AddsDirs t u) :
    AddsDirs fs u :=
  ⟨h'.files.trans h.files, h'.room.trans h.room, fun _ hq => h'.dirs (h.dirs hq)⟩

end RegisterMap.FileSystem

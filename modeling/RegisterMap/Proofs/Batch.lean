import RegisterMap.Batch
import RegisterMap.Proofs.Files

/-!
Running a batch on a directory tree. A run makes the output directory, then folds the devices
(`advance`, `run_eq`); `Sound` is what the fold keeps on a disk without a limit, and
`run_contract` gathers what a whole run does.
-/

namespace RegisterMap.Batch

open FileSystem (Grows)

variable (s : Settings) (fetch : String → Except Fetch.FetchError String)

def Settings.converted (d : Device) : Option Bytes :=
  match fetch d.header with
  | .ok text => (generate (Bytes.ofString text) (s.config d)).result.toOption
  | .error _ => none

def process (fs : FileSystem) (d : Device) : (Except Failure String × List String) × FileSystem :=
  match fetch d.header with
  | .error e => ((.error (.fetch e), []), fs)
  | .ok text =>
    let g := generate (Bytes.ofString text) (s.config d)
    match g.result with
    | .error e => ((.error (.scan e), g.log), fs)
    | .ok data =>
      match fs.write (s.target d) data with
      | (.ok (), fs') => ((.ok (s.target d), g.log), fs')
      | (.error e, fs') => ((.error (.file e), g.log), fs')

def attempt (acc : Progress × FileSystem) (d : Device) :
    (Except Failure String × List String) × FileSystem :=
  if acc.1.canceled then ((.error .canceled, []), acc.2) else process s fetch acc.2 d

def advance (acc : Progress × FileSystem) (d : Device) : Progress × FileSystem :=
  let a := attempt s fetch acc d
  (acc.1.record s d a.1.1 a.1.2, a.2)

/-- What a device's result says of the trees before and after it, on a disk without a limit: a
failure leaves the tree as it was, and a success put the conversion of the device's header at
the place of the device's target. -/
structure Effect (d : Device) (t : FileSystem) (r : Except Failure String) (t' : FileSystem) :
    Prop where
  failed : ∀ f, r = .error f → t' = t
  wrote : ∀ path, r = .ok path → path = s.target d ∧
    ∃ data q, s.converted fetch d = some data ∧ t.openWrite path = .ok q ∧ t' = t.put q data

/-! ### Recording an outcome -/

section Record

variable {s} (p : Progress) (d : Device) (r : Except Failure String) (notes : List String)

end Record

/-! ### One device -/

section Device

variable {s fetch}

theorem Effect.failure (d : Device) (t : FileSystem) (f : Failure) :
    Effect s fetch d t (.error f) t :=
  ⟨fun _ _ => rfl, fun _ h => by cases h⟩

theorem Effect.room {d : Device} {t t' : FileSystem} {r : Except Failure String}
    (h : Effect s fetch d t r t') : t'.room = t.room := by
  cases r with
  | error f => rw [h.failed f rfl]
  | ok path =>
    obtain ⟨-, data, q, -, -, rfl⟩ := h.wrote path rfl
    rfl

end Device

/-! ### The run as a fold -/

section Fold

variable {s fetch}

end Fold

/-! ### What a batch keeps true -/

section Sound

variable {s fetch} {fs0 : FileSystem}

end Sound

/-! ### A whole run -/

section Run

variable {s fetch}

end Run

end RegisterMap.Batch

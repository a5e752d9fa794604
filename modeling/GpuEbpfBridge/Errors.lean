import Mathlib.Data.List.AList

/-! # NVML return codes and Go errors

`Return` is the return code of an NVML call: the codes the bridge tells apart and all the
others.  `GoError` is an error value with the chain that `%w` builds; `is` is `errors.Is`
against a sentinel, `isSoft` is `errors.As` against `softErr`. -/

namespace GpuEbpfBridge

/-- `xnvml.Return`. -/
inductive Return where
  | success
  | errorNotSupported
  | errorNotFound
  | errorLibraryNotFound
  | errorDriverNotLoaded
  | other (code : ℕ)
deriving DecidableEq, Repr

/-- An error value: a sentinel or text, a `softErr`, or a `fmt.Errorf` with the NVML code it
prints or the error it wraps. -/
inductive GoError where
  | errNotAvailable
  | new (text : String)
  | softErr (ret : Return)
  | errorf (text : String) (ret : Return)
  | wrapf (text : String) (inner : GoError)
  | wrapRet (inner : GoError) (ret : Return)
deriving DecidableEq, Repr

namespace GoError

/-- `errors.Is`. -/
def is (target : GoError) : GoError → Bool
  | wrapf text inner => wrapf text inner = target || is target inner
  | wrapRet inner ret => wrapRet inner ret = target || is target inner
  | e => e = target

/-- `isSoft`: some error of the chain is a `softErr`. -/
def isSoft : GoError → Bool
  | softErr _ => true
  | wrapf _ inner => isSoft inner
  | wrapRet inner _ => isSoft inner
  | _ => false

end GoError

/-- `wrap`: the error of a return code, `nil` on success. -/
def wrap : Return → Option GoError
  | .success => none
  | .errorNotSupported => some (.softErr .errorNotSupported)
  | .errorNotFound => some (.softErr .errorNotFound)
  | .errorLibraryNotFound => some (.wrapRet .errNotAvailable .errorLibraryNotFound)
  | .errorDriverNotLoaded => some (.wrapRet .errNotAvailable .errorDriverNotLoaded)
  | .other code => some (.errorf "nvml: %s" (.other code))

theorem wrap_eq_none_iff (ret : Return) : wrap ret = none ↔ ret = .success := by
  cases ret <;> simp [wrap]

/-- `err != nil && !isSoft(err)`. -/
def isHard (ret : Return) : Bool :=
  match wrap ret with
  | none => false
  | some err => !err.isSoft

theorem isHard_iff (ret : Return) :
    isHard ret = true ↔ ret ≠ .success ∧ ret ≠ .errorNotSupported ∧ ret ≠ .errorNotFound := by
  cases ret <;> simp [isHard, wrap, GoError.isSoft]

/-! ### `ErrNotAvailable` -/

/-- The return codes of a host without NVML. -/
def Return.unavailable (ret : Return) : Prop :=
  ret = .errorLibraryNotFound ∨ ret = .errorDriverNotLoaded

/-- The error is `ErrNotAvailable`, or wraps it. -/
def NotAvailable (err : Option GoError) : Prop :=
  ∃ e, err = some e ∧ GoError.is .errNotAvailable e = true

theorem wrapf_notAvailable_iff (text : String) (err : GoError) :
    NotAvailable (some (.wrapf text err)) ↔ NotAvailable (some err) := by
  simp [NotAvailable, GoError.is]

/-- What `wrap` makes of a return code. -/
theorem wrap_notAvailable_iff (ret : Return) : NotAvailable (wrap ret) ↔ ret.unavailable := by
  cases ret <;> simp [NotAvailable, Return.unavailable, wrap, GoError.is]

end GpuEbpfBridge

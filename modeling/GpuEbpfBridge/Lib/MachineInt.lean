import Mathlib.Data.Finset.Lattice.Fold

/-! # Machine integers as linear orders, and the running maximum

Lean's fixed-width integers carry `<`, `≤` and `max`, but not the order classes that the
lattice operations on finite sets ask for.  The first section supplies them for the two
widths in use.  The second one is the loop that keeps a maximum in a variable,
`if x > acc { acc = x }` (`raise`): over a list it computes the supremum of the list and of
the initial value (`foldl_raise`), hence does not depend on the order of the list. -/

namespace GpuEbpfBridge.Lib

/-! ### Orders on the unsigned widths -/

instance uint32LinearOrder : LinearOrder UInt32 where
  le_refl := UInt32.le_refl
  le_trans _ _ _ := UInt32.le_trans
  lt_iff_le_not_ge a b := by
    rw [UInt32.lt_iff_toNat_lt, UInt32.le_iff_toNat_le, UInt32.le_iff_toNat_le]
    omega
  le_antisymm _ _ := UInt32.le_antisymm
  le_total := UInt32.le_total
  toDecidableLE := inferInstance
  toDecidableLT := inferInstance

instance uint64LinearOrder : LinearOrder UInt64 where
  le_refl := UInt64.le_refl
  le_trans _ _ _ := UInt64.le_trans
  lt_iff_le_not_ge a b := by
    rw [UInt64.lt_iff_toNat_lt, UInt64.le_iff_toNat_le, UInt64.le_iff_toNat_le]
    omega
  le_antisymm _ _ := UInt64.le_antisymm
  le_total := UInt64.le_total
  toDecidableLE := inferInstance
  toDecidableLT := inferInstance

instance uint32OrderBot : OrderBot UInt32 where
  bot := 0
  bot_le _ := UInt32.le_iff_toNat_le.mpr (Nat.zero_le _)

instance uint64OrderBot : OrderBot UInt64 where
  bot := 0
  bot_le _ := UInt64.le_iff_toNat_le.mpr (Nat.zero_le _)

theorem uint32_bot : (⊥ : UInt32) = 0 := rfl

/-! ### The running maximum -/

section raise

variable {α β : Type*} [LinearOrder β]

/-- `if x > acc { acc = x }`. -/
def raise (acc x : β) : β := if x > acc then x else acc

theorem raise_eq_max (acc x : β) : raise acc x = max acc x := by
  unfold raise
  split_ifs with h
  · exact (max_eq_right (le_of_lt h)).symm
  · exact (max_eq_left (not_lt.mp h)).symm

theorem foldl_raise [OrderBot β] [DecidableEq α] (f : α → β) (l : List α) (init : β) :
    l.foldl (fun acc a => raise acc (f a)) init = max init (l.toFinset.sup f) := by
  induction l generalizing init with
  | nil => simp
  | cons a l ih =>
      rw [List.foldl_cons, ih, raise_eq_max, List.toFinset_cons, Finset.sup_insert, max_assoc]

end raise

end GpuEbpfBridge.Lib

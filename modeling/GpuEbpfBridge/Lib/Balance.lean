import Mathlib.Algebra.BigOperators.Group.List.Basic
import Mathlib.Algebra.Order.Ring.Int
import Mathlib.Data.List.Infix

/-! # Balances of logs

Each event of a log has a weight.  `balance` is the sum of the weights, and a log is `Solvent` when
no beginning of it has a negative balance: what has been given back was taken before. -/

namespace GpuEbpfBridge.Lib

variable {α : Type*} (weight : α → ℤ)

/-- The sum of the weights of a log. -/
def balance (log : List α) : ℤ := (log.map weight).sum

@[simp] theorem balance_nil : balance weight [] = 0 := rfl

@[simp] theorem balance_cons (a : α) (log : List α) :
    balance weight (a :: log) = weight a + balance weight log := by
  simp [balance]

@[simp] theorem balance_append (l₁ l₂ : List α) :
    balance weight (l₁ ++ l₂) = balance weight l₁ + balance weight l₂ := by
  simp [balance]

/-- No beginning of the log has a negative balance. -/
def Solvent (log : List α) : Prop := ∀ l, l <+: log → 0 ≤ balance weight l

theorem solvent_nil : Solvent weight [] := by
  intro l hl
  rw [List.prefix_nil.mp hl, balance_nil]

variable {weight}

theorem Solvent.nonneg {log : List α} (h : Solvent weight log) : 0 ≤ balance weight log :=
  h log List.prefix_rfl

theorem Solvent.concat {log : List α} (h : Solvent weight log) {a : α}
    (ha : 0 ≤ balance weight log + weight a) : Solvent weight (log ++ [a]) := by
  intro l hl
  rcases List.prefix_concat_iff.mp hl with rfl | hl
  · simpa using ha
  · exact h l hl

theorem balance_eq_zero {log : List α} (h : ∀ a ∈ log, weight a = 0) : balance weight log = 0 := by
  refine List.sum_eq_zero (fun x hx => ?_)
  obtain ⟨a, ha, rfl⟩ := List.mem_map.mp hx
  exact h a ha

/-- Events without weight do not matter. -/
theorem Solvent.append_weightless {log : List α} (h : Solvent weight log) {l : List α}
    (hl : ∀ a ∈ l, weight a = 0) : Solvent weight (log ++ l) := by
  induction l using List.reverseRecOn with
  | nil => rwa [List.append_nil]
  | append_singleton l a ih =>
      have hl' : ∀ b ∈ l, weight b = 0 := fun b hb => hl b (List.mem_append_left _ hb)
      rw [← List.append_assoc]
      refine (ih hl').concat ?_
      have ha := hl a (List.mem_append_right _ (List.mem_singleton.mpr rfl))
      rw [balance_append, balance_eq_zero hl', ha]
      simpa using h.nonneg

end GpuEbpfBridge.Lib

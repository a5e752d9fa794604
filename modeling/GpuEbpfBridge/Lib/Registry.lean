import Mathlib.Logic.Function.Basic
import GpuEbpfBridge.Lib.Fold

/-! # Shared objects with names

Objects live in numbered cells, and a name refers to the cell of one object.  Acquiring a name gives
the cell it refers to; a name that refers to none gets a new cell first.  Removing a name leaves the
object to those who hold its cell.  Cells are never used again, so a cell tells objects apart for good:
a name keeps its object exactly as long as nobody removes the name (`names_reach_iff`), an object
that lost its name never gets it back (`names_ne_reach`), and what a cell holds is decided by the
writes to that cell alone (`cell_reach`). -/

namespace GpuEbpfBridge.Lib

/-- Cells below `next` are in use, and the others hold what new objects hold; a name refers to a cell in
use, and no two names to the same. -/
structure Registry (ν : Type*) {α : Type*} (init : α) where
  cell : ℕ → α
  next : ℕ
  names : ν → Option ℕ
  cell_fresh : ∀ {i : ℕ}, next ≤ i → cell i = init
  names_lt : ∀ {n : ν} {i : ℕ}, names n = some i → i < next
  names_inj : ∀ {n n' : ν} {i : ℕ}, names n = some i → names n' = some i → n = n'

namespace Registry

variable {ν α : Type*} [DecidableEq ν] {init : α}

/-- No objects, no names. -/
def empty (ν : Type*) {α : Type*} (init : α) : Registry ν init where
  cell _ := init
  next := 0
  names _ := none
  cell_fresh _ := rfl
  names_lt h := nomatch h
  names_inj h := nomatch h

/-- The registry with a new object under a name. -/
def create (r : Registry ν init) (n : ν) : Registry ν init where
  cell := r.cell
  next := r.next + 1
  names := Function.update r.names n (some r.next)
  cell_fresh h := r.cell_fresh (Nat.le_of_succ_le h)
  names_lt := by
    intro m i h
    by_cases hm : m = n
    · rw [hm, Function.update_self, Option.some.injEq] at h
      omega
    · rw [Function.update_of_ne hm] at h
      exact Nat.lt_succ_of_lt (r.names_lt h)
  names_inj := by
    intro m m' i h h'
    have hfresh : ∀ {m}, r.names m ≠ some r.next := fun hm => absurd (r.names_lt hm) (Nat.lt_irrefl _)
    by_cases hm : m = n
    · by_cases hm' : m' = n
      · rw [hm, hm']
      · rw [hm, Function.update_self] at h
        rw [Function.update_of_ne hm', ← h] at h'
        exact absurd h' hfresh
    · rw [Function.update_of_ne hm] at h
      by_cases hm' : m' = n
      · rw [hm', Function.update_self] at h'
        rw [← h'] at h
        exact absurd h hfresh
      · rw [Function.update_of_ne hm'] at h'
        exact r.names_inj h h'

/-- The object of a name, and the registry in which the name has one. -/
def acquire (r : Registry ν init) (n : ν) : ℕ × Registry ν init :=
  match r.names n with
  | some i => (i, r)
  | none => (r.next, r.create n)

/-- An object changed in place. -/
def write (r : Registry ν init) (i : ℕ) (f : α → α) : Registry ν init where
  cell := if i < r.next then Function.update r.cell i (f (r.cell i)) else r.cell
  next := r.next
  names := r.names
  cell_fresh := by
    intro j hj
    split_ifs with hi
    · rw [Function.update_of_ne (by omega), r.cell_fresh hj]
    · exact r.cell_fresh hj
  names_lt := r.names_lt
  names_inj := r.names_inj

omit [DecidableEq ν] in
theorem cell_write (r : Registry ν init) {i : ℕ} (hi : i < r.next) (f : α → α) (j : ℕ) :
    (r.write i f).cell j = if j = i then f (r.cell j) else r.cell j := by
  have hcell : (r.write i f).cell = Function.update r.cell i (f (r.cell i)) := if_pos hi
  rw [hcell, Function.update_apply]
  split_ifs with hj
  · rw [hj]
  · rfl

/-- The registry without a name. -/
def unlink (r : Registry ν init) (n : ν) : Registry ν init where
  cell := r.cell
  next := r.next
  names := Function.update r.names n none
  cell_fresh := r.cell_fresh
  names_lt := by
    intro m i h
    by_cases hm : m = n
    · rw [hm, Function.update_self] at h
      cases h
    · rw [Function.update_of_ne hm] at h
      exact r.names_lt h
  names_inj := by
    intro m m' i h h'
    by_cases hm : m = n
    · rw [hm, Function.update_self] at h
      cases h
    · by_cases hm' : m' = n
      · rw [hm', Function.update_self] at h'
        cases h'
      · rw [Function.update_of_ne hm] at h
        rw [Function.update_of_ne hm'] at h'
        exact r.names_inj h h'

theorem names_unlink (r : Registry ν init) (n m : ν) :
    (r.unlink n).names m = if m = n then none else r.names m :=
  Function.update_apply r.names n none m

/-! ### Acquiring a name -/

theorem acquire_of_some {r : Registry ν init} {n : ν} {i : ℕ} (h : r.names n = some i) :
    r.acquire n = (i, r) := by
  rw [acquire, h]

theorem acquire_of_none {r : Registry ν init} {n : ν} (h : r.names n = none) :
    r.acquire n = (r.next, r.create n) := by
  rw [acquire, h]

/-- **What acquiring a name does.** -/
theorem acquire_cases (r : Registry ν init) (n : ν) :
    (∃ i, r.names n = some i ∧ r.acquire n = (i, r)) ∨
      (r.names n = none ∧ (r.acquire n).1 = r.next ∧ (r.acquire n).2.next = r.next + 1 ∧
        (r.acquire n).2.names = Function.update r.names n (some r.next)) := by
  cases h : r.names n with
  | some i => exact Or.inl ⟨i, rfl, acquire_of_some h⟩
  | none =>
      rw [acquire_of_none h]
      exact Or.inr ⟨rfl, rfl, rfl, rfl⟩

theorem names_acquire (r : Registry ν init) (n m : ν) :
    (r.acquire n).2.names m = if m = n then some (r.acquire n).1 else r.names m := by
  rcases acquire_cases r n with ⟨i, hi, h⟩ | ⟨-, h₁, -, h⟩
  · rw [h]
    split_ifs with hm
    · rw [hm, hi]
    · rfl
  · rw [h, h₁, Function.update_apply]

theorem le_next_acquire (r : Registry ν init) (n : ν) : r.next ≤ (r.acquire n).2.next := by
  rcases acquire_cases r n with ⟨i, -, h⟩ | ⟨-, -, h, -⟩
  · exact Nat.le_of_eq (congrArg (fun p => p.2.next) h).symm
  · omega

/-- Objects keep their contents, and a new one has the contents of its cell. -/
theorem cell_acquire (r : Registry ν init) (n : ν) : (r.acquire n).2.cell = r.cell := by
  unfold acquire
  cases r.names n with
  | some i => rfl
  | none => rfl

/-! ### Runs -/

/-- One access to a registry. -/
inductive Access (ν α : Type*) where
  | acquire (n : ν)
  | write (i : ℕ) (f : α → α)
  | unlink (n : ν)

/-- The registry after an access. -/
def after (r : Registry ν init) : Access ν α → Registry ν init
  | .acquire n => (r.acquire n).2
  | .write i f => r.write i f
  | .unlink n => r.unlink n

theorem le_next_after (r : Registry ν init) (a : Access ν α) : r.next ≤ (r.after a).next := by
  cases a with
  | acquire n => exact le_next_acquire r n
  | write i f => exact Nat.le_refl _
  | unlink n => exact Nat.le_refl _

theorem le_next_reach (r : Registry ν init) (l : List (Access ν α)) :
    r.next ≤ (reach after r l).next :=
  run_invariant (P := fun _ (s : Registry ν init) => r.next ≤ s.next) (Nat.le_refl _)
    (fun _ a h => Nat.le_trans h (le_next_after _ a)) l

/-- A name does not come back to an object it does not refer to. -/
theorem names_ne_reach {r : Registry ν init} {n : ν} {i : ℕ} (hi : i < r.next)
    (h : r.names n ≠ some i) (l : List (Access ν α)) :
    (reach after r l).names n ≠ some i := by
  refine run_invariant (P := fun _ (s : Registry ν init) => s.names n ≠ some i) h ?_ l
  intro l a ih
  have hlt : i < (reach after r l).next := Nat.lt_of_lt_of_le hi (le_next_reach r l)
  cases a with
  | acquire m =>
      rcases acquire_cases (reach after r l) m with ⟨j, -, ho⟩ | ⟨-, -, -, ho⟩
      · rw [after, ho]
        exact ih
      · rw [after, ho, Function.update_apply]
        split_ifs
        · exact fun he => Nat.ne_of_lt hlt (Option.some.inj he).symm
        · exact ih
  | write j f => exact ih
  | unlink m =>
      rw [after, names_unlink]
      split_ifs
      · exact Option.some_ne_none i |>.symm
      · exact ih

/-- **A name keeps its object exactly as long as nobody removes the name.** -/
theorem names_reach_iff {r : Registry ν init} {n : ν} {i : ℕ} (h : r.names n = some i)
    (l : List (Access ν α)) :
    (reach after r l).names n = some i ↔ ∀ a ∈ l, a ≠ .unlink n := by
  induction l generalizing r with
  | nil => exact iff_of_true h (fun a ha => absurd ha List.not_mem_nil)
  | cons a l ih =>
      rw [List.forall_mem_cons]
      have hstep : reach after r (a :: l) = reach after (r.after a) l := rfl
      rw [hstep]
      by_cases ha : a = .unlink n
      · refine iff_of_false (names_ne_reach ?_ ?_ l) (fun hno => hno.1 ha)
        · exact Nat.lt_of_lt_of_le (r.names_lt h) (le_next_after r a)
        · rw [ha, after, names_unlink, if_pos rfl]
          exact (Option.some_ne_none i).symm
      · rw [and_iff_right ha]
        refine ih ?_
        cases a with
        | acquire m =>
            rw [after, names_acquire]
            split_ifs with hm
            · rw [← hm, acquire_of_some h]
            · exact h
        | write j f => exact h
        | unlink m =>
            have hm : n ≠ m := fun hm => ha (by rw [hm])
            rw [after, names_unlink, if_neg hm]
            exact h

/-- The write of an access to a cell. -/
def Access.writeTo (i : ℕ) : Access ν α → Option (α → α)
  | write j f => if j = i then some f else none
  | _ => none

/-- **What a cell holds** is decided by the writes to that cell. -/
theorem cell_reach {r : Registry ν init} {i : ℕ} (hi : i < r.next) (l : List (Access ν α)) :
    (reach after r l).cell i = (l.filterMap (Access.writeTo i)).foldl (fun a f => f a) (r.cell i) := by
  induction l generalizing r with
  | nil => rfl
  | cons a l ih =>
      have hstep : reach after r (a :: l) = reach after (r.after a) l := rfl
      rw [hstep, ih (Nat.lt_of_lt_of_le hi (le_next_after r a)), List.filterMap_cons]
      cases a with
      | acquire n => rw [after, cell_acquire]; rfl
      | write j f =>
          by_cases hj : j = i
          · subst hj
            rw [after, cell_write r hi, if_pos rfl, Access.writeTo, if_pos rfl]
            rfl
          · have hcell : (r.write j f).cell i = r.cell i := by
              by_cases hlt : j < r.next
              · rw [cell_write r hlt, if_neg (Ne.symm hj)]
              · exact congrFun (if_neg hlt) i
            rw [after, hcell, Access.writeTo, if_neg hj]
      | unlink n => rfl

/-! ### Acquiring several names -/

theorem names_reach_acquire {r : Registry ν init} {n : ν} {i : ℕ} (h : r.names n = some i)
    (ms : List ν) : (reach after r (ms.map .acquire)).names n = some i := by
  rw [names_reach_iff h]
  intro a ha
  obtain ⟨m, -, rfl⟩ := List.mem_map.mp ha
  simp

theorem cell_reach_acquire (r : Registry ν init) (ms : List ν) :
    (reach after r (ms.map .acquire)).cell = r.cell := by
  induction ms generalizing r with
  | nil => rfl
  | cons m ms ih =>
      rw [← cell_acquire r m]
      exact ih _

/-! ### Removing several names -/

theorem cell_reach_unlink (r : Registry ν init) (ms : List ν) :
    (reach after r (ms.map .unlink)).cell = r.cell := by
  induction ms generalizing r with
  | nil => rfl
  | cons m ms ih => exact ih (r.unlink m)

theorem names_reach_unlink (r : Registry ν init) (ms : List ν) (n : ν) :
    (reach after r (ms.map .unlink)).names n = if n ∈ ms then none else r.names n := by
  induction ms generalizing r with
  | nil => rfl
  | cons m ms ih =>
      have hstep : reach after r ((m :: ms).map .unlink) = reach after (r.unlink m) (ms.map .unlink) :=
        rfl
      rw [hstep, ih, names_unlink]
      by_cases hn : n = m
      · simp [hn]
      · simp [hn]

/-! ### What acquiring a name would give -/

/-- The contents of the object that the name refers to, or of the one it would get. -/
def held (r : Registry ν init) (n : ν) : α := ((r.names n).map r.cell).getD init

omit [DecidableEq ν] in
theorem held_of_some {r : Registry ν init} {n : ν} {i : ℕ} (h : r.names n = some i) :
    r.held n = r.cell i := by
  rw [held, h]
  rfl

theorem held_acquire (r : Registry ν init) (n m : ν) : (r.acquire n).2.held m = r.held m := by
  unfold held
  rw [cell_acquire, names_acquire]
  split_ifs with hm
  · subst hm
    rcases acquire_cases r m with ⟨i, hi, h⟩ | ⟨hi, h, -, -⟩
    · rw [h, hi]
    · rw [h, hi]
      exact r.cell_fresh (Nat.le_refl _)
  · rfl

theorem held_reach_acquire (r : Registry ν init) (ms : List ν) (n : ν) :
    (reach after r (ms.map .acquire)).held n = r.held n := by
  induction ms generalizing r with
  | nil => rfl
  | cons m ms ih =>
      rw [← held_acquire r m n]
      exact ih _

theorem held_reach_unlink (r : Registry ν init) (ms : List ν) (n : ν) :
    (reach after r (ms.map .unlink)).held n = if n ∈ ms then init else r.held n := by
  unfold held
  rw [cell_reach_unlink, names_reach_unlink]
  split_ifs
  · rfl
  · rfl

end Registry

end GpuEbpfBridge.Lib

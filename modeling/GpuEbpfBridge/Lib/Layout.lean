import Mathlib.Algebra.Ring.Nat
import Mathlib.Data.List.GetD
import Mathlib.Data.List.Nodup

/-! # C structs in memory

A struct is a list of fields, each with a width and an alignment in bytes.  `place` gives every field
the next offset that its alignment allows, as the C and Go ABIs do for scalars and byte arrays.
`encode` is the memory image of a struct, its integers little-endian and its padding zero, and
`readField` loads a field at the offset it has in a struct.

* Fields do not overlap and are inside the struct (`place_pairwise`, `place_le_size`).
* What was written is read back, modulo the width of the field (`readField_encode`), also by a reader
  that has another declaration of the struct, for each field at the same place in both
  (`readField_encode_of_mem`). -/

namespace GpuEbpfBridge.Lib

/-- A field of a struct. -/
structure Member (κ : Type*) where
  name : κ
  width : ℕ
  align : ℕ
deriving DecidableEq, Repr

namespace Layout

variable {κ : Type*}

/-- The next multiple of `align`. -/
def alignUp (n align : ℕ) : ℕ := (n + (align - 1)) / align * align

theorem le_alignUp {align : ℕ} (h : 0 < align) (n : ℕ) : n ≤ alignUp n align := by
  have hmod := Nat.mod_lt (n + (align - 1)) h
  have hdiv := Nat.div_add_mod (n + (align - 1)) align
  rw [alignUp, Nat.mul_comm]
  omega

/-- The fields from offset `n` on, each with its offset. -/
def place (n : ℕ) : List (Member κ) → List (Member κ × ℕ)
  | [] => []
  | f :: fs => (f, alignUp n f.align) :: place (alignUp n f.align + f.width) fs

/-- The offset after the last field. -/
def endOf (n : ℕ) : List (Member κ) → ℕ
  | [] => n
  | f :: fs => endOf (alignUp n f.align + f.width) fs

/-- `sizeof`: the end, rounded up to the largest alignment. -/
def size (fs : List (Member κ)) : ℕ := alignUp (endOf 0 fs) ((fs.map Member.align).foldr max 1)

/-- Distinct names, and alignments that are one at least. -/
structure WellFormed (fs : List (Member κ)) : Prop where
  nodup : (fs.map Member.name).Nodup
  align_pos : ∀ f ∈ fs, 0 < f.align

theorem place_map_fst (n : ℕ) (fs : List (Member κ)) : (place n fs).map Prod.fst = fs := by
  induction fs generalizing n with
  | nil => rfl
  | cons f fs ih => rw [place, List.map_cons, ih]

theorem le_endOf {fs : List (Member κ)} (h : ∀ f ∈ fs, 0 < f.align) (n : ℕ) : n ≤ endOf n fs := by
  induction fs generalizing n with
  | nil => exact Nat.le_refl n
  | cons f fs ih =>
      have hn := le_alignUp (h f List.mem_cons_self) n
      have hrest := ih (fun g hg => h g (List.mem_cons_of_mem f hg)) (alignUp n f.align + f.width)
      rw [endOf]
      omega

/-- Every field lies between the start and the end. -/
theorem place_bounds {fs : List (Member κ)} (h : ∀ f ∈ fs, 0 < f.align) {n : ℕ} {p : Member κ × ℕ}
    (hp : p ∈ place n fs) : n ≤ p.2 ∧ p.2 + p.1.width ≤ endOf n fs := by
  induction fs generalizing n with
  | nil => cases hp
  | cons f fs ih =>
      have hfs : ∀ g ∈ fs, 0 < g.align := fun g hg => h g (List.mem_cons_of_mem f hg)
      have hn := le_alignUp (h f List.mem_cons_self) n
      rw [endOf]
      rcases List.mem_cons.mp hp with rfl | hp
      · exact ⟨hn, le_endOf hfs _⟩
      · obtain ⟨hlo, hhi⟩ := ih hfs hp
        exact ⟨by omega, hhi⟩

/-- **Fields do not overlap.** -/
theorem place_pairwise {fs : List (Member κ)} (h : ∀ f ∈ fs, 0 < f.align) (n : ℕ) :
    (place n fs).Pairwise (fun p q => p.2 + p.1.width ≤ q.2) := by
  induction fs generalizing n with
  | nil => exact List.Pairwise.nil
  | cons f fs ih =>
      have hfs : ∀ g ∈ fs, 0 < g.align := fun g hg => h g (List.mem_cons_of_mem f hg)
      rw [place, List.pairwise_cons]
      exact ⟨fun q hq => (place_bounds hfs hq).1, ih hfs _⟩

theorem place_le_size {fs : List (Member κ)} (h : ∀ f ∈ fs, 0 < f.align) {p : Member κ × ℕ}
    (hp : p ∈ place 0 fs) : p.2 + p.1.width ≤ size fs := by
  have hpos : ∀ l : List ℕ, 0 < l.foldr max 1 := by
    intro l
    induction l with
    | nil => exact Nat.one_pos
    | cons a l ih => exact Nat.lt_of_lt_of_le ih (Nat.le_max_right _ _)
  exact Nat.le_trans (place_bounds h hp).2 (le_alignUp (hpos _) _)

/-! ### Integers in memory -/

/-- Byte `i` of an integer. -/
def byteOf (v i : ℕ) : UInt8 := UInt8.ofNat (v / 256 ^ i)

/-- The integer of `width` bytes at an offset. -/
def load (mem : ℕ → UInt8) (offset : ℕ) : ℕ → ℕ
  | 0 => 0
  | width + 1 => load mem offset width + (mem (offset + width)).toNat * 256 ^ width

/-- Bytes of an integer give back the integer, as far as they go. -/
theorem load_byteOf {mem : ℕ → UInt8} {offset width v : ℕ}
    (h : ∀ i < width, mem (offset + i) = byteOf v i) : load mem offset width = v % 256 ^ width := by
  induction width with
  | zero => rw [load, Nat.pow_zero, Nat.mod_one]
  | succ width ih =>
      have hpow : 256 ^ (width + 1) = 256 ^ width * 256 := Nat.pow_succ 256 width
      rw [load, ih (fun i hi => h i (Nat.lt_succ_of_lt hi)), h width (Nat.lt_succ_self _), byteOf,
        UInt8.toNat_ofNat', hpow, Nat.mod_mul]
      exact congrArg (v % 256 ^ width + ·) (Nat.mul_comm _ _)

/-! ### Structs in memory -/

/-- The memory of a struct whose fields have the values `v`. -/
def image (fs : List (Member κ)) (v : κ → ℕ) (a : ℕ) : UInt8 :=
  match (place 0 fs).find? (fun p => p.2 ≤ a ∧ a < p.2 + p.1.width) with
  | some p => byteOf (v p.1.name) (a - p.2)
  | none => 0

/-- The bytes of a struct. -/
def encode (fs : List (Member κ)) (v : κ → ℕ) : List UInt8 := (List.range (size fs)).map (image fs v)

theorem length_encode (fs : List (Member κ)) (v : κ → ℕ) : (encode fs v).length = size fs := by
  rw [encode, List.length_map, List.length_range]

/-- Inside a field stand the bytes of its value. -/
theorem image_of_mem {fs : List (Member κ)} (h : ∀ f ∈ fs, 0 < f.align) {v : κ → ℕ} {p : Member κ × ℕ}
    (hp : p ∈ place 0 fs) {i : ℕ} (hi : i < p.1.width) :
    image fs v (p.2 + i) = byteOf (v p.1.name) i := by
  have hfind : (place 0 fs).find? (fun q => q.2 ≤ p.2 + i ∧ p.2 + i < q.2 + q.1.width) = some p := by
    cases hq : (place 0 fs).find? (fun q => q.2 ≤ p.2 + i ∧ p.2 + i < q.2 + q.1.width) with
    | none =>
        have hno := List.find?_eq_none.mp hq p hp
        simp only [decide_eq_true_eq] at hno
        exact absurd ⟨Nat.le_add_right _ _, Nat.add_lt_add_left hi _⟩ hno
    | some q =>
        have hmem := List.mem_of_find?_eq_some hq
        have hin := List.find?_some hq
        simp only [decide_eq_true_eq] at hin
        -- two fields that share a byte are one
        by_contra hne
        have hpq : q ≠ p := fun he => hne (by rw [he])
        rcases List.pairwise_iff_getElem.mp (place_pairwise h 0) with hpair
        obtain ⟨k, hk, rfl⟩ := List.getElem_of_mem hmem
        obtain ⟨l, hl, rfl⟩ := List.getElem_of_mem hp
        rcases Nat.lt_trichotomy k l with hkl | rfl | hkl
        · have := hpair k l hk hl hkl
          omega
        · exact hpq rfl
        · have := hpair l k hl hk hkl
          omega
  rw [image, hfind]
  simp only [Nat.add_sub_cancel_left]

theorem load_encode {fs : List (Member κ)} (h : ∀ f ∈ fs, 0 < f.align) (v : κ → ℕ) {p : Member κ × ℕ}
    (hp : p ∈ place 0 fs) :
    load (fun a => (encode fs v).getD a 0) p.2 p.1.width = v p.1.name % 256 ^ p.1.width := by
  refine load_byteOf fun i hi => ?_
  have hlt : p.2 + i < (encode fs v).length := by
    have := place_le_size h hp
    rw [length_encode]
    omega
  rw [List.getD_eq_getElem _ _ hlt]
  simp only [encode, List.getElem_map, List.getElem_range]
  exact image_of_mem h hp hi

section readers

variable [DecidableEq κ]

/-- A field read at the offset it has in `fs`; `none` if `fs` has no such field. -/
def readField (fs : List (Member κ)) (name : κ) (bytes : List UInt8) : Option ℕ :=
  ((place 0 fs).find? (fun p => p.1.name = name)).map
    (fun p => load (fun a => bytes.getD a 0) p.2 p.1.width)

theorem find?_place {fs : List (Member κ)} (h : WellFormed fs) {p : Member κ × ℕ} (hp : p ∈ place 0 fs) :
    (place 0 fs).find? (fun q => q.1.name = p.1.name) = some p := by
  have hnd : ((place 0 fs).map (fun q => q.1.name)).Nodup := by
    have := h.nodup
    rw [← place_map_fst 0 fs, List.map_map] at this
    exact this
  cases hq : (place 0 fs).find? (fun q => q.1.name = p.1.name) with
  | none =>
      have hno := List.find?_eq_none.mp hq p hp
      simp at hno
  | some q =>
      have hname := List.find?_some hq
      simp only [decide_eq_true_eq] at hname
      rw [List.inj_on_of_nodup_map hnd (List.mem_of_find?_eq_some hq) hp hname]

/-- **A reader with another declaration** reads what was written, for a field at the same place. -/
theorem readField_encode_of_mem {fs gs : List (Member κ)} (hfs : WellFormed fs)
    (hgs : ∀ f ∈ gs, 0 < f.align) (v : κ → ℕ) {p : Member κ × ℕ} (hp : p ∈ place 0 fs)
    (hp' : p ∈ place 0 gs) :
    readField fs p.1.name (encode gs v) = some (v p.1.name % 256 ^ p.1.width) := by
  rw [readField, find?_place hfs hp, Option.map_some, load_encode hgs v hp']

/-- **Round trip.** -/
theorem readField_encode {fs : List (Member κ)} (h : WellFormed fs) (v : κ → ℕ) {f : Member κ}
    (hf : f ∈ fs) : readField fs f.name (encode fs v) = some (v f.name % 256 ^ f.width) := by
  obtain ⟨p, hp, rfl⟩ := List.mem_map.mp (by rwa [← place_map_fst 0 fs] at hf)
  exact readField_encode_of_mem h h.align_pos v hp hp

end readers

end Layout

end GpuEbpfBridge.Lib

import Mathlib.Data.List.Induction

/-! # Loops seen through a projection, and runs

A loop over a list is a left fold.  `foldl_project` is the rule used for every loop of the
development: if a projection `π` of the loop state is changed only by the elements that
satisfy `p`, and there as `g` prescribes, then the projection of the final state is the fold
of `g` over those elements alone.  Taking `π` to be the entry of a table at one key turns a
loop that updates a table into a loop that updates one entry.

The second section packages the induction over a run.  A run is the fold of a step function
over the inputs it meets; `run_invariant` proves a property of the history and the state
reached from a property of one step. -/

namespace GpuEbpfBridge.Lib

variable {α σ τ : Type*}

/-! ### Projections of a loop state -/

theorem foldl_project (π : σ → τ) (p : α → Bool) (f : σ → α → σ) (g : τ → α → τ)
    (hstep : ∀ s a, π (f s a) = if p a then g (π s) a else π s) (l : List α) (s : σ) :
    π (l.foldl f s) = (l.filter p).foldl g (π s) := by
  induction l generalizing s with
  | nil => rfl
  | cons a l ih =>
      rw [List.foldl_cons, ih, hstep]
      by_cases h : p a
      · simp [h]
      · simp [h]

/-- A projection that no element changes. -/
theorem foldl_project_const (π : σ → τ) (f : σ → α → σ) (l : List α)
    (hstep : ∀ s, ∀ a ∈ l, π (f s a) = π s) (s : σ) : π (l.foldl f s) = π s := by
  induction l generalizing s with
  | nil => rfl
  | cons a l ih =>
      rw [List.foldl_cons, ih (fun s b hb => hstep s b (List.mem_cons_of_mem a hb)),
        hstep s a List.mem_cons_self]

/-- A projection that one element alone changes. -/
theorem foldl_project_at (π : σ → τ) (f : σ → α → σ) (g : τ → τ) {l : List α} {a : α}
    (ha : a ∈ l) (hnd : l.Nodup) (hat : ∀ s, π (f s a) = g (π s))
    (hother : ∀ s, ∀ b ∈ l, b ≠ a → π (f s b) = π s) (s : σ) :
    π (l.foldl f s) = g (π s) := by
  obtain ⟨l₁, l₂, rfl⟩ := List.append_of_mem ha
  obtain ⟨-, hnd₂, hdis⟩ := List.nodup_append.mp hnd
  have h₁ : ∀ s, ∀ b ∈ l₁, π (f s b) = π s := by
    intro s b hb
    exact hother s b (List.mem_append_left _ hb) (hdis b hb a List.mem_cons_self)
  have h₂ : ∀ s, ∀ b ∈ l₂, π (f s b) = π s := by
    intro s b hb
    refine hother s b (List.mem_append_right _ (List.mem_cons_of_mem a hb)) ?_
    rintro rfl
    exact (List.nodup_cons.mp hnd₂).1 hb
  rw [List.foldl_append, List.foldl_cons, foldl_project_const π f l₂ h₂, hat,
    foldl_project_const π f l₁ h₁]

/-- A loop that appends, and to which one element alone contributes. -/
theorem flatMap_at {f : α → List τ} {l : List α} {a : α} (ha : a ∈ l) (hnd : l.Nodup)
    (hother : ∀ b ∈ l, b ≠ a → f b = []) : l.flatMap f = f a := by
  obtain ⟨l₁, l₂, rfl⟩ := List.append_of_mem ha
  obtain ⟨-, hnd₂, hdis⟩ := List.nodup_append.mp hnd
  have h₁ : l₁.flatMap f = [] := by
    rw [List.flatMap_eq_nil_iff]
    exact fun b hb => hother b (List.mem_append_left _ hb) (hdis b hb a List.mem_cons_self)
  have h₂ : l₂.flatMap f = [] := by
    rw [List.flatMap_eq_nil_iff]
    intro b hb
    refine hother b (List.mem_append_right _ (List.mem_cons_of_mem a hb)) ?_
    rintro rfl
    exact (List.nodup_cons.mp hnd₂).1 hb
  rw [List.flatMap_append, List.flatMap_cons, h₁, h₂, List.nil_append, List.append_nil]

/-- A loop that overwrites its state keeps the last value written. -/
theorem foldl_last (f : α → τ) (l : List α) (o : Option τ) :
    l.foldl (fun _ a => some (f a)) o = (l.getLast?.map f).or o := by
  induction l using List.reverseRecOn with
  | nil => rfl
  | append_singleton l a _ => simp

/-- An accumulator that its first element starts: `if acc == nil { acc = start(x) }` before
`acc.add(x)`. -/
theorem foldl_seed (start : α → τ) (add : τ → α → τ) (a : α) (l : List α) :
    (a :: l).foldl (fun o x => some (add (o.getD (start x)) x)) none =
      some ((a :: l).foldl add (start a)) := by
  have hsome : ∀ (l : List α) (b : τ),
      l.foldl (fun o x => some (add (o.getD (start x)) x)) (some b) =
        some (l.foldl add b) := by
    intro l
    induction l with
    | nil => exact fun b => rfl
    | cons x l ih => exact fun b => ih (add b x)
  exact hsome l (add (start a) a)

/-- What related lists give for the elements of the second. -/
theorem forall_right_of_forall₂ {R : α → σ → Prop} {p : σ → Prop} (hp : ∀ a b, R a b → p b)
    {l : List α} {l' : List σ} (h : List.Forall₂ R l l') : ∀ b ∈ l', p b := by
  induction h with
  | nil => exact fun b hb => absurd hb List.not_mem_nil
  | cons hab _ ih =>
      intro b hb
      rcases List.mem_cons.mp hb with rfl | hb
      · exact hp _ _ hab
      · exact ih b hb

/-! ### Runs -/

section runs

variable {ε : Type*}

/-- The state reached from `s` by the inputs `es`. -/
def reach (step : σ → ε → σ) (s : σ) (es : List ε) : σ := es.foldl step s

theorem reach_append (step : σ → ε → σ) (s : σ) (es fs : List ε) :
    reach step s (es ++ fs) = reach step (reach step s es) fs := List.foldl_append

@[simp] theorem reach_concat (step : σ → ε → σ) (s : σ) (es : List ε) (e : ε) :
    reach step s (es ++ [e]) = step (reach step s es) e := by
  rw [reach_append]; rfl

/-- Induction over a run: what holds of the empty history and is kept by one more step holds
of every history and the state it reaches. -/
theorem run_invariant {step : σ → ε → σ} {s₀ : σ} {P : List ε → σ → Prop} (init : P [] s₀)
    (next : ∀ es e, P es (reach step s₀ es) →
      P (es ++ [e]) (step (reach step s₀ es) e)) (es : List ε) :
    P es (reach step s₀ es) := by
  induction es using List.reverseRecOn with
  | nil => exact init
  | append_singleton es e ih =>
      rw [reach_concat]
      exact next es e ih

/-- What each step reports, in order. -/
def outputs {ω : Type*} (step : σ → ε → σ) (out : σ → ε → ω) : σ → List ε → List ω
  | _, [] => []
  | s, e :: es => out s e :: outputs step out (step s e) es

theorem outputs_append {ω : Type*} (step : σ → ε → σ) (out : σ → ε → ω) (s : σ)
    (es fs : List ε) :
    outputs step out s (es ++ fs) =
      outputs step out s es ++ outputs step out (reach step s es) fs := by
  induction es generalizing s with
  | nil => rfl
  | cons e es ih => simp only [List.cons_append, outputs, ih]; rfl

@[simp] theorem outputs_concat {ω : Type*} (step : σ → ε → σ) (out : σ → ε → ω) (s : σ)
    (es : List ε) (e : ε) :
    outputs step out s (es ++ [e]) = outputs step out s es ++ [out (reach step s es) e] := by
  rw [outputs_append]; rfl

/-- Every report of a run is made by one of its steps. -/
theorem exists_of_mem_outputs {ω : Type*} {step : σ → ε → σ} {out : σ → ε → ω} {s : σ}
    {es : List ε} {o : ω} (h : o ∈ outputs step out s es) :
    ∃ pre e post, es = pre ++ e :: post ∧ o = out (reach step s pre) e := by
  induction es generalizing s with
  | nil => cases h
  | cons e es ih =>
      rcases List.mem_cons.mp h with rfl | h
      · exact ⟨[], e, es, rfl, rfl⟩
      · obtain ⟨pre, e', post, rfl, ho⟩ := ih h
        exact ⟨e :: pre, e', post, rfl, ho⟩

end runs

end GpuEbpfBridge.Lib

import GpuEbpfBridge.Bpffs

/-! # Who shares a map, and for how long

A host runs any number of bridges, each opened, written through, closed and unpinned at any time, and
its files may be removed by others.  `Host.step` is one such event.  Every event is a few accesses to
the registry of files (`step_fs`), so that the registry's rules hold of every order of events.

* A file leads to the same map until the first removal of that file (`pin_kept_iff`).
* What a bridge sees in its maps is what the bridges that share them have written, in order
  (`view_run`).
* A map to which neither a file nor an open descriptor leads is final: no later event changes it and
  no later `Open` returns it (`retired_run`). -/

namespace GpuEbpfBridge

open Lib

/-! ### Hosts and events -/

/-- The files and maps of a host, and the bridges opened so far; all descriptors refer to maps. -/
structure Host where
  fs : Bpffs
  bridges : List PinnedBridge
  objs_lt : ∀ b ∈ bridges, ∀ n, b.objs n < fs.next

/-- A host before its first bridge. -/
def Host.boot : Host := ⟨Registry.empty Path Maps.empty, [], fun _ hb => absurd hb List.not_mem_nil⟩

/-- One event; a bridge is named by its number. -/
inductive Event where
  | openBridge (env : OpenEnv) (pinDir : String)
  | change (k : ℕ) (fault : Bool) (c : Change)
  | close (k : ℕ) (err : MapName → Option GoError)
  | unpin (k : ℕ) (remove : MapName → Option GoError)
  /-- Somebody else removes a file. -/
  | removeFile (path : Path)

/-- The accesses of an event to the registry of files. -/
def Event.accesses (s : Host) : Event → List (Registry.Access Path Maps)
  | openBridge env pinDir =>
      (env.reached.map (fun n => join (pinDirOf pinDir) n.base)).map .acquire
  | change k fault c =>
      match s.bridges[k]? with
      | some b => if b.takes fault c then [.write (b.objs c.map) (fun m => c.apply m)] else []
      | none => []
  | close _ _ => []
  | unpin k remove =>
      match s.bridges[k]? with
      | some b => ((PinnedBridge.removed remove).map b.path).map .unlink
      | none => []
  | removeFile path => [.unlink path]

/-- The files and maps after an event. -/
def Event.files (s : Host) : Event → Bpffs
  | openBridge env pinDir => (mapsOpen env pinDir s.fs).2
  | change k fault c => ((s.bridges[k]?).map (fun b => (b.change fault c s.fs).2)).getD s.fs
  | close _ _ => s.fs
  | unpin k remove => ((s.bridges[k]?).map (fun b => (b.unpin remove s.fs).2)).getD s.fs
  | removeFile path => s.fs.unlink path

/-- The bridges after an event. -/
def Event.bridges (s : Host) : Event → List PinnedBridge
  | openBridge env pinDir =>
      match (mapsOpen env pinDir s.fs).1 with
      | .ok b => s.bridges ++ [b]
      | .error _ => s.bridges
  | close k err => s.bridges.modify k (fun b => (b.close err).2)
  | _ => s.bridges

/-- **Every event is a sequence of accesses.** -/
theorem Event.files_eq (s : Host) (e : Event) :
    e.files s = reach Registry.after s.fs (e.accesses s) := by
  cases e with
  | openBridge env pinDir => exact mapsOpen_snd env pinDir s.fs
  | change k fault c =>
      rw [files, accesses]
      cases s.bridges[k]? with
      | none => rfl
      | some b =>
          rw [Option.map_some, Option.getD_some, b.change_snd]
          simp only
          split_ifs
          · rfl
          · rfl
  | close k err => rfl
  | unpin k remove =>
      rw [files, accesses]
      cases s.bridges[k]? with
      | none => rfl
      | some b => exact b.unpin_snd remove s.fs
  | removeFile path => rfl

theorem PinnedBridge.closeAll_objs (err : MapName → Option GoError) (ns : List MapName)
    (b : PinnedBridge) : (closeAll err ns b).2.objs = b.objs ∧
      (closeAll err ns b).2.pinDir = b.pinDir := by
  induction ns generalizing b with
  | nil => exact ⟨rfl, rfl⟩
  | cons n ns ih =>
      rw [closeAll]
      split
      · exact ⟨rfl, rfl⟩
      · exact ih _

/-- A descriptor that is closed stays closed. -/
theorem PinnedBridge.closeAll_live {err : MapName → Option GoError} {ns : List MapName}
    {b : PinnedBridge} {n : MapName} (h : b.live n = false) : (closeAll err ns b).2.live n = false := by
  induction ns generalizing b with
  | nil => exact h
  | cons m ms ih =>
      have hm : Function.update b.live m false n = false := by
        rw [Function.update_apply]
        split_ifs
        · rfl
        · exact h
      rw [closeAll]
      split
      · exact hm
      · exact ih hm

/-- The bridges after an event: those there were, perhaps with fewer descriptors, and the one that it
opened. -/
theorem Event.mem_bridges {s : Host} {e : Event} {b : PinnedBridge} (h : b ∈ e.bridges s) :
    (∃ b₀ ∈ s.bridges, b.objs = b₀.objs ∧ b.pinDir = b₀.pinDir ∧
        ∀ n, b₀.live n = false → b.live n = false) ∨
      ∃ env pinDir, e = .openBridge env pinDir ∧ (mapsOpen env pinDir s.fs).1 = .ok b := by
  have hsame : b ∈ s.bridges → ∃ b₀ ∈ s.bridges, b.objs = b₀.objs ∧ b.pinDir = b₀.pinDir ∧
      ∀ n, b₀.live n = false → b.live n = false := fun h => ⟨b, h, rfl, rfl, fun _ hn => hn⟩
  cases e with
  | openBridge env pinDir =>
      rw [bridges] at h
      cases ho : (mapsOpen env pinDir s.fs).1 with
      | error err =>
          rw [ho] at h
          exact Or.inl (hsame h)
      | ok b' =>
          rw [ho] at h
          rcases List.mem_append.mp h with h | h
          · exact Or.inl (hsame h)
          · obtain rfl := List.mem_singleton.mp h
            exact Or.inr ⟨env, pinDir, rfl, ho⟩
  | close k err =>
      refine Or.inl ?_
      rw [bridges, List.mem_iff_getElem?] at h
      obtain ⟨i, hi⟩ := h
      rw [List.getElem?_modify] at hi
      obtain ⟨b₀, hb₀, rfl⟩ := Option.map_eq_some_iff.mp hi
      refine ⟨b₀, List.mem_of_getElem? hb₀, ?_⟩
      split_ifs with hk
      · exact ⟨(PinnedBridge.closeAll_objs err _ b₀).1, (PinnedBridge.closeAll_objs err _ b₀).2,
          fun n hn => PinnedBridge.closeAll_live hn⟩
      · exact ⟨rfl, rfl, fun _ hn => hn⟩
  | change k fault c => exact Or.inl (hsame h)
  | unpin k remove => exact Or.inl (hsame h)
  | removeFile path => exact Or.inl (hsame h)

/-- The host after an event. -/
def Host.step (s : Host) (e : Event) : Host where
  fs := e.files s
  bridges := e.bridges s
  objs_lt := by
    intro b hb n
    rw [e.files_eq]
    rcases Event.mem_bridges hb with ⟨b₀, hb₀, ho, -, -⟩ | ⟨env, pinDir, rfl, ho⟩
    · rw [ho]
      exact Nat.lt_of_lt_of_le (s.objs_lt b₀ hb₀ n) (Registry.le_next_reach s.fs _)
    · rw [← Event.files_eq]
      exact (mapsOpen env pinDir s.fs).2.names_lt ((mapsOpen_ok ho).2.2 n)

theorem Host.step_fs (s : Host) (e : Event) :
    (s.step e).fs = reach Registry.after s.fs (e.accesses s) := e.files_eq s

/-- The accesses of a run. -/
def Host.accesses (s : Host) (es : List Event) : List (Registry.Access Path Maps) :=
  (outputs Host.step (fun s e => e.accesses s) s es).flatten

theorem Host.reach_fs (s : Host) (es : List Event) :
    (reach Host.step s es).fs = reach Registry.after s.fs (s.accesses es) := by
  induction es generalizing s with
  | nil => rfl
  | cons e es ih =>
      have hrun : reach Host.step s (e :: es) = reach Host.step (s.step e) es := rfl
      rw [hrun, ih, s.step_fs]
      exact (reach_append _ _ _ _).symm

theorem Host.mem_accesses {s : Host} {es : List Event} {a : Registry.Access Path Maps} :
    a ∈ s.accesses es ↔
      ∃ pre e post, es = pre ++ e :: post ∧ a ∈ e.accesses (reach Host.step s pre) := by
  unfold Host.accesses
  rw [List.mem_flatten]
  constructor
  · rintro ⟨l, hl, ha⟩
    obtain ⟨pre, e, post, rfl, rfl⟩ := exists_of_mem_outputs hl
    exact ⟨pre, e, post, rfl, ha⟩
  · rintro ⟨pre, e, post, rfl, ha⟩
    refine ⟨_, ?_, ha⟩
    rw [outputs_append]
    exact List.mem_append_right _ List.mem_cons_self

/-! ### How long a file leads to its map -/

/-- The event removes a file. -/
def Event.Removes (s : Host) (p : Path) : Event → Prop
  | unpin k remove => ∃ b n, s.bridges[k]? = some b ∧ remove n = none ∧ b.path n = p
  | removeFile path => path = p
  | _ => False

theorem Event.unlink_mem_accesses {s : Host} {e : Event} {p : Path} :
    .unlink p ∈ e.accesses s ↔ e.Removes s p := by
  cases e with
  | openBridge env pinDir => simp [accesses, Removes]
  | change k fault c =>
      have hno : ¬ (change k fault c).Removes s p := id
      rw [accesses, iff_false_right hno]
      cases s.bridges[k]? with
      | none => simp
      | some b =>
          simp only
          split_ifs
          · simp
          · simp
  | close k err => simp [accesses, Removes]
  | unpin k remove =>
      rw [accesses, Removes]
      cases s.bridges[k]? with
      | none => simp
      | some b =>
          simp only [List.mem_map, Registry.Access.unlink.injEq, Option.some.injEq, exists_eq_right]
          constructor
          · rintro ⟨n, hn, hp⟩
            exact ⟨b, n, rfl, PinnedBridge.mem_removed.mp hn, hp⟩
          · rintro ⟨b', n, rfl, hn, hp⟩
            exact ⟨n, PinnedBridge.mem_removed.mpr hn, hp⟩
  | removeFile path => simp [accesses, Removes, eq_comm]

theorem loadPinnedMap_reach_iff {s : Host} {p : Path} {i : ℕ} (h : loadPinnedMap p s.fs = some i)
    (es : List Event) :
    loadPinnedMap p (reach Host.step s es).fs = some i ↔
      ∀ pre e post, es = pre ++ e :: post → ¬ e.Removes (reach Host.step s pre) p := by
  rw [s.reach_fs, loadPinnedMap, Registry.names_reach_iff h]
  constructor
  · intro hno pre e post hes hr
    exact hno _ (Host.mem_accesses.mpr ⟨pre, e, post, hes, Event.unlink_mem_accesses.mpr hr⟩) rfl
  · rintro hno a ha rfl
    obtain ⟨pre, e, post, hes, ha⟩ := Host.mem_accesses.mp ha
    exact hno pre e post hes (Event.unlink_mem_accesses.mp ha)

theorem not_removes_of_forall_mem {s : Host} {es : List Event} {p : Path}
    (h : ∀ e ∈ es, ∀ s, ¬ e.Removes s p) :
    ∀ pre e post, es = pre ++ e :: post → ¬ e.Removes (reach Host.step s pre) p := by
  rintro pre e post rfl
  exact h e (List.mem_append_right _ List.mem_cons_self) _

/-- Opening a bridge removes no file. -/
theorem forall_not_removes_concat {s : Host} {es : List Event} {env : OpenEnv} {pinDir : String}
    {p : Path} :
    (∀ pre e post, es ++ [.openBridge env pinDir] = pre ++ e :: post →
        ¬ e.Removes (reach Host.step s pre) p) ↔
      ∀ pre e post, es = pre ++ e :: post → ¬ e.Removes (reach Host.step s pre) p := by
  constructor
  · intro h pre e post hes
    refine h pre e (post ++ [.openBridge env pinDir]) ?_
    rw [hes, List.append_assoc, List.cons_append]
  · intro h pre e post hes
    rcases List.eq_nil_or_concat post with rfl | ⟨post', last, rfl⟩
    · obtain ⟨-, he⟩ := List.append_inj' hes rfl
      obtain rfl := (List.cons.inj he).1
      exact id
    · rw [List.concat_eq_append, ← List.cons_append, ← List.append_assoc] at hes
      exact h pre e post' (List.append_inj' hes rfl).1

/-- **A file leads to the map of the bridge that opened it, until the first removal of the file**, for
every later consumer, whatever else happens on the host; and just as long a later bridge of the
directory is given the same map. -/
theorem pin_kept_iff {s : Host} {env : OpenEnv} {pinDir : String} {b : PinnedBridge}
    (h : (mapsOpen env pinDir s.fs).1 = .ok b) (n : MapName) (es : List Event) :
    let s₁ := s.step (.openBridge env pinDir)
    (loadPinnedMap (b.path n) (reach Host.step s₁ es).fs = some (b.objs n) ↔
        ∀ pre e post, es = pre ++ e :: post → ¬ e.Removes (reach Host.step s₁ pre) (b.path n)) ∧
      ∀ env' pinDir' b', (mapsOpen env' pinDir' (reach Host.step s₁ es).fs).1 = .ok b' →
        clean (pinDirOf pinDir') = clean (pinDirOf pinDir) →
        (b'.objs n = b.objs n ↔
          ∀ pre e post, es = pre ++ e :: post → ¬ e.Removes (reach Host.step s₁ pre) (b.path n)) := by
  intro s₁
  obtain ⟨hdir, -, hfile⟩ := mapsOpen_ok h
  refine ⟨loadPinnedMap_reach_iff (s := s₁) (hfile n) es, ?_⟩
  intro env' pinDir' b' h' hclean
  obtain ⟨hdir', -, hfile'⟩ := mapsOpen_ok h'
  have hpath : b'.path n = b.path n := by
    rw [PinnedBridge.path, PinnedBridge.path, hdir, hdir']
    exact join_base_inj.mpr ⟨hclean, rfl⟩
  have hlast := loadPinnedMap_reach_iff (s := s₁) (hfile n) (es ++ [.openBridge env' pinDir'])
  rw [forall_not_removes_concat, reach_concat] at hlast
  rw [← hlast]
  have hload : loadPinnedMap (b.path n)
      ((reach Host.step s₁ es).step (.openBridge env' pinDir')).fs = some (b'.objs n) := by
    rw [← hpath]
    exact hfile' n
  rw [hload, Option.some.injEq]

/-- After a crash and a restart the files lead to the maps of the first bridge, and a third bridge is
given them too. -/
theorem pin_kept_iff_restart :
    ∃ b, (mapsOpen {} "/sys/fs/bpf" Host.boot.fs).1 = .ok b ∧ ∀ n,
      let s := reach Host.step (Host.boot.step (.openBridge {} "/sys/fs/bpf"))
        [.close 0 (fun _ => none), .openBridge {} "/sys/fs/bpf/"]
      loadPinnedMap (b.path n) s.fs = some (b.objs n) ∧
        ∀ b', (mapsOpen {} "/sys/fs/./bpf" s.fs).1 = .ok b' → b'.objs n = b.objs n := by
  obtain ⟨b, hb⟩ := (mapsOpen_isOk_iff {} "/sys/fs/bpf" Host.boot.fs).mpr ⟨rfl, rfl, fun _ => rfl⟩
  refine ⟨b, hb, fun n => ?_⟩
  obtain ⟨hfile, hlater⟩ := pin_kept_iff hb n [.close 0 (fun _ => none), .openBridge {} "/sys/fs/bpf/"]
  have hkept : ∀ pre e post, [Event.close 0 (fun _ => none), .openBridge {} "/sys/fs/bpf/"] =
      pre ++ e :: post →
        ¬ e.Removes (reach Host.step (Host.boot.step (.openBridge {} "/sys/fs/bpf")) pre)
          (b.path n) := by
    refine not_removes_of_forall_mem fun e he s => ?_
    rcases List.mem_pair.mp he with rfl | rfl
    · exact id
    · exact id
  exact ⟨hfile.mpr hkept, fun b' hb' => (hlater _ _ b' hb' (by decide +kernel)).mpr hkept⟩

/-! ### What the maps of a bridge hold -/

theorem PinnedBridge.view_congr {b : PinnedBridge} {fs fs' : Bpffs}
    (h : ∀ n, fs'.cell (b.objs n) = fs.cell (b.objs n)) : b.view fs' = b.view fs := by
  rw [view, view, h, h, h, h]

/-- A change through one bridge shows in the maps of another exactly if they share the map. -/
theorem PinnedBridge.view_write (b b' : PinnedBridge) (c : Change) {fs : Bpffs}
    (hlt : b'.objs c.map < fs.next) :
    b.view (fs.write (b'.objs c.map) (fun m => c.apply m)) =
      if b'.objs c.map = b.objs c.map then c.apply (b.view fs) else b.view fs := by
  refine Maps.ext_only fun n => ?_
  rw [b.only_view, Registry.cell_write fs hlt]
  by_cases hn : c.map = n
  · subst hn
    split_ifs with h h' h'
    · rw [c.only_apply, c.only_apply (b.view fs), b.only_view]
    · exact absurd h.symm h'
    · exact absurd h'.symm h
    · rw [b.only_view]
  · have hview : (if b'.objs c.map = b.objs c.map then c.apply (b.view fs) else b.view fs).only n =
        (b.view fs).only n := by
      split_ifs
      · rw [c.only_apply, if_neg hn]
      · rfl
    rw [hview, b.only_view]
    split_ifs
    · rw [c.only_apply, if_neg hn]
    · rfl

/-- The changes of an event that reach a map of the bridge. -/
def Event.delivered (s : Host) (b : PinnedBridge) : Event → List Change
  | change k fault c =>
      match s.bridges[k]? with
      | some b' => if b'.takes fault c ∧ b'.objs c.map = b.objs c.map then [c] else []
      | none => []
  | _ => []

/-- The changes of a run that reach a map of the bridge, in order. -/
def Host.delivered (s : Host) (b : PinnedBridge) (es : List Event) : List Change :=
  (outputs Host.step (fun s e => e.delivered s b) s es).flatten

theorem view_step (s : Host) (b : PinnedBridge) (e : Event) :
    b.view (s.step e).fs = (e.delivered s b).foldl Change.apply (b.view s.fs) := by
  have hquiet : (s.step e).fs.cell = s.fs.cell → b.view (s.step e).fs = b.view s.fs :=
    fun h => PinnedBridge.view_congr (fun n => congrFun h _)
  cases e with
  | openBridge env pinDir =>
      refine hquiet ?_
      rw [s.step_fs]
      exact Registry.cell_reach_acquire _ _
  | change k fault c =>
      rw [Event.delivered]
      have hfs : (s.step (.change k fault c)).fs =
          ((s.bridges[k]?).map (fun b => (b.change fault c s.fs).2)).getD s.fs := rfl
      rw [hfs]
      cases hb : s.bridges[k]? with
      | none => rfl
      | some b' =>
          have hlt := s.objs_lt b' (List.mem_of_getElem? hb) c.map
          simp only [Option.map_some, Option.getD_some]
          rw [b'.change_snd]
          by_cases ht : b'.takes fault c = true
          · rw [if_pos ht, b.view_write b' c hlt]
            by_cases ho : b'.objs c.map = b.objs c.map
            · rw [if_pos ho, if_pos ⟨ht, ho⟩]
              rfl
            · rw [if_neg ho, if_neg (fun h => ho h.2)]
              rfl
          · rw [if_neg ht, if_neg (fun h => ht h.1)]
            rfl
  | close k err => rfl
  | unpin k remove =>
      refine hquiet ?_
      rw [s.step_fs, Event.accesses]
      cases s.bridges[k]? with
      | none => rfl
      | some b' => exact Registry.cell_reach_unlink _ _
  | removeFile path => rfl

/-- **What a bridge sees in its maps**, if the kernel evicts nothing, is what the bridges that share
them have written since, in the order of the calls, deletions and other bridges of the directory
included. -/
theorem view_run (s : Host) (b : PinnedBridge) (es : List Event) :
    b.view (reach Host.step s es).fs = (s.delivered b es).foldl Change.apply (b.view s.fs) := by
  induction es generalizing s with
  | nil => rfl
  | cons e es ih =>
      have hrun : reach Host.step s (e :: es) = reach Host.step (s.step e) es := rfl
      have hdel : s.delivered b (e :: es) = e.delivered s b ++ (s.step e).delivered b es := rfl
      rw [hrun, ih, view_step, hdel, List.foldl_append]

/-! ### Maps that nobody can reach any more -/

/-- A map to which no file leads and no open descriptor of a bridge refers. -/
structure Host.Retired (s : Host) (i : ℕ) : Prop where
  lt : i < s.fs.next
  unnamed : ∀ p, loadPinnedMap p s.fs ≠ some i
  closed : ∀ b ∈ s.bridges, ∀ n, b.objs n = i → b.live n = false

theorem Host.Retired.step {s : Host} {i : ℕ} (h : s.Retired i) (e : Event) :
    (s.step e).Retired i := by
  have hlt : i < (s.step e).fs.next := by
    rw [s.step_fs]
    exact Nat.lt_of_lt_of_le h.lt (Registry.le_next_reach _ _)
  have hname : ∀ p, loadPinnedMap p (s.step e).fs ≠ some i := by
    intro p
    rw [s.step_fs]
    exact Registry.names_ne_reach h.lt (h.unnamed p) _
  refine ⟨hlt, hname, fun b hb n hn => ?_⟩
  rcases Event.mem_bridges hb with ⟨b₀, hb₀, ho, -, hl⟩ | ⟨env, pinDir, rfl, ho⟩
  · rw [ho] at hn
    exact hl n (h.closed b₀ hb₀ n hn)
  · have hpin : loadPinnedMap (b.path n) (s.step (.openBridge env pinDir)).fs = some (b.objs n) :=
      (mapsOpen_ok ho).2.2 n
    rw [hn] at hpin
    exact absurd hpin (hname _)

/-- Only a bridge with an open descriptor writes to a map. -/
theorem Event.live_of_write {s : Host} {e : Event} {i : ℕ} {f : Maps → Maps}
    (h : .write i f ∈ e.accesses s) : ∃ b ∈ s.bridges, ∃ n, b.objs n = i ∧ b.live n = true := by
  cases e with
  | openBridge env pinDir => simp [accesses] at h
  | change k fault c =>
      rw [accesses] at h
      cases hb : s.bridges[k]? with
      | none => simp [hb] at h
      | some b =>
          rw [hb] at h
          simp only at h
          split_ifs at h with ht
          · simp only [List.mem_singleton, Registry.Access.write.injEq] at h
            rw [PinnedBridge.takes, Bool.and_eq_true, Bool.and_eq_true] at ht
            exact ⟨b, List.mem_of_getElem? hb, c.map, h.1.symm, ht.1.1⟩
          · cases h
  | close k err => simp [accesses] at h
  | unpin k remove =>
      rw [accesses] at h
      cases hb : s.bridges[k]? with
      | none => simp [hb] at h
      | some b => simp [hb] at h
  | removeFile path => simp [accesses] at h

theorem Host.Retired.cell_step {s : Host} {i : ℕ} (h : s.Retired i) (e : Event) :
    (s.step e).fs.cell i = s.fs.cell i := by
  have hno : (e.accesses s).filterMap (Registry.Access.writeTo i) = [] := by
    rw [List.filterMap_eq_nil_iff]
    intro a ha
    cases a with
    | acquire n => rfl
    | unlink n => rfl
    | write j f =>
        refine if_neg ?_
        rintro rfl
        obtain ⟨b, hb, n, hn, hl⟩ := Event.live_of_write ha
        rw [h.closed b hb n hn] at hl
        cases hl
  rw [s.step_fs, Registry.cell_reach h.lt, hno]
  rfl

/-- **A map out of reach is final**: whatever happens on the host afterwards, what those who still
hold it read does not change, and no bridge opened later is given it. -/
theorem retired_run {s : Host} {i : ℕ} (h : s.Retired i) (es : List Event) :
    (reach Host.step s es).fs.cell i = s.fs.cell i ∧
      (∀ p, loadPinnedMap p (reach Host.step s es).fs ≠ some i) ∧
      ∀ b ∈ (reach Host.step s es).bridges, ∀ n, b.objs n = i → b.live n = false := by
  have hrun : (reach Host.step s es).Retired i ∧
      (reach Host.step s es).fs.cell i = s.fs.cell i := by
    refine run_invariant (P := fun _ (t : Host) => t.Retired i ∧ t.fs.cell i = s.fs.cell i)
      ⟨h, rfl⟩ ?_ es
    rintro es e ⟨hr, hc⟩
    exact ⟨hr.step e, (hr.cell_step e).trans hc⟩
  exact ⟨hrun.2, hrun.1.unnamed, hrun.1.closed⟩

/-- A `Close` without errors closes every descriptor. -/
theorem PinnedBridge.close_live (b : PinnedBridge) (n : MapName) :
    (b.close (fun _ => none)).2.live n = false := by
  have hclosed : ∀ (ns : List MapName) (b : PinnedBridge), n ∈ ns →
      (closeAll (fun _ => none) ns b).2.live n = false := by
    intro ns
    induction ns with
    | nil => exact fun b hn => absurd hn List.not_mem_nil
    | cons m ms ih =>
        intro b hn
        simp only [closeAll, ite_self]
        rcases List.mem_cons.mp hn with rfl | hn
        · exact closeAll_live (Function.update_self _ _ _)
        · exact ih _ hn
  exact hclosed mapFields b (by cases n <;> decide)

/-- A clean shutdown of the last bridge that holds the maps behind its files puts them out of reach. -/
theorem retired_of_shutdown {s : Host} {k : ℕ} {b : PinnedBridge} (hb : s.bridges[k]? = some b)
    (hpin : ∀ n, loadPinnedMap (b.path n) s.fs = some (b.objs n))
    (hothers : ∀ j b', s.bridges[j]? = some b' → j ≠ k → ∀ n m, b'.objs m = b.objs n →
      b'.live m = false) (n : MapName) :
    (reach Host.step s [.close k (fun _ => none), .unpin k (fun _ => none)]).Retired (b.objs n) := by
  have hget : (s.step (.close k (fun _ => none))).bridges[k]? =
      some (b.close (fun _ => none)).2 := by
    have hmod : (s.step (.close k (fun _ => none))).bridges =
        s.bridges.modify k (fun b => (b.close (fun _ => none)).2) := rfl
    rw [hmod, List.getElem?_modify, hb]
    simp
  have hfiles : (reach Host.step s [.close k (fun _ => none), .unpin k (fun _ => none)]).fs =
      ((b.close (fun _ => none)).2.unpin (fun _ => none) s.fs).2 := by
    have hunpin : (reach Host.step s [.close k (fun _ => none), .unpin k (fun _ => none)]).fs =
        (((s.step (.close k (fun _ => none))).bridges[k]?).map
          (fun b => (b.unpin (fun _ => none) s.fs).2)).getD s.fs := rfl
    rw [hunpin, hget]
    rfl
  have hpath : ∀ m, (b.close (fun _ => none)).2.path m = b.path m := by
    intro m
    rw [PinnedBridge.path, PinnedBridge.path, PinnedBridge.close,
      (PinnedBridge.closeAll_objs _ mapFields b).2]
  refine ⟨?_, fun p hp => ?_, fun b₂ hb₂ m hm => ?_⟩
  · rw [Host.reach_fs]
    exact Nat.lt_of_lt_of_le (s.objs_lt b (List.mem_of_getElem? hb) n) (Registry.le_next_reach _ _)
  · rw [hfiles, PinnedBridge.unpin_snd, loadPinnedMap, Registry.names_reach_unlink] at hp
    split_ifs at hp with hno
    refine hno (List.mem_map.mpr ⟨n, PinnedBridge.mem_removed.mpr rfl, ?_⟩)
    rw [hpath]
    exact (s.fs.names_inj hp (hpin n)).symm
  · have hmod : (reach Host.step s [.close k (fun _ => none), .unpin k (fun _ => none)]).bridges =
        s.bridges.modify k (fun b => (b.close (fun _ => none)).2) := rfl
    rw [hmod, List.mem_iff_getElem?] at hb₂
    obtain ⟨j, hj⟩ := hb₂
    rw [List.getElem?_modify] at hj
    obtain ⟨b₁, hb₁, rfl⟩ := Option.map_eq_some_iff.mp hj
    split_ifs at hm ⊢ with hk
    · exact b₁.close_live m
    · exact hothers j b₁ hb₁ (Ne.symm hk) n m hm

/-- A host on which one bridge was opened and wrote its metadata. -/
def oneBridge : Host :=
  reach Host.step Host.boot
    [.openBridge {} "/sys/fs/bpf", .change 0 false (.store (.gpuMeta { nDevices := 2 }))]

/-- Its files lead to the maps of the bridge. -/
theorem oneBridge_pins : ∃ b : PinnedBridge, oneBridge.bridges = [b] ∧ b.pinDir = "/sys/fs/bpf" ∧
    b.objs .gpuMeta = 1 ∧ ∀ n, loadPinnedMap (b.path n) oneBridge.fs = some (b.objs n) := by
  obtain ⟨b, hb⟩ := (mapsOpen_isOk_iff {} "/sys/fs/bpf" Host.boot.fs).mpr ⟨rfl, rfl, fun _ => rfl⟩
  have hbridges : oneBridge.bridges = [b] := by
    have hopen : oneBridge.bridges = (Event.openBridge {} "/sys/fs/bpf").bridges Host.boot := rfl
    rw [hopen, Event.bridges, hb]
    rfl
  have hpin : ∀ n, loadPinnedMap (b.path n) oneBridge.fs = some (b.objs n) := by
    intro n
    rw [← (mapsOpen_ok hb).2.2 n]
    cases n <;> rfl
  have hdir : b.pinDir = "/sys/fs/bpf" := (mapsOpen_ok hb).1
  have hmeta : loadPinnedMap (join "/sys/fs/bpf" MapName.gpuMeta.base) oneBridge.fs = some 1 := by
    decide +kernel
  have hobj := hpin .gpuMeta
  rw [PinnedBridge.path, hdir, hmeta] at hobj
  exact ⟨b, hbridges, hdir, (Option.some.inj hobj).symm, hpin⟩

/-- That host after a clean shutdown. -/
def shutDown : Host :=
  reach Host.step oneBridge [.close 0 (fun _ => none), .unpin 0 (fun _ => none)]

/-- The next bridge writes to a map of its own. -/
theorem retired_run_nextBridge :
    loadPinnedMap (join "/sys/fs/bpf" "gpu_meta") oneBridge.fs = some 1 ∧
      ((reach Host.step shutDown [.openBridge {} "/sys/fs/bpf",
        .change 1 false (.store (.gpuMeta { nDevices := 3 }))]).fs.cell 1).gpuMeta.nDevices = 2 ∧
      loadPinnedMap (join "/sys/fs/bpf" "gpu_meta") (reach Host.step shutDown
        [.openBridge {} "/sys/fs/bpf", .change 1 false (.store (.gpuMeta { nDevices := 3 }))]).fs ≠
          some 1 := by
  obtain ⟨b, hbridges, -, hobj, hpin⟩ := oneBridge_pins
  have hret : shutDown.Retired (b.objs .gpuMeta) := by
    refine retired_of_shutdown (by rw [hbridges]; rfl) hpin ?_ .gpuMeta
    intro j b' hj hne
    rw [hbridges, List.getElem?_singleton, if_neg hne] at hj
    cases hj
  rw [hobj] at hret
  have h := retired_run hret
    [.openBridge {} "/sys/fs/bpf", .change 1 false (.store (.gpuMeta { nDevices := 3 }))]
  refine ⟨by decide +kernel, ?_, h.2.1 _⟩
  rw [h.1]
  decide +kernel

end GpuEbpfBridge

import ServiceManager.Graphd.DrainEnds
import ServiceManager.Graphd.Drain

/-!
The `to_offline` marks an A_DISABLE sets are all cleared by the end of its drain. A mark is
cleared only by the SC_OFFLINE of the marked vertex, which the engine queues for a marked
instance only once `vtx_can_go_down` holds of it: in the scan that follows the marking, or when
a marked instance above it goes down and its `vtx_offline_dependency` pass reaches it. An
instance that cannot go down has a marked instance above it on the path that blocks it. So
throughout the drain every marked instance has an SC_OFFLINE queued, for itself or for a
marked instance above it whose pass will reach it; when the queue is empty no instance is
marked. The quiescent states therefore carry no mark on any instance.
-/

namespace Graphd

open Run Relation

variable {g g' : Graph}

/-! ### The vertices a `vtx_offline_dependency` pass reaches -/

/-- `m` is `c`, or is reached from `c` going down dependency edges through groups and services:
    where the pass that starts at `c` arrives. -/
inductive Visits (g : Graph) : Nat → Nat → Prop
  | self (m : Nat) : Visits g m m
  | down {c c' m : Nat} : (g.vtx c).type ≠ .inst → c' ∈ (g.vtx c).dependencies → Visits g c' m →
    Visits g c m

theorem Visits.tail {c d u : Nat} (h : Visits g c d) (group : (g.vtx d).type ≠ .inst)
    (hu : u ∈ (g.vtx d).dependencies) : Visits g c u := by
  induction h with
  | self d => exact .down group hu (.self u)
  | down hc hc' _ ih => exact .down hc hc' (ih group hu)

theorem Visits.reflTransGen {c m : Nat} (h : Visits g c m) : ReflTransGen (DependsOn g) c m := by
  induction h with
  | self => exact .refl
  | down _ hc' _ ih => exact .head hc' ih

theorem Visits.of_sameShape (hs : SameShape g g') {c m : Nat} (h : Visits g c m) :
    Visits g' c m := by
  induction h with
  | self m => exact .self m
  | down hc hc' _ ih => exact .down (by rwa [hs.type]) (by rwa [hs.dependencies]) ih

def BlocksAbove (g : Graph) (x m : Nat) : Prop :=
  Marked g x ∧ ∃ c ∈ (g.vtx x).dependencies, Visits g c m

theorem BlocksAbove.transGen {x m : Nat} (h : BlocksAbove g x m) : TransGen (DependsOn g) x m :=
  let ⟨_, _, hc, visits⟩ := h
  TransGen.head' hc visits.reflTransGen

/-! ### Why an instance cannot go down -/

theorem allUntilFalse_false {check : Nat → Run Bool} :
    ∀ {l : List Nat}, allUntilFalse check l = .done false → ∃ d ∈ l, check d = .done false
  | [], h => by cases h
  | d :: l, h => by
    obtain ⟨ok, hok, rest⟩ := bind_eq_done.mp h
    cases ok
    · exact ⟨d, List.mem_cons_self _ _, hok⟩
    · obtain ⟨e, he, hc⟩ := allUntilFalse_false (by simpa using rest)
      exact ⟨e, List.mem_cons_of_mem _ he, hc⟩

theorem vtxCanGoDown_blocked (hl : WellLinked g) : ∀ {F u : Nat} {root : Bool},
    vtxCanGoDown g F u root = .done false →
      (root = false ∧ (g.vtx u).type = .inst) ∨ ∃ x, BlocksAbove g x u
  | 0, _, _, h => nomatch h
  | F + 1, u, root, h => by
    simp only [vtxCanGoDown] at h
    obtain ⟨ok, hok, rest⟩ := bind_eq_done.mp h
    cases ok
    · obtain ⟨d, hd, check⟩ := allUntilFalse_false hok
      have edge : u ∈ (g.vtx d).dependencies := (hl.linked d u).mpr hd
      split at check
      · cases check
      · rename_i unmarked
        by_cases inst : (g.vtx d).type = .inst
        · exact .inr ⟨d, ⟨inst, by simpa [inst] using unmarked⟩, u, edge, .self u⟩
        · rcases vtxCanGoDown_blocked hl check with ⟨-, inst'⟩ | ⟨x, marked, c, hc, visits⟩
          · exact absurd inst' inst
          · exact .inr ⟨x, marked, c, hc, visits.tail inst edge⟩
    · simp only [Bool.not_true, Bool.false_eq_true, if_false] at rest
      split at rest
      · rename_i blocked
        simp only [Bool.and_eq_true, decide_eq_true_eq, Bool.not_eq_true'] at blocked
        exact .inl ⟨blocked.2, blocked.1.1⟩
      · cases rest

/-! ### The passes reach every marked instance below them -/

theorem vtxOfflineDependency_grows : ∀ F v r notes,
    Post (fun s => notes ⊆ s) (vtxOfflineDependency g F v r notes)
  | 0, _, _, _ => fun _ h => nomatch h
  | F + 1, v, r, notes => by
    simp only [vtxOfflineDependency]
    split
    · exact post_done (List.Subset.refl _)
    · split
      · exact post_bind fun _ _ => post_done (by split <;> simp)
      · exact post_foldlM (fun s => notes ⊆ s) (fun s c hs => (vtxOfflineDependency_grows F c r s).mono
          fun _ h => hs.trans h) _ (List.Subset.refl _)

theorem vtxNotifyStop_grows : ∀ F v r notes, Post (fun s => notes ⊆ s) (vtxNotifyStop g F v r notes)
  | 0, _, _, _ => fun _ h => nomatch h
  | F + 1, v, r, notes => by
    have climb := fun s => post_foldlM (fun s' => s ⊆ s') (l := (g.vtx v).dependents)
      (f := fun s d => vtxNotifyStop g F d r s)
      (fun s d hs => (vtxNotifyStop_grows F d r s).mono fun _ h => hs.trans h) (List.Subset.refl s)
    simp only [vtxNotifyStop]
    split
    · split
      · exact post_done (List.Subset.refl _)
      · exact post_done (by simp)
    · split
      · exact post_done (List.Subset.refl _)
      · exact climb _
    · exact climb _

theorem foldlM_visit {α : Type} {f : List S16Note → α → Run (List S16Note)}
    (grows : ∀ s a, Post (fun s' => s ⊆ s') (f s a)) :
    ∀ {l : List α} {s₀ s : List S16Note}, l.foldlM f s₀ = .done s →
      ∀ a ∈ l, ∃ t t', f t a = .done t' ∧ t' ⊆ s
  | [], _, _, _, _, ha => nomatch ha
  | b :: l, s₀, s, h, a, ha => by
    rw [List.foldlM_cons] at h
    obtain ⟨t, ht, rest⟩ := bind_eq_done.mp h
    rcases List.mem_cons.mp ha with rfl | ha
    · exact ⟨s₀, t, ht, post_foldlM (fun s' => t ⊆ s')
        (fun s c hs => (grows s c).mono fun _ h => hs.trans h) l (List.Subset.refl t) s rest⟩
    · exact foldlM_visit grows rest a ha

def Pending (g : Graph) (q : List S16Note) (m : Nat) : Prop :=
  ∃ r, .stateChange .offline (g.vtx m).path r ∈ q

theorem vtxOfflineDependency_visits {m : Nat} (hm : Marked g m) {c : Nat} (visits : Visits g c m) :
    ∀ {F r notes notes'}, vtxOfflineDependency g F c r notes = .done notes' →
      ∃ F' b, vtxCanGoDown g F' m true = .done b ∧ (b = true → Pending g notes' m) := by
  induction visits with
  | self =>
    intro F r notes notes' h
    obtain _ | F := F
    · cases h
    rw [vtxOfflineDependency, if_neg (by simp [hm.1, hm.2]), if_pos hm.1] at h
    obtain ⟨b, hb, rest⟩ := bind_eq_done.mp h
    cases rest
    exact ⟨F, b, hb, fun hb' => ⟨r, by simp [hb', vtxOffline]⟩⟩
  | down group hc' _ ih =>
    intro F r notes notes' h
    obtain _ | F := F
    · cases h
    rw [vtxOfflineDependency, if_neg (by simp [group]), if_neg group] at h
    obtain ⟨t, t', ht, sub⟩ := foldlM_visit (fun s c => vtxOfflineDependency_grows F c r s) h _ hc'
    obtain ⟨F', b, hb, pending⟩ := ih hm ht
    exact ⟨F', b, hb, fun hb' => (pending hb').imp fun _ h => sub h⟩

theorem vtxOfflineIfPossible_visits {m F : Nat} (hm : Marked g m) {r : Int}
    {notes notes' : List S16Note} (h : vtxOfflineIfPossible g F m r notes = .done notes') :
    ∃ b, vtxCanGoDown g F m true = .done b ∧ (b = true → Pending g notes' m) := by
  rw [vtxOfflineIfPossible, if_neg (by simp [hm.2]), if_pos hm.1] at h
  obtain ⟨b, hb, rest⟩ := bind_eq_done.mp h
  cases rest
  exact ⟨b, hb, fun hb' => ⟨r, by simp [hb', vtxOffline]⟩⟩

theorem vtxOfflineIfPossible_grows (F v : Nat) (r : Int) (notes : List S16Note) :
    Post (fun s => notes ⊆ s) (vtxOfflineIfPossible g F v r notes) := by
  unfold vtxOfflineIfPossible
  split
  · exact post_done (List.Subset.refl _)
  · split
    · exact post_bind fun _ _ => post_done (by split <;> simp)
    · exact post_done (List.Subset.refl _)

theorem vtxFindByPath_path {p : S16Path} {x : Nat} (h : vtxFindByPath g p = some x) :
    (g.vtx x).path = p := by
  obtain ⟨lt, eq, -⟩ := List.findIdx?_eq_some_iff_getElem.mp h
  simpa [Graph.vtx, List.getElem?_eq_getElem lt] using eq

theorem Marked.lt_size {x : Nat} (h : Marked g x) : x < g.size := by
  by_contra out
  have := h.1
  rw [Graph.vtx_of_size_le (Nat.le_of_not_lt out)] at this
  cases this

/-! ### Every marked instance is on its way down -/

/-- A marked instance the drain will take down: an SC_OFFLINE for it is queued, or a marked
    instance above it will be taken down and its pass reaches it. -/
inductive Resolved (g : Graph) (q : List S16Note) : Nat → Prop
  | pending {m : Nat} : Marked g m → Pending g q m → Resolved g q m
  | above {x m : Nat} : Marked g m → BlocksAbove g x m → Resolved g q x → Resolved g q m

/-- The state of a drain: every marked instance is on its way down, and every queued
    SC_DISABLED is about an unmarked vertex. -/
structure MarksResolved (g : Graph) (q : List S16Note) : Prop where
  marked : ∀ m, Marked g m → Resolved g q m
  disabled : ∀ path r, .stateChange .disabled path r ∈ q → ∀ x, vtxFindByPath g path = some x →
    (g.vtx x).toOffline = false

variable {q q' : List S16Note}

theorem Resolved.not_nil {m : Nat} (h : Resolved g [] m) : False := by
  induction h with
  | pending _ p =>
    obtain ⟨_, hp⟩ := p
    exact List.not_mem_nil _ hp
  | above _ _ _ ih => exact ih

theorem resolved_of_above (hc : Acyclic g)
    (step : ∀ m, Marked g m → (∀ x, BlocksAbove g x m → Resolved g q x) → Resolved g q m)
    (m : Nat) (hm : Marked g m) : Resolved g q m :=
  hc.wellFounded_dependsOn.transGen.induction (C := fun m => Marked g m → Resolved g q m) m
    (fun m ih hm => step m hm fun x hx => ih x hx.transGen hx.1) hm

theorem resolved_of_examined (hl : WellLinked g) {m F : Nat} {b : Bool} (hm : Marked g m)
    (examined : vtxCanGoDown g F m true = .done b) (queued : b = true → Pending g q m)
    (above : ∀ x, BlocksAbove g x m → Resolved g q x) : Resolved g q m := by
  cases b
  · rcases vtxCanGoDown_blocked hl examined with ⟨h, -⟩ | ⟨x, hx⟩
    · cases h
    · exact .above hm hx (above x hx)
  · exact .pending hm (queued rfl)

theorem Resolved.transport (hs : SameShape g g')
    (marks : ∀ y, (g'.vtx y).toOffline = (g.vtx y).toOffline)
    (pend : ∀ m, Marked g m → Pending g q m → Pending g' q' m) {m : Nat} (h : Resolved g q m) :
    Resolved g' q' m := by
  have marked : ∀ y, Marked g y → Marked g' y := fun y hy => ⟨by rw [hs.type]; exact hy.1,
    by rw [marks]; exact hy.2⟩
  induction h with
  | pending hm hp => exact .pending (marked _ hm) (pend _ hm hp)
  | above hm hx _ ih =>
    obtain ⟨hx, c, hc, visits⟩ := hx
    exact .above (marked _ hm) ⟨marked _ hx, c, by rwa [hs.dependencies], visits.of_sameShape hs⟩ ih

theorem Queued.disabled {x y : Nat} {type : S16NoteScType} (h : Queued g x type y .disabled) :
    type = .offline ∧ (g.vtx x).toOffline = true ∧ y = x := by
  cases type <;> simp_all [Queued]

theorem vtxProcessStateChange_passes {F x : Nat} {r : Int} {p : Graph × List S16Note}
    (marked : (g.vtx x).toOffline = true) (h : vtxProcessStateChange g F x .offline r = .done p) :
    ∃ n₁, vtxDependenciesDo (p.1.vtx x) (fun c => vtxOfflineDependency p.1 F c r) [] = .done n₁ ∧
      n₁ ⊆ p.2 := by
  have written := vtxProcessStateChange_graph g F x .offline r p h
  unfold vtxProcessStateChange at h
  dsimp only at h
  rw [if_pos marked] at h
  obtain ⟨n₁, h₁, rest⟩ := bind_eq_done.mp h
  simp only [done_bind] at rest
  obtain ⟨n₃, h₃, rest⟩ := bind_eq_done.mp rest
  cases rest
  refine ⟨n₁, by rw [written]; exact h₁, fun n hn => ?_⟩
  refine post_foldlM (fun s => _ ⊆ s) (fun s d hs => (vtxNotifyStop_grows F d r s).mono
    fun _ h => hs.trans h) _ (List.Subset.refl _) n₃ h₃ ?_
  split <;> simp [hn]

/-- Processing a state change keeps every marked instance on its way down. -/
theorem MarksResolved.stateChange (wb : WellBuilt g) (hc : Acyclic g) {F : Nat}
    {type : S16NoteScType} {path : S16Path} {r : Int} {new : List S16Note}
    (hr : MarksResolved g (.stateChange type path r :: q))
    (h : graphProcessNote g F (.stateChange type path r) = .done (g', new)) :
    MarksResolved g' (q ++ new) := by
  simp only [graphProcessNote] at h
  split at h
  · rename_i x found
    have hx := vtxFindByPath_lt_size found
    have named := vtxFindByPath_path found
    have queued := vtxProcessStateChange_queues wb.linked hx F type r _ h
    have written := vtxProcessStateChange_graph g F x type r _ h
    simp only at written queued
    have hs : SameShape g g' := written ▸ sameShape_modify g x (stateChangeWrite_shape type)
    have others : ∀ y, y ≠ x → g'.vtx y = g.vtx y := fun y hy => by
      rw [written, Graph.vtx_modify_ne _ _ (Ne.symm hy)]
    have own : g'.vtx x = stateChangeWrite type (g.vtx x) := by
      rw [written, Graph.vtx_modify_self _ _ _ hx]
    have pend : ∀ m, Marked g m → Pending g (.stateChange type path r :: q) m →
        (m = x ∧ type = .offline) ∨ Pending g' (q ++ new) m := by
      rintro m hm ⟨r', hr'⟩
      rcases List.mem_cons.mp hr' with same | later
      · simp only [S16Note.stateChange.injEq] at same
        exact .inl ⟨wb.unique m x hm.lt_size hx (same.2.1.trans named.symm), same.1.symm⟩
      · exact .inr ⟨r', by rw [hs.path]; exact List.mem_append_left _ later⟩
    have newDisabled : ∀ p' r', .stateChange .disabled p' r' ∈ new →
        p' = (g.vtx x).path ∧ type = .offline ∧ (g.vtx x).toOffline = true := by
      intro p' r' hn
      obtain ⟨k, y, -, hy, r'', same⟩ := queued _ hn
      simp only [S16Note.stateChange.injEq] at same
      obtain ⟨rfl, rfl, -⟩ := same
      obtain ⟨htype, hmark, rfl⟩ := hy.disabled
      exact ⟨rfl, htype, hmark⟩
    have renamed : ∀ p' z, vtxFindByPath g' p' = some z → p' = (g.vtx x).path → z = x :=
      fun p' z hz hp => Option.some.inj ((hs.vtxFindByPath p' ▸ hz).symm.trans
        (hp ▸ vtxFindByPath_vtx wb.unique hx))
    by_cases clears : type = .offline ∧ (g.vtx x).toOffline = true
    · obtain ⟨rfl, hmark⟩ := clears
      have cleared : (g'.vtx x).toOffline = false := by rw [own]; rfl
      have marked' : ∀ y, Marked g' y → y ≠ x ∧ Marked g y := fun y hy =>
        ⟨by rintro rfl; exact Bool.false_ne_true (cleared ▸ hy.2),
          Marked.of_modify (f := stateChangeWrite .offline) (fun _ => rfl) (fun _ h => nomatch h)
            (written ▸ hy)⟩
      refine ⟨resolved_of_above (hs.acyclic hc) fun m hm above => ?_, fun p' r' hn z hz => ?_⟩
      · obtain ⟨hne, hmg⟩ := marked' m hm
        cases hr.marked m hmg with
        | pending _ hp =>
          exact .pending hm ((pend m hmg hp).resolve_left fun e => hne e.1)
        | @above y _ _ hb _ =>
          obtain ⟨hy, c, hc', visits⟩ := hb
          by_cases hyx : y = x
          · subst hyx
            obtain ⟨n₁, h₁, sub₁⟩ := vtxProcessStateChange_passes hmark h
            obtain ⟨t, t', ht, sub⟩ := foldlM_visit (fun s c => vtxOfflineDependency_grows F c r s)
              h₁ c (by rwa [hs.dependencies])
            obtain ⟨F', b, hb, queuedm⟩ := vtxOfflineDependency_visits hm (visits.of_sameShape hs) ht
            exact resolved_of_examined (hs.wellLinked wb.linked) hm hb
              (fun hb => (queuedm hb).imp fun _ h => List.mem_append_right _ (sub₁ (sub h))) above
          · have hb' : BlocksAbove g' y m := ⟨by unfold Marked; rw [others y hyx]; exact hy, c,
              by rwa [hs.dependencies], visits.of_sameShape hs⟩
            exact .above hm hb' (above y hb')
      · rcases List.mem_append.mp hn with hn | hn
        · by_cases hzx : z = x
          · rw [hzx, cleared]
          · rw [others z hzx]
            exact hr.disabled p' r' (List.mem_cons_of_mem _ hn) z (hs.vtxFindByPath p' ▸ hz)
        · rw [renamed p' z hz (newDisabled p' r' hn).1, cleared]
    · have marks : ∀ y, (g'.vtx y).toOffline = (g.vtx y).toOffline := fun y => by
        by_cases hyx : y = x
        · subst hyx
          rw [own]
          cases type with
          | offline => exact (Bool.eq_false_iff.mpr fun hm => clears ⟨rfl, hm⟩).symm
          | disabled =>
            exact (hr.disabled path r (List.mem_cons_self _ _) y found).symm
          | _ => rfl
        · rw [others y hyx]
      refine ⟨fun m hm => ?_, fun p' r' hn z hz => ?_⟩
      · have hmg : Marked g m := ⟨by rw [← hs.type]; exact hm.1, by rw [← marks]; exact hm.2⟩
        exact (hr.marked m hmg).transport hs marks fun m hm hp =>
          (pend m hm hp).resolve_left fun e => clears ⟨e.2, e.1 ▸ hm.2⟩
      · rcases List.mem_append.mp hn with hn | hn
        · rw [marks]
          exact hr.disabled p' r' (List.mem_cons_of_mem _ hn) z (hs.vtxFindByPath p' ▸ hz)
        · exact absurd ⟨(newDisabled p' r' hn).2.1, (newDisabled p' r' hn).2.2⟩ clears
  · cases h

/-! ### The drain of one request -/

def Unmarked (g : Graph) : Prop := ∀ m, ¬ Marked g m

theorem MarksResolved.of_unmarked (hu : Unmarked g)
    (disabled : ∀ path r, .stateChange .disabled path r ∈ q → ∀ x, vtxFindByPath g path = some x →
      (g.vtx x).toOffline = false) : MarksResolved g q :=
  ⟨fun m hm => (hu m hm).elim, disabled⟩

/-- The loop keeps every marked instance on its way down, so it ends with none marked. -/
theorem processNotes_unmarks : ∀ F g q g', processNotes F g q = .done g' → WellBuilt g →
    Acyclic g → (∀ n ∈ q, n.isRequest = false) → MarksResolved g q → Unmarked g'
  | 0, _, _, _, h, _, _, _, _ => nomatch h
  | _ + 1, _, [], _, h, _, _, _, hr => by
    cases h
    exact fun m hm => (hr.marked m hm).not_nil
  | F + 1, g, n :: q, g', h, wb, hc, sc, hr => by
    obtain ⟨⟨g₁, new⟩, h₁, rest⟩ := bind_eq_done.mp h
    have hs := graphProcessNote_sameShape g F n _ h₁
    obtain ⟨type, path, r, rfl⟩ := S16Note.stateChange_of_not_isRequest (sc n (List.mem_cons_self _ _))
    exact processNotes_unmarks F g₁ (q ++ new) g' rest (wb.of_sameShape hs) (hs.acyclic hc)
      (graphProcessNote_not_isRequest wb.linked (fun n hn => sc n (List.mem_cons_of_mem _ hn)) h₁)
      (hr.stateChange wb hc h₁)

theorem MarksResolved.disable (wb : WellBuilt g) (hc : Acyclic g) {F v : Nat} {r : Int}
    {new : List S16Note} (h : vtxProcessAdminReq g F v .disable r = .done (g', new)) :
    MarksResolved g' new := by
  simp only [vtxProcessAdminReq] at h
  obtain ⟨g₂, h₂, rest⟩ := bind_eq_done.mp h
  obtain ⟨_, -, rest⟩ := bind_eq_done.mp rest
  obtain ⟨notes, scan, rest⟩ := bind_eq_done.mp rest
  cases rest
  have hs : SameShape g g' := post_foldlM (SameShape g) (fun _ d hs =>
    (vtxNotifyAdminDisable_sameShape F d r _).mono fun _ => hs.trans) _
    (sameShape_modify g v fun _ => by rfl) g' h₂
  refine ⟨resolved_of_above (hs.acyclic hc) fun m hm above => ?_, fun p r' hn => ?_⟩
  · obtain ⟨t, t', ht, sub⟩ := foldlM_visit (fun s i => vtxOfflineIfPossible_grows F i _ s) scan m
      (List.mem_range.mpr hm.lt_size)
    obtain ⟨b, hb, queued⟩ := vtxOfflineIfPossible_visits hm ht
    exact resolved_of_examined (hs.wellLinked wb.linked) hm hb
      (fun hb => (queued hb).imp fun _ h => sub h) above
  · obtain ⟨_, -, -, _, e⟩ := (appends_foldlM (fun s i hi =>
      vtxOfflineIfPossible_emits (List.mem_range.mp hi) _ s) [] new scan).of_nil _ hn
    cases e

theorem MarksResolved.enable (hu : Unmarked g) {F v : Nat} {r : Int} {new : List S16Note}
    (h : vtxProcessAdminReq g F v .enable r = .done (g', new)) : MarksResolved g' new := by
  simp only [vtxProcessAdminReq] at h
  cases h
  exact ⟨fun m hm => (hu m (Marked.of_modify (fun _ => by rfl) (fun _ h => by cases h) hm)).elim,
    fun p r' hn => nomatch List.mem_singleton.mp hn⟩

theorem processNotes_external_unmarks (wb : WellBuilt g) (hc : Acyclic g) (hu : Unmarked g)
    {F : Nat} {n : S16Note} (ext : ExternalNote g n) (h : processNotes F g [n] = .done g') :
    Unmarked g' := by
  cases n with
  | adminReq type path r =>
    obtain _ | F := F
    · cases h
    obtain ⟨⟨g₁, new⟩, h₁, rest⟩ := bind_eq_done.mp h
    have hs := graphProcessNote_sameShape g F _ _ h₁
    have sc : ∀ n ∈ [] ++ new, n.isRequest = false := fun n hn =>
      (graphProcessNote_queues wb.linked F _ _ h₁ n hn).not_isRequest
    obtain ⟨htype, v, found, -⟩ := ext
    simp only [graphProcessNote, found] at h₁
    rcases htype with rfl | rfl
    · exact processNotes_unmarks F g₁ _ g' rest (wb.of_sameShape hs) (hs.acyclic hc) sc
        (MarksResolved.disable wb hc h₁)
    · exact processNotes_unmarks F g₁ _ g' rest (wb.of_sameShape hs) (hs.acyclic hc) sc
        (MarksResolved.enable hu h₁)
  | stateChange type path r =>
    refine processNotes_unmarks F g [_] g' h wb hc (by simp [S16Note.isRequest])
      (.of_unmarked hu fun p r' hn x hx => ?_)
    obtain ⟨-, v, found, inst⟩ := ext
    simp only [List.mem_singleton, S16Note.stateChange.injEq] at hn
    obtain ⟨-, rfl, -⟩ := hn
    rw [← Option.some.inj (found.symm.trans hx)]
    exact Bool.eq_false_iff.mpr fun marked => hu v ⟨inst, marked⟩
  | rreq => exact ext.elim

/-! ### The quiescent states -/

section Quiescent

variable {repo : S16Repository} {order : List S16Service}

theorem reached_of_processNotes : ∀ {F : Nat} {g g' : Graph} {q : List S16Note},
    Reached repo order g → processNotes F g q = .done g' → Reached repo order g'
  | 0, _, _, _, _, h => nomatch h
  | _ + 1, _, _, [], hr, h => by
    cases h
    exact hr
  | F + 1, g, _, n :: q, hr, h => by
    obtain ⟨⟨g₁, new⟩, h₁, rest⟩ := bind_eq_done.mp h
    exact reached_of_processNotes (.note hr h₁) rest

theorem Quiescent.reached (h : Quiescent repo order g) : Reached repo order g := by
  induction h with
  | setup h =>
    obtain ⟨_, built, rest⟩ := bind_eq_done.mp h
    obtain ⟨_, initial, drained⟩ := bind_eq_done.mp rest
    exact reached_of_processNotes (.setup built initial) drained
  | drain _ drained _ ih => exact reached_of_processNotes ih drained

theorem initialNotes_stateChanges (g : Graph) (fuel : Nat) :
    Post (fun notes => ∀ n ∈ notes, n.isRequest = false) (initialNotes g fuel) := by
  refine post_foldlM _ (fun s i hs => ?_) _ (fun _ h => nomatch h)
  split
  · refine post_bind fun _ _ => post_done ?_
    split
    · intro n hn
      rcases List.mem_append.mp hn with hn | hn
      · exact hs n hn
      · rw [List.mem_singleton.mp hn]
        rfl
    · exact hs
  · exact post_done hs

theorem Quiescent.unmarked (wf : ∀ svc ∈ order, svc.WellFormed) (h : Quiescent repo order g)
    (hc : Acyclic g) : Unmarked g := by
  induction h with
  | setup h =>
    obtain ⟨g₀, built, rest⟩ := bind_eq_done.mp h
    obtain ⟨notes, initial, drained⟩ := bind_eq_done.mp rest
    have core := (built_setupPass _ _ _ 0 (built_installAll .empty wf) _ built).buildInv.core
    have hs := processNotes_sameShape _ _ _ _ drained
    exact processNotes_unmarks _ g₀ notes _ drained ((Reached.setup built initial).wellBuilt wf)
      (hs.symm.acyclic hc) (initialNotes_stateChanges g₀ _ notes initial)
      (.of_unmarked (fun m hm => Bool.false_ne_true ((core.unmarked m).1 ▸ hm.2))
        fun _ _ _ x _ => (core.unmarked x).1)
  | drain prev drained ext ih =>
    have hc₀ := (processNotes_sameShape _ _ _ _ drained).symm.acyclic hc
    exact processNotes_external_unmarks (prev.reached.wellBuilt wf) hc₀ (ih hc₀) ext drained

end Quiescent

end Graphd

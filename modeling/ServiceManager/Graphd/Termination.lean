import ServiceManager.Graphd.Built

/-!
Termination of the engine's traversals. None of them keeps a visited set: `vtx_notify_start`,
`vtx_notify_stop`, `vtx_notify_misc`, `vtx_notify_admin_disable` and `vtx_can_go_down` climb to
dependents, `vtx_offline_dependency` and the satisfiability evaluator descend to dependencies,
and each stops only where the graph has no edge left to follow. On a graph with no dependency
cycle both directions are well founded, so under a large enough budget every traversal returns
or fails an assert, whatever the states and flags. When the asserts of `depgroup_is_satisfied`
hold, none of them aborts either. The builder does not rule cycles out: it admits one through
two ExcludeAll groups, and `vtx_notify_misc` runs round it for ever.
-/

namespace Graphd

open Run

namespace Run

variable {α β σ : Type}

theorem finished_bind {x : Run α} {f : α → Run β} (hx : x.Finished)
    (hf : ∀ a, x = done a → (f a).Finished) : (x >>= f).Finished := by
  cases x with
  | done a => exact hf a rfl
  | aborted => trivial
  | exhausted => exact hx.elim

theorem finished_foldlM (I : σ → Prop) {f : σ → α → Run σ} (hI : ∀ s a, I s → Post I (f s a)) :
    ∀ {l : List α}, (∀ s, ∀ a ∈ l, I s → (f s a).Finished) → ∀ s, I s → (l.foldlM f s).Finished
  | [], _, _, _ => trivial
  | a :: l, h, s, hs => by
    rw [List.foldlM_cons]
    exact finished_bind (h s a (List.mem_cons_self _ _) hs) fun s' hs' =>
      finished_foldlM I hI (fun s b hb => h s b (List.mem_cons_of_mem _ hb)) s' (hI s a hs s' hs')

theorem not_aborted_bind {x : Run α} {f : α → Run β} (hx : x ≠ aborted)
    (hf : ∀ a, x = done a → f a ≠ aborted) : x >>= f ≠ aborted := by
  cases x with
  | done a => exact hf a rfl
  | aborted => exact absurd rfl hx
  | exhausted => nofun

theorem not_aborted_foldlM {f : σ → α → Run σ} :
    ∀ {l : List α}, (∀ s, ∀ a ∈ l, f s a ≠ aborted) → ∀ s, l.foldlM f s ≠ aborted
  | [], _, _ => nofun
  | a :: l, h, s => by
    rw [List.foldlM_cons]
    exact not_aborted_bind (h s a (List.mem_cons_self _ _)) fun s' _ =>
      not_aborted_foldlM (fun s b hb => h s b (List.mem_cons_of_mem _ hb)) s'

theorem done_ne_aborted (a : α) : done a ≠ aborted := nofun

theorem exists_done {x : Run α} (hf : x.Finished) (ha : x ≠ aborted) : ∃ a, x = done a := by
  cases x with
  | done a => exact ⟨a, rfl⟩
  | aborted => exact absurd rfl ha
  | exhausted => exact hf.elim

end Run

theorem exists_bound_forall_mem {α : Type} {P : α → Nat → Prop} :
    ∀ l : List α, (∀ a ∈ l, ∃ N, ∀ F ≥ N, P a F) → ∃ N, ∀ a ∈ l, ∀ F ≥ N, P a F
  | [], _ => ⟨0, fun _ h => nomatch h⟩
  | a :: l, h => by
    obtain ⟨N, hN⟩ := h a (List.mem_cons_self _ _)
    obtain ⟨M, hM⟩ := exists_bound_forall_mem l fun b hb => h b (List.mem_cons_of_mem _ hb)
    refine ⟨max N M, fun b hb F hF => ?_⟩
    rcases List.mem_cons.mp hb with rfl | hb
    · exact hN F (le_of_max_le_left hF)
    · exact hM b hb F (le_of_max_le_right hF)

/-! ### The satisfiability evaluator -/

section Evaluator

variable {g : Graph}

theorem cAssert_finished (c : Bool) : (cAssert c).Finished := by
  unfold cAssert
  split <;> trivial

theorem vtxInstSatisfiesExclusion_finished (g : Graph) (v : Nat) :
    (vtxInstSatisfiesExclusion g v).Finished := by
  unfold vtxInstSatisfiesExclusion
  refine finished_bind (cAssert_finished _) fun _ _ => ?_
  split
  · trivial
  · split <;> trivial

theorem accumulateWith_finished {e : Nat → Run Satisfied} {c : Nat} (h : (e c).Finished)
    (sat : Satisfied) : (accumulateWith e sat c).Finished :=
  finished_bind h fun _ _ => trivial

theorem requireAnyOver_finished {e : Nat → Run Satisfied} :
    ∀ {l : List Nat}, (∀ c ∈ l, (e c).Finished) → ∀ sat, (requireAnyOver e l sat).Finished
  | [], _, _ => trivial
  | c :: l, h, _ => finished_bind (h c (List.mem_cons_self _ _)) fun _ _ => by
    split
    · trivial
    · exact requireAnyOver_finished (fun d hd => h d (List.mem_cons_of_mem _ hd)) _

theorem serviceTail_finished {e : Nat → Run Satisfied} {dv : Nat}
    (h : ∀ d ∈ (g.vtx dv).dependencies, (e d).Finished) (sat : Satisfied) :
    (if (g.vtx dv).type = .svc then (g.vtx dv).dependencies.foldlM (accumulateWith e) sat
      else .done sat).Finished := by
  split
  · exact finished_foldlM (fun _ => True) (fun _ _ _ _ _ => trivial)
      (fun _ d hd _ => accumulateWith_finished (h d hd) _) _ trivial
  · trivial

theorem depgroupIsSatisfied_finished {F v : Nat} {recurse : Bool}
    (child : ∀ c ∈ (g.vtx v).dependencies,
      (vtxSatisfies g F c recurse).Finished ∧ (vtxInstSatisfiesOptional g F c recurse).Finished)
    (grandchild : ∀ c ∈ (g.vtx v).dependencies, ∀ d ∈ (g.vtx c).dependencies,
      (vtxInstSatisfiesOptional g F d recurse).Finished) :
    (depgroupIsSatisfied g (F + 1) v recurse).Finished := by
  have loop : ∀ {f : Satisfied → Nat → Run Satisfied},
      (∀ sat, ∀ c ∈ (g.vtx v).dependencies, (f sat c).Finished) →
      ((g.vtx v).dependencies.foldlM f .satisfied).Finished := fun h =>
    finished_foldlM (fun _ => True) (fun _ _ _ _ _ => trivial) (fun s c hc _ => h s c hc) _ trivial
  simp only [depgroupIsSatisfied]
  split
  · exact loop fun _ c hc => accumulateWith_finished (child c hc).1 _
  · split
    · trivial
    · exact requireAnyOver_finished (fun c hc => (child c hc).1) _
  · refine loop fun sat dv hdv => finished_bind (cAssert_finished _) fun _ _ => ?_
    split
    · exact finished_bind (accumulateWith_finished (child dv hdv).2 _) fun _ _ =>
        serviceTail_finished (grandchild dv hdv) _
    · exact serviceTail_finished (grandchild dv hdv) _
  · refine loop fun sat dv hdv => finished_bind (cAssert_finished _) fun _ _ => ?_
    split
    · exact finished_bind (accumulateWith_finished (vtxInstSatisfiesExclusion_finished g dv) _)
        fun _ _ => serviceTail_finished (fun _ _ => vtxInstSatisfiesExclusion_finished g dv) _
    · exact serviceTail_finished (fun _ _ => vtxInstSatisfiesExclusion_finished g dv) _

theorem vtxInstSatisfies_finished {F v : Nat} {recurse : Bool}
    (h : (depgroupIsSatisfied g F v recurse).Finished) :
    (vtxInstSatisfies g (F + 1) v recurse).Finished := by
  simp only [vtxInstSatisfies]
  refine finished_bind (cAssert_finished _) fun _ _ => ?_
  split
  · trivial
  · split
    any_goals trivial
    split
    · trivial
    · exact finished_bind h fun _ _ => trivial

theorem vtxInstSatisfiesOptional_finished {F v : Nat} {recurse : Bool}
    (h : (depgroupIsSatisfied g F v recurse).Finished) :
    (vtxInstSatisfiesOptional g (F + 1) v recurse).Finished := by
  simp only [vtxInstSatisfiesOptional]
  refine finished_bind (cAssert_finished _) fun _ _ => ?_
  split
  · trivial
  · split
    any_goals trivial
    split
    · trivial
    · exact finished_bind h fun _ _ => trivial

end Evaluator

theorem dependentsDo_finished {σ : Type} {g : Graph} {v : Nat} {f : Nat → σ → Run σ}
    (h : ∀ d ∈ (g.vtx v).dependents, ∀ s, (f d s).Finished) (s : σ) :
    (vtxDependentsDo (g.vtx v) f s).Finished :=
  finished_foldlM (fun _ => True) (fun _ _ _ _ _ => trivial) (fun s d hd _ => h d hd s) s trivial

theorem allUntilFalse_finished {check : Nat → Run Bool} :
    ∀ {l : List Nat}, (∀ d ∈ l, (check d).Finished) → (allUntilFalse check l).Finished
  | [], _ => trivial
  | d :: l, h => finished_bind (h d (List.mem_cons_self _ _)) fun _ _ => by
    split
    · exact allUntilFalse_finished fun e he => h e (List.mem_cons_of_mem _ he)
    · trivial

/-! ### Termination on acyclic graphs

Each bound depends on the shape of the graph only, so it holds for every assignment of states
and flags at once. -/

section Acyclic

variable {g : Graph} (hl : WellLinked g) (hc : Acyclic g)
include hl hc

/-- The evaluator finishes at every vertex under every budget past some bound. -/
theorem satisfies_terminates (v : Nat) : ∃ N, ∀ F ≥ N, ∀ g', SameShape g g' → ∀ recurse,
    (depgroupIsSatisfied g' F v recurse).Finished ∧ (vtxSatisfies g' F v recurse).Finished ∧
      (vtxInstSatisfiesOptional g' F v recurse).Finished := by
  refine (hc.wellFounded_dependencyOf hl).transGen.induction
    (C := fun v => ∃ N, ∀ F ≥ N, ∀ g', SameShape g g' → ∀ recurse,
      (depgroupIsSatisfied g' F v recurse).Finished ∧ (vtxSatisfies g' F v recurse).Finished ∧
      (vtxInstSatisfiesOptional g' F v recurse).Finished)
    v fun v ih => ?_
  obtain ⟨M, child⟩ := exists_bound_forall_mem (g.vtx v).dependencies fun c h => ih c (.single h)
  obtain ⟨K, grandchild⟩ := exists_bound_forall_mem (g.vtx v).dependencies fun c h =>
    (exists_bound_forall_mem (g.vtx c).dependencies fun d h' => ih d (.head h' (.single h))).imp
      fun _ hN F hF d hd => hN d hd F hF
  have dg : ∀ F ≥ max M K + 1, ∀ g', SameShape g g' → ∀ recurse,
      (depgroupIsSatisfied g' F v recurse).Finished := by
    intro F hF g' hs recurse
    obtain ⟨F, rfl⟩ : ∃ F', F = F' + 1 := ⟨F - 1, by omega⟩
    refine depgroupIsSatisfied_finished (fun c hc => ?_) fun c hc d hd => ?_
    · rw [hs.dependencies] at hc
      exact ⟨(child c hc F (by omega) g' hs recurse).2.1, (child c hc F (by omega) g' hs recurse).2.2⟩
    · rw [hs.dependencies] at hc hd
      exact (grandchild c hc F (by omega) d hd g' hs recurse).2.2
  refine ⟨max M K + 3, fun F hF g' hs recurse => ⟨dg F (by omega) g' hs recurse, ?_, ?_⟩⟩
  · obtain ⟨F, rfl⟩ : ∃ F', F = F' + 1 := ⟨F - 1, by omega⟩
    simp only [vtxSatisfies]
    split
    · obtain ⟨F, rfl⟩ : ∃ F', F = F' + 1 := ⟨F - 1, by omega⟩
      exact vtxInstSatisfies_finished (dg F (by omega) g' hs recurse)
    · exact dg F (by omega) g' hs recurse
  · obtain ⟨F, rfl⟩ : ∃ F', F = F' + 1 := ⟨F - 1, by omega⟩
    exact vtxInstSatisfiesOptional_finished (dg F (by omega) g' hs recurse)

theorem vtxInstCanComeUp_terminates (v : Nat) :
    ∃ N, ∀ F ≥ N, ∀ g', SameShape g g' → (vtxInstCanComeUp g' F v).Finished := by
  obtain ⟨N, hN⟩ := satisfies_terminates hl hc v
  refine ⟨N, fun F hF g' hs => ?_⟩
  unfold vtxInstCanComeUp
  split
  · exact finished_bind (hN F hF g' hs true).1 fun _ _ => trivial
  · trivial

omit hc in
theorem dependents_bound {P : Nat → Nat → Graph → Prop} (v : Nat)
    (ih : ∀ d, DependsOn g d v → ∃ N, ∀ F ≥ N, ∀ g', SameShape g g' → P d F g') :
    ∃ N, ∀ F ≥ N, ∀ g', SameShape g g' → ∀ d ∈ (g'.vtx v).dependents, P d F g' := by
  obtain ⟨N, hN⟩ := exists_bound_forall_mem (g.vtx v).dependents fun d hd =>
    ih d (hl.dependsOn_of_mem_dependents hd)
  exact ⟨N, fun F hF g' hs d hd => hN d (by rwa [hs.dependents] at hd) F hF g' hs⟩

theorem vtxNotifyStart_terminates (v : Nat) : ∃ N, ∀ F ≥ N, ∀ g', SameShape g g' →
    ∀ r notes, (vtxNotifyStart g' F v r notes).Finished := by
  refine hc.wellFounded_dependsOn.induction (C := fun v => ∃ N, ∀ F ≥ N, ∀ g', SameShape g g' →
    ∀ r notes, (vtxNotifyStart g' F v r notes).Finished) v fun v ih => ?_
  obtain ⟨M, hM⟩ := dependents_bound hl v ih
  obtain ⟨K, hK⟩ := vtxInstCanComeUp_terminates hl hc v
  refine ⟨max M K + 1, fun F hF g' hs r notes => ?_⟩
  obtain ⟨F, rfl⟩ : ∃ F', F = F' + 1 := ⟨F - 1, by omega⟩
  simp only [vtxNotifyStart]
  split
  · exact finished_bind (hK F (by omega) g' hs) fun _ _ => by split <;> trivial
  · exact dependentsDo_finished (fun d hd => hM F (by omega) g' hs d hd _) _
  · exact dependentsDo_finished (fun d hd => hM F (by omega) g' hs d hd _) _

theorem vtxNotifyStop_terminates (v : Nat) : ∃ N, ∀ F ≥ N, ∀ g', SameShape g g' →
    ∀ r notes, (vtxNotifyStop g' F v r notes).Finished := by
  refine hc.wellFounded_dependsOn.induction (C := fun v => ∃ N, ∀ F ≥ N, ∀ g', SameShape g g' →
    ∀ r notes, (vtxNotifyStop g' F v r notes).Finished) v fun v ih => ?_
  obtain ⟨M, hM⟩ := dependents_bound hl v ih
  refine ⟨M + 1, fun F hF g' hs r notes => ?_⟩
  obtain ⟨F, rfl⟩ : ∃ F', F = F' + 1 := ⟨F - 1, by omega⟩
  simp only [vtxNotifyStop]
  split
  · split <;> trivial
  · split
    · trivial
    · exact dependentsDo_finished (fun d hd => hM F (by omega) g' hs d hd r) _
  · exact dependentsDo_finished (fun d hd => hM F (by omega) g' hs d hd r) _

theorem vtxNotifyMisc_terminates (v : Nat) : ∃ N, ∀ F ≥ N, ∀ g', SameShape g g' →
    ∀ r notes, (vtxNotifyMisc g' F v r notes).Finished := by
  refine hc.wellFounded_dependsOn.induction (C := fun v => ∃ N, ∀ F ≥ N, ∀ g', SameShape g g' →
    ∀ r notes, (vtxNotifyMisc g' F v r notes).Finished) v fun v ih => ?_
  obtain ⟨M, hM⟩ := dependents_bound hl v ih
  obtain ⟨K, hK⟩ := vtxInstCanComeUp_terminates hl hc v
  refine ⟨max M K + 1, fun F hF g' hs r notes => ?_⟩
  obtain ⟨F, rfl⟩ : ∃ F', F = F' + 1 := ⟨F - 1, by omega⟩
  have rest := dependentsDo_finished (fun d hd => hM F (by omega) g' hs d hd r)
  simp only [vtxNotifyMisc]
  split
  · exact finished_bind (hK F (by omega) g' hs) fun _ _ => finished_bind trivial fun _ _ => rest _
  · exact finished_bind trivial fun _ _ => rest _

theorem vtxNotifyAdminDisable_terminates (v : Nat) :
    ∃ N, ∀ F ≥ N, ∀ g', SameShape g g' → ∀ r, (vtxNotifyAdminDisable F v r g').Finished := by
  refine hc.wellFounded_dependsOn.induction (C := fun v => ∃ N, ∀ F ≥ N, ∀ g', SameShape g g' →
    ∀ r, (vtxNotifyAdminDisable F v r g').Finished) v fun v ih => ?_
  obtain ⟨M, hM⟩ := dependents_bound hl v ih
  refine ⟨M + 1, fun F hF g' hs r => ?_⟩
  obtain ⟨F, rfl⟩ : ∃ F', F = F' + 1 := ⟨F - 1, by omega⟩
  have loop : ∀ g₁, SameShape g g₁ →
      (vtxDependentsDo (g₁.vtx v) (fun d => vtxNotifyAdminDisable F d r) g₁).Finished :=
    fun g₁ hs₁ => finished_foldlM (SameShape g)
      (fun s d hs => (vtxNotifyAdminDisable_sameShape F d r s).mono fun _ => hs.trans)
      (fun s d hd hs => hM F (by omega) s hs d (by rwa [hs.dependents, ← hs₁.dependents]) r)
      g₁ hs₁
  simp only [vtxNotifyAdminDisable]
  split
  · exact loop _ (hs.trans (sameShape_modify _ _ fun _ => rfl))
  · split
    · trivial
    · exact loop _ hs
  · exact loop _ hs

theorem vtxCanGoDown_terminates (v : Nat) : ∃ N, ∀ F ≥ N, ∀ g', SameShape g g' →
    ∀ root, (vtxCanGoDown g' F v root).Finished := by
  refine hc.wellFounded_dependsOn.induction (C := fun v => ∃ N, ∀ F ≥ N, ∀ g', SameShape g g' →
    ∀ root, (vtxCanGoDown g' F v root).Finished) v fun v ih => ?_
  obtain ⟨M, hM⟩ := dependents_bound hl v ih
  refine ⟨M + 1, fun F hF g' hs root => ?_⟩
  obtain ⟨F, rfl⟩ : ∃ F', F = F' + 1 := ⟨F - 1, by omega⟩
  simp only [vtxCanGoDown]
  refine finished_bind (allUntilFalse_finished fun d hd => ?_) fun _ _ => by
    split
    · trivial
    · split <;> trivial
  split
  · trivial
  · exact hM F (by omega) g' hs d hd false

theorem vtxOfflineDependency_terminates (v : Nat) : ∃ N, ∀ F ≥ N, ∀ g', SameShape g g' →
    ∀ r notes, (vtxOfflineDependency g' F v r notes).Finished := by
  refine (hc.wellFounded_dependencyOf hl).induction (C := fun v => ∃ N, ∀ F ≥ N, ∀ g',
    SameShape g g' → ∀ r notes, (vtxOfflineDependency g' F v r notes).Finished) v
    fun v ih => ?_
  obtain ⟨M, hM⟩ := exists_bound_forall_mem (g.vtx v).dependencies fun c hc => ih c hc
  obtain ⟨K, hK⟩ := vtxCanGoDown_terminates hl hc v
  refine ⟨max M K + 1, fun F hF g' hs r notes => ?_⟩
  obtain ⟨F, rfl⟩ : ∃ F', F = F' + 1 := ⟨F - 1, by omega⟩
  simp only [vtxOfflineDependency]
  split
  · trivial
  · split
    · exact finished_bind (hK F (by omega) g' hs true) fun _ _ => trivial
    · exact finished_foldlM (fun _ => True) (fun _ _ _ _ _ => trivial)
        (fun s c hc _ => hM c (by rwa [hs.dependencies] at hc) F (by omega) g' hs r s) _ trivial

end Acyclic

/-! ### No assert fails when the builder's guarantees hold -/

section NoAbort

variable {g : Graph} (ha : AbortFree g)
include ha

omit ha in
theorem cAssert_not_aborted {c : Bool} (h : c = true) : cAssert c ≠ .aborted := by
  subst h
  nofun

omit ha in
theorem vtxInstSatisfiesExclusion_not_aborted {v : Nat} (h : (g.vtx v).type = .inst) :
    vtxInstSatisfiesExclusion g v ≠ .aborted := by
  unfold vtxInstSatisfiesExclusion
  refine not_aborted_bind (cAssert_not_aborted (by simpa using h)) fun _ _ => ?_
  split
  · nofun
  · split <;> nofun

omit ha in
theorem requireAnyOver_not_aborted {e : Nat → Run Satisfied} :
    ∀ {l : List Nat}, (∀ c ∈ l, e c ≠ .aborted) → ∀ sat, requireAnyOver e l sat ≠ .aborted
  | [], _, _ => nofun
  | c :: l, h, _ => not_aborted_bind (h c (List.mem_cons_self _ _)) fun _ _ => by
    split
    · nofun
    · exact requireAnyOver_not_aborted (fun d hd => h d (List.mem_cons_of_mem _ hd)) _

omit ha in
theorem accumulateWith_not_aborted {e : Nat → Run Satisfied} {c : Nat} (h : e c ≠ .aborted)
    (sat : Satisfied) : accumulateWith e sat c ≠ .aborted :=
  not_aborted_bind h fun _ _ => nofun

omit ha in
theorem serviceTail_not_aborted {e : Nat → Run Satisfied} (dv : Nat)
    (h : (g.vtx dv).type = .svc → ∀ d ∈ (g.vtx dv).dependencies, e d ≠ .aborted)
    (sat : Satisfied) :
    (if (g.vtx dv).type = .svc then (g.vtx dv).dependencies.foldlM (accumulateWith e) sat
      else .done sat) ≠ .aborted := by
  split
  · exact not_aborted_foldlM (fun s d hd => accumulateWith_not_aborted (h ‹_› d hd) s) _
  · nofun

theorem satisfies_not_aborted : ∀ F,
    (∀ v recurse, depgroupIsSatisfied g F v recurse ≠ .aborted) ∧
    (∀ v recurse, vtxSatisfies g F v recurse ≠ .aborted) ∧
    (∀ v recurse, (g.vtx v).type = .inst →
      vtxInstSatisfies g F v recurse ≠ .aborted ∧ vtxInstSatisfiesOptional g F v recurse ≠ .aborted)
  | 0 => ⟨fun _ _ => nofun, fun _ _ => nofun, fun _ _ _ => ⟨nofun, nofun⟩⟩
  | F + 1 => by
    obtain ⟨dg, sat, inst⟩ := satisfies_not_aborted F
    have instBody : ∀ v recurse, (g.vtx v).type = .inst →
        vtxInstSatisfies g (F + 1) v recurse ≠ .aborted ∧
          vtxInstSatisfiesOptional g (F + 1) v recurse ≠ .aborted := fun v recurse hv => by
      simp only [vtxInstSatisfies, vtxInstSatisfiesOptional]
      refine ⟨not_aborted_bind (cAssert_not_aborted (by simpa using hv)) fun _ _ => ?_,
        not_aborted_bind (cAssert_not_aborted (by simpa using hv)) fun _ _ => ?_⟩
      all_goals
        split
        · exact done_ne_aborted _
        · split <;>
            first
            | exact done_ne_aborted _
            | split
              · exact done_ne_aborted _
              · exact not_aborted_bind (dg v recurse) fun _ _ => done_ne_aborted _
    refine ⟨fun v recurse => ?_, fun v recurse => ?_, instBody⟩
    · have loop : ∀ {f : Satisfied → Nat → Run Satisfied},
          (∀ s, ∀ c ∈ (g.vtx v).dependencies, f s c ≠ .aborted) →
          (g.vtx v).dependencies.foldlM f .satisfied ≠ .aborted := fun h => not_aborted_foldlM h _
      simp only [depgroupIsSatisfied]
      split
      · exact loop fun s c _ => accumulateWith_not_aborted (sat c recurse) s
      · split
        · nofun
        · exact requireAnyOver_not_aborted (fun c _ => sat c recurse) _
      · rename_i hopt
        refine loop fun _ dv hdv => not_aborted_bind
          (cAssert_not_aborted (by simpa using ha.noGroup v (.inl hopt) dv hdv)) fun _ _ => ?_
        have tail := serviceTail_not_aborted (e := fun d => vtxInstSatisfiesOptional g F d recurse) dv
          fun hsvc d hd => (inst d recurse (ha.optionalService v hopt dv hdv hsvc d hd)).2
        split
        · exact not_aborted_bind (accumulateWith_not_aborted (inst dv recurse ‹_›).2 _)
            fun _ _ => tail _
        · exact not_aborted_bind (by nofun) fun _ _ => tail _
      · rename_i hexcl
        refine loop fun _ dv hdv => not_aborted_bind
          (cAssert_not_aborted (by simpa using ha.noGroup v (.inr hexcl) dv hdv)) fun _ _ => ?_
        have tail := serviceTail_not_aborted (e := fun _ => vtxInstSatisfiesExclusion g dv) dv
          fun hsvc d hd => absurd hd (by rw [ha.excludedService v hexcl dv hdv hsvc]; exact List.not_mem_nil d)
        split
        · exact not_aborted_bind (accumulateWith_not_aborted
            (vtxInstSatisfiesExclusion_not_aborted ‹_›) _) fun _ _ => tail _
        · exact not_aborted_bind (by nofun) fun _ _ => tail _
    · simp only [vtxSatisfies]
      split
      · exact (inst v recurse ‹_›).1
      · exact dg v recurse

theorem vtxInstCanComeUp_not_aborted (F v : Nat) : vtxInstCanComeUp g F v ≠ .aborted := by
  unfold vtxInstCanComeUp
  split
  · exact not_aborted_bind ((satisfies_not_aborted ha F).1 v true) fun _ _ => nofun
  · nofun

theorem vtxNotifyMisc_not_aborted : ∀ F v r notes, vtxNotifyMisc g F v r notes ≠ .aborted
  | 0, _, _, _ => nofun
  | F + 1, v, r, notes => by
    have rest := not_aborted_foldlM (l := (g.vtx v).dependents)
      (f := fun s d => vtxNotifyMisc g F d r s) fun s d _ => vtxNotifyMisc_not_aborted F d r s
    simp only [vtxNotifyMisc]
    split
    · exact not_aborted_bind (vtxInstCanComeUp_not_aborted ha F v) fun _ _ =>
        not_aborted_bind (by nofun) fun _ _ => rest _
    · exact not_aborted_bind (by nofun) fun _ _ => rest _

end NoAbort

/-! ### The traversals on the builder's graphs -/

/-- On an acyclic graph the builder made, every traversal finishes under every large enough
    budget, whatever the states and flags of the vertices. -/
theorem traversals_terminate_on_acyclic_builds {repo : S16Repository} {g g' : Graph}
    (built : Built repo g) (acyclic : Acyclic g) (assigned : SameShape g g') (v : Nat) :
    ∃ N, ∀ F ≥ N, ∀ (r : Int) (notes : List S16Note) (root recurse : Bool) (g'' : Graph),
      SameShape g g'' →
      (vtxNotifyStart g' F v r notes).Finished ∧ (vtxNotifyStop g' F v r notes).Finished ∧
      (vtxNotifyMisc g' F v r notes).Finished ∧ (vtxNotifyAdminDisable F v r g'').Finished ∧
      (vtxCanGoDown g' F v root).Finished ∧ (vtxOfflineDependency g' F v r notes).Finished ∧
      (depgroupIsSatisfied g' F v recurse).Finished ∧ (vtxSatisfies g' F v recurse).Finished := by
  have hl := built.buildInv.core.linked
  obtain ⟨N₁, start⟩ := vtxNotifyStart_terminates hl acyclic v
  obtain ⟨N₂, stop⟩ := vtxNotifyStop_terminates hl acyclic v
  obtain ⟨N₃, misc⟩ := vtxNotifyMisc_terminates hl acyclic v
  obtain ⟨N₄, disable⟩ := vtxNotifyAdminDisable_terminates hl acyclic v
  obtain ⟨N₅, down⟩ := vtxCanGoDown_terminates hl acyclic v
  obtain ⟨N₆, dependency⟩ := vtxOfflineDependency_terminates hl acyclic v
  obtain ⟨N₇, sat⟩ := satisfies_terminates hl acyclic v
  refine ⟨N₁ + N₂ + N₃ + N₄ + N₅ + N₆ + N₇, fun F hF r notes root recurse g'' hs =>
    ⟨start F (by omega) g' assigned r notes, stop F (by omega) g' assigned r notes,
      misc F (by omega) g' assigned r notes, disable F (by omega) g'' hs r,
      down F (by omega) g' assigned root, dependency F (by omega) g' assigned r notes,
      (sat F (by omega) g' assigned recurse).1, (sat F (by omega) g' assigned recurse).2.1⟩⟩

theorem traversals_terminate_on_service_group :
    Built serviceGroupRepo serviceGroupGraph ∧ Acyclic serviceGroupGraph ∧
      ∃ N, ∀ F ≥ N, ∀ (r : Int) (notes : List S16Note) (root recurse : Bool) (g'' : Graph),
        SameShape serviceGroupGraph g'' →
        (vtxNotifyStart serviceGroupGraph F 1 r notes).Finished ∧
        (vtxNotifyStop serviceGroupGraph F 1 r notes).Finished ∧
        (vtxNotifyMisc serviceGroupGraph F 1 r notes).Finished ∧
        (vtxNotifyAdminDisable F 1 r g'').Finished ∧
        (vtxCanGoDown serviceGroupGraph F 1 root).Finished ∧
        (vtxOfflineDependency serviceGroupGraph F 1 r notes).Finished ∧
        (depgroupIsSatisfied serviceGroupGraph F 1 recurse).Finished ∧
        (vtxSatisfies serviceGroupGraph F 1 recurse).Finished := by
  have built : Built serviceGroupRepo serviceGroupGraph :=
    built_setupPass _ 10 _ 0 (@built_installAll _ serviceGroupRepo _ .empty (by decide)) _
      (by decide)
  have acyclic : Acyclic serviceGroupGraph :=
    acyclic_of_rank _ (fun v => [1, 0, 1, 0].getD v 0) (by decide)
  exact ⟨built, acyclic, traversals_terminate_on_acyclic_builds built acyclic (.refl _) 1⟩

theorem vtxNotifyMisc_done_dependents {g : Graph} {F v : Nat} {r : Int}
    {notes notes' : List S16Note} (h : vtxNotifyMisc g (F + 1) v r notes = .done notes') :
    ∀ d ∈ (g.vtx v).dependents, ∃ ns ns', vtxNotifyMisc g F d r ns = .done ns' := by
  simp only [vtxNotifyMisc] at h
  split at h
  · obtain ⟨_, -, h⟩ := Run.bind_eq_done.mp h
    obtain ⟨_, -, h⟩ := Run.bind_eq_done.mp h
    exact Run.foldlM_done_of_mem h
  · obtain ⟨_, -, h⟩ := Run.bind_eq_done.mp h
    exact Run.foldlM_done_of_mem h

/-- Instances `x:i` and `y:i` exclude each other. -/
def mutualExclusionRepo : S16Repository :=
  [installedService "x" [⟨.excludeAll, .any, [⟨"y", some "i"⟩]⟩],
   installedService "y" [⟨.excludeAll, .any, [⟨"x", some "i"⟩]⟩]]

def mutualExclusionGraph : Graph :=
  ⟨[⟨⟨"x", none⟩, .svc, .requireAll, .any, .uninitialised, true, false, false, false, [1], []⟩,
    ⟨⟨"x", some "i"⟩, .inst, .requireAll, .any, .uninitialised, true, true, false, false, [4],
      [0, 5]⟩,
    ⟨⟨"y", none⟩, .svc, .requireAll, .any, .uninitialised, true, false, false, false, [3], []⟩,
    ⟨⟨"y", some "i"⟩, .inst, .requireAll, .any, .uninitialised, true, true, false, false, [5],
      [2, 4]⟩,
    ⟨⟨"x", some "i#depgroups/0"⟩, .depgroup, .excludeAll, .any, .uninitialised, true, true, false,
      false, [3], [1]⟩,
    ⟨⟨"y", some "i#depgroups/0"⟩, .depgroup, .excludeAll, .any, .uninitialised, true, true, false,
      false, [1], [3]⟩]⟩

theorem notify_misc_loops_on_mutual_exclusion :
    setupPass mutualExclusionRepo 20 (installAll ⟨[]⟩ mutualExclusionRepo) 0 =
        .done mutualExclusionGraph ∧ Built mutualExclusionRepo mutualExclusionGraph ∧
      ∀ F (r : Int) notes, vtxNotifyMisc mutualExclusionGraph F 1 r notes = .exhausted := by
  have setup : setupPass mutualExclusionRepo 20 (installAll ⟨[]⟩ mutualExclusionRepo) 0 =
      .done mutualExclusionGraph := by decide
  have built : Built mutualExclusionRepo mutualExclusionGraph :=
    built_setupPass _ _ _ _ (@built_installAll _ mutualExclusionRepo _ .empty (by decide)) _ setup
  have initial : initialNotes mutualExclusionGraph 20 = .done [] := by decide
  have abortFree := built.buildInv.core.abortFree initial
  refine ⟨setup, built, fun F r notes => ?_⟩
  have cycle : ∀ F, ∀ v ∈ [1, 5, 3, 4], ∀ notes notes',
      vtxNotifyMisc mutualExclusionGraph F v r notes ≠ .done notes' := by
    intro F
    induction F with
    | zero => exact fun _ _ _ _ => nofun
    | succ F ih =>
      intro v hv notes notes' h
      obtain ⟨w, hw, hcyc⟩ : ∃ w ∈ (mutualExclusionGraph.vtx v).dependents, w ∈ [1, 5, 3, 4] := by
        simp only [List.mem_cons, List.mem_singleton, List.not_mem_nil, or_false] at hv
        rcases hv with rfl | rfl | rfl | rfl <;> decide
      obtain ⟨ns, ns', h'⟩ := vtxNotifyMisc_done_dependents h w hw
      exact ih w hcyc ns ns' h'
  cases h : vtxNotifyMisc mutualExclusionGraph F 1 r notes with
  | done notes' => exact absurd h (cycle F 1 (by decide) notes notes')
  | aborted => exact absurd h (vtxNotifyMisc_not_aborted abortFree F 1 r notes)
  | exhausted => rfl

end Graphd

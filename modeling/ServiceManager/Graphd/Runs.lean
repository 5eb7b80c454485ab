import ServiceManager.Graphd.Effect

/-!
Invariants of whole runs. The builder, called in any order, records every edge at both ends and
never gives two vertices one path, so `vtx_find_by_path` finds each vertex by its own path. After
the set-up pass of `graph_setup_all`, processing notes changes states and flags only: every state
the engine reaches has the vertices and edges that pass built and stays well built, and no drain
from such a state dereferences a missing vertex or fails an assert, whatever its budget and even
on a graph with a dependency cycle.
-/

namespace Graphd

variable {repo : S16Repository} {order : List S16Service} {g : Graph}

/-- Over every run of the builder the invariant holds, and `vtx_find_by_path` finds every vertex
    by its path. -/
theorem built_finds_every_vertex (h : Built repo g) :
    BuildInv g ∧ ∀ v < g.size, vtxFindByPath g (g.vtx v).path = some v :=
  ⟨h.buildInv, fun _ hv => vtxFindByPath_vtx h.buildInv.core.unique hv⟩

theorem stopOrderBuilt_finds_every_vertex :
    Built stopOrderRepo stopOrderBuilt ∧ BuildInv stopOrderBuilt ∧
      ∀ v < stopOrderBuilt.size,
        vtxFindByPath stopOrderBuilt (stopOrderBuilt.vtx v).path = some v :=
  have wf : ∀ svc ∈ stopOrderRepo, svc.WellFormed := by decide
  have built : Built stopOrderRepo stopOrderBuilt :=
    built_setupPass stopOrderRepo 30 _ 0 (built_installAll .empty wf) _ (by decide)
  ⟨built, built_finds_every_vertex built⟩

/-- Every state the engine reaches has the vertices and edges the set-up pass built, and is well
    built. -/
theorem reached_keeps_setup_shape (wf : ∀ svc ∈ order, svc.WellFormed)
    (reached : Reached repo order g) :
    (∃ fuel g₀, setupPass repo fuel (installAll ⟨[]⟩ order) 0 = .done g₀ ∧ SameShape g₀ g) ∧
      WellBuilt g := by
  refine ⟨?_, reached.wellBuilt wf⟩
  induction reached with
  | setup built => exact ⟨_, _, built, .refl _⟩
  | note _ processed ih =>
    obtain ⟨fuel, g₀, built, shape⟩ := ih
    exact ⟨fuel, g₀, built, shape.trans (graphProcessNote_sameShape _ _ _ _ processed)⟩

theorem stopOrderOnline_keeps_setup_shape :
    (∀ svc ∈ stopOrderRepo, svc.WellFormed) ∧ Reached stopOrderRepo stopOrderRepo stopOrderOnline ∧
      (∃ fuel g₀, setupPass stopOrderRepo fuel (installAll ⟨[]⟩ stopOrderRepo) 0 = .done g₀ ∧
        SameShape g₀ stopOrderOnline) ∧ WellBuilt stopOrderOnline :=
  have wf : ∀ svc ∈ stopOrderRepo, svc.WellFormed := by decide
  ⟨wf, stopOrder_quiescent.reached, reached_keeps_setup_shape wf stopOrder_quiescent.reached⟩

/-- From every reached state, handlers queue only state changes about vertices of the graph, and
    draining a queue the handlers can take never aborts, cycles included. -/
theorem reached_drain_never_aborts (wf : ∀ svc ∈ order, svc.WellFormed)
    (reached : Reached repo order g) {q : List S16Note} (hq : ∀ n ∈ q, Dispatchable g n) :
    (∀ F note p, graphProcessNote g F note = .done p → ∀ n ∈ p.2, StateChangeOf g n) ∧
      ∀ F, processNotes F g q ≠ .aborted :=
  have wb := reached.wellBuilt wf
  ⟨fun F note => graphProcessNote_queues wb.linked F note,
    fun F => processNotes_not_aborted F g q wb hq⟩

theorem stopOrder_disable_never_aborts :
    (∀ svc ∈ stopOrderRepo, svc.WellFormed) ∧ Reached stopOrderRepo stopOrderRepo stopOrderOnline ∧
      (∀ n ∈ [S16Note.adminReq .disable ⟨"v", some "i"⟩ 0], Dispatchable stopOrderOnline n) ∧
      ∀ F, processNotes F stopOrderOnline [.adminReq .disable ⟨"v", some "i"⟩ 0] ≠ .aborted :=
  have wf : ∀ svc ∈ stopOrderRepo, svc.WellFormed := by decide
  have hq : ∀ n ∈ [S16Note.adminReq .disable ⟨"v", some "i"⟩ 0], Dispatchable stopOrderOnline n :=
    by decide
  ⟨wf, stopOrder_quiescent.reached, hq,
    (reached_drain_never_aborts wf stopOrder_quiescent.reached hq).2⟩

end Graphd

import ServiceManager.Graphd.Marks

/-!
`SC_ONLINE` for an instance that is already Online. The handler writes Online over Online, so the
graph stays as it is, but it still runs `vtx_notify_start` over the instance's dependents, which
queues `SC_ONLINE` for every dependent instance that can come up and is not running. In the
middle of a drain such a dependent is common: one that another note has just taken down.
-/

namespace Graphd

open Run

/-- SC_ONLINE of an Online vertex leaves the graph unchanged and returns what
    `vtx_notify_start` queues over the vertex's dependents. -/
theorem vtxProcessStateChange_online_of_online {g : Graph} {F v : Nat} {r : Int}
    (online : (g.vtx v).state = .online) :
    vtxProcessStateChange g F v .online r =
      (vtxDependentsDo (g.vtx v) (fun d => vtxNotifyStart g F d r) []).bind
        fun notes => .done (g, notes) := by
  have same : g.modify v (fun x => { x with state := .online }) = g :=
    g.modify_of_eq (by rw [← online])
  simp only [vtxProcessStateChange, same]
  rfl

theorem stopOrder_after_w_offline :
    graphProcessNote stopOrderOnline 20 (.stateChange .offline ⟨"w", some "i"⟩ 0) =
      .done (stopOrderOnline.modify 3 (stateChangeWrite .offline),
        [.stateChange .online ⟨"w", some "i"⟩ 0, .stateChange .offline ⟨"y", some "i"⟩ 0]) := by
  decide

/-- A duplicate SC_ONLINE changes no vertex, but it queues notes: with `w:i` just taken down,
    SC_ONLINE for the Online `v:i` queues a second SC_ONLINE for `w:i`. -/
theorem duplicate_online_queues_dependent :
    (∀ g F v r, (g.vtx v).state = .online →
      Post (fun p => p.1 = g) (vtxProcessStateChange g F v .online r)) ∧
    ∃ g, Reached stopOrderRepo stopOrderRepo g ∧ (g.vtx 1).path = ⟨"v", some "i"⟩ ∧
      (g.vtx 1).type = .inst ∧ (g.vtx 1).state = .online ∧
      graphProcessNote g 20 (.stateChange .online ⟨"v", some "i"⟩ 0) =
        .done (g, [.stateChange .online ⟨"w", some "i"⟩ 0]) := by
  refine ⟨fun g F v r online p h => ?_, _,
    .note stopOrder_quiescent.reached stopOrder_after_w_offline, by decide, by decide, by decide,
    by decide⟩
  rw [vtxProcessStateChange_online_of_online online] at h
  obtain ⟨_, -, h⟩ := bind_eq_done.mp h
  cases h
  rfl

end Graphd

import ServiceManager.Graphd.Marks

/-!
What `vtx_can_go_down` decides. It walks up the dependents edges of a vertex: an instance not
marked `to_offline` ends the walk there and does not count, and every other vertex it meets is
looked at in turn, its own dependents first. Past the vertex it started from it says no at the
first running instance it meets. So at the root it says yes exactly when no path up dependents
edges through services, groups and marked instances ends at an Online or Degraded instance, and
on a graph whose dependency edges are acyclic it always answers.
-/

namespace Graphd

open Run

def Forwards (x : Vertex) : Prop :=
  x.type = .svc ∨ x.type = .depgroup ∨ (x.type = .inst ∧ x.toOffline = true)

instance (x : Vertex) : Decidable (Forwards x) := inferInstanceAs (Decidable (_ ∨ _ ∨ _))

theorem forwards_iff (x : Vertex) : Forwards x ↔ ¬ (x.type = .inst && !x.toOffline) = true := by
  unfold Forwards
  cases x.type <;> cases x.toOffline <;> simp

theorem vtxIsRunning_eq_true (x : Vertex) :
    vtxIsRunning x = true ↔ x.state = .online ∨ x.state = .degraded := by
  simp [vtxIsRunning]

/-- A path `v = y₀, y₁, …, yₖ` with `k ≥ 1` along dependents edges, the walk going on through
    every `yᵢ` past `v`, and `yₖ` an Online or Degraded instance. -/
inductive RunningAbove (g : Graph) : Nat → Prop
  | running {v y : Nat} : y ∈ (g.vtx v).dependents → Forwards (g.vtx y) →
    (g.vtx y).type = .inst → ((g.vtx y).state = .online ∨ (g.vtx y).state = .degraded) →
    RunningAbove g v
  | step {v y : Nat} : y ∈ (g.vtx v).dependents → Forwards (g.vtx y) → RunningAbove g y →
    RunningAbove g v

def StopsWalk (g : Graph) (d : Nat) : Prop :=
  Forwards (g.vtx d) ∧
    (RunningAbove g d ∨ ((g.vtx d).type = .inst ∧ vtxIsRunning (g.vtx d) = true))

theorem runningAbove_iff {g : Graph} {v : Nat} :
    RunningAbove g v ↔ ∃ d ∈ (g.vtx v).dependents, StopsWalk g d := by
  constructor
  · intro h
    cases h with
    | running hd fw inst run => exact ⟨_, hd, fw, .inr ⟨inst, (vtxIsRunning_eq_true _).mpr run⟩⟩
    | step hd fw above => exact ⟨_, hd, fw, .inl above⟩
  · rintro ⟨d, hd, fw, above | ⟨inst, run⟩⟩
    · exact .step hd fw above
    · exact .running hd fw inst ((vtxIsRunning_eq_true _).mp run)

theorem allUntilFalse_true {check : Nat → Run Bool} :
    ∀ {l : List Nat}, allUntilFalse check l = .done true → ∀ d ∈ l, check d = .done true
  | [], _ => nofun
  | d :: l, h => by
    obtain ⟨ok, hok, rest⟩ := bind_eq_done.mp h
    cases ok
    · cases rest
    · exact List.forall_mem_cons.mpr ⟨hok, allUntilFalse_true (by simpa using rest)⟩

theorem allUntilFalse_iff {check : Nat → Run Bool} {P : Nat → Prop} {l : List Nat} {ok : Bool}
    (spec : ∀ d ∈ l, ∀ c, check d = .done c → (c = true ↔ ¬ P d))
    (h : allUntilFalse check l = .done ok) : ok = true ↔ ∀ d ∈ l, ¬ P d := by
  cases ok
  · obtain ⟨d, hd, hc⟩ := allUntilFalse_false h
    exact iff_of_false Bool.false_ne_true fun none =>
      Bool.false_ne_true ((spec d hd false hc).mpr (none d hd))
  · exact iff_of_true rfl fun d hd => (spec d hd true (allUntilFalse_true h d hd)).mp rfl

theorem vtxCanGoDown_eq_true_iff {g : Graph} : ∀ {F v : Nat} {root b : Bool},
    vtxCanGoDown g F v root = .done b → (b = true ↔ ¬ RunningAbove g v ∧
      ¬ ((g.vtx v).type = .inst ∧ vtxIsRunning (g.vtx v) = true ∧ root = false))
  | 0, _, _, _, h => nomatch h
  | F + 1, v, root, b, h => by
    simp only [vtxCanGoDown] at h
    obtain ⟨ok, hok, rest⟩ := bind_eq_done.mp h
    have checked : ok = true ↔ ∀ d ∈ (g.vtx v).dependents, ¬ StopsWalk g d := by
      refine allUntilFalse_iff (fun d _ c hc => ?_) hok
      split at hc
      · next skipped =>
        cases hc
        exact iff_of_true rfl fun stops => (forwards_iff _).mp stops.1 skipped
      · next kept =>
        rw [vtxCanGoDown_eq_true_iff hc, StopsWalk, and_iff_right ((forwards_iff _).mpr kept)]
        simp
    simp only [runningAbove_iff, not_exists, not_and, ← checked]
    cases ok
    · simp only [Bool.not_false, if_true, done.injEq] at rest
      simp [← rest]
    · simp only [Bool.not_true, Bool.false_eq_true, if_false] at rest
      split at rest <;> cases rest <;> simp_all

/-- On an acyclic graph `vtx_can_go_down (v, true)` answers, and says yes exactly when no path up
    through services, groups and marked instances ends at an Online or Degraded instance. -/
theorem vtxCanGoDown_iff_no_running_above {g : Graph} (linked : WellLinked g)
    (acyclic : Acyclic g) (v : Nat) :
    ∃ N b, (∀ F ≥ N, vtxCanGoDown g F v true = .done b) ∧ (b = true ↔ ¬ RunningAbove g v) := by
  obtain ⟨N, finished⟩ := vtxCanGoDown_terminates linked acyclic v
  obtain ⟨b, hb⟩ := exists_done (finished N le_rfl g (.refl g) true)
    (vtxCanGoDown_not_aborted g N v true)
  refine ⟨N, b, fun F hF => ?_, by simpa using vtxCanGoDown_eq_true_iff hb⟩
  rw [← (below_of_le (vtxCanGoDown_below g · v true) hF).eq (by rw [hb]; trivial), hb]

def stopOrderMarked : Graph := stopOrderOnline.modify 3 fun x => { x with toOffline := true }

theorem stopOrderMarked_running_above :
    WellLinked stopOrderMarked ∧ Acyclic stopOrderMarked ∧ RunningAbove stopOrderMarked 1 ∧
      ∃ N b, (∀ F ≥ N, vtxCanGoDown stopOrderMarked F 1 true = .done b) ∧
        (b = true ↔ ¬ RunningAbove stopOrderMarked 1) := by
  have wf : ∀ svc ∈ stopOrderRepo, svc.WellFormed := by decide
  have marked : SameShape stopOrderOnline stopOrderMarked := sameShape_modify _ _ fun _ => rfl
  have linked := marked.wellLinked (stopOrder_quiescent.reached.wellBuilt wf).linked
  have acyclic := marked.acyclic
    (acyclic_of_rank _ (fun v => [1, 0, 3, 2, 7, 6, 5, 4, 1, 5, 3].getD v 0) (by decide))
  exact ⟨linked, acyclic,
    .step (y := 8) (by decide) (by decide)
      (.running (y := 3) (by decide) (by decide) rfl (by decide)),
    vtxCanGoDown_iff_no_running_above linked acyclic 1⟩

example : vtxCanGoDown stopOrderMarked 4 1 true = .done false := by decide

end Graphd

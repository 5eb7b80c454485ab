import ServiceManager.Graphd.Runs

/-!
What the engine asks of an instance before it asks for it to be started. `vtx_inst_can_come_up`
says yes only when the vertex is enabled and unmarked and its groups evaluate to SATISFIED. A
RequireAll loop is SATISFIED only when every child is, and an ExcludeAll loop only when every
instance it names is not set up, Disabled or in Maintenance. So every instance a vertex requires,
down dependency edges through RequireAll groups and services, is set up, enabled, and Online or
Degraded, and every instance an ExcludeAll group on that way names is out of service. Every
SC_ONLINE a handler queues is about a vertex that can come up in the graph the handler leaves, so
the engine never asks for a vertex to be started before what it requires is up, nor while an
instance it excludes is Offline, Online or Degraded.
-/
namespace Graphd

open Run

variable {g : Graph}

/-- `x` is required by `u`: reached from `u` down dependency edges, going on through RequireAll
    groups and services, and out of a RequireAll vertex only. -/
inductive Requires (g : Graph) : Nat → Nat → Prop
  | dep {u x : Nat} : (g.vtx u).dgType = .requireAll → x ∈ (g.vtx u).dependencies →
    Requires g u x
  | through {u y x : Nat} : Requires g u y → (g.vtx y).type ≠ .inst →
    (g.vtx y).dgType = .requireAll → x ∈ (g.vtx y).dependencies → Requires g u x

/-- Set up, enabled, and Online or Degraded: what SATISFIED says of an instance. -/
def Up (g : Graph) (x : Nat) : Prop :=
  (g.vtx x).isSetup = true ∧ (g.vtx x).isEnabled = true ∧ vtxIsRunning (g.vtx x) = true

theorem accumulate_eq_satisfied {sat esat : Satisfied} :
    sat.accumulate esat = .satisfied ↔ sat = .satisfied ∧ esat = .satisfied := by
  cases sat <;> cases esat <;> decide

theorem foldlM_satisfied {step : Satisfied → Nat → Run Satisfied} {P : Nat → Prop}
    (turn : ∀ sat c, step sat c = .done .satisfied → sat = .satisfied ∧ P c) :
    ∀ {l : List Nat} {sat : Satisfied}, l.foldlM step sat = .done .satisfied →
      sat = .satisfied ∧ ∀ c ∈ l, P c
  | [], _, h => ⟨(Run.done.inj h).symm ▸ rfl, nofun⟩
  | c :: l, sat, h => by
    rw [List.foldlM_cons] at h
    obtain ⟨s₁, first, rest⟩ := bind_eq_done.mp h
    obtain ⟨rfl, others⟩ := foldlM_satisfied turn rest
    obtain ⟨start, child⟩ := turn _ _ first
    exact ⟨start, List.forall_mem_cons.mpr ⟨child, others⟩⟩

theorem accumulateWith_satisfied {e : Nat → Run Satisfied} (sat : Satisfied) (c : Nat)
    (h : accumulateWith e sat c = .done .satisfied) :
    sat = .satisfied ∧ e c = .done .satisfied := by
  obtain ⟨esat, child, acc⟩ := bind_eq_done.mp h
  obtain ⟨rfl, rfl⟩ := accumulate_eq_satisfied.mp (Run.done.inj acc)
  exact ⟨rfl, child⟩

theorem foldlM_accumulate_satisfied {e : Nat → Run Satisfied} {l : List Nat} {sat : Satisfied}
    (h : l.foldlM (accumulateWith e) sat = .done .satisfied) :
    sat = .satisfied ∧ ∀ c ∈ l, e c = .done .satisfied :=
  foldlM_satisfied accumulateWith_satisfied h

theorem depgroupIsSatisfied_requireAll {F u : Nat} {rec : Bool}
    (all : (g.vtx u).dgType = .requireAll)
    (h : depgroupIsSatisfied g F u rec = .done .satisfied) :
    ∃ F', ∀ c ∈ (g.vtx u).dependencies, vtxSatisfies g F' c rec = .done .satisfied := by
  obtain _ | F := F
  · cases h
  simp only [depgroupIsSatisfied, all] at h
  exact ⟨F, (foldlM_accumulate_satisfied h).2⟩

theorem vtxSatisfies_inst {F x : Nat} {rec : Bool} (inst : (g.vtx x).type = .inst)
    (h : vtxSatisfies g F x rec = .done .satisfied) : Up g x := by
  obtain _ | _ | F := F
  · cases h
  · simp only [vtxSatisfies, inst, if_true, vtxInstSatisfies] at h
    cases h
  simp only [vtxSatisfies, inst, if_true, vtxInstSatisfies, cAssert, decide_True, if_true,
    done_bind] at h
  split at h
  · cases h
  · next ready =>
    simp only [Bool.or_eq_true, Bool.not_eq_true', not_or, Bool.not_eq_false] at ready
    refine ⟨ready.1, ready.2, ?_⟩
    split at h
    any_goals cases h
    · split at h
      · cases h
      · obtain ⟨_, -, h⟩ := bind_eq_done.mp h
        split at h <;> cases h
    all_goals simp [vtxIsRunning, *]

theorem vtxSatisfies_group {F u : Nat} {rec : Bool} {s : Satisfied} (group : (g.vtx u).type ≠ .inst)
    (h : vtxSatisfies g F u rec = .done s) : ∃ F', depgroupIsSatisfied g F' u rec = .done s := by
  obtain _ | F := F
  · cases h
  simp only [vtxSatisfies, group, if_false] at h
  exact ⟨F, h⟩

theorem Requires.satisfied {u x : Nat} {rec : Bool} (req : Requires g u x) :
    ∀ {F : Nat}, depgroupIsSatisfied g F u rec = .done .satisfied →
      ∃ F', vtxSatisfies g F' x rec = .done .satisfied := by
  induction req with
  | dep all hx =>
    intro F h
    obtain ⟨F₁, children⟩ := depgroupIsSatisfied_requireAll all h
    exact ⟨F₁, children _ hx⟩
  | through _ group all hx ih =>
    intro F h
    obtain ⟨F₁, sat⟩ := ih h
    obtain ⟨F₂, sat⟩ := vtxSatisfies_group group sat
    obtain ⟨F₃, children⟩ := depgroupIsSatisfied_requireAll all sat
    exact ⟨F₃, children _ hx⟩

theorem CanComeUp.satisfied {x : Nat} (h : CanComeUp g x) :
    ((g.vtx x).isEnabled = true ∧ (g.vtx x).toOffline = false ∧ (g.vtx x).toDisable = false) ∧
      ∃ F, depgroupIsSatisfied g F x true = .done .satisfied := by
  obtain ⟨F, h⟩ := h
  unfold vtxInstCanComeUp at h
  split at h
  · next ready =>
    obtain ⟨sat, hsat, rest⟩ := bind_eq_done.mp h
    obtain rfl : sat = .satisfied := by simpa using (Run.done.inj rest).symm
    simp only [Bool.and_eq_true, Bool.not_eq_true'] at ready
    exact ⟨⟨ready.1.1, ready.1.2, ready.2⟩, F, hsat⟩
  · cases h

theorem CanComeUp.requirements {x : Nat} (h : CanComeUp g x) :
    (g.vtx x).isEnabled = true ∧ (g.vtx x).toOffline = false ∧ (g.vtx x).toDisable = false ∧
      ∀ y, Requires g x y → (g.vtx y).type = .inst → Up g y := by
  obtain ⟨⟨enabled, unmarked, kept⟩, F, hsat⟩ := h.satisfied
  refine ⟨enabled, unmarked, kept, fun y req inst => ?_⟩
  obtain ⟨F₁, sat⟩ := req.satisfied hsat
  exact vtxSatisfies_inst inst sat

/-! ### Exclusions -/

def OutOfService (g : Graph) (y : Nat) : Prop :=
  (g.vtx y).isSetup = false ∨ (g.vtx y).state = .disabled ∨ (g.vtx y).state = .maintenance

theorem vtxInstSatisfiesExclusion_satisfied {y : Nat}
    (h : vtxInstSatisfiesExclusion g y = .done .satisfied) : OutOfService g y := by
  obtain ⟨_, -, h⟩ := bind_eq_done.mp h
  unfold OutOfService
  split at h
  · next unset => exact .inl (by simpa using unset)
  · split at h
    any_goals cases h
    · exact .inr (.inr ‹_›)
    · exact .inr (.inl ‹_›)
    all_goals split at h <;> cases h

theorem depgroupIsSatisfied_excludeAll {F u : Nat} {rec : Bool}
    (excl : (g.vtx u).dgType = .excludeAll) (h : depgroupIsSatisfied g F u rec = .done .satisfied) :
    ∀ y ∈ (g.vtx u).dependencies, (g.vtx y).type = .inst → OutOfService g y := by
  obtain _ | F := F
  · cases h
  simp only [depgroupIsSatisfied, excl] at h
  refine (foldlM_satisfied (fun sat dv turn => ?_) h).2
  obtain ⟨_, -, turn⟩ := bind_eq_done.mp turn
  by_cases inst : (g.vtx dv).type = .inst
  · simp only [inst, if_true, reduceCtorEq, if_false] at turn
    obtain ⟨s, acc, fin⟩ := bind_eq_done.mp turn
    cases fin
    obtain ⟨rfl, excluded⟩ := accumulateWith_satisfied _ _ acc
    exact ⟨rfl, fun _ => vtxInstSatisfiesExclusion_satisfied excluded⟩
  · simp only [inst, if_false, done_bind] at turn
    refine ⟨?_, fun h => (inst h).elim⟩
    split at turn
    · exact (foldlM_accumulate_satisfied turn).1
    · exact Run.done.inj turn

/-- `y` is excluded by `x`: an ExcludeAll group that `x` requires names it. -/
def Excludes (g : Graph) (x y : Nat) : Prop :=
  ∃ u, Requires g x u ∧ (g.vtx u).type ≠ .inst ∧ (g.vtx u).dgType = .excludeAll ∧
    y ∈ (g.vtx u).dependencies

theorem CanComeUp.exclusions {x : Nat} (h : CanComeUp g x) :
    ∀ y, Excludes g x y → (g.vtx y).type = .inst → OutOfService g y := by
  obtain ⟨-, F, hsat⟩ := h.satisfied
  rintro y ⟨u, req, group, excl, hy⟩ inst
  obtain ⟨F₁, sat⟩ := req.satisfied hsat
  obtain ⟨F₂, sat⟩ := vtxSatisfies_group group sat
  exact depgroupIsSatisfied_excludeAll excl sat y hy inst

theorem NoteEffect.online_canComeUp {note : S16Note} {p : Graph × List S16Note}
    (h : NoteEffect g note p) {path : S16Path} {r : Int}
    (queued : .stateChange .online path r ∈ p.2) :
    ∃ x, (p.1.vtx x).path = path ∧ CanComeUp p.1 x := by
  obtain ⟨g₁, new⟩ := p
  rcases h.queued_cases queued with ⟨_, _, e⟩ | ⟨x, _, e, can⟩ | ⟨_, _, -, -, e⟩
  · cases e
  · exact ⟨x, (S16Note.stateChange.inj e).2.1.symm, can⟩
  · cases e

/-- Every SC_ONLINE a handler queues names a vertex that is enabled and unmarked, and every
    instance it requires through RequireAll groups and services is up. -/
theorem queued_online_requirements_up {F : Nat} {note : S16Note} {g' : Graph}
    {new : List S16Note} (h : graphProcessNote g F note = .done (g', new)) {path : S16Path}
    {r : Int} (queued : .stateChange .online path r ∈ new) :
    ∃ x, (g'.vtx x).path = path ∧ (g'.vtx x).isEnabled = true ∧ (g'.vtx x).toOffline = false ∧
      (g'.vtx x).toDisable = false ∧ ∀ y, Requires g' x y → (g'.vtx y).type = .inst → Up g' y := by
  obtain ⟨x, named, can⟩ := (graphProcessNote_effect h).online_canComeUp queued
  exact ⟨x, named, can.requirements⟩

theorem stopOrder_started_dependent_requirements_up :
    ∃ g' new, graphProcessNote (stopOrderBuilt.modify 1 (stateChangeWrite .offline)) 30
      (.stateChange .online ⟨"v", some "i"⟩ 0) = .done (g', new) ∧
      .stateChange .online ⟨"w", some "i"⟩ 0 ∈ new ∧ (g'.vtx 3).path = ⟨"w", some "i"⟩ ∧
      Requires g' 3 1 ∧ (g'.vtx 1).type = .inst ∧ Up g' 1 := by
  have h : graphProcessNote (stopOrderBuilt.modify 1 (stateChangeWrite .offline)) 30
      (.stateChange .online ⟨"v", some "i"⟩ 0) =
      .done ((stopOrderBuilt.modify 1 (stateChangeWrite .offline)).modify 1
        (stateChangeWrite .online), [.stateChange .online ⟨"w", some "i"⟩ 0]) := by decide
  obtain ⟨x, named, -, -, -, up⟩ := queued_online_requirements_up h (List.mem_singleton_self _)
  have three : x = 3 := by
    by_cases lt : x < 11
    · exact (by decide : ∀ x < 11, (((stopOrderBuilt.modify 1 (stateChangeWrite .offline)).modify 1
        (stateChangeWrite .online)).vtx x).path = ⟨"w", some "i"⟩ → x = 3) x lt named
    · rw [Graph.vtx_of_size_le (by simpa using Nat.le_of_not_lt lt)] at named
      exact absurd named (by decide)
  subst three
  refine ⟨_, _, h, List.mem_singleton_self _, named, ?req, by decide, up 1 ?req (by decide)⟩
  exact .through (y := 8) (.dep (by decide) (by decide)) (by decide) (by decide) (by decide)

/-- Every SC_ONLINE a handler queues names a vertex every instance of whose ExcludeAll
    requirements is not set up, Disabled or in Maintenance. -/
theorem queued_online_exclusions_out_of_service {F : Nat} {note : S16Note} {g' : Graph}
    {new : List S16Note} (h : graphProcessNote g F note = .done (g', new)) {path : S16Path}
    {r : Int} (queued : .stateChange .online path r ∈ new) :
    ∃ x, (g'.vtx x).path = path ∧
      ∀ y, Excludes g' x y → (g'.vtx y).type = .inst → OutOfService g' y := by
  obtain ⟨x, named, can⟩ := (graphProcessNote_effect h).online_canComeUp queued
  exact ⟨x, named, can.exclusions⟩

def startableExcluderOffline : Graph :=
  withInstances startableBuilt [(.disabled, false, false, false), (.offline, true, false, false),
    (.offline, false, false, false), (.offline, true, false, false)]

theorem startable_excluder_online_exclusions_out_of_service :
    ∃ g' new, graphProcessNote startableExcluderOffline 30
      (.stateChange .offline ⟨"x", some "i"⟩ 0) = .done (g', new) ∧
      .stateChange .online ⟨"x", some "i"⟩ 0 ∈ new ∧ ∃ x, (g'.vtx x).path = ⟨"x", some "i"⟩ ∧
        ∀ y, Excludes g' x y → (g'.vtx y).type = .inst → OutOfService g' y := by
  have h : graphProcessNote startableExcluderOffline 30 (.stateChange .offline ⟨"x", some "i"⟩ 0) =
      .done (startableExcluderOffline.modify 3 (stateChangeWrite .offline),
        [.stateChange .online ⟨"x", some "i"⟩ 0]) := by decide
  exact ⟨_, _, h, List.mem_singleton_self _,
    queued_online_exclusions_out_of_service h (List.mem_singleton_self _)⟩

end Graphd

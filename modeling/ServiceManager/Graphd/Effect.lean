import ServiceManager.Graphd.Propagation

/-!
What processing one note does, said without budgets or recursion: how the vertex it names changes,
which marks are set, and which notes are queued, as sets of vertices read off the graph
(`NoteEffect`). Every result `graph_process_note` returns is such an effect, so every drain the
loop finishes is a run of the abstract engine that takes the head note, has its effect and queues
its notes at the back (`Settles`). On an acyclic graph whose asserts hold, every note that names a
vertex has its effect under every large enough budget, and every such queue settles.
-/

namespace Graphd

open Run

variable {g : Graph}

def disableWrite (x : Vertex) : Vertex :=
  { x with toDisable := true, toOffline := true, isEnabled := false }

def enableWrite (x : Vertex) : Vertex :=
  { x with toDisable := false, toOffline := false, isEnabled := true }

/-- The effect of one note: the graph after it and the notes it queues. -/
inductive NoteEffect (g : Graph) : S16Note → Graph × List S16Note → Prop
  | disable {path : S16Path} {v : Nat} {r : Int} {g' : Graph} {notes : List S16Note} :
    vtxFindByPath g path = some v →
    MarksExactly (g.modify v disableWrite)
      (fun x => ∃ d ∈ (g.vtx v).dependents, Climbs g PassesDisable d x) g' →
    (∀ n, n ∈ notes ↔ ∃ x < g.size, GoesDown g' x ∧
      n = vtxOffline (g'.vtx x) S16DependencyGroupRestartOnCondition.restart.toInt) →
    NoteEffect g (.adminReq .disable path r) (g', notes)
  | enable {path : S16Path} {v : Nat} {r : Int} : vtxFindByPath g path = some v →
    NoteEffect g (.adminReq .enable path r)
      (g.modify v enableWrite, [vtxEnable ((g.modify v enableWrite).vtx v)])
  | refresh {path : S16Path} {r : Int} : NoteEffect g (.adminReq .refresh path r) (g, [])
  | online {path : S16Path} {v : Nat} {r : Int} {notes : List S16Note} :
    vtxFindByPath g path = some v →
    (∀ n, n ∈ notes ↔
      ∃ d ∈ (g.vtx v).dependents, StartNotes (g.modify v (stateChangeWrite .online)) d n) →
    NoteEffect g (.stateChange .online path r) (g.modify v (stateChangeWrite .online), notes)
  | offlineMarked {path : S16Path} {v : Nat} {r : Int} {down stops : List S16Note} :
    vtxFindByPath g path = some v → (g.vtx v).toOffline = true →
    (∀ n, n ∈ down ↔
      ∃ c ∈ (g.vtx v).dependencies, DownNotes (g.modify v (stateChangeWrite .offline)) r c n) →
    (∀ n, n ∈ stops ↔
      ∃ d ∈ (g.vtx v).dependents, StopNotes (g.modify v (stateChangeWrite .offline)) r d n) →
    NoteEffect g (.stateChange .offline path r) (g.modify v (stateChangeWrite .offline),
      (if (g.vtx v).toDisable then
        down ++ [vtxDisable ((g.modify v (stateChangeWrite .offline)).vtx v) r] else down) ++ stops)
  | offlineUnmarked {path : S16Path} {v : Nat} {r : Int} {first stops : List S16Note} :
    vtxFindByPath g path = some v → (g.vtx v).toOffline = false →
    (first = [vtxOnline ((g.modify v (stateChangeWrite .offline)).vtx v) r] ∧
        CanComeUp (g.modify v (stateChangeWrite .offline)) v ∨
      first = [] ∧ ¬ CanComeUp (g.modify v (stateChangeWrite .offline)) v) →
    (∀ n, n ∈ stops ↔
      ∃ d ∈ (g.vtx v).dependents, StopNotes (g.modify v (stateChangeWrite .offline)) r d n) →
    NoteEffect g (.stateChange .offline path r) (g.modify v (stateChangeWrite .offline),
      first ++ stops)
  | disabled {path : S16Path} {v : Nat} {r : Int} {notes : List S16Note} :
    vtxFindByPath g path = some v →
    (∀ n, n ∈ notes ↔
      ∃ d ∈ (g.vtx v).dependents, MiscNotes (g.modify v (stateChangeWrite .disabled)) r d n) →
    NoteEffect g (.stateChange .disabled path r) (g.modify v (stateChangeWrite .disabled), notes)
  | unchanged {type : S16NoteScType} {path : S16Path} {v : Nat} {r : Int} :
    vtxFindByPath g path = some v → type = .degraded ∨ type = .maintenance →
    NoteEffect g (.stateChange type path r) (g, [])
  | rreq {path : S16Path} {r : Int} : NoteEffect g (.rreq path r) (g, [])

/-! ### The handlers have their effects -/

section Branches

variable (g : Graph) (F v : Nat) (r : Int)

theorem vtxProcessStateChange_online : vtxProcessStateChange g F v .online r =
    vtxDependentsDo ((g.modify v (stateChangeWrite .online)).vtx v)
      (fun d => vtxNotifyStart (g.modify v (stateChangeWrite .online)) F d r) [] >>=
      fun notes => .done (g.modify v (stateChangeWrite .online), notes) := rfl

theorem vtxProcessStateChange_offline_of_marked (marked : (g.vtx v).toOffline = true) :
    vtxProcessStateChange g F v .offline r =
      vtxDependenciesDo ((g.modify v (stateChangeWrite .offline)).vtx v)
        (fun c => vtxOfflineDependency (g.modify v (stateChangeWrite .offline)) F c r) [] >>=
      fun down => vtxDependentsDo ((g.modify v (stateChangeWrite .offline)).vtx v)
        (fun d => vtxNotifyStop (g.modify v (stateChangeWrite .offline)) F d r)
        (if (g.vtx v).toDisable then
          down ++ [vtxDisable ((g.modify v (stateChangeWrite .offline)).vtx v) r] else down) >>=
      fun notes => .done (g.modify v (stateChangeWrite .offline), notes) := by
  have keeps :
      ((g.modify v (stateChangeWrite .offline)).vtx v).toDisable = (g.vtx v).toDisable := by
    rw [Graph.vtx_modify]
    split <;> rfl
  simp only [vtxProcessStateChange, marked, if_true, ← keeps]
  rfl

theorem vtxProcessStateChange_offline_of_unmarked (unmarked : (g.vtx v).toOffline = false) :
    vtxProcessStateChange g F v .offline r =
      vtxInstCanComeUp (g.modify v (stateChangeWrite .offline)) F v >>=
      fun up => vtxDependentsDo ((g.modify v (stateChangeWrite .offline)).vtx v)
        (fun d => vtxNotifyStop (g.modify v (stateChangeWrite .offline)) F d r)
        (if up then [vtxOnline ((g.modify v (stateChangeWrite .offline)).vtx v) r] else []) >>=
      fun notes => .done (g.modify v (stateChangeWrite .offline), notes) := by
  simp only [vtxProcessStateChange, unmarked]
  rfl

theorem vtxProcessStateChange_disabled : vtxProcessStateChange g F v .disabled r =
    vtxDependentsDo ((g.modify v (stateChangeWrite .disabled)).vtx v)
      (fun d => vtxNotifyMisc (g.modify v (stateChangeWrite .disabled)) F d r) [] >>=
      fun notes => .done (g.modify v (stateChangeWrite .disabled), notes) := rfl

end Branches

theorem vtxProcessAdminReq_effect {F v : Nat} {path : S16Path}
    (found : vtxFindByPath g path = some v)
    {type : S16NoteAdminType} {r : Int} {p : Graph × List S16Note}
    (h : vtxProcessAdminReq g F v type r = .done p) : NoteEffect g (.adminReq type path r) p := by
  cases type with
  | disable =>
    simp only [vtxProcessAdminReq] at h
    obtain ⟨g', marked, h⟩ := bind_eq_done.mp h
    obtain ⟨_, -, h⟩ := bind_eq_done.mp h
    obtain ⟨notes, scan, rest⟩ := bind_eq_done.mp h
    obtain rfl := Run.done.inj rest
    have shape := sameShape_modify g v (f := disableWrite) fun _ => rfl
    have marks : MarksExactly (g.modify v disableWrite)
        (fun x => ∃ d ∈ (g.vtx v).dependents, Climbs g PassesDisable d x) g' := by
      rw [← shape.dependents v]
      exact marksExactly_foldlM g (f := fun s d => vtxNotifyAdminDisable F d r s) shape
        (fun d _ _ _ hs => vtxNotifyAdminDisable_marksExactly g hs) marked
    refine .disable found marks fun n => ?_
    rw [scan_appendsExactly scan, marks.size, Graph.size_modify]
  | enable =>
    cases h
    exact .enable found
  | refresh =>
    cases h
    exact .refresh

theorem vtxProcessStateChange_effect {F v : Nat} {path : S16Path}
    (found : vtxFindByPath g path = some v) {type : S16NoteScType} {r : Int}
    {p : Graph × List S16Note} (h : vtxProcessStateChange g F v type r = .done p) :
    NoteEffect g (.stateChange type path r) p := by
  have shape := fun type => sameShape_modify g v (stateChangeWrite_shape type)
  cases type with
  | online =>
    rw [vtxProcessStateChange_online] at h
    obtain ⟨notes, climb, rest⟩ := bind_eq_done.mp h
    obtain rfl := Run.done.inj rest
    obtain ⟨e, rfl, he⟩ := appendsExactly_foldlM (f := fun s d => vtxNotifyStart _ F d r s)
      (fun d _ _ _ => vtxNotifyStart_appendsExactly) climb
    exact .online found fun n => (he n).trans (by rw [(shape .online).dependents])
  | offline =>
    have stops {notes notes' : List S16Note} (h : vtxDependentsDo
        ((g.modify v (stateChangeWrite .offline)).vtx v)
        (fun d => vtxNotifyStop (g.modify v (stateChangeWrite .offline)) F d r) notes =
          .done notes') :=
      appendsExactly_foldlM (f := fun s d => vtxNotifyStop _ F d r s)
        (fun d _ _ _ => vtxNotifyStop_appendsExactly) h
    cases marked : (g.vtx v).toOffline
    · rw [vtxProcessStateChange_offline_of_unmarked g F v r marked] at h
      obtain ⟨up, hup, h⟩ := bind_eq_done.mp h
      obtain ⟨notes, climb, rest⟩ := bind_eq_done.mp h
      obtain rfl := Run.done.inj rest
      obtain ⟨e, rfl, he⟩ := stops climb
      refine .offlineUnmarked found marked ?_ fun n => (he n).trans
        (by rw [(shape .offline).dependents])
      have can := vtxInstCanComeUp_eq_true_iff hup
      cases up
      · exact .inr ⟨rfl, fun h => Bool.false_ne_true (can.mpr h)⟩
      · exact .inl ⟨rfl, can.mp rfl⟩
    · rw [vtxProcessStateChange_offline_of_marked g F v r marked] at h
      obtain ⟨down, descent, h⟩ := bind_eq_done.mp h
      obtain ⟨notes, climb, rest⟩ := bind_eq_done.mp h
      obtain rfl := Run.done.inj rest
      obtain ⟨e, rfl, he⟩ := stops climb
      obtain ⟨e', rfl, he'⟩ := appendsExactly_foldlM
        (f := fun s c => vtxOfflineDependency _ F c r s)
        (fun c _ _ _ => vtxOfflineDependency_appendsExactly) descent
      exact .offlineMarked found marked (fun n => (he' n).trans
        (by rw [(shape .offline).dependencies])) fun n => (he n).trans
        (by rw [(shape .offline).dependents])
  | disabled =>
    rw [vtxProcessStateChange_disabled] at h
    obtain ⟨notes, climb, rest⟩ := bind_eq_done.mp h
    obtain rfl := Run.done.inj rest
    obtain ⟨e, rfl, he⟩ := appendsExactly_foldlM (f := fun s d => vtxNotifyMisc _ F d r s)
      (fun d _ _ _ => vtxNotifyMisc_appendsExactly) climb
    exact .disabled found fun n => (he n).trans (by rw [(shape .disabled).dependents])
  | degraded =>
    cases h
    exact .unchanged found (.inl rfl)
  | maintenance =>
    cases h
    exact .unchanged found (.inr rfl)

theorem graphProcessNote_effect {F : Nat} {note : S16Note} {p : Graph × List S16Note}
    (h : graphProcessNote g F note = .done p) : NoteEffect g note p := by
  cases note with
  | adminReq type path r =>
    simp only [graphProcessNote] at h
    split at h
    · next v found => exact vtxProcessAdminReq_effect found h
    · split at h
      · next refresh =>
        cases h
        exact refresh ▸ .refresh
      · cases h
  | stateChange type path r =>
    simp only [graphProcessNote] at h
    split at h
    · next v found => exact vtxProcessStateChange_effect found h
    · cases h
  | rreq path r =>
    cases h
    exact .rreq

theorem NoteEffect.queued_cases {n m : S16Note} {g₁ : Graph} {new : List S16Note}
    (h : NoteEffect g n (g₁, new)) (hm : m ∈ new) :
    (∃ p r, m = .stateChange .offline p r) ∨
      (∃ x r, m = .stateChange .online (g₁.vtx x).path r ∧ CanComeUp g₁ x) ∨
      ∃ v r, vtxFindByPath g n.path = some v ∧ (g.vtx v).toDisable = true ∧
        m = .stateChange .disabled (g.vtx v).path r := by
  cases h with
  | disable _ _ notes =>
    obtain ⟨x, -, -, rfl⟩ := (notes m).mp hm
    exact .inl ⟨_, _, rfl⟩
  | enable =>
    obtain rfl := List.mem_singleton.mp hm
    exact .inl ⟨_, _, rfl⟩
  | refresh | unchanged | rreq => cases hm
  | online _ notes | disabled _ notes =>
    obtain ⟨_, -, x, -, ⟨-, can, -⟩, rfl⟩ := (notes m).mp hm
    exact .inr (.inl ⟨x, _, rfl, can⟩)
  | @offlineMarked _ _ r _ _ hv _ down stops =>
    rcases List.mem_append.mp hm with hm | hm
    · split at hm
      · next todo =>
        rcases List.mem_append.mp hm with hm | hm
        · obtain ⟨_, -, x, -, -, rfl⟩ := (down m).mp hm
          exact .inl ⟨_, _, rfl⟩
        · obtain rfl := List.mem_singleton.mp hm
          refine .inr (.inr ⟨_, r, hv, todo, ?_⟩)
          simp [vtxDisable, vtxFindByPath_lt_size hv, stateChangeWrite]
      · obtain ⟨_, -, x, -, -, rfl⟩ := (down m).mp hm
        exact .inl ⟨_, _, rfl⟩
    · obtain ⟨_, -, x, -, -, rfl⟩ := (stops m).mp hm
      exact .inl ⟨_, _, rfl⟩
  | offlineUnmarked _ _ first stops =>
    rcases List.mem_append.mp hm with hm | hm
    · rcases first with ⟨rfl, can⟩ | ⟨rfl, -⟩
      · obtain rfl := List.mem_singleton.mp hm
        exact .inr (.inl ⟨_, _, rfl, can⟩)
      · cases hm
    · obtain ⟨_, -, x, -, -, rfl⟩ := (stops m).mp hm
      exact .inl ⟨_, _, rfl⟩

/-- On an acyclic graph whose asserts hold, a note that names a vertex, a refresh or a restarter
    request has its effect under every large enough budget. -/
theorem graphProcessNote_has_effect (wb : WellBuilt g) (acyclic : Acyclic g) {note : S16Note}
    (hn : Dispatchable g note) :
    ∃ N p, (∀ F ≥ N, graphProcessNote g F note = .done p) ∧ NoteEffect g note p := by
  obtain ⟨N, p, hp⟩ := graphProcessNote_returns wb.linked acyclic wb.abortFree hn
  exact ⟨N, p, hp, graphProcessNote_effect (hp N le_rfl)⟩

theorem stopOrderOnline_wellBuilt : WellBuilt stopOrderOnline ∧ Acyclic stopOrderOnline :=
  ⟨stopOrder_quiescent.reached.wellBuilt (by decide),
    acyclic_of_rank _ (fun v => [1, 0, 3, 2, 7, 6, 5, 4, 1, 5, 3].getD v 0) (by decide)⟩

theorem stopOrder_disable_has_effect :
    WellBuilt stopOrderOnline ∧ Acyclic stopOrderOnline ∧
      Dispatchable stopOrderOnline (.adminReq .disable ⟨"v", some "i"⟩ 0) ∧
      ∃ N p, (∀ F ≥ N,
        graphProcessNote stopOrderOnline F (.adminReq .disable ⟨"v", some "i"⟩ 0) = .done p) ∧
        NoteEffect stopOrderOnline (.adminReq .disable ⟨"v", some "i"⟩ 0) p := by
  obtain ⟨wb, acyclic⟩ := stopOrderOnline_wellBuilt
  have hn : Dispatchable stopOrderOnline (.adminReq .disable ⟨"v", some "i"⟩ 0) := .inl rfl
  exact ⟨wb, acyclic, hn, graphProcessNote_has_effect wb acyclic hn⟩

/-! ### Drains of the abstract engine -/

/-- The runs of the abstract engine that empty a queue: each turn takes the head note, has its
    effect, and puts the notes it queues at the back. -/
inductive Settles : Graph → List S16Note → Graph → Prop
  | empty (g : Graph) : Settles g [] g
  | turn {g g₁ g' : Graph} {n : S16Note} {q new : List S16Note} :
    NoteEffect g n (g₁, new) → Settles g₁ (q ++ new) g' → Settles g (n :: q) g'

theorem processNotes_settles : ∀ {F : Nat} {g g' : Graph} {q : List S16Note},
    processNotes F g q = .done g' → Settles g q g'
  | 0, _, _, _, h => nomatch h
  | _ + 1, g, _, [], h => by
    cases h
    exact .empty g
  | F + 1, _, _, n :: q, h => by
    obtain ⟨⟨g₁, new⟩, hn, rest⟩ := bind_eq_done.mp h
    exact .turn (graphProcessNote_effect hn) (processNotes_settles rest)

/-- On an acyclic graph whose asserts hold, a queue the handlers can take drains to one state
    under every large enough budget, by a run of the abstract engine. -/
theorem processNotes_settles_eventually (wb : WellBuilt g) (acyclic : Acyclic g)
    {q : List S16Note} (hq : ∀ n ∈ q, Dispatchable g n) :
    ∃ N g', (∀ F ≥ N, processNotes F g q = .done g') ∧ Settles g q g' := by
  obtain ⟨N, g', hg'⟩ := processNotes_returns wb acyclic hq
  exact ⟨N, g', hg', processNotes_settles (hg' N le_rfl)⟩

theorem stopOrder_disable_settles :
    WellBuilt stopOrderOnline ∧ Acyclic stopOrderOnline ∧
      (∀ n ∈ [S16Note.adminReq .disable ⟨"v", some "i"⟩ 0], Dispatchable stopOrderOnline n) ∧
      ∃ N g', (∀ F ≥ N,
        processNotes F stopOrderOnline [.adminReq .disable ⟨"v", some "i"⟩ 0] = .done g') ∧
        Settles stopOrderOnline [.adminReq .disable ⟨"v", some "i"⟩ 0] g' := by
  obtain ⟨wb, acyclic⟩ := stopOrderOnline_wellBuilt
  have hq : ∀ n ∈ [S16Note.adminReq .disable ⟨"v", some "i"⟩ 0], Dispatchable stopOrderOnline n :=
    by decide
  exact ⟨wb, acyclic, hq, processNotes_settles_eventually wb acyclic hq⟩

end Graphd

import ServiceManager.Graphd.Shape
import ServiceManager.Graphd.Setup

/-!
What the builder guarantees. `graph_install_service` and `vtx_setup`, called in any order, record
each edge at both ends, never give two vertices one path, and hang every OptionalAll or
ExcludeAll group that has targets below an enabled instance. Before its first drain
`graph_setup_all` asks of every instance whether it can come up; that evaluates each such group
and so runs its asserts, and a graph that gets past that point has no assert left that can fail.
-/

namespace Graphd

open Run

def S16Service.WellFormed (svc : S16Service) : Prop :=
  svc.path.inst = none ∧ ∀ i ∈ svc.insts, i.path.inst ≠ none

instance (svc : S16Service) : Decidable svc.WellFormed :=
  inferInstanceAs (Decidable (_ ∧ ∀ i ∈ svc.insts, _))

def HasOwner (g : Graph) (u : Nat) : Prop :=
  ∃ w < g.size, u ∈ (g.vtx w).dependencies ∧ (g.vtx w).type = .inst ∧ (g.vtx w).isEnabled = true

structure BuildCore (g : Graph) : Prop where
  linked : WellLinked g
  unique : UniquePaths g
  kinds : ∀ v, (g.vtx v).type ≠ .depgroup → (g.vtx v).dgType = .requireAll
  named : ∀ v, (g.vtx v).type ≠ .svc → (g.vtx v).path.inst ≠ none
  owned : ∀ u, ((g.vtx u).dgType = .optionalAll ∨ (g.vtx u).dgType = .excludeAll) →
    (g.vtx u).dependencies ≠ [] → HasOwner g u
  unmarked : ∀ v, (g.vtx v).toOffline = false ∧ (g.vtx v).toDisable = false

def ServicesSetUp (g : Graph) (except : Nat → Prop) : Prop :=
  ∀ v < g.size, (g.vtx v).type = .svc → (g.vtx v).isSetup = true ∨ except v

structure Extends (g g' : Graph) : Prop where
  size : g.size ≤ g'.size
  type : ∀ v < g.size, (g'.vtx v).type = (g.vtx v).type
  dependencies : ∀ v c, c ∈ (g.vtx v).dependencies → c ∈ (g'.vtx v).dependencies
  enabled : ∀ v, (g.vtx v).isEnabled = true → (g'.vtx v).isEnabled = true

variable {g g' g'' : Graph}

theorem Extends.refl (g : Graph) : Extends g g := ⟨le_rfl, fun _ _ => rfl, fun _ _ => id, fun _ => id⟩

theorem Extends.trans (h : Extends g g') (h' : Extends g' g'') : Extends g g'' :=
  ⟨h.size.trans h'.size, fun v hv => (h'.type v (lt_of_lt_of_le hv h.size)).trans (h.type v hv),
    fun v c hc => h'.dependencies v c (h.dependencies v c hc), fun v hv => h'.enabled v (h.enabled v hv)⟩

theorem HasOwner.mono {u : Nat} (ho : HasOwner g u) (h : Extends g g') : HasOwner g' u := by
  obtain ⟨w, hw, hu, ht, he⟩ := ho
  exact ⟨w, lt_of_lt_of_le hw h.size, h.dependencies w u hu, (h.type w hw).trans ht, h.enabled w he⟩

/-! ### The three writes of the builder -/

theorem Graph.vtx_push (g : Graph) (x : Vertex) (j : Nat) :
    (⟨g.vertices ++ [x]⟩ : Graph).vtx j = if j = g.size then x else g.vtx j := by
  simp only [Graph.vtx, Graph.size, List.getD_eq_getElem?_getD]
  rcases lt_trichotomy j g.vertices.length with h | rfl | h
  · simp [List.getElem?_append_left h, Nat.ne_of_lt h]
  · simp
  · simp [List.getElem?_eq_none (show g.vertices.length ≤ j from h.le), Nat.ne_of_gt h,
      List.getElem?_eq_none (show (g.vertices ++ [x]).length ≤ j by simp; omega)]

theorem vtxFindOrAdd_edges (g : Graph) (p : S16Path) (type : VertexType)
    (dgType : S16DependencyGroupType) (restartOn : S16DependencyGroupRestartOnCondition) (j : Nat) :
    ((vtxFindOrAdd g p type dgType restartOn).1.vtx j).dependencies = (g.vtx j).dependencies ∧
      ((vtxFindOrAdd g p type dgType restartOn).1.vtx j).dependents = (g.vtx j).dependents := by
  unfold vtxFindOrAdd
  split
  · exact ⟨rfl, rfl⟩
  · rw [Graph.vtx_push]
    split
    · subst_vars
      simp [Graph.vtx_of_size_le (le_refl _), default]
    · exact ⟨rfl, rfl⟩

theorem BuildCore.findOrAdd (hc : BuildCore g) (p : S16Path) (type : VertexType)
    (dgType : S16DependencyGroupType) (restartOn : S16DependencyGroupRestartOnCondition)
    (hk : type ≠ .depgroup → dgType = .requireAll) (hp : type ≠ .svc → p.inst ≠ none) :
    BuildCore (vtxFindOrAdd g p type dgType restartOn).1 ∧
      Extends g (vtxFindOrAdd g p type dgType restartOn).1 := by
  unfold vtxFindOrAdd
  split
  · exact ⟨hc, .refl g⟩
  rename_i fresh
  set x : Vertex := ⟨p, type, dgType, restartOn, .uninitialised, false, false, false, false, [], []⟩
  have vtx := Graph.vtx_push g x
  have size : (⟨g.vertices ++ [x]⟩ : Graph).size = g.size + 1 := by simp [Graph.size]
  have old : ∀ j, j ≠ g.size → (⟨g.vertices ++ [x]⟩ : Graph).vtx j = g.vtx j := fun j h => by
    simp [vtx, h]
  have edges := vtxFindOrAdd_edges g p type dgType restartOn
  simp only [vtxFindOrAdd, fresh] at edges
  have ext : Extends g ⟨g.vertices ++ [x]⟩ :=
    ⟨by omega, fun v hv => by rw [old v (Nat.ne_of_lt hv)], fun v c hc => by rwa [(edges v).1],
      fun v hv => by
        by_cases h : v = g.size
        · simp [h, Graph.vtx_of_size_le (le_refl _), default] at hv
        · rwa [old v h]⟩
  have notFound : ∀ i < g.size, (g.vtx i).path ≠ p := fun i hi same => by
    have := List.findIdx?_eq_none_iff.mp fresh (g.vtx i) (by
      simp [Graph.vtx, List.getElem?_eq_getElem (show i < g.vertices.length from hi)])
    simp [same] at this
  refine ⟨⟨⟨fun v c => ?_, fun v c hvc => ?_⟩, fun i j hi hj same => ?_, fun v hv => ?_,
    fun v hv => ?_, fun u hu hd => ?_, fun v => ?_⟩, ext⟩
  · rw [(edges v).1, (edges c).2]
    exact hc.linked.linked v c
  · rw [(edges v).1] at hvc
    exact lt_of_lt_of_le (hc.linked.inRange v c hvc) ext.size
  · rw [size] at hi hj
    simp only [vtx] at same
    by_cases ei : i = g.size <;> by_cases ej : j = g.size <;>
      simp only [ei, ej, if_true, if_false] at same
    · rw [ei, ej]
    · exact absurd same.symm (notFound j (by omega))
    · exact absurd same (notFound i (by omega))
    · exact hc.unique i j (by omega) (by omega) same
  · by_cases h : v = g.size
    · simp only [vtx, h, if_true] at hv ⊢
      exact hk hv
    · rw [old v h] at hv ⊢
      exact hc.kinds v hv
  · by_cases h : v = g.size
    · simp only [vtx, h, if_true] at hv ⊢
      exact hp hv
    · rw [old v h] at hv ⊢
      exact hc.named v hv
  · rw [(edges u).1] at hd
    have hu' : u ≠ g.size := fun e => hd (by simp [e, Graph.vtx_of_size_le (le_refl _), default])
    rw [old u hu'] at hu
    exact (hc.owned u hu hd).mono ext
  · by_cases h : v = g.size
    · simp [vtx, h, x]
    · rw [old v h]
      exact hc.unmarked v

theorem ServicesSetUp.findOrAdd {P : Nat → Prop} (hs : ServicesSetUp g P) (p : S16Path)
    (type : VertexType) (dgType : S16DependencyGroupType)
    (restartOn : S16DependencyGroupRestartOnCondition) :
    ServicesSetUp (vtxFindOrAdd g p type dgType restartOn).1
      (fun v => P v ∨ (type = .svc ∧ v = (vtxFindOrAdd g p type dgType restartOn).2)) := by
  unfold vtxFindOrAdd
  split
  · exact fun v hv ht => (hs v hv ht).imp_right .inl
  intro v hv hsvc
  rw [Graph.vtx_push] at hsvc ⊢
  split at hsvc
  · exact .inr (.inr ⟨hsvc, by assumption⟩)
  · rename_i h
    rw [if_neg h]
    have hv' : v < g.size := by
      simp only [Graph.size, List.length_append, List.length_singleton] at hv h ⊢
      omega
    exact (hs v hv' hsvc).imp_right .inl

theorem vtxFindOrAdd_lt_of_ne {p : S16Path} {type : VertexType} {dgType : S16DependencyGroupType}
    {restartOn : S16DependencyGroupRestartOnCondition} {v : Nat}
    (hv : v < (vtxFindOrAdd g p type dgType restartOn).1.size)
    (hne : v ≠ (vtxFindOrAdd g p type dgType restartOn).2) : v < g.size := by
  cases h : vtxFindByPath g p <;> simp only [vtxFindOrAdd, h] at hv hne
  · simp only [Graph.size, List.length_append, List.length_singleton] at hv hne ⊢
    omega
  · exact hv

theorem vtxEdgeAdd_mem_dependencies {v dst j c : Nat} (hv : v < g.size) :
    c ∈ ((vtxEdgeAdd g v dst).vtx j).dependencies ↔
      c ∈ (g.vtx j).dependencies ∨ (j = v ∧ c = dst) := by
  rw [vtxEdgeAdd_vtx]
  by_cases h : v = j
  · subst h
    simp [hv]
  · simp [h, Ne.symm h]

theorem vtxEdgeAdd_mem_dependents {v dst j d : Nat} (hd : dst < g.size) :
    d ∈ ((vtxEdgeAdd g v dst).vtx j).dependents ↔
      d ∈ (g.vtx j).dependents ∨ (j = dst ∧ d = v) := by
  rw [vtxEdgeAdd_vtx]
  by_cases h : dst = j
  · subst h
    simp [hd, eq_comm]
  · simp [h, Ne.symm h]

theorem BuildCore.edgeAdd (hc : BuildCore g) {v dst : Nat} (hv : v < g.size) (hd : dst < g.size)
    (ho : ((g.vtx v).dgType = .optionalAll ∨ (g.vtx v).dgType = .excludeAll) → HasOwner g v) :
    BuildCore (vtxEdgeAdd g v dst) ∧ Extends g (vtxEdgeAdd g v dst) := by
  have same : ∀ j, ((vtxEdgeAdd g v dst).vtx j).path = (g.vtx j).path ∧
      ((vtxEdgeAdd g v dst).vtx j).type = (g.vtx j).type ∧
      ((vtxEdgeAdd g v dst).vtx j).dgType = (g.vtx j).dgType ∧
      ((vtxEdgeAdd g v dst).vtx j).isEnabled = (g.vtx j).isEnabled ∧
      ((vtxEdgeAdd g v dst).vtx j).toOffline = (g.vtx j).toOffline ∧
      ((vtxEdgeAdd g v dst).vtx j).toDisable = (g.vtx j).toDisable := fun j => by
    simp [vtxEdgeAdd_vtx]
  have ext : Extends g (vtxEdgeAdd g v dst) :=
    ⟨by simp, fun j _ => (same j).2.1, fun j c hc => (vtxEdgeAdd_mem_dependencies hv).mpr (.inl hc),
      fun j hj => (same j).2.2.2.1.trans hj⟩
  refine ⟨⟨⟨fun a c => ?_, fun a c hc' => ?_⟩, fun i j hi hj e => ?_, fun j => ?_, fun j => ?_,
    fun u hu hne => ?_, fun j => ?_⟩, ext⟩
  · rw [vtxEdgeAdd_mem_dependencies hv, vtxEdgeAdd_mem_dependents hd, hc.linked.linked a c]
    tauto
  · rw [size_vtxEdgeAdd]
    rcases (vtxEdgeAdd_mem_dependencies hv).mp hc' with h | ⟨-, rfl⟩
    · exact hc.linked.inRange a c h
    · exact hd
  · simp only [size_vtxEdgeAdd, (same i).1, (same j).1] at hi hj e
    exact hc.unique i j hi hj e
  · rw [(same j).2.1, (same j).2.2.1]
    exact hc.kinds j
  · rw [(same j).2.1, (same j).1]
    exact hc.named j
  · rw [(same u).2.2.1] at hu
    by_cases e : u = v
    · subst e
      exact (ho hu).mono ext
    · refine (hc.owned u hu fun nil => hne ?_).mono ext
      rw [List.eq_nil_iff_forall_not_mem] at nil ⊢
      intro c hc'
      rcases (vtxEdgeAdd_mem_dependencies hv).mp hc' with h | ⟨h, -⟩
      · exact nil c h
      · exact e h
  · rw [(same j).2.2.2.2.1, (same j).2.2.2.2.2]
    exact hc.unmarked j

theorem ServicesSetUp.edgeAdd {P : Nat → Prop} (hs : ServicesSetUp g P) (v dst : Nat) :
    ServicesSetUp (vtxEdgeAdd g v dst) P := fun j hj ht => by
  simp only [vtxEdgeAdd_vtx, size_vtxEdgeAdd] at hj ht ⊢
  exact hs j hj ht

theorem BuildCore.modify (hc : BuildCore g) (v : Nat) {f : Vertex → Vertex}
    (hs : ∀ x, (f x).shape = x.shape)
    (hm : ∀ x, (f x).toOffline = x.toOffline ∧ (f x).toDisable = x.toDisable)
    (he : ∀ x, x.isEnabled = true → (f x).isEnabled = true) :
    BuildCore (g.modify v f) ∧ Extends g (g.modify v f) := by
  have shape := sameShape_modify g v hs
  have raise : ∀ j, (g.vtx j).isEnabled = true → ((g.modify v f).vtx j).isEnabled = true :=
    fun j hj => by
      rw [Graph.vtx_modify]
      split
      · exact he _ hj
      · exact hj
  have ext : Extends g (g.modify v f) :=
    ⟨by simp, fun j _ => shape.type j, fun j c hc => by rwa [shape.dependencies], raise⟩
  refine ⟨⟨shape.wellLinked hc.linked, shape.uniquePaths hc.unique, fun j => ?_, fun j => ?_,
    fun u hu hne => ?_, fun j => ?_⟩, ext⟩
  · rw [shape.type, shape.dgType]
    exact hc.kinds j
  · rw [shape.type, shape.path]
    exact hc.named j
  · rw [shape.dgType] at hu
    rw [shape.dependencies] at hne
    exact (hc.owned u hu hne).mono ext
  · rw [Graph.vtx_modify]
    split
    · rw [(hm _).1, (hm _).2]
      exact hc.unmarked j
    · exact hc.unmarked j

theorem ServicesSetUp.modify {P : Nat → Prop} (hs : ServicesSetUp g P) (v : Nat)
    {f : Vertex → Vertex} (hset : ∀ x, (f x).isSetup = true) :
    ServicesSetUp (g.modify v f) (fun j => P j ∧ j ≠ v) := fun j hj hsvc => by
  rw [Graph.size_modify] at hj
  by_cases e : v = j
  · subst e
    rw [Graph.vtx_modify_self _ _ _ hj]
    exact .inl (hset _)
  · rw [Graph.vtx_modify_ne _ _ e] at hsvc ⊢
    exact (hs j hj hsvc).imp_right fun h => ⟨h, Ne.symm e⟩

theorem ServicesSetUp.weaken {P Q : Nat → Prop} (hs : ServicesSetUp g P) (hPQ : ∀ v, P v → Q v) :
    ServicesSetUp g Q :=
  fun v hv ht => (hs v hv ht).imp_right (hPQ v)

/-- What the builder keeps true between its calls. -/
structure BuildInv (g : Graph) : Prop where
  core : BuildCore g
  services : ServicesSetUp g fun _ => False

/-! ### The cycle check never accepts once a cycle was found -/

theorem visitUntilStop_post (I : Search → Prop) {visit : Nat → Search → Run (Bool × Search)}
    (step : ∀ c s, I s → Post (fun p => I p.2) (visit c s)) :
    ∀ (l : List Nat) (cont : Bool) {s : Search}, I s → Post (fun p => I p.2)
      (visitUntilStop visit l cont s)
  | [], _, _, hs => post_done hs
  | c :: l, _, s, hs => post_bind fun ⟨cont, s'⟩ hp => by
    dsimp only
    split
    · exact visitUntilStop_post I step l cont (step c s hs _ hp)
    · exact post_done (step c s hs _ hp)

theorem vtxIsReachableInternal_pathTo (g : Graph) (dst : Nat) : ∀ fuel v (s : Search),
    Post (fun p => s.pathTo ≠ [] → p.2.pathTo ≠ []) (vtxIsReachableInternal g dst fuel v s)
  | 0, _, _ => fun _ h => nomatch h
  | fuel + 1, v, s => by
    unfold vtxIsReachableInternal
    split
    · exact post_done id
    split
    · exact post_done id
    split
    · exact post_done fun _ => List.cons_ne_nil _ _
    refine post_bind fun ⟨cont, s'⟩ hp => post_done fun hs => ?_
    have kept := visitUntilStop_post (fun s' => s.pathTo ≠ [] → s'.pathTo ≠ [])
      (fun c s'' hs'' => (vtxIsReachableInternal_pathTo g dst fuel c s'').mono
        fun _ h h' => h (hs'' h')) _ true (s := { s with seen := s.seen ++ [v] }) id _ hp hs
    dsimp only
    split
    · exact List.cons_ne_nil _ _
    · exact kept

theorem vtxDependencyAdd_of_ne_nil {v dst r : Nat} {pathTo pathTo' : List Nat}
    (h : vtxDependencyAdd g v dst pathTo = .done (r, g', pathTo')) (hp : pathTo ≠ []) :
    r = 1 ∧ g' = g := by
  obtain ⟨⟨c, p⟩, hr, h'⟩ := Run.bind_eq_done.mp h
  have hc : c = true := by
    obtain ⟨⟨cont, s⟩, hi, hr'⟩ := Run.bind_eq_done.mp hr
    cases hr'
    simpa [List.isEmpty_iff] using vtxIsReachableInternal_pathTo g v _ dst ⟨[], pathTo⟩ _ hi hp
  subst hc
  simp only [if_true, Run.done.injEq, Prod.mk.injEq] at h'
  exact ⟨h'.1.symm, h'.2.1.symm⟩

/-! ### `vtx_setup` keeps the invariant -/

theorem updateGroups_post (I : Graph → Prop) {path : S16Path}
    {step : S16DependencyGroup → S16Path → Graph → List Nat → Run (Nat × Graph × List Nat)}
    (hstep : ∀ dg cnt g pathTo, I g →
      Post (fun q => I q.2.1) (step dg (makeDepgroupPath path cnt) g pathTo)) :
    ∀ dgs cnt g pathTo, I g → Post I (updateGroups path step dgs cnt g pathTo)
  | [], _, _, _, hg => post_done hg
  | dg :: dgs, cnt, g, pathTo, hg => post_bind fun ⟨_, g₁, p₁⟩ h =>
    updateGroups_post I hstep dgs (cnt + 1) g₁ p₁ (hstep dg cnt g pathTo hg _ h)

theorem setupPaths_post (I : Graph → List Nat → Prop) (Q : Graph → Prop)
    (hQ : ∀ g pathTo, I g pathTo → Q g)
    {step : S16Path → Graph → List Nat → Run (Nat × Graph × List Nat)}
    (hstep : ∀ path g pathTo, I g pathTo →
      Post (fun q => Q q.2.1 ∧ (q.1 = 0 → I q.2.1 q.2.2)) (step path g pathTo)) :
    ∀ paths g pathTo, I g pathTo → Post (fun q => Q q.2.1) (setupPaths step paths g pathTo)
  | [], g, pathTo, h => post_done (hQ g pathTo h)
  | path :: paths, g, pathTo, h => post_bind fun ⟨r, g₁, p₁⟩ hr => by
    obtain ⟨hq, hi⟩ := hstep path g pathTo h _ hr
    dsimp only
    split
    · exact post_done hq
    · exact setupPaths_post I Q hQ hstep paths g₁ p₁ (hi (not_not.mp ‹_›))

theorem makeDepgroupPath_inst {p : S16Path} (hp : p.inst ≠ none) (cnt : Nat) :
    (makeDepgroupPath p cnt).inst ≠ none := by
  unfold makeDepgroupPath
  split <;> simp_all

/-- One induction over the budget for the four mutually recursive builder functions: each keeps
    the invariant and only adds to the graph. -/
theorem buildInv_setup (repo : S16Repository) : ∀ n,
    (∀ g v, BuildInv g → v < g.size →
      Post (fun g' => BuildInv g' ∧ Extends g g') (vtxSetup repo n g v)) ∧
    (∀ g v, BuildInv g → v < g.size → (g.vtx v).type ≠ .svc → (g.vtx v).isEnabled = true →
      Post (fun g' => BuildInv g' ∧ Extends g g') (vtxUpdate repo n g v)) ∧
    (∀ v dg dgp g pathTo, BuildInv g → v < g.size → (g.vtx v).type = .inst →
      (g.vtx v).isEnabled = true → dgp.inst ≠ none →
      Post (fun q => BuildInv q.2.1 ∧ Extends g q.2.1) (setupDepgroup repo n v dg dgp g pathTo)) ∧
    (∀ vg path g pathTo, BuildInv g → vg < g.size → (pathTo = [] → HasOwner g vg) →
      Post (fun q => BuildInv q.2.1 ∧ Extends g q.2.1 ∧ (pathTo ≠ [] → q.1 ≠ 0))
        (setupDep repo n vg path g pathTo))
  | 0 => ⟨fun _ _ _ _ _ h => (nomatch h), fun _ _ _ _ _ _ _ h => (nomatch h),
      fun _ _ _ _ _ _ _ _ _ _ _ h => (nomatch h), fun _ _ _ _ _ _ _ _ h => (nomatch h)⟩
  | n + 1 => by
    obtain ⟨setup, update, depgroup, dep⟩ := buildInv_setup repo n
    have update' : ∀ g v, BuildInv g → v < g.size → (g.vtx v).type ≠ .svc →
        (g.vtx v).isEnabled = true →
        Post (fun g' => BuildInv g' ∧ Extends g g') (vtxUpdate repo (n + 1) g v) := by
      intro g v hi hv ht he
      simp only [vtxUpdate]
      refine post_bind fun dgs hdgs => ?_
      cases hty : (g.vtx v).type with
      | svc => exact absurd hty ht
      | depgroup =>
        simp only [declaredDepgroups, hty, Run.done.injEq] at hdgs
        subst hdgs
        exact post_done ⟨hi, .refl g⟩
      | inst =>
        have named := makeDepgroupPath_inst (hi.core.named v (by rw [hty]; decide))
        exact updateGroups_post (fun g₁ => BuildInv g₁ ∧ Extends g g₁)
          (fun dg cnt g₁ pathTo h₁ => (depgroup v dg _ g₁ pathTo h₁.1
            (lt_of_lt_of_le hv h₁.2.size) ((h₁.2.type v hv).trans hty) (h₁.2.enabled v he)
            (named cnt)).mono fun q hq => ⟨hq.1, h₁.2.trans hq.2⟩) dgs 0 g [] ⟨hi, .refl g⟩
    refine ⟨fun g v hi hv => ?_, update', fun v dg dgp g pathTo hi hv ht he hp => ?_,
      fun vg path g pathTo hi hv ho => ?_⟩
    · -- `vtx_setup`
      simp only [vtxSetup]
      split
      · exact post_done ⟨hi, .refl g⟩
      rename_i notSetup
      have hm := hi.core.modify v (f := fun x => { x with isSetup := true, isEnabled := true })
        (fun _ => rfl) (fun _ => ⟨rfl, rfl⟩) (fun _ _ => rfl)
      have hs := (hi.services.modify v (f := fun x => { x with isSetup := true, isEnabled := true })
        fun _ => rfl).weaken fun _ h => h.1
      refine (update _ v ⟨hm.1, hs⟩ (by simpa using hv) ?_ ?_).mono
        fun g' h => ⟨h.1, hm.2.trans h.2⟩
      · rw [Graph.vtx_modify_self _ _ _ hv]
        exact fun hsvc => notSetup ((hi.services v hv hsvc).resolve_right id)
      · rw [Graph.vtx_modify_self _ _ _ hv]
    · -- `setup_depgroup`
      simp only [setupDepgroup]
      obtain ⟨core₁, ext₁⟩ := hi.core.findOrAdd dgp .depgroup dg.type dg.restartOn
        (fun h => absurd rfl h) (fun _ => hp)
      have svc₁ := (hi.services.findOrAdd dgp .depgroup dg.type dg.restartOn).weaken
        fun _ h => h.elim id fun h => nomatch h.1
      obtain ⟨hdgv, -⟩ := vtxFindOrAdd_snd g dgp .depgroup dg.type dg.restartOn
      set found := vtxFindOrAdd g dgp .depgroup dg.type dg.restartOn
      have hv₁ : v < found.1.size := lt_of_lt_of_le hv ext₁.size
      have ht₁ : (found.1.vtx v).type = .inst := (ext₁.type v hv).trans ht
      refine post_bind fun ⟨r, g₂, p₂⟩ h₂ => ?_
      have mid : BuildInv g₂ ∧ Extends found.1 g₂ ∧ (p₂ = [] → HasOwner g₂ found.2) := by
        rcases vtxDependencyAdd_cases h₂ with ⟨-, rfl, hne⟩ | ⟨-, rfl, rfl⟩
        · exact ⟨⟨core₁, svc₁⟩, .refl _, fun h => absurd h hne⟩
        · have req := core₁.kinds v (by rw [ht₁]; decide)
          obtain ⟨core₂, ext₂⟩ := core₁.edgeAdd hv₁ hdgv fun h => by
            rw [req] at h
            simp at h
          refine ⟨⟨core₂, svc₁.edgeAdd _ _⟩, ext₂, fun _ => ⟨v, by simpa using hv₁,
            (vtxEdgeAdd_mem_dependencies hv₁).mpr (.inr ⟨rfl, rfl⟩), ?_, ?_⟩⟩
          · exact (ext₂.type v hv₁).trans ht₁
          · exact ext₂.enabled v (ext₁.enabled v he)
      obtain ⟨⟨core₂, svc₂⟩, ext₂, own₂⟩ := mid
      have hm := core₂.modify v (f := fun x => { x with isSetup := true })
        (fun _ => rfl) (fun _ => ⟨rfl, rfl⟩) (fun _ h => h)
      have hms := (svc₂.modify v (f := fun x => { x with isSetup := true }) fun _ => rfl).weaken
        fun _ h => h.1
      refine setupPaths_post (fun g' p' => BuildInv g' ∧ Extends g g' ∧ found.2 < g'.size ∧
          (p' = [] → HasOwner g' found.2)) (fun g' => BuildInv g' ∧ Extends g g')
        (fun _ _ h => ⟨h.1, h.2.1⟩) (fun path g' p' h' => ?_) _ _ _
        ⟨⟨hm.1, hms⟩, ext₁.trans (ext₂.trans hm.2), ?_, fun h => (own₂ h).mono hm.2⟩
      · refine (dep found.2 path g' p' h'.1 h'.2.2.1 h'.2.2.2).mono fun q hq =>
          ⟨⟨hq.1, h'.2.1.trans hq.2.1⟩, fun r0 => ⟨hq.1, h'.2.1.trans hq.2.1,
            lt_of_lt_of_le h'.2.2.1 hq.2.1.size, fun _ => ?_⟩⟩
        exact (h'.2.2.2 (not_not.mp fun hne => hq.2.2 hne r0)).mono hq.2.1
      · simpa using lt_of_lt_of_le hdgv ext₂.size
    · -- `setup_dep`
      simp only [setupDep]
      split
      · exact fun _ h => nomatch h
      rename_i vdep found
      have hvdep := vtxFindByPath_lt_size found
      refine post_bind fun ⟨r, g₁, p₁⟩ h₁ => ?_
      dsimp only
      rcases vtxDependencyAdd_cases h₁ with ⟨rfl, rfl, -⟩ | ⟨rfl, rfl, rfl⟩
      · rw [if_pos one_ne_zero]
        exact post_done ⟨hi, .refl _, fun _ => one_ne_zero⟩
      · have nil : pathTo = [] :=
          not_not.mp fun hne => absurd (vtxDependencyAdd_of_ne_nil h₁ hne).1 zero_ne_one
        obtain ⟨core₁, ext₁⟩ := hi.core.edgeAdd hv hvdep fun _ => ho nil
        rw [if_neg (not_not.mpr rfl)]
        refine post_bind fun g₂ h₂ => post_done ?_
        obtain ⟨inv₂, ext₂⟩ := setup _ vdep ⟨core₁, hi.services.edgeAdd _ _⟩
          (by simpa using hvdep) g₂ h₂
        exact ⟨inv₂, ext₁.trans ext₂, fun hne => absurd nil hne⟩

/-! ### `graph_install_service` keeps the invariant -/

theorem BuildInv.install (hi : BuildInv g) {svc : S16Service} (hw : svc.WellFormed) :
    BuildInv (graphInstallService g svc).1 := by
  obtain ⟨core₁, ext₁⟩ := hi.core.findOrAdd svc.path .svc .requireAll .any (fun _ => rfl)
    (fun h => absurd rfl h)
  have svc₁ := hi.services.findOrAdd svc.path .svc .requireAll .any
  have snd := vtxFindOrAdd_snd g svc.path .svc .requireAll .any
  rcases found : vtxFindOrAdd g svc.path .svc .requireAll .any with ⟨g₁, sv⟩
  rw [found] at core₁ ext₁ svc₁ snd
  obtain ⟨hsv, hpath⟩ := snd
  have ndg : (g₁.vtx sv).type ≠ .depgroup := fun hdg =>
    core₁.named sv (by rw [hdg]; decide) (hpath ▸ hw.1)
  simp only [graphInstallService, found]
  split
  · rename_i setUp
    refine ⟨core₁, fun v hv ht => .inl ?_⟩
    rcases svc₁ v hv ht with h | h | ⟨-, rfl⟩
    · exact h
    · exact h.elim
    · exact setUp
  -- the loop over the instances: find or add each, then an edge from the service
  have loop : ∀ insts : List S16ServiceInstance, (∀ i ∈ insts, i.path.inst ≠ none) →
      ∀ g₂, BuildCore g₂ → Extends g₁ g₂ → ServicesSetUp g₂ (· = sv) →
      BuildCore (insts.foldl (fun g inst => vtxEdgeAdd (installInst g inst).1 sv
          (installInst g inst).2) g₂) ∧
        ServicesSetUp (insts.foldl (fun g inst => vtxEdgeAdd (installInst g inst).1 sv
          (installInst g inst).2) g₂) (· = sv) := by
    intro insts
    induction insts with
    | nil => exact fun _ g₂ core₂ _ svc₂ => ⟨core₂, svc₂⟩
    | cons i is ih =>
      intro named g₂ core₂ ext₂ svc₂
      obtain ⟨core₃, ext₃⟩ := core₂.findOrAdd i.path .inst .requireAll .any (fun _ => rfl)
        (fun _ => named i (List.mem_cons_self _ _))
      have svc₃ := (svc₂.findOrAdd i.path .inst .requireAll .any).weaken
        fun _ h => h.elim id fun h => nomatch h.1
      have hiv := (vtxFindOrAdd_snd g₂ i.path .inst .requireAll .any).1
      have hsv₃ := lt_of_lt_of_le hsv (ext₂.trans ext₃).size
      have req := core₃.kinds sv (by rw [(ext₂.trans ext₃).type sv hsv]; exact ndg)
      obtain ⟨core₄, ext₄⟩ := core₃.edgeAdd hsv₃ hiv fun h => by
        rw [req] at h
        simp at h
      exact ih (fun j hj => named j (List.mem_cons_of_mem _ hj)) _ core₄
        (ext₂.trans (ext₃.trans ext₄)) (svc₃.edgeAdd _ _)
  obtain ⟨core₂, svc₂⟩ := loop svc.insts hw.2 g₁ core₁ (.refl _)
    (svc₁.weaken fun _ h => h.elim (fun h => h.elim) And.right)
  exact ⟨(core₂.modify sv (f := fun x => { x with isSetup := true }) (fun _ => rfl)
    (fun _ => ⟨rfl, rfl⟩) (fun _ h => h)).1,
    (svc₂.modify sv (f := fun x => { x with isSetup := true }) fun _ => rfl).weaken
      fun _ h => h.2 h.1⟩

/-! ### Graphs the builder makes -/

/-- The graphs `graph_install_service` and `vtx_setup` build from the empty graph, called in any
    order, on well-formed services and on vertices of the graph. -/
inductive Built (repo : S16Repository) : Graph → Prop
  | empty : Built repo ⟨[]⟩
  | install {g : Graph} {svc : S16Service} : Built repo g → svc.WellFormed →
      Built repo (graphInstallService g svc).1
  | setup {g g' : Graph} {fuel v : Nat} : Built repo g → v < g.size →
      vtxSetup repo fuel g v = .done g' → Built repo g'

theorem buildInv_empty : BuildInv ⟨[]⟩ := by
  have vtx : ∀ v, (⟨[]⟩ : Graph).vtx v = default := fun v => Graph.vtx_of_size_le (Nat.zero_le v)
  refine ⟨⟨⟨fun v c => ?_, fun v c h => ?_⟩, fun i _ hi => ?_, fun v _ => ?_, fun v h => ?_,
    fun u hu => ?_, fun v => ?_⟩, fun v hv => ?_⟩ <;> simp_all [vtx, default, Graph.size]

theorem Built.buildInv {repo : S16Repository} (h : Built repo g) : BuildInv g := by
  induction h with
  | empty => exact buildInv_empty
  | install _ hw ih => exact ih.install hw
  | setup _ hv hs ih => exact ((buildInv_setup _ _).1 _ _ ih hv _ hs).1

theorem built_installAll {repo : S16Repository} :
    ∀ {svcs : List S16Service} {g : Graph}, Built repo g → (∀ svc ∈ svcs, svc.WellFormed) →
      Built repo (installAll g svcs)
  | [], _, h, _ => h
  | svc :: svcs, g, h, hw =>
    @built_installAll repo svcs (graphInstallService g svc).1
      (.install h (hw svc (List.mem_cons_self _ _))) fun s hs => hw s (List.mem_cons_of_mem _ hs)

theorem built_setupPass (repo : S16Repository) : ∀ n g i, Built repo g →
    Post (Built repo) (setupPass repo n g i)
  | 0, _, _, _ => fun _ h => nomatch h
  | n + 1, g, i, h => by
    simp only [setupPass]
    split
    · exact post_bind fun g₁ h₁ => built_setupPass repo n g₁ (i + 1) (.setup h ‹_› h₁)
    · exact post_done h

/-! ### The first evaluation runs every assert -/

theorem Run.foldlM_done_of_mem {α σ : Type} {f : σ → α → Run σ} :
    ∀ {l : List α} {s s' : σ}, l.foldlM f s = .done s' → ∀ a ∈ l, ∃ t t', f t a = .done t'
  | [], _, _, _, _, ha => nomatch ha
  | b :: l, s, _, h, a, ha => by
    obtain ⟨s₁, h₁, h⟩ := Run.bind_eq_done.mp (by simpa only [List.foldlM_cons] using h)
    rcases List.mem_cons.mp ha with rfl | ha
    · exact ⟨s, s₁, h₁⟩
    · exact Run.foldlM_done_of_mem h a ha

theorem cAssert_done {c : Bool} {u : Unit} (h : cAssert c = .done u) : c = true := by
  unfold cAssert at h
  split at h
  · assumption
  · cases h

theorem accumulateWith_done {e : Nat → Run Satisfied} {sat s : Satisfied} {c : Nat}
    (h : accumulateWith e sat c = .done s) : ∃ s', e c = .done s' := by
  obtain ⟨s', h', -⟩ := Run.bind_eq_done.mp h
  exact ⟨s', h'⟩

theorem abortFree_of_evaluated {u F : Nat} {s : Satisfied}
    (hu : (g.vtx u).dgType = .optionalAll ∨ (g.vtx u).dgType = .excludeAll)
    (h : depgroupIsSatisfied g F u true = .done s) (t : Nat) (ht : t ∈ (g.vtx u).dependencies) :
    (g.vtx t).type ≠ .depgroup ∧ ((g.vtx t).type = .svc →
      ((g.vtx u).dgType = .excludeAll → (g.vtx t).dependencies = []) ∧
      ((g.vtx u).dgType = .optionalAll → ∀ d ∈ (g.vtx t).dependencies, (g.vtx d).type = .inst)) := by
  obtain _ | F := F
  · cases h
  rcases hu with hu | hu
  · simp only [depgroupIsSatisfied, hu] at h
    obtain ⟨_, _, hstep⟩ := Run.foldlM_done_of_mem h t ht
    obtain ⟨_, hassert, hstep⟩ := Run.bind_eq_done.mp hstep
    refine ⟨by simpa using cAssert_done hassert, fun hsvc =>
      ⟨fun e => (nomatch hu.symm.trans e), fun _ d hd => ?_⟩⟩
    simp only [hsvc, reduceCtorEq, if_false, if_true, Run.done_bind] at hstep
    obtain ⟨_, _, hd⟩ := Run.foldlM_done_of_mem hstep d hd
    obtain ⟨_, hd⟩ := accumulateWith_done hd
    obtain _ | F := F
    · cases hd
    simp only [vtxInstSatisfiesOptional] at hd
    obtain ⟨_, hassert, -⟩ := Run.bind_eq_done.mp hd
    simpa using cAssert_done hassert
  · simp only [depgroupIsSatisfied, hu] at h
    obtain ⟨_, _, hstep⟩ := Run.foldlM_done_of_mem h t ht
    obtain ⟨_, hassert, hstep⟩ := Run.bind_eq_done.mp hstep
    refine ⟨by simpa using cAssert_done hassert, fun hsvc =>
      ⟨fun _ => List.eq_nil_iff_forall_not_mem.mpr fun d hd => ?_, fun e => (nomatch hu.symm.trans e)⟩⟩
    simp only [hsvc, reduceCtorEq, if_false, if_true, Run.done_bind] at hstep
    obtain ⟨_, _, hd⟩ := Run.foldlM_done_of_mem hstep d hd
    obtain ⟨_, hd⟩ := accumulateWith_done hd
    simp only [vtxInstSatisfiesExclusion] at hd
    obtain ⟨_, hassert, -⟩ := Run.bind_eq_done.mp hd
    simpa [hsvc] using cAssert_done hassert

/-- Once `graph_setup_all` has asked every instance whether it can come up, every group with
    targets has been evaluated, so no assert of any group can fail. -/
theorem BuildCore.abortFree (hc : BuildCore g) {fuel : Nat} {notes : List S16Note}
    (h : initialNotes g fuel = .done notes) : AbortFree g := by
  have evaluated : ∀ u, ((g.vtx u).dgType = .optionalAll ∨ (g.vtx u).dgType = .excludeAll) →
      (g.vtx u).dependencies ≠ [] → ∃ F s, depgroupIsSatisfied g F u true = .done s := by
    intro u hu hne
    obtain ⟨w, hw, huw, hinst, hen⟩ := hc.owned u hu hne
    obtain ⟨_, _, hstep⟩ := Run.foldlM_done_of_mem h w (List.mem_range.mpr hw)
    simp only [hinst, if_true] at hstep
    obtain ⟨_, hup, -⟩ := Run.bind_eq_done.mp hstep
    simp only [vtxInstCanComeUp, hen, (hc.unmarked w).1, (hc.unmarked w).2, Bool.not_false,
      Bool.and_self, if_true] at hup
    obtain ⟨_, hsat, -⟩ := Run.bind_eq_done.mp hup
    obtain _ | F := fuel
    · cases hsat
    simp only [depgroupIsSatisfied, hc.kinds w (by rw [hinst]; decide)] at hsat
    obtain ⟨_, _, hu'⟩ := Run.foldlM_done_of_mem hsat u huw
    obtain ⟨_, hu'⟩ := accumulateWith_done hu'
    obtain _ | F := F
    · cases hu'
    have group : (g.vtx u).type = .depgroup := not_not.mp fun e => by
      rcases hu with hu | hu <;> simp [hc.kinds u e] at hu
    simp only [vtxSatisfies, group, reduceCtorEq, if_false] at hu'
    exact ⟨F, _, hu'⟩
  have each := fun u hu t ht =>
    have ⟨_, _, hF⟩ := evaluated u hu (List.ne_nil_of_mem ht)
    abortFree_of_evaluated hu hF t ht
  exact ⟨fun u hu t ht => (each u hu t ht).1,
    fun u hu t ht hsvc => ((each u (.inr hu) t ht).2 hsvc).1 hu,
    fun u hu t ht hsvc => ((each u (.inl hu) t ht).2 hsvc).2 hu⟩

end Graphd

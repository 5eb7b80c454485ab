import ServiceManager.Graphd.Built
import ServiceManager.Graphd.Fuel
import ServiceManager.Graphd.Rules

/-!
What the cycle check finds, and what a refused insertion leaves behind.

`vtx_is_reachable` answers `true` only with a real walk in `pathTo`: from the start to the target
along dependency edges, through no ExcludeAll group. It does not find every such walk: a child the
search entered before returns `false`, as a child that ends the search does, and the loop over its
parent's edges stops there. It returns on every graph, cycles included, and from every `seen`
list: a call that goes deeper first enters a vertex not yet seen.

`vtx_update` shares one `pathTo` among all its groups, and a refused edge leaves the walk it found
in it. Every later question of the loop then answers `true`, so every later edge of the vertex is
refused as well, while the edge from the vertex to the group whose target was refused stays.
-/

namespace Graphd

open Run

instance (g : Graph) (v c : Nat) : Decidable (DependsOn g v c) :=
  inferInstanceAs (Decidable (c ∈ _))

/-! ### A `true` answer is a walk -/

/-- `p` lists a walk from `v` to `dst` along dependency edges through no ExcludeAll group: the
    list the search pushes onto `pathTo` as it unwinds. -/
inductive OpenWalk (g : Graph) (dst : Nat) : Nat → List Nat → Prop
  | here : (g.vtx dst).dgType ≠ .excludeAll → OpenWalk g dst dst [dst]
  | step {v c : Nat} {p : List Nat} : DependsOn g v c → (g.vtx v).dgType ≠ .excludeAll →
    OpenWalk g dst c p → OpenWalk g dst v (v :: p)

def Found (g : Graph) (dst v : Nat) (r : Bool × Search) : Prop :=
  (r.1 = true → r.2.pathTo = []) ∧ (r.2.pathTo = [] ∨ OpenWalk g dst v r.2.pathTo)

theorem visitUntilStop_found {g : Graph} {dst : Nat} {visit : Nat → Search → Run (Bool × Search)}
    (found : ∀ c s, s.pathTo = [] → Post (Found g dst c) (visit c s)) :
    ∀ (cs : List Nat) (cont : Bool) {s : Search}, s.pathTo = [] →
      Post (fun r => (r.1 = true → r.2.pathTo = []) ∧
        (r.2.pathTo = [] ∨ ∃ c ∈ cs, OpenWalk g dst c r.2.pathTo)) (visitUntilStop visit cs cont s)
  | [], _, _, empty => post_done ⟨fun _ => empty, .inl empty⟩
  | c :: cs, _, s, empty => post_bind fun ⟨cont, s'⟩ h => by
    obtain ⟨quiet, walk⟩ := found c s empty _ h
    dsimp only
    split
    · next go =>
      exact (visitUntilStop_found found cs cont (quiet go)).mono fun _ r =>
        ⟨r.1, r.2.imp_right fun ⟨c', mem, w⟩ => ⟨c', .tail _ mem, w⟩⟩
    · next stop => exact post_done ⟨fun go => absurd go stop, walk.imp_right (⟨c, .head _, ·⟩)⟩

theorem vtxIsReachableInternal_found (g : Graph) (dst : Nat) : ∀ fuel v (s : Search),
    s.pathTo = [] → Post (Found g dst v) (vtxIsReachableInternal g dst fuel v s)
  | 0, _, _, _ => fun _ h => nomatch h
  | fuel + 1, v, s, empty => by
    unfold vtxIsReachableInternal
    split
    · exact post_done ⟨fun _ => empty, .inl empty⟩
    split
    · exact post_done ⟨fun _ => empty, .inl empty⟩
    next open_ =>
    split
    · next same => exact post_done ⟨nofun, .inr (by rw [empty, same]; exact .here (same ▸ open_))⟩
    refine post_bind fun ⟨cont, s'⟩ h => post_done ?_
    obtain ⟨quiet, walk⟩ := visitUntilStop_found
      (fun c s => vtxIsReachableInternal_found g dst fuel c s) _ true
      (s := { s with seen := s.seen ++ [v] }) empty _ h
    by_cases none : s'.pathTo = []
    · simp only [none, List.length_nil, ne_eq, not_true_eq_false, if_false]
      exact ⟨fun _ => none, .inl none⟩
    · obtain ⟨c, mem, w⟩ := walk.resolve_left none
      simp only [ne_eq, List.length_eq_zero, none, not_false_eq_true, if_true]
      exact ⟨fun go => absurd (quiet go) none, .inr (.step mem open_ w)⟩

theorem vtxIsReachable_walk {g : Graph} {src dst : Nat} {p : List Nat}
    (h : vtxIsReachable g src dst [] = .done (true, p)) : OpenWalk g dst src p := by
  obtain ⟨⟨_, s⟩, searched, h⟩ := bind_eq_done.mp h
  simp only [done.injEq, Prod.mk.injEq, Bool.not_eq_true', List.isEmpty_eq_false] at h
  obtain ⟨nonempty, rfl⟩ := h
  exact (vtxIsReachableInternal_found g dst _ src _ rfl _ searched).2.resolve_left nonempty

/-- `a:i` requires `b:i`, `c:i` and `d:i`, and `b:i` requires `c:i`. -/
def seenChildGraph : Graph :=
  ⟨[⟨⟨"a", some "i"⟩, .inst, .requireAll, .any, .offline, true, true, false, false, [1], []⟩,
    ⟨⟨"a", some "i#depgroups/0"⟩, .depgroup, .requireAll, .any, .uninitialised, true, true, false,
      false, [2, 4, 5], [0]⟩,
    ⟨⟨"b", some "i"⟩, .inst, .requireAll, .any, .offline, true, true, false, false, [3], [1]⟩,
    ⟨⟨"b", some "i#depgroups/0"⟩, .depgroup, .requireAll, .any, .uninitialised, true, true, false,
      false, [4], [2]⟩,
    ⟨⟨"c", some "i"⟩, .inst, .requireAll, .any, .offline, true, true, false, false, [], [1, 3]⟩,
    ⟨⟨"d", some "i"⟩, .inst, .requireAll, .any, .offline, true, true, false, false, [], [1]⟩]⟩

/-- A `true` answer is sound, but the search is not complete: from `a:i` the edge to `c:i`,
    already seen through `b:i`, answers `false`, and the edge to `d:i` is never tried. -/
theorem reachability_stops_at_seen_child :
    (∀ g src dst p, vtxIsReachable g src dst [] = .done (true, p) → OpenWalk g dst src p) ∧
    WellTyped seenChildGraph ∧
      (∀ v < seenChildGraph.size, (seenChildGraph.vtx v).dgType ≠ .excludeAll) ∧
      OpenWalk seenChildGraph 5 0 [0, 1, 5] ∧
      vtxIsReachable seenChildGraph 0 5 [] = .done (false, []) :=
  ⟨fun _ _ _ _ => vtxIsReachable_walk, by decide, by decide,
    .step (by decide) (by decide) (.step (by decide) (by decide) (.here (by decide))), by decide⟩

/-! ### The search returns -/

def unseen (g : Graph) (seen : List Nat) : Nat :=
  ((Finset.range g.size).filter (· ∉ seen)).card

theorem unseen_le_size (g : Graph) (seen : List Nat) : unseen g seen ≤ g.size :=
  (Finset.card_filter_le _ _).trans (Finset.card_range _).le

theorem unseen_anti {g : Graph} {seen seen' : List Nat} (h : seen ⊆ seen') :
    unseen g seen' ≤ unseen g seen :=
  Finset.card_le_card fun x hx => by
    simp only [Finset.mem_filter] at hx ⊢
    exact ⟨hx.1, fun mem => hx.2 (h mem)⟩

theorem unseen_append_lt {g : Graph} {seen : List Nat} {v : Nat} (lt : v < g.size)
    (fresh : v ∉ seen) : unseen g (seen ++ [v]) < unseen g seen := by
  refine Finset.card_lt_card ((Finset.ssubset_iff_of_subset fun x hx => ?_).mpr ⟨v, ?_, ?_⟩)
  · simp only [Finset.mem_filter, List.mem_append, not_or] at hx ⊢
    exact ⟨hx.1, hx.2.1⟩
  · simp [lt, fresh]
  · simp

theorem visitUntilStop_returns (I : Search → Prop) {visit : Nat → Search → Run (Bool × Search)}
    {l : List Nat} (step : ∀ c ∈ l, ∀ s, I s → ∃ r, visit c s = .done r ∧ I r.2) :
    ∀ (cs : List Nat), cs ⊆ l → ∀ (cont : Bool) {s : Search}, I s →
      ∃ r, visitUntilStop visit cs cont s = .done r ∧ I r.2
  | [], _, cont, s, hs => ⟨(cont, s), rfl, hs⟩
  | c :: cs, sub, _, s, hs => by
    obtain ⟨⟨cont, s'⟩, hv, hs'⟩ := step c (sub (List.mem_cons_self c cs)) s hs
    simp only [visitUntilStop, hv, done_bind]
    split
    · exact visitUntilStop_returns I step cs (List.subset_of_cons_subset sub) cont hs'
    · exact ⟨_, rfl, hs'⟩

theorem vtxIsReachableInternal_returns (g : Graph) (dst : Nat) : ∀ fuel v (s : Search),
    unseen g s.seen < fuel →
      ∃ r, vtxIsReachableInternal g dst fuel v s = .done r ∧ s.seen ⊆ r.2.seen
  | 0, _, _, h => absurd h (Nat.not_lt_zero _)
  | fuel + 1, v, s, h => by
    unfold vtxIsReachableInternal
    split
    · exact ⟨_, rfl, List.Subset.refl _⟩
    next fresh =>
    have grown : s.seen ⊆ s.seen ++ [v] := List.subset_append_left _ _
    split
    · exact ⟨_, rfl, grown⟩
    split
    · exact ⟨_, rfl, grown⟩
    have child : ∀ c ∈ (g.vtx v).dependencies, ∀ s' : Search, s.seen ++ [v] ⊆ s'.seen →
        ∃ r, vtxIsReachableInternal g dst fuel c s' = .done r ∧ s.seen ++ [v] ⊆ r.2.seen :=
      fun c hc s' hs' => by
        have fewer := unseen_append_lt (lt_size_of_dependsOn hc) fresh
        obtain ⟨r, hr, sub⟩ := vtxIsReachableInternal_returns g dst fuel c s'
          (by have := unseen_anti (g := g) hs'; omega)
        exact ⟨r, hr, hs'.trans sub⟩
    obtain ⟨⟨cont, s'⟩, loop, kept⟩ := visitUntilStop_returns _ child _ (List.Subset.refl _) true
      (s := { s with seen := s.seen ++ [v] }) (List.Subset.refl _)
    dsimp only
    rw [loop, done_bind]
    exact ⟨_, rfl, by split <;> exact grown.trans kept⟩

theorem visitUntilStop_below {visit visit' : Nat → Search → Run (Bool × Search)}
    (h : ∀ c s, Below (visit c s) (visit' c s)) :
    ∀ (l : List Nat) (cont : Bool) (s : Search),
      Below (visitUntilStop visit l cont s) (visitUntilStop visit' l cont s)
  | [], _, _ => .refl _
  | c :: l, _, s => (h c s).bind fun ⟨cont, s'⟩ => by
    dsimp only
    split
    · exact visitUntilStop_below h l cont s'
    · exact .refl _

theorem vtxIsReachableInternal_below (g : Graph) (dst : Nat) : ∀ n v (s : Search),
    Below (vtxIsReachableInternal g dst n v s) (vtxIsReachableInternal g dst (n + 1) v s)
  | 0, _, _ => .inl rfl
  | n + 1, v, s => by
    simp only [vtxIsReachableInternal]
    exact .ite (.refl _) <| .ite (.refl _) <| .ite (.refl _) <|
      (visitUntilStop_below (fun c s => vtxIsReachableInternal_below g dst n c s) _ _ _).bind
        fun _ => .refl _

/-- On every graph, cycles included, the search returns under one level more than the vertices
    left unseen, and a larger budget gives the same result: the cycle check always answers. -/
theorem reachability_search_returns :
    (∀ (g : Graph) (dst v : Nat) (s : Search),
      ∃ r, ∀ F > unseen g s.seen, vtxIsReachableInternal g dst F v s = .done r) ∧
    ∀ (g : Graph) (src dst : Nat) (pathTo : List Nat),
      ∃ r, vtxIsReachable g src dst pathTo = .done r := by
  have search : ∀ (g : Graph) (dst v : Nat) (s : Search),
      ∃ r, ∀ F > unseen g s.seen, vtxIsReachableInternal g dst F v s = .done r := by
    intro g dst v s
    obtain ⟨r, hr, -⟩ := vtxIsReachableInternal_returns g dst _ v s (Nat.lt_succ_self _)
    refine ⟨r, fun F hF => ?_⟩
    have below := below_of_le (vtxIsReachableInternal_below g dst · v s) hF
    rw [← below.eq (by rw [hr]; trivial), hr]
  refine ⟨search, fun g src dst pathTo => ?_⟩
  obtain ⟨r, hr⟩ := search g dst src ⟨[], pathTo⟩
  rw [vtxIsReachable, hr _ (Nat.lt_succ_of_le (unseen_le_size g [])), done_bind]
  exact ⟨_, rfl⟩

/-! ### A refused edge blocks the rest of `vtx_update` -/

def SameEdges (g g' : Graph) : Prop :=
  ∀ i, (g'.vtx i).dependencies = (g.vtx i).dependencies ∧
    (g'.vtx i).dependents = (g.vtx i).dependents

theorem SameEdges.refl (g : Graph) : SameEdges g g := fun _ => ⟨rfl, rfl⟩

theorem SameEdges.trans {g g' g'' : Graph} (h : SameEdges g g') (h' : SameEdges g' g'') :
    SameEdges g g'' := fun i => ⟨(h' i).1.trans (h i).1, (h' i).2.trans (h i).2⟩

theorem setupDep_of_ne_nil (repo : S16Repository) (fuel vg : Nat) (path : S16Path) (g : Graph)
    {pathTo : List Nat} (nonempty : pathTo ≠ []) :
    Post (fun q => q.1 = 1 ∧ q.2.1 = g ∧ q.2.2 ≠ []) (setupDep repo fuel vg path g pathTo) := by
  cases fuel with
  | zero => exact fun _ h => nomatch h
  | succ fuel =>
    simp only [setupDep]
    split
    · exact fun _ h => nomatch h
    refine post_bind fun ⟨r, g₁, p₁⟩ h => ?_
    obtain ⟨rfl, rfl⟩ := vtxDependencyAdd_of_ne_nil h nonempty
    have still : p₁ ≠ [] := ((vtxDependencyAdd_cases h).resolve_right fun h => nomatch h.1).2.2
    simp only [ne_eq, one_ne_zero, not_false_eq_true, if_true]
    exact post_done ⟨rfl, rfl, still⟩

theorem setupDepgroup_of_ne_nil (repo : S16Repository) (fuel v : Nat) (dg : S16DependencyGroup)
    (dgp : S16Path) (g : Graph) {pathTo : List Nat} (nonempty : pathTo ≠ []) :
    Post (fun q => SameEdges g q.2.1 ∧ q.2.2 ≠ []) (setupDepgroup repo fuel v dg dgp g pathTo) := by
  cases fuel with
  | zero => exact fun _ h => nomatch h
  | succ fuel =>
    simp only [setupDepgroup]
    refine post_bind fun ⟨r, g₁, p₁⟩ h => ?_
    obtain ⟨rfl, rfl⟩ := vtxDependencyAdd_of_ne_nil h nonempty
    have still : p₁ ≠ [] := ((vtxDependencyAdd_cases h).resolve_right fun h => nomatch h.1).2.2
    have keep : SameEdges g ((vtxFindOrAdd g dgp .depgroup dg.type dg.restartOn).1.modify v
        fun x => { x with isSetup := true }) := fun i => by
      rw [Graph.vtx_modify]
      split <;> exact vtxFindOrAdd_edges g dgp .depgroup dg.type dg.restartOn i
    dsimp only
    cases dg.paths with
    | nil => exact post_done ⟨keep, still⟩
    | cons path _ =>
      refine post_bind fun ⟨r, g₂, p₂⟩ h => ?_
      obtain ⟨rfl, rfl, still⟩ := setupDep_of_ne_nil repo fuel _ path _ still _ h
      simp only [ne_eq, one_ne_zero, not_false_eq_true, if_true]
      exact post_done ⟨keep, still⟩

theorem updateGroups_of_ne_nil (repo : S16Repository) (fuel v : Nat) (path : S16Path) :
    ∀ dgs cnt g pathTo, pathTo ≠ [] →
      Post (SameEdges g) (updateGroups path (setupDepgroup repo fuel v) dgs cnt g pathTo)
  | [], _, g, _, _ => post_done (.refl g)
  | dg :: dgs, cnt, g, pathTo, nonempty => post_bind fun ⟨_, g₁, p₁⟩ h => by
    obtain ⟨same, still⟩ := setupDepgroup_of_ne_nil repo fuel v dg _ g nonempty _ h
    exact (updateGroups_of_ne_nil repo fuel v path dgs (cnt + 1) g₁ p₁ still).mono
      fun _ => same.trans

theorem setupDep_refused (repo : S16Repository) (fuel vg : Nat) (path : S16Path) (g : Graph)
    (pathTo : List Nat) :
    Post (fun q => q.1 ≠ 0 → q.2.2 ≠ []) (setupDep repo fuel vg path g pathTo) := by
  cases fuel with
  | zero => exact fun _ h => nomatch h
  | succ fuel =>
    simp only [setupDep]
    split
    · exact fun _ h => nomatch h
    refine post_bind fun ⟨r, g₁, p₁⟩ h => ?_
    dsimp only
    split
    · next refused =>
      exact post_done fun _ => ((vtxDependencyAdd_cases h).resolve_right fun h => refused h.1).2.2
    · exact post_bind fun _ _ => post_done fun nonzero => absurd rfl nonzero

theorem setupPaths_refused {step : S16Path → Graph → List Nat → Run (Nat × Graph × List Nat)}
    (refused : ∀ path g pathTo, Post (fun q => q.1 ≠ 0 → q.2.2 ≠ []) (step path g pathTo)) :
    ∀ paths g pathTo, Post (fun q => q.1 ≠ 0 → q.2.2 ≠ []) (setupPaths step paths g pathTo)
  | [], _, _ => post_done fun nonzero => absurd rfl nonzero
  | path :: paths, g, pathTo => post_bind fun ⟨r, g₂, p₂⟩ h => by
    dsimp only
    split
    · exact post_done (refused path g pathTo _ h)
    · exact setupPaths_refused refused paths g₂ p₂

theorem setupDepgroup_refused (repo : S16Repository) (fuel v : Nat) (dg : S16DependencyGroup)
    (dgp : S16Path) (g : Graph) (pathTo : List Nat) :
    Post (fun q => q.1 ≠ 0 → q.2.2 ≠ []) (setupDepgroup repo fuel v dg dgp g pathTo) := by
  cases fuel with
  | zero => exact fun _ h => nomatch h
  | succ fuel =>
    simp only [setupDepgroup]
    exact post_bind fun _ _ => setupPaths_refused (setupDep_refused repo fuel _) _ _ _

/-- `a:i` requires the service `b`; `b:i` requires `a:i`, then `c:i`. -/
def serviceCycleRepo : S16Repository :=
  [installedService "a" [⟨.requireAll, .any, [⟨"b", none⟩]⟩],
   installedService "b" [⟨.requireAll, .any, [⟨"a", some "i"⟩]⟩,
     ⟨.requireAll, .any, [⟨"c", some "i"⟩]⟩],
   installedService "c" []]

def serviceCycleStart : Graph :=
  ⟨[⟨⟨"a", none⟩, .svc, .requireAll, .any, .uninitialised, true, false, false, false, [1], []⟩,
    ⟨⟨"a", some "i"⟩, .inst, .requireAll, .any, .uninitialised, true, true, false, false, [6], [0]⟩,
    ⟨⟨"b", none⟩, .svc, .requireAll, .any, .uninitialised, true, false, false, false, [3], [6]⟩,
    ⟨⟨"b", some "i"⟩, .inst, .requireAll, .any, .uninitialised, false, false, false, false, [],
      [2]⟩,
    ⟨⟨"c", none⟩, .svc, .requireAll, .any, .uninitialised, true, false, false, false, [5], []⟩,
    ⟨⟨"c", some "i"⟩, .inst, .requireAll, .any, .uninitialised, false, false, false, false, [],
      [4]⟩,
    ⟨⟨"a", some "i#depgroups/0"⟩, .depgroup, .requireAll, .any, .uninitialised, false, false, false,
      false, [2], [1]⟩]⟩

def serviceCycleRefused : Graph :=
  ⟨[⟨⟨"a", none⟩, .svc, .requireAll, .any, .uninitialised, true, false, false, false, [1], []⟩,
    ⟨⟨"a", some "i"⟩, .inst, .requireAll, .any, .uninitialised, true, true, false, false, [6], [0]⟩,
    ⟨⟨"b", none⟩, .svc, .requireAll, .any, .uninitialised, true, false, false, false, [3], [6]⟩,
    ⟨⟨"b", some "i"⟩, .inst, .requireAll, .any, .uninitialised, true, true, false, false, [7], [2]⟩,
    ⟨⟨"c", none⟩, .svc, .requireAll, .any, .uninitialised, true, false, false, false, [5], []⟩,
    ⟨⟨"c", some "i"⟩, .inst, .requireAll, .any, .uninitialised, false, false, false, false, [],
      [4]⟩,
    ⟨⟨"a", some "i#depgroups/0"⟩, .depgroup, .requireAll, .any, .uninitialised, false, false, false,
      false, [2], [1]⟩,
    ⟨⟨"b", some "i#depgroups/0"⟩, .depgroup, .requireAll, .any, .uninitialised, false, false, false,
      false, [], [3]⟩]⟩

def serviceCycleGraph : Graph :=
  ⟨[⟨⟨"a", none⟩, .svc, .requireAll, .any, .uninitialised, true, false, false, false, [1], []⟩,
    ⟨⟨"a", some "i"⟩, .inst, .requireAll, .any, .uninitialised, true, true, false, false, [6], [0]⟩,
    ⟨⟨"b", none⟩, .svc, .requireAll, .any, .uninitialised, true, false, false, false, [3], [6]⟩,
    ⟨⟨"b", some "i"⟩, .inst, .requireAll, .any, .uninitialised, true, true, false, false, [7], [2]⟩,
    ⟨⟨"c", none⟩, .svc, .requireAll, .any, .uninitialised, true, false, false, false, [5], []⟩,
    ⟨⟨"c", some "i"⟩, .inst, .requireAll, .any, .uninitialised, true, true, false, false, [], [4]⟩,
    ⟨⟨"a", some "i#depgroups/0"⟩, .depgroup, .requireAll, .any, .uninitialised, true, true, false,
      false, [2], [1]⟩,
    ⟨⟨"b", some "i#depgroups/0"⟩, .depgroup, .requireAll, .any, .uninitialised, true, true, false,
      false, [], [3]⟩,
    ⟨⟨"b", some "i#depgroups/1"⟩, .depgroup, .requireAll, .any, .uninitialised, true, true, false,
      false, [], []⟩]⟩

theorem serviceCycle_setupPass :
    setupPass serviceCycleRepo 30 (installAll ⟨[]⟩ serviceCycleRepo) 0 =
      .done serviceCycleGraph := by
  have aSkipped : vtxSetup serviceCycleRepo 29 (installAll ⟨[]⟩ serviceCycleRepo) 0 =
      .done (installAll ⟨[]⟩ serviceCycleRepo) := by decide
  have aSetUp : vtxSetup serviceCycleRepo 28 (installAll ⟨[]⟩ serviceCycleRepo) 1 =
      .done serviceCycleStart := by decide
  have refused : setupDepgroup serviceCycleRepo 24 3 ⟨.requireAll, .any, [⟨"a", some "i"⟩]⟩
      (makeDepgroupPath ⟨"b", some "i"⟩ 0)
      (serviceCycleStart.modify 3 fun x => { x with isSetup := true, isEnabled := true }) [] =
      .done (1, serviceCycleRefused, [1, 6, 2, 3, 7]) := by decide
  have rest : (updateGroups ⟨"b", some "i"⟩ (setupDepgroup serviceCycleRepo 24 3)
      [⟨.requireAll, .any, [⟨"c", some "i"⟩]⟩] 1 serviceCycleRefused [1, 6, 2, 3, 7] >>=
        (setupPass serviceCycleRepo 26 · 4)) = .done serviceCycleGraph := by decide
  have bSkipped : vtxSetup serviceCycleRepo 27 serviceCycleStart 2 = .done serviceCycleStart := by
    decide
  have groups : declaredDepgroups serviceCycleRepo
      ((serviceCycleStart.modify 3 fun x => { x with isSetup := true, isEnabled := true }).vtx 3) =
      .done [⟨.requireAll, .any, [⟨"a", some "i"⟩]⟩, ⟨.requireAll, .any, [⟨"c", some "i"⟩]⟩] := by
    decide
  rw [setupPass_of_vtxSetup (by decide) aSkipped, setupPass_of_vtxSetup (by decide) aSetUp,
    setupPass_of_vtxSetup (by decide) bSkipped,
    setupPass, if_pos (by decide), vtxSetup, if_neg (by decide), vtxUpdate, groups, done_bind]
  rw [updateGroups]
  exact (congrArg (· >>= _) (congrArg (· >>= _) refused)).trans rest

/-- Once a group of `vtx_update`'s loop is refused, no later group adds an edge: in
    `serviceCycleGraph` the group after the refused `b:i#depgroups/0` is left with no edge. -/
theorem refused_group_blocks_later_groups :
    (∀ repo fuel v dg dgp g pathTo r g₁ p₁,
      setupDepgroup repo fuel v dg dgp g pathTo = .done (r, g₁, p₁) → r ≠ 0 →
      ∀ path dgs cnt,
        Post (SameEdges g₁) (updateGroups path (setupDepgroup repo fuel v) dgs cnt g₁ p₁)) ∧
    setupPass serviceCycleRepo 30 (installAll ⟨[]⟩ serviceCycleRepo) 0 = .done serviceCycleGraph ∧
      Relation.TransGen (DependsOn serviceCycleGraph) 1 7 ∧
      (serviceCycleGraph.vtx 3).dependencies = [7] ∧ (serviceCycleGraph.vtx 7).dependencies = [] ∧
      (serviceCycleGraph.vtx 5).dependencies = [] ∧
      (serviceCycleGraph.vtx 8).dependencies = [] ∧ (serviceCycleGraph.vtx 8).dependents = [] :=
  ⟨fun repo fuel v dg dgp g pathTo _ _ _ h refused path dgs cnt =>
      updateGroups_of_ne_nil repo fuel v path dgs cnt _ _
        (setupDepgroup_refused repo fuel v dg dgp g pathTo _ h refused),
    serviceCycle_setupPass,
    .tail (.tail (.tail (.single (by decide : 6 ∈ (serviceCycleGraph.vtx 1).dependencies))
      (by decide : 2 ∈ (serviceCycleGraph.vtx 6).dependencies))
      (by decide : 3 ∈ (serviceCycleGraph.vtx 2).dependencies))
      (by decide : 7 ∈ (serviceCycleGraph.vtx 3).dependencies),
    rfl, rfl, rfl, rfl, rfl⟩

end Graphd

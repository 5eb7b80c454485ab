import ServiceManager.Graphd.Reachable

/-!
The graph builder: `graph_install_service` adds a service and its instances, and `vtx_setup`
materialises the dependency groups a vertex declares in the repository, linking owner to group
and group to targets through the cycle check, then sets the targets up in turn.
-/

namespace Graphd

structure S16DependencyGroup where
  type : S16DependencyGroupType
  restartOn : S16DependencyGroupRestartOnCondition
  paths : List S16Path
  deriving DecidableEq, Repr

structure S16ServiceInstance where
  path : S16Path
  depgroups : List S16DependencyGroup
  deriving DecidableEq, Repr

structure S16Service where
  path : S16Path
  insts : List S16ServiceInstance
  depgroups : List S16DependencyGroup
  deriving DecidableEq, Repr

/-- Modelled from the spec: the repository layer is not in the source. It holds the services
    and, through them, their instances, each with its declared dependency groups (§6). -/
abbrev S16Repository := List S16Service

/-- Modelled from the spec: `s16db_lookup_path` returns the service or instance record with the
    given path; a path the repository does not hold is `none`. -/
def s16dbLookupInst (repo : S16Repository) (p : S16Path) : Option S16ServiceInstance :=
  (repo.flatMap (·.insts)).find? (·.path = p)

/-- Modelled from the spec: the service half of `s16db_lookup_path`. -/
def s16dbLookupSvc (repo : S16Repository) (p : S16Path) : Option S16Service :=
  repo.find? (·.path = p)

/-- The declared groups of a vertex: `.i->depgroups` for an instance, `.s->depgroups` for a
    service, nothing for a group. A lookup that finds no record dereferences null. -/
def declaredDepgroups (repo : S16Repository) (x : Vertex) : Run (List S16DependencyGroup) :=
  match x.type with
  | .inst => match s16dbLookupInst repo x.path with
    | some i => .done i.depgroups
    | none => .aborted
  | .svc => match s16dbLookupSvc repo x.path with
    | some s => .done s.depgroups
    | none => .aborted
  | .depgroup => .done []

/-- `make_depgroup_path`: appends `#depgroups/<cnt>` to the instance name, or to the service
    name of a service path. -/
def makeDepgroupPath (p : S16Path) (cnt : Nat) : S16Path :=
  match p.inst with
  | some i => { p with inst := some (i ++ "#depgroups/" ++ toString cnt) }
  | none => { p with svc := p.svc ++ "#depgroups/" ++ toString cnt }

def setupPaths (step : S16Path → Graph → List Nat → Run (Nat × Graph × List Nat)) :
    List S16Path → Graph → List Nat → Run (Nat × Graph × List Nat)
  | [], g, pathTo => .done (0, g, pathTo)
  | p :: ps, g, pathTo => do
    let (nerr, g, pathTo) ← step p g pathTo
    if nerr ≠ 0 then .done (nerr, g, pathTo) else setupPaths step ps g pathTo

/-- The loop of `vtx_update`: the `cnt`-th group gets path `make_depgroup_path (v->path, cnt)`;
    `pathTo` is one list for the whole loop and a group's error is only printed. -/
def updateGroups (path : S16Path)
    (step : S16DependencyGroup → S16Path → Graph → List Nat → Run (Nat × Graph × List Nat)) :
    List S16DependencyGroup → Nat → Graph → List Nat → Run Graph
  | [], _, g, _ => .done g
  | dg :: dgs, cnt, g, pathTo => do
    let (_, g, pathTo) ← step dg (makeDepgroupPath path cnt) g pathTo
    updateGroups path step dgs (cnt + 1) g pathTo

mutual

def vtxSetup (repo : S16Repository) : Nat → Graph → Nat → Run Graph
  | 0, _, _ => .exhausted
  | fuel + 1, g, v =>
    if (g.vtx v).isSetup then .done g
    else vtxUpdate repo fuel (g.modify v fun x => { x with isSetup := true, isEnabled := true }) v
termination_by structural n _ _ => n

def vtxUpdate (repo : S16Repository) : Nat → Graph → Nat → Run Graph
  | 0, _, _ => .exhausted
  | fuel + 1, g, v => do
    let depgroups ← declaredDepgroups repo (g.vtx v)
    updateGroups (g.vtx v).path (setupDepgroup repo fuel v) depgroups 0 g []
termination_by structural n _ _ => n

def setupDepgroup (repo : S16Repository) : Nat → Nat → S16DependencyGroup → S16Path →
    Graph → List Nat → Run (Nat × Graph × List Nat)
  | 0, _, _, _, _, _ => .exhausted
  | fuel + 1, v, dg, dgp, g, pathTo => do
    let (g, dgv) := vtxFindOrAdd g dgp .depgroup dg.type dg.restartOn
    let (_, g, pathTo) ← vtxDependencyAdd g v dgv pathTo
    let g := g.modify v fun x => { x with isSetup := true }
    setupPaths (setupDep repo fuel dgv) dg.paths g pathTo
termination_by structural n _ _ _ _ _ => n

def setupDep (repo : S16Repository) : Nat → Nat → S16Path → Graph → List Nat →
    Run (Nat × Graph × List Nat)
  | 0, _, _, _, _ => .exhausted
  | fuel + 1, vg, path, g, pathTo =>
    match vtxFindByPath g path with
    | none => .aborted
    | some vdep => do
      let (r, g, pathTo) ← vtxDependencyAdd g vg vdep pathTo
      if r ≠ 0 then .done (1, g, pathTo)
      else do
        let g ← vtxSetup repo fuel g vdep
        .done (0, g, pathTo)
termination_by structural n _ _ _ _ => n

end

def installInst (g : Graph) (inst : S16ServiceInstance) : Graph × Nat :=
  vtxFindOrAdd g inst.path .inst .requireAll .any

def graphInstallService (g : Graph) (svc : S16Service) : Graph × Nat :=
  let (g, sv) := vtxFindOrAdd g svc.path .svc .requireAll .any
  if (g.vtx sv).isSetup then (g, sv)
  else
    let g := svc.insts.foldl (fun g inst =>
      let (g, iv) := installInst g inst
      vtxEdgeAdd g sv iv) g
    (g.modify sv fun x => { x with isSetup := true }, sv)

def installAll (g : Graph) (svcs : List S16Service) : Graph :=
  svcs.foldl (fun g svc => (graphInstallService g svc).1) g

def setupPass (repo : S16Repository) : Nat → Graph → Nat → Run Graph
  | 0, _, _ => .exhausted
  | fuel + 1, g, i =>
    if i < g.size then do
      let g ← vtxSetup repo fuel g i
      setupPass repo fuel g (i + 1)
    else .done g

theorem vtxSetup_of_isSetup {repo : S16Repository} {fuel v : Nat} {g : Graph}
    (h : (g.vtx v).isSetup = true) : vtxSetup repo (fuel + 1) g v = .done g := by
  rw [vtxSetup, if_pos h]

theorem setupPass_of_vtxSetup {repo : S16Repository} {fuel i : Nat} {g g' : Graph}
    (lt : i < g.size) (h : vtxSetup repo fuel g i = .done g') :
    setupPass repo (fuel + 1) g i = setupPass repo fuel g' (i + 1) := by
  rw [setupPass, if_pos lt, h, Run.done_bind]

/-! ### Two configurations the builder gets wrong -/

def installedService (name : String) (depgroups : List S16DependencyGroup) : S16Service :=
  ⟨⟨name, none⟩, [⟨⟨name, some "i"⟩, depgroups⟩], []⟩

/-- `b:i` excludes `c:i` and requires `a:i`, which requires `b:i`. -/
def requiredCycleRepo : S16Repository :=
  [installedService "a" [⟨.requireAll, .any, [⟨"b", some "i"⟩]⟩],
   installedService "b" [⟨.excludeAll, .any, [⟨"c", some "i"⟩]⟩,
     ⟨.requireAll, .any, [⟨"a", some "i"⟩]⟩],
   installedService "c" []]

def requiredCycleGraph : Graph :=
  ⟨[⟨⟨"a", none⟩, .svc, .requireAll, .any, .uninitialised, true, false, false, false, [1], []⟩,
    ⟨⟨"a", some "i"⟩, .inst, .requireAll, .any, .uninitialised, true, true, false, false, [6], [0, 8]⟩,
    ⟨⟨"b", none⟩, .svc, .requireAll, .any, .uninitialised, true, false, false, false, [3], []⟩,
    ⟨⟨"b", some "i"⟩, .inst, .requireAll, .any, .uninitialised, true, true, false, false, [7, 8],
      [2, 6]⟩,
    ⟨⟨"c", none⟩, .svc, .requireAll, .any, .uninitialised, true, false, false, false, [5], []⟩,
    ⟨⟨"c", some "i"⟩, .inst, .requireAll, .any, .uninitialised, true, true, false, false, [], [4, 7]⟩,
    ⟨⟨"a", some "i#depgroups/0"⟩, .depgroup, .requireAll, .any, .uninitialised, true, true, false,
      false, [3], [1]⟩,
    ⟨⟨"b", some "i#depgroups/0"⟩, .depgroup, .excludeAll, .any, .uninitialised, true, true, false,
      false, [5], [3]⟩,
    ⟨⟨"b", some "i#depgroups/1"⟩, .depgroup, .requireAll, .any, .uninitialised, true, true, false,
      false, [1], [3]⟩]⟩

theorem setup_admits_required_cycle :
    setupPass requiredCycleRepo 30 (installAll ⟨[]⟩ requiredCycleRepo) 0 = .done requiredCycleGraph ∧
      Relation.TransGen (NonExclusiveEdge requiredCycleGraph) 1 1 := by
  refine ⟨by decide, ?_⟩
  have edge : ∀ v c, NonExclusiveEdge requiredCycleGraph v c ↔
      c ∈ (requiredCycleGraph.vtx v).dependencies ∧
        (requiredCycleGraph.vtx v).dgType ≠ .excludeAll ∧
        (requiredCycleGraph.vtx c).dgType ≠ .excludeAll := fun _ _ => Iff.rfl
  exact .tail (.tail (.tail (.single ((edge 1 6).mpr (by decide))) ((edge 6 3).mpr (by decide)))
    ((edge 3 8).mpr (by decide))) ((edge 8 1).mpr (by decide))

end Graphd

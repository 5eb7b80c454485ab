import ServiceManager.Graphd.Builder
import ServiceManager.Graphd.Note

/-!
`graph_setup_all`: the `vtx_setup` pass over the installed services, one `SC_OFFLINE` note for
every instance that can come up, and a drain; then the scaffolding the source says belongs in a
test (disable, enable and restart `a:i`, each followed by a drain).
-/

namespace Graphd

def initialNotes (g : Graph) (fuel : Nat) : Run (List S16Note) :=
  (List.range g.size).foldlM (fun notes i =>
    if (g.vtx i).type = .inst then do
      let up ← vtxInstCanComeUp g fuel i
      .done (if up then notes ++ [.stateChange .offline (g.vtx i).path 0] else notes)
    else .done notes) []

/-- Service `a` declares that it requires `b:i`; its instance `a:i` declares nothing. -/
def serviceGroupRepo : S16Repository :=
  [⟨⟨"a", none⟩, [⟨⟨"a", some "i"⟩, []⟩], [⟨.requireAll, .any, [⟨"b", some "i"⟩]⟩]⟩,
   installedService "b" []]

/-- `graph_install_service` sets `is_setup` on service `a`, so `vtx_setup` never reads its
    groups, and no edge leads from `a:i` to `a`. -/
def serviceGroupGraph : Graph :=
  ⟨[⟨⟨"a", none⟩, .svc, .requireAll, .any, .uninitialised, true, false, false, false, [1], []⟩,
    ⟨⟨"a", some "i"⟩, .inst, .requireAll, .any, .uninitialised, true, true, false, false, [], [0]⟩,
    ⟨⟨"b", none⟩, .svc, .requireAll, .any, .uninitialised, true, false, false, false, [3], []⟩,
    ⟨⟨"b", some "i"⟩, .inst, .requireAll, .any, .uninitialised, true, true, false, false, [], [2]⟩]⟩

theorem service_depgroup_not_materialised :
    setupPass serviceGroupRepo 10 (installAll ⟨[]⟩ serviceGroupRepo) 0 = .done serviceGroupGraph ∧
      (s16dbLookupSvc serviceGroupRepo ⟨"a", none⟩).map (·.depgroups) =
        some [⟨.requireAll, .any, [⟨"b", some "i"⟩]⟩] ∧
      vtxFindByPath serviceGroupGraph ⟨"b", some "i"⟩ = some 3 ∧
      vtxInstSatisfies serviceGroupGraph 10 3 true = .done .unsatisfied ∧
      vtxInstCanComeUp serviceGroupGraph 10 1 = .done true := by
  refine ⟨by decide, by decide, by decide, by decide, by decide⟩

/-- `graph_setup_all` up to the end of its first drain, after `graph_install_service` was called
    for each service of `order`. -/
def graphSetupInitial (repo : S16Repository) (order : List S16Service) (fuel : Nat) :
    Run Graph := do
  let g ← setupPass repo fuel (installAll ⟨[]⟩ order) 0
  let notes ← initialNotes g fuel
  processNotes fuel g notes

def graphSetupAll (repo : S16Repository) (order : List S16Service) (fuel : Nat) : Run Graph := do
  let g ← graphSetupInitial repo order fuel
  let ai : S16Path := ⟨"a", some "i"⟩
  let none := S16DependencyGroupRestartOnCondition.none.toInt
  let g ← processNotes fuel g [.adminReq .disable ai none]
  let g ← processNotes fuel g [.adminReq .enable ai none]
  processNotes fuel g [.stateChange .offline ai none]

end Graphd

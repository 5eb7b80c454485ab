import ServiceManager.Graphd.Vertex

/-!
The satisfiability evaluator: `vtx_satisfies` and `depgroup_is_satisfied` recurse through
groups, services and offline instances; the instance rules are `vtx_inst_satisfies`,
`vtx_inst_satisfies_optional` and `vtx_inst_satisfies_exclusion`.
-/

namespace Graphd

/-- `satisfied_t`, whose values are 0, 1 and 2 in this order. -/
inductive Satisfied where
  | satisfied | unsatisfied | unsatisfiable
  deriving DecidableEq, Repr

/-- A `satisfied_t` stored in a C `bool`: nonzero is `true`. -/
def Satisfied.toCBool : Satisfied → Bool
  | .satisfied => false
  | _ => true

def Satisfied.ofCBool : Bool → Satisfied
  | false => .satisfied
  | true => .unsatisfied

/-- The update `if (esat != SATISFIED) sat = (sat == UNSATISFIABLE) ? UNSATISFIABLE : esat;`. -/
def Satisfied.accumulate (sat esat : Satisfied) : Satisfied :=
  if esat ≠ .satisfied then (if sat = .unsatisfiable then .unsatisfiable else esat) else sat

def accumulateWith (eval : Nat → Run Satisfied) (sat : Satisfied) (c : Nat) : Run Satisfied := do
  let esat ← eval c
  .done (sat.accumulate esat)

/-- The loop of the RequireAny case, whose accumulator is a `bool`. -/
def requireAnyOver (eval : Nat → Run Satisfied) : List Nat → Bool → Run Satisfied
  | [], sat => .done (Satisfied.ofCBool sat)
  | c :: cs, sat => do
    let esat ← eval c
    if esat = .satisfied then .done .satisfied
    else requireAnyOver eval cs (if esat = .unsatisfied then esat.toCBool else sat)

def cAssert (cond : Bool) : Run Unit := if cond then .done () else .aborted

def vtxInstSatisfiesExclusion (g : Graph) (v : Nat) : Run Satisfied := do
  cAssert ((g.vtx v).type = .inst)
  if !(g.vtx v).isSetup then .done .satisfied
  else match (g.vtx v).state with
    | .uninitialised | .offline => .done .unsatisfied
    | .maintenance | .disabled => .done .satisfied
    | .online | .degraded =>
      .done (if (g.vtx v).isEnabled then .unsatisfiable else .unsatisfied)

mutual

def vtxInstSatisfies (g : Graph) : Nat → Nat → Bool → Run Satisfied
  | 0, _, _ => .exhausted
  | fuel + 1, v, recurse => do
    cAssert ((g.vtx v).type = .inst)
    if !(g.vtx v).isSetup || !(g.vtx v).isEnabled then .done .unsatisfiable
    else match (g.vtx v).state with
      | .uninitialised => .done .unsatisfied
      | .disabled => .done .unsatisfiable
      | .offline =>
        if !recurse then .done .unsatisfied
        else do
          let sat ← depgroupIsSatisfied g fuel v recurse
          .done (if sat = .unsatisfiable then .unsatisfiable else .unsatisfied)
      | .maintenance => .done .unsatisfiable
      | .online | .degraded => .done .satisfied
termination_by structural n _ _ => n

def vtxInstSatisfiesOptional (g : Graph) : Nat → Nat → Bool → Run Satisfied
  | 0, _, _ => .exhausted
  | fuel + 1, v, recurse => do
    cAssert ((g.vtx v).type = .inst)
    if !(g.vtx v).isSetup then .done .satisfied
    else match (g.vtx v).state with
      | .uninitialised => .done .unsatisfied
      | .offline =>
        if !recurse then .done .unsatisfied
        else do
          let sat ← depgroupIsSatisfied g fuel v recurse
          .done (if sat = .unsatisfiable then .satisfied else .unsatisfied)
      | .disabled | .maintenance | .online | .degraded => .done .satisfied
termination_by structural n _ _ => n

def vtxSatisfies (g : Graph) : Nat → Nat → Bool → Run Satisfied
  | 0, _, _ => .exhausted
  | fuel + 1, v, recurse =>
    if (g.vtx v).type = .inst then vtxInstSatisfies g fuel v recurse
    else depgroupIsSatisfied g fuel v recurse
termination_by structural n _ _ => n

def depgroupIsSatisfied (g : Graph) : Nat → Nat → Bool → Run Satisfied
  | 0, _, _ => .exhausted
  | fuel + 1, v, recurse =>
    match (g.vtx v).dgType with
    | .requireAll =>
      (g.vtx v).dependencies.foldlM (accumulateWith fun c => vtxSatisfies g fuel c recurse)
        .satisfied
    | .requireAny =>
      if (g.vtx v).dependencies = [] then .done .satisfied
      else requireAnyOver (fun c => vtxSatisfies g fuel c recurse) (g.vtx v).dependencies
        Satisfied.unsatisfiable.toCBool
    | .optionalAll =>
      (g.vtx v).dependencies.foldlM (fun sat dv => do
        cAssert ((g.vtx dv).type ≠ .depgroup)
        let sat ← if (g.vtx dv).type = .inst then
          accumulateWith (fun ddv => vtxInstSatisfiesOptional g fuel ddv recurse) sat dv
          else .done sat
        if (g.vtx dv).type = .svc then
          (g.vtx dv).dependencies.foldlM
            (accumulateWith fun ddv => vtxInstSatisfiesOptional g fuel ddv recurse) sat
        else .done sat) .satisfied
    | .excludeAll =>
      (g.vtx v).dependencies.foldlM (fun sat dv => do
        cAssert ((g.vtx dv).type ≠ .depgroup)
        let sat ← if (g.vtx dv).type = .inst then
          accumulateWith (vtxInstSatisfiesExclusion g) sat dv
          else .done sat
        if (g.vtx dv).type = .svc then
          (g.vtx dv).dependencies.foldlM
            (accumulateWith fun _ => vtxInstSatisfiesExclusion g dv) sat
        else .done sat) .satisfied
termination_by structural n _ _ => n

end

def vtxInstCanComeUp (g : Graph) (fuel : Nat) (v : Nat) : Run Bool :=
  if (g.vtx v).isEnabled && !(g.vtx v).toOffline && !(g.vtx v).toDisable then do
    let sat ← depgroupIsSatisfied g fuel v true
    .done (sat = .satisfied)
  else .done false

end Graphd

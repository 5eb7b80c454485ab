import ServiceManager.Graphd.Vertex

/-!
The cycle check run before every edge insertion. `vtx_is_reachable_internal` searches depth
first along dependency edges, records each vertex it enters in `seen`, and when it meets the
target pushes the path back onto the front of `pathTo` while the recursion unwinds. A child that
returns `false` stops the loop over its parent's remaining edges.
-/

namespace Graphd

structure Search where
  seen : List Nat
  pathTo : List Nat
  deriving DecidableEq, Repr

/-- `list_foreach (…) { cont = visit (…); if (!cont) break; }`, with `cont` starting true. -/
def visitUntilStop (visit : Nat → Search → Run (Bool × Search)) :
    List Nat → Bool → Search → Run (Bool × Search)
  | [], cont, s => .done (cont, s)
  | c :: cs, _, s => do
    let (cont, s) ← visit c s
    if cont then visitUntilStop visit cs cont s else .done (cont, s)

def vtxIsReachableInternal (g : Graph) (dst : Nat) : Nat → Nat → Search → Run (Bool × Search)
  | 0, _, _ => .exhausted
  | fuel + 1, v, s =>
    if v ∈ s.seen then .done (false, s)
    else
      let s := { s with seen := s.seen ++ [v] }
      if (g.vtx v).dgType = .excludeAll then .done (false, s)
      else if v = dst then .done (false, { s with pathTo := v :: s.pathTo })
      else do
        let (cont, s) ←
          visitUntilStop (vtxIsReachableInternal g dst fuel) (g.vtx v).dependencies true s
        .done (cont, if s.pathTo.length ≠ 0 then { s with pathTo := v :: s.pathTo } else s)

/-- `vtx_is_reachable`: a fresh `seen` list, the caller's `pathTo`; reachable iff `pathTo` ends
    up nonempty. One level more than there are vertices is as deep as the search goes. -/
def vtxIsReachable (g : Graph) (src dst : Nat) (pathTo : List Nat) : Run (Bool × List Nat) := do
  let (_, s) ← vtxIsReachableInternal g dst (g.size + 1) src ⟨[], pathTo⟩
  .done (!s.pathTo.isEmpty, s.pathTo)

/-- `vtx_dependency_add`: returns 1 and leaves the graph alone when `v` is reachable from `dst`,
    otherwise adds the edge pair and returns 0. -/
def vtxDependencyAdd (g : Graph) (v dst : Nat) (pathTo : List Nat) :
    Run (Nat × Graph × List Nat) := do
  let (cyclic, pathTo) ← vtxIsReachable g dst v pathTo
  if cyclic then .done (1, g, pathTo) else .done (0, vtxEdgeAdd g v dst, pathTo)

theorem vtxIsReachable_iff {g : Graph} {src dst : Nat} {pathTo p : List Nat} {c : Bool}
    (h : vtxIsReachable g src dst pathTo = .done (c, p)) : c = true ↔ p ≠ [] := by
  obtain ⟨⟨_, s⟩, -, h⟩ := Run.bind_eq_done.mp h
  cases h
  cases s.pathTo <;> simp

theorem vtxDependencyAdd_cases {g g' : Graph} {v dst r : Nat} {pathTo pathTo' : List Nat}
    (h : vtxDependencyAdd g v dst pathTo = .done (r, g', pathTo')) :
    (r = 1 ∧ g' = g ∧ pathTo' ≠ []) ∨ (r = 0 ∧ g' = vtxEdgeAdd g v dst ∧ pathTo' = []) := by
  obtain ⟨⟨c, p⟩, hr, h⟩ := Run.bind_eq_done.mp h
  have hc := vtxIsReachable_iff hr
  cases c <;> simp only [Bool.false_eq_true, ↓reduceIte, Run.done.injEq, Prod.mk.injEq] at h hc
  · exact .inr ⟨h.1.symm, h.2.1.symm, by simpa [h.2.2] using hc⟩
  · exact .inl ⟨h.1.symm, h.2.1.symm, h.2.2 ▸ hc.mp trivial⟩

/-! ### Paths along dependency edges -/

def DependsOn (g : Graph) (v c : Nat) : Prop := c ∈ (g.vtx v).dependencies

/-- A dependency edge neither end of which is an ExcludeAll group: the edges along which the
    cycle check is meant to look. -/
def NonExclusiveEdge (g : Graph) (v c : Nat) : Prop :=
  DependsOn g v c ∧ (g.vtx v).dgType ≠ .excludeAll ∧ (g.vtx c).dgType ≠ .excludeAll

def Acyclic (g : Graph) : Prop := ∀ v, ¬ Relation.TransGen (DependsOn g) v v

theorem lt_size_of_dependsOn {g : Graph} {v c : Nat} (h : DependsOn g v c) : v < g.size := by
  by_contra out
  simp [DependsOn, Graph.vtx_of_size_le (Nat.le_of_not_lt out), default] at h

theorem acyclic_of_rank (g : Graph) (rank : Nat → Nat)
    (descends : ∀ v < g.size, ∀ c ∈ (g.vtx v).dependencies, rank c < rank v) : Acyclic g := by
  have lowers : ∀ {a b}, Relation.TransGen (DependsOn g) a b → rank b < rank a := by
    intro a b h
    induction h with
    | single h => exact descends _ (lt_size_of_dependsOn h) _ h
    | tail _ h ih => exact (descends _ (lt_size_of_dependsOn h) _ h).trans ih
  exact fun v h => lt_irrefl _ (lowers h)

end Graphd

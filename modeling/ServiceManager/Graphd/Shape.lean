import Mathlib.Data.Fintype.Card
import ServiceManager.Graphd.Reachable
import ServiceManager.Graphd.Note

/-!
What note processing leaves alone. The handlers write states and flags; paths, kinds, groups
and edges, a graph's shape, are the builder's. That every edge is recorded at both ends, that a
path names one vertex, and that the asserts of `depgroup_is_satisfied` hold are facts about the
shape, so whatever the builder establishes of them holds in every state processing reaches. On
an acyclic graph both edge directions are well founded: the traversals recurse along them.
-/

namespace Graphd

namespace Run

variable {α β σ : Type}

/-- Every value `x` returns satisfies `P`; aborting or running out of budget satisfies it too. -/
def Post (P : α → Prop) (x : Run α) : Prop := ∀ a, x = done a → P a

theorem post_done {P : α → Prop} {a : α} (h : P a) : Post P (done a) := fun _ e => by
  cases e
  exact h

theorem post_bind {P : β → Prop} {x : Run α} {f : α → Run β}
    (h : ∀ a, x = done a → Post P (f a)) : Post P (x >>= f) := fun b e => by
  obtain ⟨a, ha, hb⟩ := bind_eq_done.mp e
  exact h a ha b hb

theorem Post.mono {P Q : α → Prop} {x : Run α} (h : Post P x) (hPQ : ∀ a, P a → Q a) :
    Post Q x := fun a e => hPQ a (h a e)

theorem post_foldlM (I : σ → Prop) {f : σ → α → Run σ} (step : ∀ s a, I s → Post I (f s a)) :
    ∀ (l : List α) {s : σ}, I s → Post I (l.foldlM f s)
  | [], _, hs => post_done hs
  | a :: l, s, hs => by
    rw [List.foldlM_cons]
    exact post_bind fun s₁ h₁ => post_foldlM I step l (step s a hs s₁ h₁)

end Run

open Run

/-! ### Shape -/

def Vertex.shape (x : Vertex) : S16Path × VertexType × S16DependencyGroupType ×
    S16DependencyGroupRestartOnCondition × List Nat × List Nat :=
  (x.path, x.type, x.dgType, x.restartOn, x.dependencies, x.dependents)

/-- The graphs have the same vertices and edges, whatever their states and flags. -/
structure SameShape (g g' : Graph) : Prop where
  size : g'.size = g.size
  vtx : ∀ v, (g'.vtx v).shape = (g.vtx v).shape

namespace SameShape

variable {g g' g'' : Graph}

theorem refl (g : Graph) : SameShape g g := ⟨rfl, fun _ => rfl⟩

theorem symm (h : SameShape g g') : SameShape g' g := ⟨h.size.symm, fun v => (h.vtx v).symm⟩

theorem trans (h : SameShape g g') (h' : SameShape g' g'') : SameShape g g'' :=
  ⟨h'.size.trans h.size, fun v => (h'.vtx v).trans (h.vtx v)⟩

theorem path (h : SameShape g g') (v : Nat) : (g'.vtx v).path = (g.vtx v).path :=
  congrArg (·.1) (h.vtx v)

theorem type (h : SameShape g g') (v : Nat) : (g'.vtx v).type = (g.vtx v).type :=
  congrArg (·.2.1) (h.vtx v)

theorem dgType (h : SameShape g g') (v : Nat) : (g'.vtx v).dgType = (g.vtx v).dgType :=
  congrArg (·.2.2.1) (h.vtx v)

theorem restartOn (h : SameShape g g') (v : Nat) : (g'.vtx v).restartOn = (g.vtx v).restartOn :=
  congrArg (·.2.2.2.1) (h.vtx v)

theorem dependencies (h : SameShape g g') (v : Nat) :
    (g'.vtx v).dependencies = (g.vtx v).dependencies :=
  congrArg (·.2.2.2.2.1) (h.vtx v)

theorem dependents (h : SameShape g g') (v : Nat) :
    (g'.vtx v).dependents = (g.vtx v).dependents :=
  congrArg (·.2.2.2.2.2) (h.vtx v)

theorem paths (h : SameShape g g') : g'.vertices.map (·.path) = g.vertices.map (·.path) := by
  refine List.ext_getElem (by simpa using h.size) fun i h₁ h₂ => ?_
  have := h.path i
  simp only [Graph.vtx, List.getD_eq_getElem?_getD] at this
  simpa [List.getElem?_eq_getElem (by simpa using h₁), List.getElem?_eq_getElem (by simpa using h₂)]
    using this

theorem vtxFindByPath (h : SameShape g g') (p : S16Path) :
    Graphd.vtxFindByPath g' p = Graphd.vtxFindByPath g p := by
  have lookup : ∀ g : Graph, Graphd.vtxFindByPath g p =
      (g.vertices.map (·.path)).findIdx? (· = p) := fun g => by
    rw [List.findIdx?_map]; rfl
  rw [lookup, lookup, h.paths]

end SameShape

theorem sameShape_modify (g : Graph) (v : Nat) {f : Vertex → Vertex}
    (hf : ∀ x, (f x).shape = x.shape) : SameShape g (g.modify v f) :=
  ⟨Graph.size_modify .., fun j => by rw [Graph.vtx_modify]; split <;> simp only [hf]⟩

/-! ### Processing keeps the shape -/

/-- What `vtx_process_state_change` writes to the vertex the note names. -/
def stateChangeWrite : S16NoteScType → Vertex → Vertex
  | .online, x => { x with state := .online }
  | .offline, x => { x with state := .offline, toOffline := false }
  | .disabled, x => { x with toOffline := false, toDisable := false, state := .disabled }
  | .degraded, x | .maintenance, x => x

theorem stateChangeWrite_shape (type : S16NoteScType) (x : Vertex) :
    (stateChangeWrite type x).shape = x.shape := by
  cases type <;> rfl

theorem vtxProcessStateChange_graph (g : Graph) (n v : Nat) (type : S16NoteScType) (r : Int) :
    Post (fun p => p.1 = g.modify v (stateChangeWrite type)) (vtxProcessStateChange g n v type r) := by
  unfold vtxProcessStateChange
  cases type
  · exact post_bind fun _ _ => post_done rfl
  · dsimp only
    split <;> exact post_bind fun _ _ => post_bind fun _ _ => post_bind fun _ _ => post_done rfl
  · exact post_bind fun _ _ => post_done rfl
  all_goals exact post_done (show g = ⟨g.vertices.modify id v⟩ by rw [List.modify_id])

theorem vtxNotifyAdminDisable_sameShape : ∀ n v r g,
    Post (SameShape g) (vtxNotifyAdminDisable n v r g)
  | 0, _, _, _ => fun _ h => nomatch h
  | n + 1, v, r, g => by
    have loop : ∀ g₁ x, SameShape g g₁ →
        Post (SameShape g) (vtxDependentsDo x (fun d => vtxNotifyAdminDisable n d r) g₁) :=
      fun _ x => post_foldlM (SameShape g)
        (fun _ d hs => (vtxNotifyAdminDisable_sameShape n d r _).mono fun _ => hs.trans) x.dependents
    simp only [vtxNotifyAdminDisable]
    split
    · exact loop _ _ (sameShape_modify g v fun _ => rfl)
    · split
      · exact post_done (.refl g)
      · exact loop _ _ (.refl g)
    · exact loop _ _ (.refl g)

theorem vtxProcessAdminReq_sameShape (g : Graph) (n v : Nat) (type : S16NoteAdminType) (r : Int) :
    Post (fun p => SameShape g p.1) (vtxProcessAdminReq g n v type r) := by
  unfold vtxProcessAdminReq
  split
  · refine post_bind fun g₁ h₁ => post_bind fun _ _ => post_bind fun _ _ => post_done ?_
    refine post_foldlM (SameShape g) (fun _ d hs =>
      (vtxNotifyAdminDisable_sameShape n d r _).mono fun _ => hs.trans) _ ?_ g₁ h₁
    exact sameShape_modify g v fun _ => rfl
  · exact post_done (sameShape_modify g v fun _ => rfl)
  · exact post_done (.refl g)

theorem graphProcessNote_sameShape (g : Graph) (n : Nat) (note : S16Note) :
    Post (fun p => SameShape g p.1) (graphProcessNote g n note) := by
  cases note <;> simp only [graphProcessNote]
  · split
    · exact vtxProcessAdminReq_sameShape g n _ _ _
    · split
      · exact post_done (.refl g)
      · exact fun _ h => nomatch h
  · split
    · exact (vtxProcessStateChange_graph g n _ _ _).mono fun p h =>
        h ▸ sameShape_modify g _ (stateChangeWrite_shape _)
    · exact fun _ h => nomatch h
  · exact post_done (.refl g)

theorem processNotes_sameShape : ∀ n g q, Post (SameShape g) (processNotes n g q)
  | 0, _, _ => fun _ h => nomatch h
  | _ + 1, g, [] => post_done (.refl g)
  | n + 1, g, note :: _ => post_bind fun p hp => (processNotes_sameShape n p.1 _).mono
      fun _ => (graphProcessNote_sameShape g n note p hp).trans

/-! ### What the builder establishes -/

structure WellLinked (g : Graph) : Prop where
  linked : ∀ v c, c ∈ (g.vtx v).dependencies ↔ v ∈ (g.vtx c).dependents
  inRange : ∀ v c, c ∈ (g.vtx v).dependencies → c < g.size

def UniquePaths (g : Graph) : Prop :=
  ∀ i j, i < g.size → j < g.size → (g.vtx i).path = (g.vtx j).path → i = j

/-- The asserts of `depgroup_is_satisfied`: OptionalAll and ExcludeAll groups target no group, and
    the services they target have the edges those loops expect. -/
structure AbortFree (g : Graph) : Prop where
  noGroup : ∀ u, ((g.vtx u).dgType = .optionalAll ∨ (g.vtx u).dgType = .excludeAll) →
    ∀ t ∈ (g.vtx u).dependencies, (g.vtx t).type ≠ .depgroup
  excludedService : ∀ u, (g.vtx u).dgType = .excludeAll → ∀ t ∈ (g.vtx u).dependencies,
    (g.vtx t).type = .svc → (g.vtx t).dependencies = []
  optionalService : ∀ u, (g.vtx u).dgType = .optionalAll → ∀ t ∈ (g.vtx u).dependencies,
    (g.vtx t).type = .svc → ∀ d ∈ (g.vtx t).dependencies, (g.vtx d).type = .inst

theorem WellLinked.dependsOn_of_mem_dependents {g : Graph} (hl : WellLinked g) {v d : Nat}
    (h : d ∈ (g.vtx v).dependents) : DependsOn g d v :=
  (hl.linked d v).mpr h

theorem WellLinked.lt_size_of_mem_dependents {g : Graph} (hl : WellLinked g) {v d : Nat}
    (h : d ∈ (g.vtx v).dependents) : d < g.size :=
  lt_size_of_dependsOn (hl.dependsOn_of_mem_dependents h)

theorem vtxFindByPath_vtx {g : Graph} (hu : UniquePaths g) {v : Nat} (hv : v < g.size) :
    vtxFindByPath g (g.vtx v).path = some v := by
  have get : ∀ i (h : i < g.vertices.length), g.vertices[i] = g.vtx i := fun i h => by
    simp [Graph.vtx, List.getElem?_eq_getElem h]
  refine List.findIdx?_eq_some_iff_getElem.mpr ⟨hv, by simp [get], fun j hj => ?_⟩
  simpa [get] using fun same => Nat.ne_of_lt hj (hu j v (hj.trans hv) hv same)

theorem vtxFindByPath_lt_size {g : Graph} {p : S16Path} {v : Nat}
    (h : vtxFindByPath g p = some v) : v < g.size :=
  (List.findIdx?_eq_some_iff_getElem.mp h).1

namespace SameShape

variable {g g' : Graph}

theorem wellLinked (h : SameShape g g') (hl : WellLinked g) : WellLinked g' :=
  ⟨fun v c => by simpa only [h.dependencies, h.dependents] using hl.linked v c,
    fun v c => by simpa only [h.dependencies, h.size] using hl.inRange v c⟩

theorem uniquePaths (h : SameShape g g') (hu : UniquePaths g) : UniquePaths g' := by
  simpa only [UniquePaths, h.size, h.path] using hu

theorem abortFree (h : SameShape g g') (ha : AbortFree g) : AbortFree g' := by
  obtain ⟨noGroup, excl, opt⟩ := ha
  exact ⟨by simpa only [h.dgType, h.dependencies, h.type] using noGroup,
    by simpa only [h.dgType, h.dependencies, h.type] using excl,
    by simpa only [h.dgType, h.dependencies, h.type] using opt⟩

theorem dependsOn (h : SameShape g g') : DependsOn g' = DependsOn g := by
  funext v c
  simp only [DependsOn, h.dependencies]

theorem acyclic (h : SameShape g g') (hc : Acyclic g) : Acyclic g' := by
  simpa only [Acyclic, h.dependsOn] using hc

end SameShape

/-! ### Well-founded edge directions -/

theorem wellFounded_of_bounded {r : Nat → Nat → Prop} (n : Nat) (bounded : ∀ a b, r a b → a < n)
    (loopFree : ∀ a, ¬ Relation.TransGen r a a) : WellFounded r := by
  let below : Fin n → Fin n → Prop := fun a b => Relation.TransGen r a b
  have : IsTrans (Fin n) below := ⟨fun _ _ _ => Relation.TransGen.trans⟩
  have : IsIrrefl (Fin n) below := ⟨fun a => loopFree a⟩
  have acc : ∀ a : Fin n, Acc r a := fun a =>
    (Finite.wellFounded_of_trans_of_irrefl below).induction (C := fun a : Fin n => Acc r a) a
      fun a ih => .intro _ fun b hb => ih ⟨b, bounded b a hb⟩ (.single hb)
  exact ⟨fun a => .intro a fun b hb => acc ⟨b, bounded b a hb⟩⟩

theorem Acyclic.wellFounded_dependsOn {g : Graph} (hc : Acyclic g) : WellFounded (DependsOn g) :=
  wellFounded_of_bounded g.size (fun _ _ => lt_size_of_dependsOn) hc

theorem Acyclic.wellFounded_dependencyOf {g : Graph} (hc : Acyclic g) (hl : WellLinked g) :
    WellFounded (flip (DependsOn g)) :=
  wellFounded_of_bounded g.size (fun _ _ h => hl.inRange _ _ h)
    fun a h => hc a (Relation.transGen_swap.mp h)

end Graphd

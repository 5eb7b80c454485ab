import Mathlib.Data.List.Basic

/-!
The vertex store of the dependency graph engine (`graphd/graph.c`). Services, instances and
dependency groups are vertices of one insertion-ordered list (`graph`); a vertex is addressed
by its position in that list and an edge by the position of its far end. Code that can fail an
`assert`, call `abort ()` or recurse without bound runs in `Run`.
-/

namespace Graphd

structure S16Path where
  svc : String
  inst : Option String
  deriving DecidableEq, Repr

inductive VertexType where
  | svc | inst | depgroup
  deriving DecidableEq, Repr

inductive S16DependencyGroupType where
  | requireAll | requireAny | optionalAll | excludeAll
  deriving DecidableEq, Repr

inductive S16DependencyGroupRestartOnCondition where
  | none | error | restart | refresh | any
  deriving DecidableEq, Repr

/-- Modelled from the spec: the header is not in the source. Its comments give Error = 1 and
    Restart = 2, and the spec orders None < Error < Restart < Refresh < Any. -/
def S16DependencyGroupRestartOnCondition.toInt : S16DependencyGroupRestartOnCondition → Int
  | .none => 0
  | .error => 1
  | .restart => 2
  | .refresh => 3
  | .any => 4

inductive S16State where
  | uninitialised | disabled | offline | online | degraded | maintenance
  deriving DecidableEq, Repr

structure Vertex where
  path : S16Path
  type : VertexType
  dgType : S16DependencyGroupType
  restartOn : S16DependencyGroupRestartOnCondition
  state : S16State
  isSetup : Bool
  isEnabled : Bool
  toOffline : Bool
  toDisable : Bool
  dependencies : List Nat
  dependents : List Nat
  deriving DecidableEq, Repr

instance : Inhabited Vertex :=
  ⟨⟨⟨"", none⟩, .svc, .requireAll, .any, .uninitialised, false, false, false, false, [], []⟩⟩

structure Graph where
  vertices : List Vertex
  deriving DecidableEq, Repr

namespace Graph

def vtx (g : Graph) (i : Nat) : Vertex := g.vertices.getD i default

def size (g : Graph) : Nat := g.vertices.length

def modify (g : Graph) (i : Nat) (f : Vertex → Vertex) : Graph := ⟨g.vertices.modify f i⟩

@[simp] theorem size_modify (g : Graph) (i : Nat) (f : Vertex → Vertex) :
    (g.modify i f).size = g.size := by
  simp [modify, size]

theorem vtx_modify (g : Graph) (i j : Nat) (f : Vertex → Vertex) :
    (g.modify i f).vtx j = if i = j ∧ j < g.size then f (g.vtx j) else g.vtx j := by
  simp only [vtx, modify, size, List.getD_eq_getElem?_getD, List.getElem?_modify]
  by_cases h : j < g.vertices.length
  · simp [List.getElem?_eq_getElem h, h]
  · simp [List.getElem?_eq_none (Nat.le_of_not_lt h), h]

@[simp] theorem vtx_modify_self (g : Graph) (i : Nat) (f : Vertex → Vertex) (h : i < g.size) :
    (g.modify i f).vtx i = f (g.vtx i) := by
  simp [vtx_modify, h]

@[simp] theorem vtx_modify_ne (g : Graph) {i j : Nat} (f : Vertex → Vertex) (h : i ≠ j) :
    (g.modify i f).vtx j = g.vtx j := by
  simp [vtx_modify, h]

theorem modify_of_eq (g : Graph) {i : Nat} {f : Vertex → Vertex} (same : f (g.vtx i) = g.vtx i) :
    g.modify i f = g := by
  cases g with
  | mk vs =>
    simp only [modify, mk.injEq]
    apply List.ext_getElem (by simp)
    intro j _ h₂
    rw [List.getElem_modify]
    split
    · subst_vars
      simpa [vtx, List.getElem?_eq_getElem h₂] using same
    · rfl

theorem vtx_of_size_le {g : Graph} {i : Nat} (h : g.size ≤ i) : g.vtx i = default := by
  simp [vtx, List.getElem?_eq_none (show g.vertices.length ≤ i from h)]

end Graph

/-- Vertex lists and edge lists are insertion-ordered: `*_list_add` appends. -/
def vtxEdgeAdd (g : Graph) (v dst : Nat) : Graph :=
  (g.modify v fun x => { x with dependencies := x.dependencies ++ [dst] }).modify dst
    fun x => { x with dependents := x.dependents ++ [v] }

def vtxIsRunning (x : Vertex) : Bool := x.state = .online || x.state = .degraded

def vtxFindByPath (g : Graph) (p : S16Path) : Option Nat := g.vertices.findIdx? (·.path = p)

def vtxFindOrAdd (g : Graph) (p : S16Path) (type : VertexType) (dgType : S16DependencyGroupType)
    (restartOn : S16DependencyGroupRestartOnCondition) : Graph × Nat :=
  match vtxFindByPath g p with
  | some i => (g, i)
  | none =>
    (⟨g.vertices ++ [⟨p, type, dgType, restartOn, .uninitialised, false, false, false, false,
      [], []⟩]⟩, g.size)

@[simp] theorem size_vtxEdgeAdd (g : Graph) (v dst : Nat) :
    (vtxEdgeAdd g v dst).size = g.size := by
  simp [vtxEdgeAdd]

theorem vtxEdgeAdd_vtx (g : Graph) (v dst j : Nat) :
    (vtxEdgeAdd g v dst).vtx j =
      { g.vtx j with
        dependencies := if v = j ∧ j < g.size then (g.vtx j).dependencies ++ [dst]
          else (g.vtx j).dependencies
        dependents := if dst = j ∧ j < g.size then (g.vtx j).dependents ++ [v]
          else (g.vtx j).dependents } := by
  simp only [vtxEdgeAdd, Graph.vtx_modify, Graph.size_modify]
  split_ifs <;> rfl

theorem vtxFindOrAdd_vtx_of_lt (g : Graph) (p : S16Path) (type : VertexType)
    (dgType : S16DependencyGroupType) (restartOn : S16DependencyGroupRestartOnCondition)
    {j : Nat} (h : j < g.size) : (vtxFindOrAdd g p type dgType restartOn).1.vtx j = g.vtx j := by
  unfold vtxFindOrAdd
  split
  · rfl
  · simp [Graph.vtx, Graph.size] at h ⊢
    simp [List.getElem?_append_left h]

theorem vtxFindOrAdd_snd (g : Graph) (p : S16Path) (type : VertexType)
    (dgType : S16DependencyGroupType) (restartOn : S16DependencyGroupRestartOnCondition) :
    (vtxFindOrAdd g p type dgType restartOn).2 < (vtxFindOrAdd g p type dgType restartOn).1.size ∧
      ((vtxFindOrAdd g p type dgType restartOn).1.vtx
        (vtxFindOrAdd g p type dgType restartOn).2).path = p := by
  unfold vtxFindOrAdd vtxFindByPath
  split
  · rename_i i found
    obtain ⟨lt, eq, -⟩ := List.findIdx?_eq_some_iff_getElem.mp found
    exact ⟨lt, by simpa [Graph.vtx, List.getElem?_eq_getElem lt] using eq⟩
  · simp [Graph.vtx, Graph.size]

/-! ## Outcomes -/

/-- Outcome of code run under a recursion budget: it returned, it stopped at a failed `assert`
    or an `abort ()`, or it needed a deeper recursion than the budget. -/
inductive Run (α : Type) where
  | done : α → Run α
  | aborted : Run α
  | exhausted : Run α
  deriving DecidableEq, Repr

namespace Run

def bind {α β : Type} : Run α → (α → Run β) → Run β
  | done a, f => f a
  | aborted, _ => aborted
  | exhausted, _ => exhausted

instance : Monad Run where
  pure := done
  bind := bind

@[simp] theorem pure_eq {α : Type} (a : α) : (pure a : Run α) = done a := rfl

@[simp] theorem done_bind {α β : Type} (a : α) (f : α → Run β) : (done a >>= f) = f a := rfl

@[simp] theorem aborted_bind {α β : Type} (f : α → Run β) : (aborted >>= f) = aborted := rfl

@[simp] theorem exhausted_bind {α β : Type} (f : α → Run β) : (exhausted >>= f) = exhausted := rfl

instance : LawfulMonad Run :=
  LawfulMonad.mk' Run (fun x => by cases x <;> rfl) (fun _ _ => rfl) (fun x _ _ => by cases x <;> rfl)

theorem bind_eq_done {α β : Type} {x : Run α} {f : α → Run β} {b : β} :
    (x >>= f) = done b ↔ ∃ a, x = done a ∧ f a = done b := by
  cases x <;> simp

/-- The run returned or stopped at an assertion: it did not need a deeper recursion. -/
def Finished {α : Type} : Run α → Prop
  | exhausted => False
  | _ => True

end Run

end Graphd

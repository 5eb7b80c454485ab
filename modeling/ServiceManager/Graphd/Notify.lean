import ServiceManager.Graphd.Satisfy

/-!
The propagation engine's traversals. They never call a method: they append notes to the queue
(`vtx_online`, `vtx_offline`, …), and `vtx_notify_admin_disable` also marks `to_offline`. Each
traversal threads the notes it has appended so far.
-/

namespace Graphd

inductive S16NoteAdminType where
  | enable | disable | refresh
  deriving DecidableEq, Repr

inductive S16NoteScType where
  | online | offline | disabled | degraded | maintenance
  deriving DecidableEq, Repr

/-- `s16note_t`; its `note_type` decides how `type` is read. -/
inductive S16Note where
  | adminReq (type : S16NoteAdminType) (path : S16Path) (reason : Int)
  | stateChange (type : S16NoteScType) (path : S16Path) (reason : Int)
  | rreq (path : S16Path) (reason : Int)
  deriving DecidableEq, Repr

def vtxOnline (x : Vertex) (reason : Int) : S16Note := .stateChange .online x.path reason

def vtxOffline (x : Vertex) (reason : Int) : S16Note := .stateChange .offline x.path reason

def vtxEnable (x : Vertex) : S16Note :=
  .stateChange .offline x.path S16DependencyGroupRestartOnCondition.restart.toInt

def vtxDisable (x : Vertex) (reason : Int) : S16Note := .stateChange .disabled x.path reason

def vtxDependenciesDo {σ : Type} (x : Vertex) (f : Nat → σ → Run σ) (s : σ) : Run σ :=
  x.dependencies.foldlM (fun s c => f c s) s

def vtxDependentsDo {σ : Type} (x : Vertex) (f : Nat → σ → Run σ) (s : σ) : Run σ :=
  x.dependents.foldlM (fun s d => f d s) s

def vtxNotifyStart (g : Graph) : Nat → Nat → Int → List S16Note → Run (List S16Note)
  | 0, _, _, _ => .exhausted
  | fuel + 1, v, _, notes =>
    match (g.vtx v).type with
    | .inst => do
      let up ← vtxInstCanComeUp g fuel v
      if up && !vtxIsRunning (g.vtx v) then
        .done (notes ++ [.stateChange .online (g.vtx v).path 0])
      else .done notes
    | .depgroup | .svc =>
      vtxDependentsDo (g.vtx v) (fun d => vtxNotifyStart g fuel d (g.vtx v).restartOn.toInt) notes

def vtxNotifyStop (g : Graph) : Nat → Nat → Int → List S16Note → Run (List S16Note)
  | 0, _, _, _ => .exhausted
  | fuel + 1, v, reason, notes =>
    match (g.vtx v).type with
    | .inst =>
      if !vtxIsRunning (g.vtx v) then .done notes
      else .done (notes ++ [.stateChange .offline (g.vtx v).path reason])
    | .depgroup =>
      if (g.vtx v).dgType = .excludeAll ∨ (g.vtx v).restartOn.toInt < reason then .done notes
      else vtxDependentsDo (g.vtx v) (fun d => vtxNotifyStop g fuel d reason) notes
    | .svc => vtxDependentsDo (g.vtx v) (fun d => vtxNotifyStop g fuel d reason) notes

def vtxNotifyMisc (g : Graph) : Nat → Nat → Int → List S16Note → Run (List S16Note)
  | 0, _, _, _ => .exhausted
  | fuel + 1, v, reason, notes => do
    let notes ← if (g.vtx v).type = .inst then do
        let up ← vtxInstCanComeUp g fuel v
        .done (if up && !vtxIsRunning (g.vtx v) then notes ++ [vtxOnline (g.vtx v) reason]
          else notes)
      else .done notes
    vtxDependentsDo (g.vtx v) (fun d => vtxNotifyMisc g fuel d reason) notes

def vtxNotifyAdminDisable : Nat → Nat → Int → Graph → Run Graph
  | 0, _, _, _ => .exhausted
  | fuel + 1, v, reason, g =>
    match (g.vtx v).type with
    | .inst =>
      let g := g.modify v fun x => { x with toOffline := true }
      vtxDependentsDo (g.vtx v) (fun d => vtxNotifyAdminDisable fuel d reason) g
    | .depgroup =>
      if (g.vtx v).dgType = .excludeAll ∨ (g.vtx v).restartOn = .none ∨
          (g.vtx v).restartOn = .error then .done g
      else vtxDependentsDo (g.vtx v) (fun d => vtxNotifyAdminDisable fuel d reason) g
    | .svc => vtxDependentsDo (g.vtx v) (fun d => vtxNotifyAdminDisable fuel d reason) g

/-- A loop that returns `false` as soon as one check does. -/
def allUntilFalse (check : Nat → Run Bool) : List Nat → Run Bool
  | [] => .done true
  | d :: ds => do
    let ok ← check d
    if ok then allUntilFalse check ds else .done false

def vtxCanGoDown (g : Graph) : Nat → Nat → Bool → Run Bool
  | 0, _, _ => .exhausted
  | fuel + 1, v, root => do
    let ok ← allUntilFalse (fun d =>
      if (g.vtx d).type = .inst && !(g.vtx d).toOffline then .done true
      else vtxCanGoDown g fuel d false) (g.vtx v).dependents
    if !ok then .done false
    else if (g.vtx v).type = .inst && vtxIsRunning (g.vtx v) && !root then .done false
    else .done true

def vtxOfflineIfPossible (g : Graph) (fuel : Nat) (v : Nat) (reason : Int)
    (notes : List S16Note) : Run (List S16Note) :=
  if !(g.vtx v).toOffline then .done notes
  else if (g.vtx v).type = .inst then do
    let down ← vtxCanGoDown g fuel v true
    .done (if down then notes ++ [vtxOffline (g.vtx v) reason] else notes)
  else .done notes

def vtxOfflineDependency (g : Graph) : Nat → Nat → Int → List S16Note → Run (List S16Note)
  | 0, _, _, _ => .exhausted
  | fuel + 1, v, reason, notes =>
    if (g.vtx v).type = .inst && !(g.vtx v).toOffline then .done notes
    else if (g.vtx v).type = .inst then do
      let down ← vtxCanGoDown g fuel v true
      .done (if down then notes ++ [vtxOffline (g.vtx v) reason] else notes)
    else vtxDependenciesDo (g.vtx v) (fun c => vtxOfflineDependency g fuel c reason) notes

end Graphd

import ServiceManager.Graphd.Notify

/-!
Note dispatch: `graph_process_note` resolves a note's path and hands it to the admin-request or
state-change handler, which changes the vertex and returns the notes it appends. The queue is
drained by popping its head until it is empty (`processNotes ()` in `graph_setup_all`).
-/

namespace Graphd

def vtxProcessAdminReq (g : Graph) (fuel : Nat) (v : Nat) (type : S16NoteAdminType)
    (reason : Int) : Run (Graph × List S16Note) :=
  match type with
  | .disable => do
    let g := g.modify v fun x => { x with toDisable := true, toOffline := true, isEnabled := false }
    let g ← vtxDependentsDo (g.vtx v) (fun d => vtxNotifyAdminDisable fuel d reason) g
    -- evaluated only to choose a log message
    let _ ← vtxCanGoDown g fuel v true
    let notes ← (List.range g.size).foldlM (fun notes i =>
      vtxOfflineIfPossible g fuel i S16DependencyGroupRestartOnCondition.restart.toInt notes) []
    .done (g, notes)
  | .enable =>
    let g := g.modify v fun x => { x with toDisable := false, toOffline := false, isEnabled := true }
    .done (g, [vtxEnable (g.vtx v)])
  | .refresh => .done (g, [])

def vtxProcessStateChange (g : Graph) (fuel : Nat) (v : Nat) (type : S16NoteScType)
    (reason : Int) : Run (Graph × List S16Note) :=
  let toOffline := (g.vtx v).toOffline
  match type with
  | .online => do
    let g := g.modify v fun x => { x with state := .online }
    let notes ← vtxDependentsDo (g.vtx v) (fun d => vtxNotifyStart g fuel d reason) []
    .done (g, notes)
  | .offline => do
    let g := g.modify v fun x => { x with state := .offline, toOffline := false }
    let notes ← if toOffline then do
        let notes ← vtxDependenciesDo (g.vtx v) (fun c => vtxOfflineDependency g fuel c reason) []
        .done (if (g.vtx v).toDisable then notes ++ [vtxDisable (g.vtx v) reason] else notes)
      else do
        let up ← vtxInstCanComeUp g fuel v
        .done (if up then [vtxOnline (g.vtx v) reason] else [])
    let notes ← vtxDependentsDo (g.vtx v) (fun d => vtxNotifyStop g fuel d reason) notes
    .done (g, notes)
  | .disabled => do
    let g := g.modify v fun x =>
      { x with toOffline := false, toDisable := false, state := .disabled }
    let notes ← vtxDependentsDo (g.vtx v) (fun d => vtxNotifyMisc g fuel d reason) []
    .done (g, notes)
  | .degraded | .maintenance => .done (g, [])

/-- `graph_process_note`. A path with no vertex is a null pointer, which both handlers
    dereference at once, except an admin request of a type neither branch handles. -/
def graphProcessNote (g : Graph) (fuel : Nat) : S16Note → Run (Graph × List S16Note)
  | .adminReq type path reason =>
    match vtxFindByPath g path with
    | some v => vtxProcessAdminReq g fuel v type reason
    | none => if type = .refresh then .done (g, []) else .aborted
  | .stateChange type path reason =>
    match vtxFindByPath g path with
    | some v => vtxProcessStateChange g fuel v type reason
    | none => .aborted
  | .rreq _ _ => .done (g, [])

/-- `while ((note = s16note_list_lpop (&notes))) graph_process_note (note)`: notes a note's
    processing appends go to the back of the queue. -/
def processNotes : Nat → Graph → List S16Note → Run Graph
  | 0, _, _ => .exhausted
  | _ + 1, g, [] => .done g
  | fuel + 1, g, n :: q => do
    let (g, new) ← graphProcessNote g fuel n
    processNotes fuel g (q ++ new)

def processNoteTurns (fuel : Nat) : Nat → Graph → List S16Note → Run (Graph × List S16Note)
  | 0, g, q => .done (g, q)
  | _ + 1, g, [] => .done (g, [])
  | turns + 1, g, n :: q => do
    let (g, new) ← graphProcessNote g fuel n
    processNoteTurns fuel turns g (q ++ new)

end Graphd

import Mathlib.Data.List.Basic

/-!
The master restarter's unit (`restartd/unit.c`): the state a unit is in, the processes it tracks,
and the entry action of each state. A unit lives in a world that also holds the unit's entries of
the manager's timer set and the outcome of every `S16ProcessForkAndWait` call, which the process
tracker decides. The entry actions call one another (a failed fork purges, a purge stops, a stop
enters the target), so they run under a recursion budget and return `none` when it is spent.
-/

namespace Restartd

inductive UnitType where
  | simple | oneshot | forks | group | notify
  deriving DecidableEq, Repr

inductive UnitState where
  | uninitialised | offline | preStart | start | postStart | online | stop | stopTerm | stopKill
  | postStop | maintenance | none
  deriving DecidableEq, Repr

inductive UnitMethodType where
  | preStart | start | postStart | stop | postStop
  deriving DecidableEq, Repr

/-- Modelled from the spec: `unit.h` is not in the source. The method slots are PreStart, Start,
    PostStart, Stop and PostStop in this order (§3). -/
def UnitMethodType.toInt : UnitMethodType → Int
  | .preStart => 0
  | .start => 1
  | .postStart => 2
  | .stop => 3
  | .postStop => 4

structure UnitMethods where
  preStart : Option String
  start : Option String
  postStart : Option String
  stop : Option String
  postStop : Option String
  deriving DecidableEq, Repr

inductive TimerCallback where
  | unitTimerEvent | unitRestartBeginCb
  deriving DecidableEq, Repr

structure Timer where
  id : Nat
  callback : TimerCallback
  deriving DecidableEq, Repr

structure Unit where
  type : UnitType
  methods : UnitMethods
  state : UnitState
  target : UnitState
  mainPid : Nat
  secondaryPid : Nat
  pids : List Nat
  timerId : Nat
  methRestartTimerId : Nat
  /-- `fail_cnt`, read at the index `state_to_S16ServiceMethodype` computes, which may be -1. -/
  failCnt : Int → Int

/-- Modelled from the spec (§6): `timerset_add` returns a fresh nonzero id; a fork succeeds or
    fails as the process tracker decides, and a successful one yields a pid never used before. -/
structure World where
  unit : Unit
  ts : List Timer
  nextTimerId : Nat
  nextPid : Nat
  forkCount : Nat
  forkOk : Nat → Bool

namespace World

def setUnit (w : World) (f : Unit → Unit) : World := { w with unit := f w.unit }

@[simp] theorem setUnit_unit (w : World) (f : Unit → Unit) : (w.setUnit f).unit = f w.unit := rfl
@[simp] theorem setUnit_ts (w : World) (f : Unit → Unit) : (w.setUnit f).ts = w.ts := rfl

end World

def timersetAdd (w : World) (callback : TimerCallback) : World × Nat :=
  ({ w with ts := w.ts ++ [⟨w.nextTimerId, callback⟩], nextTimerId := w.nextTimerId + 1 },
    w.nextTimerId)

@[simp] theorem timersetAdd_unit (w : World) (callback : TimerCallback) :
    (timersetAdd w callback).1.unit = w.unit := rfl

def timersetDel (w : World) (id : Nat) : World := { w with ts := w.ts.filter (·.id ≠ id) }

@[simp] theorem timersetDel_unit (w : World) (id : Nat) : (timersetDel w id).unit = w.unit := rfl

def unitTimerReg (w : World) : World :=
  let (w, id) := timersetAdd w .unitTimerEvent
  w.setUnit fun u => { u with timerId := id }

@[simp] theorem unitTimerReg_unit (w : World) :
    (unitTimerReg w).unit = { w.unit with timerId := w.nextTimerId } := rfl

def unitTimerDereg (w : World) : World :=
  (timersetDel w w.unit.timerId).setUnit fun u => { u with timerId := 0 }

@[simp] theorem unitTimerDereg_unit (w : World) :
    (unitTimerDereg w).unit = { w.unit with timerId := 0 } := rfl

def stateToS16ServiceMethodype : UnitState → Int
  | .preStart => UnitMethodType.preStart.toInt
  | .start => UnitMethodType.start.toInt
  | .postStart => UnitMethodType.postStart.toInt
  | .stop => UnitMethodType.stop.toInt
  | .postStop => UnitMethodType.postStop.toInt
  | _ => -1

def unitStopping (u : Unit) : Bool :=
  u.state = .stop || u.state = .stopTerm || u.state = .stopKill || u.state = .postStop

def unitDeregisterPid (w : World) (pid : Nat) : World :=
  w.setUnit fun u => { u with pids := u.pids.filter (· ≠ pid) }

/-- `unit_fork_and_register`: 0 when the fork fails, otherwise the new pid, now tracked. -/
def unitForkAndRegister (w : World) (_cmd : Option String) : World × Nat :=
  let w' := { w with forkCount := w.forkCount + 1 }
  if w.forkOk w.forkCount then
    ({ w' with nextPid := w.nextPid + 1 }.setUnit fun u => { u with pids := u.pids ++ [w.nextPid] },
      w.nextPid)
  else (w', 0)

theorem unitForkAndRegister_of_ok {w : World} (ok : w.forkOk w.forkCount = true)
    (cmd : Option String) : unitForkAndRegister w cmd =
      ({ w with forkCount := w.forkCount + 1, nextPid := w.nextPid + 1 }.setUnit fun u =>
        { u with pids := u.pids ++ [w.nextPid] }, w.nextPid) := by
  simp [unitForkAndRegister, ok]

theorem unitForkAndRegister_of_fails {w : World} (fails : w.forkOk w.forkCount = false)
    (cmd : Option String) :
    unitForkAndRegister w cmd = ({ w with forkCount := w.forkCount + 1 }, 0) := by
  simp [unitForkAndRegister, fails]

@[simp] theorem unitForkAndRegister_state (w : World) (cmd : Option String) :
    (unitForkAndRegister w cmd).1.unit.state = w.unit.state := by
  unfold unitForkAndRegister
  split <;> rfl

def setState (w : World) (s : UnitState) : World := w.setUnit fun u => { u with state := s }

def setTarget (w : World) (s : UnitState) : World := w.setUnit fun u => { u with target := s }

@[simp] theorem setState_unit (w : World) (s : UnitState) :
    (setState w s).unit = { w.unit with state := s } := rfl

@[simp] theorem setTarget_unit (w : World) (s : UnitState) :
    (setTarget w s).unit = { w.unit with target := s } := rfl

def unitEnterMaintenance (w : World) : World := setState w .maintenance

def unitEnterOffline (w : World) : World := setState w .offline

/-- `unit_enter_online` logs and, for the repository's own unit, tells the manager; it does not
    change the unit. -/
def unitEnterOnline (w : World) : World := w

mutual

def unitPurgeAndTarget : Nat → World → Option World
  | 0, _ => none
  | fuel + 1, w =>
    if !w.unit.pids.isEmpty then unitEnterStop fuel w
    else unitEnterState fuel w w.unit.target
termination_by structural n _ => n

def unitEnterPrestart : Nat → World → Option World
  | 0, _ => none
  | fuel + 1, w =>
    match w.unit.methods.preStart with
    | some cmd =>
      let w := unitTimerReg (setState w .preStart)
      let (w, pid) := unitForkAndRegister w cmd
      let w := w.setUnit fun u => { u with mainPid := pid }
      if pid = 0 then unitPurgeAndTarget fuel (setTarget w .maintenance) else some w
    | none => unitEnterStart fuel w
termination_by structural n _ => n

def unitEnterStart : Nat → World → Option World
  | 0, _ => none
  | fuel + 1, w =>
    let w := setState w .start
    let (w, pid) := unitForkAndRegister w w.unit.methods.start
    let w := w.setUnit fun u => { u with mainPid := pid }
    if pid = 0 then unitPurgeAndTarget fuel (setTarget w .maintenance)
    else if w.unit.type = .simple || w.unit.type = .oneshot || w.unit.type = .group then
      unitEnterPoststart fuel w
    else some (unitTimerReg w)
termination_by structural n _ => n

def unitEnterPoststart : Nat → World → Option World
  | 0, _ => none
  | fuel + 1, w =>
    match w.unit.methods.postStart with
    | some cmd =>
      let w := unitTimerReg (setState w .postStart)
      let (w, pid) := unitForkAndRegister w cmd
      let w := w.setUnit fun u => { u with secondaryPid := pid }
      if pid = 0 then unitPurgeAndTarget fuel (setTarget w .maintenance) else some w
    | none => some (unitEnterOnline w)
termination_by structural n _ => n

def unitEnterStop : Nat → World → Option World
  | 0, _ => none
  | fuel + 1, w =>
    match w.unit.methods.stop with
    | some cmd =>
      let w := unitTimerReg (setState w .stop)
      let (w, pid) := unitForkAndRegister w cmd
      let w := w.setUnit fun u => { u with secondaryPid := pid }
      if pid = 0 then unitPurgeAndTarget fuel (setTarget w .maintenance) else some w
    | none => unitEnterStopterm fuel w
termination_by structural n _ => n

def unitEnterStopterm : Nat → World → Option World
  | 0, _ => none
  | fuel + 1, w =>
    if w.unit.pids.isEmpty then unitEnterState fuel w w.unit.target
    else some (unitTimerReg (setState w .stopTerm))
termination_by structural n _ => n

def unitEnterState : Nat → World → UnitState → Option World
  | 0, _, _ => none
  | fuel + 1, w, s =>
    match s with
    | .offline => some (unitEnterOffline w)
    | .maintenance => some (unitEnterMaintenance w)
    | .preStart => unitEnterPrestart fuel w
    | .start => unitEnterStart fuel w
    | .postStart => unitEnterPoststart fuel w
    | .online => some (unitEnterOnline w)
    | .none => some (setState w .none)
    | _ => some w
termination_by structural n _ _ => n

end

/-- `unit_enter_stopkill`, which no entry action calls. -/
def unitEnterStopkill (fuel : Nat) (w : World) : Option World :=
  if w.unit.pids.isEmpty then unitEnterState fuel w w.unit.target
  else some (unitTimerReg (setState w .stopKill))

theorem unitEnterStopkill_of_isEmpty {fuel : Nat} {w : World} (none : w.unit.pids.isEmpty = true) :
    unitEnterStopkill fuel w = unitEnterState fuel w w.unit.target := by
  simp [unitEnterStopkill, none]

/-- `unit_retry_start`; the delay argument is not used, the restart timer is always 500 ms. -/
def unitRetryStart (fuel : Nat) (w : World) : Option World := do
  let w ← unitPurgeAndTarget fuel (setTarget w .none)
  let (w, id) := timersetAdd w .unitRestartBeginCb
  some (w.setUnit fun u => { u with methRestartTimerId := id })

/-! ### What an entry action can do

Entry actions only arm timers and fork: they never delete a timer and never drop a pid. This is
why a purge that has to stop processes leaves them running, and why entering a state whose
action arms a timer leaves any timer armed before it in place. -/

/-- Every entry action of the mutual block, so that one statement covers all of them. -/
inductive Entry where
  | purgeAndTarget | prestart | start | poststart | stop | stopterm | state (s : UnitState)

def Entry.run : Entry → Nat → World → Option World
  | .purgeAndTarget => unitPurgeAndTarget
  | .prestart => unitEnterPrestart
  | .start => unitEnterStart
  | .poststart => unitEnterPoststart
  | .stop => unitEnterStop
  | .stopterm => unitEnterStopterm
  | .state s => fun fuel w => unitEnterState fuel w s

structure EntryStable (R : World → World → Prop) : Prop where
  refl : ∀ w, R w w
  trans : ∀ {w₁ w₂ w₃}, R w₁ w₂ → R w₂ w₃ → R w₁ w₃
  enter : ∀ w s, R w (setState w s)
  retarget : ∀ w s, R w (setTarget w s)
  arm : ∀ w, R w (unitTimerReg w)
  fork : ∀ w cmd, R w (unitForkAndRegister w cmd).1
  recordMain : ∀ w pid, R w (w.setUnit fun u => { u with mainPid := pid })
  recordSecondary : ∀ w pid, R w (w.setUnit fun u => { u with secondaryPid := pid })

namespace EntryStable

variable {R : World → World → Prop} (hR : EntryStable R)
include hR

theorem forkTail {fuel pid : Nat} {w w' : World} {f : Unit → Unit} (record : R w (w.setUnit f))
    (h : (if pid = 0 then unitPurgeAndTarget fuel (setTarget (w.setUnit f) .maintenance)
      else some (w.setUnit f)) = some w')
    (purge : ∀ {v v' : World}, unitPurgeAndTarget fuel v = some v' → R v v') : R w w' := by
  split at h
  · exact hR.trans record (hR.trans (hR.retarget _ _) (purge h))
  · exact Option.some.inj h ▸ record

theorem armFork (w : World) (s : UnitState) (cmd : Option String) :
    R w (unitForkAndRegister (unitTimerReg (setState w s)) cmd).1 :=
  hR.trans (hR.trans (hR.enter w s) (hR.arm _)) (hR.fork _ _)

theorem entry : ∀ (fuel : Nat) (e : Entry) {w w' : World}, e.run fuel w = some w' → R w w'
  | 0, e, _, _, h => by
    cases e <;> simp [Entry.run, unitPurgeAndTarget, unitEnterPrestart, unitEnterStart,
      unitEnterPoststart, unitEnterStop, unitEnterStopterm, unitEnterState] at h
  | fuel + 1, e, w, w', h => by
    have ih := entry fuel
    cases e with
    | purgeAndTarget =>
      simp only [Entry.run, unitPurgeAndTarget] at h
      split at h
      · exact ih .stop h
      · exact ih (.state _) h
    | prestart =>
      simp only [Entry.run, unitEnterPrestart] at h
      split at h
      · exact hR.trans (hR.armFork _ _ _) (hR.forkTail (hR.recordMain _ _) h (ih .purgeAndTarget))
      · exact ih .start h
    | start =>
      simp only [Entry.run, unitEnterStart] at h
      have forked := hR.trans (hR.enter w .start) (hR.fork (setState w .start)
        (setState w .start).unit.methods.start)
      generalize unitForkAndRegister (setState w .start) (setState w .start).unit.methods.start = r
        at h forked
      obtain ⟨w₁, pid⟩ := r
      dsimp only at h forked
      have recorded := hR.trans forked (hR.recordMain w₁ pid)
      split at h
      · exact hR.trans recorded (hR.trans (hR.retarget _ _) (ih .purgeAndTarget h))
      · split at h
        · exact hR.trans recorded (ih .poststart h)
        · exact Option.some.inj h ▸ hR.trans recorded (hR.arm _)
    | poststart =>
      simp only [Entry.run, unitEnterPoststart] at h
      split at h
      · exact hR.trans (hR.armFork _ _ _) (hR.forkTail (hR.recordSecondary _ _) h (ih .purgeAndTarget))
      · exact Option.some.inj h ▸ hR.refl _
    | stop =>
      simp only [Entry.run, unitEnterStop] at h
      split at h
      · exact hR.trans (hR.armFork _ _ _) (hR.forkTail (hR.recordSecondary _ _) h (ih .purgeAndTarget))
      · exact ih .stopterm h
    | stopterm =>
      simp only [Entry.run, unitEnterStopterm] at h
      split at h
      · exact ih (.state _) h
      · exact Option.some.inj h ▸ hR.trans (hR.enter _ _) (hR.arm _)
    | state s =>
      cases s with
      | preStart => exact ih .prestart h
      | start => exact ih .start h
      | postStart => exact ih .poststart h
      | _ =>
        simp only [Entry.run, unitEnterState, Option.some.injEq] at h
        subst h
        first | exact hR.refl _ | exact hR.enter _ _

end EntryStable

structure Grows (w w' : World) : Prop where
  ts : w.ts <+: w'.ts
  pids : w.unit.pids <+: w'.unit.pids

theorem Grows.refl (w : World) : Grows w w := ⟨List.prefix_refl _, List.prefix_refl _⟩

theorem Grows.trans {w₁ w₂ w₃ : World} (h₁₂ : Grows w₁ w₂) (h₂₃ : Grows w₂ w₃) : Grows w₁ w₃ :=
  ⟨h₁₂.ts.trans h₂₃.ts, h₁₂.pids.trans h₂₃.pids⟩

theorem grows_setUnit (w : World) {f : Unit → Unit} (same : (f w.unit).pids = w.unit.pids) :
    Grows w (w.setUnit f) := ⟨List.prefix_refl _, by simp [same]⟩

theorem grows_unitForkAndRegister (w : World) (cmd : Option String) :
    Grows w (unitForkAndRegister w cmd).1 := by
  unfold unitForkAndRegister
  split
  · exact ⟨List.prefix_refl _, List.prefix_append _ _⟩
  · exact ⟨List.prefix_refl _, List.prefix_refl _⟩

theorem grows_entryStable : EntryStable Grows where
  refl := Grows.refl
  trans := Grows.trans
  enter w _ := grows_setUnit w rfl
  retarget w _ := grows_setUnit w rfl
  arm _ := ⟨List.prefix_append _ _, List.prefix_refl _⟩
  fork := grows_unitForkAndRegister
  recordMain w _ := grows_setUnit w rfl
  recordSecondary w _ := grows_setUnit w rfl

theorem entry_grows (fuel : Nat) (e : Entry) {w w' : World} (h : e.run fuel w = some w') :
    Grows w w' :=
  grows_entryStable.entry fuel e h

structure Keeps (w w' : World) : Prop where
  type : w'.unit.type = w.unit.type
  methods : w'.unit.methods = w.unit.methods
  failCnt : w'.unit.failCnt = w.unit.failCnt
  forkOk : w'.forkOk = w.forkOk

theorem keeps_setUnit (w : World) {f : Unit → Unit} (type : (f w.unit).type = w.unit.type)
    (methods : (f w.unit).methods = w.unit.methods)
    (failCnt : (f w.unit).failCnt = w.unit.failCnt) : Keeps w (w.setUnit f) :=
  ⟨type, methods, failCnt, rfl⟩

theorem keeps_entryStable : EntryStable Keeps where
  refl _ := ⟨rfl, rfl, rfl, rfl⟩
  trans h₁₂ h₂₃ := ⟨h₂₃.type.trans h₁₂.type, h₂₃.methods.trans h₁₂.methods,
    h₂₃.failCnt.trans h₁₂.failCnt, h₂₃.forkOk.trans h₁₂.forkOk⟩
  enter w _ := keeps_setUnit w rfl rfl rfl
  retarget w _ := keeps_setUnit w rfl rfl rfl
  arm _ := ⟨rfl, rfl, rfl, rfl⟩
  fork w _ := by unfold unitForkAndRegister; split <;> exact ⟨rfl, rfl, rfl, rfl⟩
  recordMain w _ := keeps_setUnit w rfl rfl rfl
  recordSecondary w _ := keeps_setUnit w rfl rfl rfl

end Restartd

import ServiceManager.Restartd.Unit

/-!
The events a unit reacts to: the process tracker's reports (`unit_ptevent`), the expiry of one of
its timers (`unit_timer_event`, `unit_restart_begin_cb`), a readiness notification
(`unit_notify_ready`) and the restarter's `RR_START` (`unit_msg`). A run of a unit is a sequence
of such events, each one the environment may deliver in the state the run has reached.
-/

namespace Restartd

inductive S16ProcessTrackerEventType where
  | child | exit
  deriving DecidableEq, Repr

structure S16ProcessTrackerEvent where
  event : S16ProcessTrackerEventType
  pid : Nat
  abnormal : Bool
  deriving DecidableEq, Repr

def unitHasPid (u : Unit) (pid : Nat) : Bool := u.pids.contains pid

/-- `(*fail_cnt)++` on the slot of the unit's state; returns the new count. -/
def incFailCnt (w : World) : World × Int :=
  let m := stateToS16ServiceMethodype w.unit.state
  let n := w.unit.failCnt m + 1
  (w.setUnit fun u => { u with failCnt := fun i => if i = m then n else u.failCnt i }, n)

@[simp] theorem incFailCnt_state (w : World) : (incFailCnt w).1.unit.state = w.unit.state := rfl

@[simp] theorem incFailCnt_pids (w : World) : (incFailCnt w).1.unit.pids = w.unit.pids := rfl

def unitMainPidExited (fuel : Nat) (w : World) (abnormal : Bool) : Option World :=
  let w := w.setUnit fun u => { u with mainPid := 0 }
  let w := if w.unit.timerId ≠ 0 then timersetDel w w.unit.timerId else w
  if abnormal then
    if w.unit.state = .online then unitPurgeAndTarget fuel (setTarget w .offline)
    else
      let (w, failCnt) := incFailCnt w
      if failCnt > 5 then unitPurgeAndTarget fuel (setTarget w .maintenance)
      else unitRetryStart fuel (setTarget w w.unit.state)
  else match w.unit.state with
    | .preStart => unitPurgeAndTarget fuel (setTarget w .start)
    | .online | .postStart =>
      if w.unit.type = .simple then unitEnterStop fuel (setTarget w .offline)
      else if w.unit.type ≠ .group && w.unit.pids.isEmpty then
        unitEnterStop fuel (setTarget w .offline)
      else some w
    | _ => some w

def unitSecondaryPidExited (fuel : Nat) (w : World) (abnormal : Bool) : Option World :=
  let w := if w.unit.timerId ≠ 0 then timersetDel w w.unit.timerId else w
  let w := w.setUnit fun u => { u with secondaryPid := 0 }
  if abnormal then
    let (w, failCnt) := incFailCnt w
    if failCnt > 5 then unitPurgeAndTarget fuel (setTarget w .maintenance)
    else unitRetryStart fuel (setTarget w .preStart)
  else some (unitEnterOnline w)

def unitPtevent (fuel : Nat) (w : World) (info : S16ProcessTrackerEvent) : Option World :=
  let w := match info.event with
    | .child =>
      if unitHasPid w.unit info.pid then w
      else w.setUnit fun u => { u with pids := u.pids ++ [info.pid] }
    | .exit => unitDeregisterPid w info.pid
  if info.event = .exit && unitStopping w.unit then
    match w.unit.state with
    | .stop =>
      if w.unit.pids.isEmpty then unitEnterStopterm fuel (timersetDel w w.unit.timerId)
      else some w
    | .stopTerm =>
      if w.unit.pids.isEmpty then unitEnterStopkill fuel (timersetDel w w.unit.timerId)
      else some w
    | _ => some w
  else if info.event = .exit && info.pid = w.unit.mainPid then
    unitMainPidExited fuel w info.abnormal
  else if info.event = .exit && info.pid = w.unit.secondaryPid then
    if w.unit.state = .postStart then unitSecondaryPidExited fuel w info.abnormal else some w
  else some w

def unitTimerEvent (fuel : Nat) (w : World) (id : Nat) : Option World :=
  let w := timersetDel (w.setUnit fun u => { u with timerId := 0 }) id
  match w.unit.state with
  | .stop => unitEnterStopterm fuel w
  | .stopTerm => some w
  | .stopKill => unitEnterState fuel w w.unit.target
  | .preStart | .start =>
    let m := UnitMethodType.preStart.toInt
    let w := w.setUnit fun u =>
      { u with failCnt := fun i => if i = m then u.failCnt m + 1 else u.failCnt i }
    if w.unit.failCnt m > 5 then unitPurgeAndTarget fuel (setTarget w .maintenance)
    else unitPurgeAndTarget fuel (setTarget w .preStart)
  | _ => some w

def unitRestartBeginCb (fuel : Nat) (w : World) (id : Nat) : Option World :=
  unitEnterPrestart fuel (timersetDel (w.setUnit fun u => { u with methRestartTimerId := 0 }) id)

def unitNotifyReady (fuel : Nat) (w : World) : Option World :=
  if w.unit.state = .start then unitEnterPoststart fuel (unitTimerDereg w) else some w

def unitMsg (fuel : Nat) (w : World) : Option World := unitEnterPrestart fuel w

/-! ### Runs -/

/-- Modelled from the spec: `unit.h` is not in the source. `unit_add` zeroes the record, and the
    zero target is taken to be Uninitialised, the first state the spec lists (§3). -/
def unitAdd (type : UnitType) (methods : UnitMethods) (forkOk : Nat → Bool) : World :=
  ⟨⟨type, methods, .uninitialised, .uninitialised, 0, 0, [], 0, 0, fun _ => 0⟩, [], 1, 1, 0, forkOk⟩

inductive UnitEvent where
  | child (pid : Nat)
  | exit (pid : Nat) (abnormal : Bool)
  | timer (id : Nat)
  | notifyReady
  | rrStart
  deriving DecidableEq, Repr

/-- The events the environment may deliver: a new child of a tracked process, the exit of a
    tracked pid, a registered timer, readiness, and `RR_START` in Uninitialised, Offline or
    Maintenance. -/
def UnitEvent.allowed (w : World) : UnitEvent → Bool
  | .child pid => pid = w.nextPid && !w.unit.pids.isEmpty
  | .exit pid _ => w.unit.pids.contains pid
  | .timer id => w.ts.any (·.id = id)
  | .notifyReady => true
  | .rrStart =>
    w.unit.state = .uninitialised || w.unit.state = .offline || w.unit.state = .maintenance

/-- Deliver an event: the manager looks up the expired timer's callback and runs it. -/
def deliver (fuel : Nat) (w : World) : UnitEvent → Option World
  | .child pid => unitPtevent fuel { w with nextPid := w.nextPid + 1 } ⟨.child, pid, false⟩
  | .exit pid abnormal => unitPtevent fuel w ⟨.exit, pid, abnormal⟩
  | .timer id =>
    match w.ts.find? (·.id = id) with
    | some ⟨_, .unitTimerEvent⟩ => unitTimerEvent fuel w id
    | some ⟨_, .unitRestartBeginCb⟩ => unitRestartBeginCb fuel w id
    | none => some w
  | .notifyReady => unitNotifyReady fuel w
  | .rrStart => unitMsg fuel w

inductive UnitReachable : World → Prop
  | add (type : UnitType) (methods : UnitMethods) (forkOk : Nat → Bool) :
    UnitReachable (unitAdd type methods forkOk)
  | step {w w' : World} {e : UnitEvent} {fuel : Nat} (reach : UnitReachable w)
    (allowed : e.allowed w = true) (delivered : deliver fuel w e = some w') : UnitReachable w'

/-- The same events, with `RR_START` in any state: `unit_msg` itself does not look at the state. -/
def UnitEvent.admitted (w : World) : UnitEvent → Bool
  | .rrStart => true
  | e => e.allowed w

/-- The runs in which the restarter may send `RR_START` in any state. -/
inductive UnitReachableAnyStart : World → Prop
  | add (type : UnitType) (methods : UnitMethods) (forkOk : Nat → Bool) :
    UnitReachableAnyStart (unitAdd type methods forkOk)
  | step {w w' : World} {e : UnitEvent} {fuel : Nat} (reach : UnitReachableAnyStart w)
    (admitted : e.admitted w = true) (delivered : deliver fuel w e = some w') :
    UnitReachableAnyStart w'

theorem UnitReachable.anyStart {w : World} (reach : UnitReachable w) : UnitReachableAnyStart w := by
  induction reach with
  | add => exact .add ..
  | @step _ _ e _ _ allowed delivered ih =>
    exact .step ih (by cases e <;> simp_all [UnitEvent.admitted]) delivered

def unitRun (fuel : Nat) : World → List UnitEvent → Option World
  | w, [] => some w
  | w, e :: es => if e.allowed w then (deliver fuel w e).bind (unitRun fuel · es) else none

theorem unitRun_append (fuel : Nat) : ∀ (w : World) (es₁ es₂ : List UnitEvent),
    unitRun fuel w (es₁ ++ es₂) = (unitRun fuel w es₁).bind (unitRun fuel · es₂)
  | _, [], _ => rfl
  | w, e :: es₁, es₂ => by
    simp only [List.cons_append, unitRun]
    split
    · cases deliver fuel w e <;> simp [unitRun_append fuel _ es₁ es₂]
    · rfl

theorem unitRun_reachable {fuel : Nat} :
    ∀ {w w' : World} (es : List UnitEvent), UnitReachable w → unitRun fuel w es = some w' →
      UnitReachable w'
  | _, _, [], reach, h => Option.some.inj h ▸ reach
  | w, _, e :: es, reach, h => by
    simp only [unitRun] at h
    split at h
    · obtain ⟨w₁, delivered, rest⟩ := Option.bind_eq_some.mp h
      exact unitRun_reachable es (.step reach ‹_› delivered) rest
    · cases h

/-- Every entry action, under every budget: the timer set and the tracked pids only grow at their
    ends, and the unit's type, methods and failure counts stay as they were. -/
theorem entry_only_appends {fuel : Nat} {e : Entry} {w w' : World} (h : e.run fuel w = some w') :
    w.ts <+: w'.ts ∧ w.unit.pids <+: w'.unit.pids ∧ w'.unit.type = w.unit.type ∧
      w'.unit.methods = w.unit.methods ∧ w'.unit.failCnt = w.unit.failCnt :=
  have grows := entry_grows fuel e h
  have keeps := keeps_entryStable.entry fuel e h
  ⟨grows.ts, grows.pids, keeps.type, keeps.methods, keeps.failCnt⟩

theorem fresh_unit_entry_only_appends : ∃ w w', w = unitAdd .simple
    ⟨none, some "start", some "poststart", none, none⟩ (fun _ => true) ∧
    Entry.prestart.run 20 w = some w' ∧ w.ts <+: w'.ts ∧ w.unit.pids <+: w'.unit.pids :=
  have h : Entry.prestart.run 20
      (unitAdd .simple ⟨none, some "start", some "poststart", none, none⟩ fun _ => true) =
      some _ := rfl
  ⟨_, _, rfl, h, (entry_only_appends h).1, (entry_only_appends h).2.1⟩

/-! ### Restarts, readiness and the state timer -/

theorem unitRetryStart_arms_restart_timer {fuel : Nat} {w w' : World}
    (h : unitRetryStart fuel w = some w') :
    w.unit.pids <+: w'.unit.pids ∧ ⟨w'.unit.methRestartTimerId, .unitRestartBeginCb⟩ ∈ w'.ts := by
  obtain ⟨w₁, purged, h⟩ := Option.bind_eq_some.mp h
  simp only [timersetAdd, Option.some.injEq] at h
  subst h
  exact ⟨((grows_setUnit _ rfl).trans (entry_grows fuel .purgeAndTarget purged)).pids,
    by simp [timersetAdd]⟩

def restartRace : UnitMethods := ⟨none, some "start", some "poststart", none, none⟩

/-- A Simple unit whose PostStart method exited abnormally once: its old main pid 1 is being
    stopped (StopTerm) and the restart timer 3 is pending. -/
def restartPending : World :=
  ⟨⟨.simple, restartRace, .stopTerm, .none, 1, 0, [1], 2, 3, fun i => if i = 2 then 1 else 0⟩,
    [⟨2, .unitTimerEvent⟩, ⟨3, .unitRestartBeginCb⟩], 4, 3, 2, fun _ => true⟩

theorem restartPending_reachable : UnitReachable restartPending :=
  unitRun_reachable [.exit 2 true]
    (unitRun_reachable [.rrStart] (.add .simple restartRace fun _ => true)
      (show unitRun 20 _ _ = some ⟨⟨.simple, restartRace, .postStart, .uninitialised, 1, 2,
        [1, 2], 1, 0, fun _ => 0⟩, [⟨1, .unitTimerEvent⟩], 2, 3, 2, fun _ => true⟩ from rfl))
    (show unitRun 20 _ _ = _ from rfl)

/-- `unit_retry_start` keeps every tracked pid and arms the restart timer, so the restart can
    fork the new Start process beside the old main pid. -/
theorem restart_forks_start_beside_old_main_pid :
    (∀ fuel w w', unitRetryStart fuel w = some w' →
      w.unit.pids <+: w'.unit.pids ∧ ⟨w'.unit.methRestartTimerId, .unitRestartBeginCb⟩ ∈ w'.ts) ∧
    ∃ w w', UnitReachable w ∧ (UnitEvent.timer 3).allowed w = true ∧
      deliver 20 w (.timer 3) = some w' ∧ w.unit.state = .stopTerm ∧
      w.unit.pids = [w.unit.mainPid] ∧
      w'.unit.pids = [w.unit.mainPid, w'.unit.mainPid, w'.unit.secondaryPid] :=
  ⟨fun _ _ _ => unitRetryStart_arms_restart_timer,
    restartPending, _, restartPending_reachable, rfl, rfl, rfl, rfl, rfl⟩

theorem unitRestartBeginCb_keeps_timers {fuel id : Nat} {w w' : World}
    (h : unitRestartBeginCb fuel w id = some w') {t : Timer} (mem : t ∈ w.ts) (other : t.id ≠ id) :
    t ∈ w'.ts :=
  (entry_grows fuel .prestart h).ts.subset (by simp [timersetDel, World.setUnit, mem, other])

/-- The restart timer's callback deletes no other timer, so the StopTerm timer of the failed
    attempt outlives the restart beside the new PostStart timer. -/
theorem stop_timer_survives_restart :
    (∀ fuel id w w' (t : Timer), unitRestartBeginCb fuel w id = some w' → t ∈ w.ts → t.id ≠ id →
      t ∈ w'.ts) ∧
    ∃ w, UnitReachable w ∧ w.ts = [⟨2, .unitTimerEvent⟩, ⟨4, .unitTimerEvent⟩] ∧
      w.unit.timerId = 4 :=
  ⟨fun _ _ _ _ _ h mem other => unitRestartBeginCb_keeps_timers h mem other,
    _, unitRun_reachable [.timer 3] restartPending_reachable
    (show unitRun 20 restartPending [.timer 3] = some _ from rfl), rfl, rfl⟩

theorem unitNotifyReady_without_poststart {fuel : Nat} {w w' : World}
    (start : w.unit.state = .start) (absent : w.unit.methods.postStart = none)
    (h : unitNotifyReady (fuel + 1) w = some w') :
    w'.unit.state = .start ∧ w'.ts = w.ts.filter (·.id ≠ w.unit.timerId) := by
  simp only [unitNotifyReady, start, if_true, unitEnterPoststart, unitTimerDereg_unit, absent,
    unitEnterOnline, Option.some.injEq] at h
  subst h
  exact ⟨start, rfl⟩

/-- Readiness in Start with no PostStart method always leaves the unit in Start with its state
    timer deleted; a Notify unit with only a Start method gets there on its first start. -/
theorem notify_unit_stays_in_start_without_timer :
    (∀ fuel w w', w.unit.state = .start → w.unit.methods.postStart = none →
      unitNotifyReady (fuel + 1) w = some w' →
      w'.unit.state = .start ∧ w'.ts = w.ts.filter (·.id ≠ w.unit.timerId)) ∧
    ∃ w, UnitReachable w ∧ w.unit.type = .notify ∧ w.unit.state = .start ∧ w.ts = [] :=
  ⟨fun _ _ _ => unitNotifyReady_without_poststart, _, unitRun_reachable [.rrStart, .notifyReady]
    (.add .notify ⟨none, some "start", none, none, none⟩ fun _ => true)
    (show unitRun 20 _ _ = some _ from rfl), rfl, rfl, rfl⟩

end Restartd

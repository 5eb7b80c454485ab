import ServiceManager.Restartd.Event

/-!
Which states a unit can be in while it tracks processes. No action sets Online (the entry action
of Online leaves the unit as it is) or StopKill (`unit_enter_stopkill` is only called once no pid
is left), and a pid is only ever forked right after entering the state whose method it runs, or a
stop state. So whenever the process tracker reports the exit of a tracked pid outside the stop
states, the unit is in PreStart, Start or PostStart, and the failure count `unit_ptevent`
increments is that of a method.
-/

namespace Restartd

def UnitState.runsProcess : UnitState → Bool
  | .preStart | .start | .postStart | .stop | .stopTerm | .postStop => true
  | _ => false

/-- What holds of every unit a run reaches. -/
structure Consistent (u : Unit) : Prop where
  not_online : u.state ≠ .online
  not_stopKill : u.state ≠ .stopKill
  runsProcess : u.pids ≠ [] → u.state.runsProcess = true

theorem Consistent.of_runsProcess {u : Unit} (runs : u.state.runsProcess = true) : Consistent u :=
  ⟨fun h => by simp [h, UnitState.runsProcess] at runs,
    fun h => by simp [h, UnitState.runsProcess] at runs, fun _ => runs⟩

theorem Consistent.congr {u u' : Unit} (h : Consistent u) (state : u'.state = u.state)
    (pids : u'.pids ≠ [] → u.pids ≠ []) : Consistent u' :=
  ⟨state ▸ h.not_online, state ▸ h.not_stopKill, fun hp => state ▸ h.runsProcess (pids hp)⟩

theorem Consistent.same {u u' : Unit} (h : Consistent u) (state : u'.state = u.state)
    (pids : u'.pids = u.pids) : Consistent u' :=
  h.congr state (pids ▸ id)

theorem Consistent.idle {u : Unit} (s : UnitState) (none : u.pids = []) (online : s ≠ .online)
    (kill : s ≠ .stopKill) : Consistent { u with state := s } :=
  ⟨online, kill, fun h => (h none).elim⟩

def Entry.Ready (w : World) : Entry → Prop
  | .state _ => w.unit.pids = []
  | _ => True

theorem consistent_forkTail {fuel pid : Nat} {w w' : World} {f : Unit → Unit}
    (runs : w.unit.state.runsProcess = true) (same : (f w.unit).state = w.unit.state)
    (h : (if pid = 0 then unitPurgeAndTarget fuel (setTarget (w.setUnit f) .maintenance)
      else some (w.setUnit f)) = some w')
    (purge : ∀ {v v' : World}, Consistent v.unit → unitPurgeAndTarget fuel v = some v' →
      Consistent v'.unit) : Consistent w'.unit := by
  have recorded : Consistent (w.setUnit f).unit := .of_runsProcess (by simpa [same] using runs)
  split at h
  · exact purge (by exact recorded.congr rfl id) h
  · exact Option.some.inj h ▸ recorded

theorem entry_consistent : ∀ (fuel : Nat) (e : Entry) {w w' : World}, Consistent w.unit →
    e.Ready w → e.run fuel w = some w' → Consistent w'.unit
  | 0, e, _, _, _, _, h => by
    cases e <;> simp [Entry.run, unitPurgeAndTarget, unitEnterPrestart, unitEnterStart,
      unitEnterPoststart, unitEnterStop, unitEnterStopterm, unitEnterState] at h
  | fuel + 1, e, w, w', hw, ready, h => by
    have ih := entry_consistent fuel
    have purge : ∀ {v v' : World}, Consistent v.unit → unitPurgeAndTarget fuel v = some v' →
        Consistent v'.unit := fun hv => ih .purgeAndTarget hv trivial
    cases e with
    | purgeAndTarget =>
      simp only [Entry.run, unitPurgeAndTarget] at h
      split at h
      · exact ih .stop hw trivial h
      next empty => exact ih (.state _) hw (by simpa [Entry.Ready] using empty) h
    | prestart =>
      simp only [Entry.run, unitEnterPrestart] at h
      split at h
      · exact consistent_forkTail (by simp [UnitState.runsProcess]) rfl h purge
      · exact ih .start hw trivial h
    | start =>
      simp only [Entry.run, unitEnterStart] at h
      have started := unitForkAndRegister_state (setState w .start)
        (setState w .start).unit.methods.start
      generalize unitForkAndRegister (setState w .start) (setState w .start).unit.methods.start = r
        at h started
      obtain ⟨w₁, pid⟩ := r
      have recorded : Consistent (w₁.setUnit fun u => { u with mainPid := pid }).unit :=
        .of_runsProcess (by simp_all [UnitState.runsProcess])
      dsimp only at h
      split at h
      · exact purge (by exact recorded.congr rfl id) h
      · split at h
        · exact ih .poststart recorded trivial h
        · exact Option.some.inj h ▸ recorded.congr rfl id
    | poststart =>
      simp only [Entry.run, unitEnterPoststart] at h
      split at h
      · exact consistent_forkTail (by simp [UnitState.runsProcess]) rfl h purge
      · exact Option.some.inj h ▸ hw
    | stop =>
      simp only [Entry.run, unitEnterStop] at h
      split at h
      · exact consistent_forkTail (by simp [UnitState.runsProcess]) rfl h purge
      · exact ih .stopterm hw trivial h
    | stopterm =>
      simp only [Entry.run, unitEnterStopterm] at h
      split at h
      next empty => exact ih (.state _) hw (by simpa [Entry.Ready] using empty) h
      · exact Option.some.inj h ▸ .of_runsProcess (by simp [UnitState.runsProcess])
    | state s =>
      cases s with
      | preStart => exact ih .prestart hw trivial h
      | start => exact ih .start hw trivial h
      | postStart => exact ih .poststart hw trivial h
      | offline | maintenance | none =>
        simp only [Entry.run, unitEnterState, Option.some.injEq] at h
        exact h ▸ .idle _ ready (by decide) (by decide)
      | _ =>
        simp only [Entry.run, unitEnterState, Option.some.injEq] at h
        exact h ▸ hw

theorem purge_consistent {fuel : Nat} {w w' : World} (hw : Consistent w.unit)
    (h : unitPurgeAndTarget fuel w = some w') : Consistent w'.unit :=
  entry_consistent fuel .purgeAndTarget hw trivial h

theorem unitRetryStart_consistent {fuel : Nat} {w w' : World} (hw : Consistent w.unit)
    (h : unitRetryStart fuel w = some w') : Consistent w'.unit := by
  obtain ⟨w₁, purged, h⟩ := Option.bind_eq_some.mp h
  simp only [timersetAdd, Option.some.injEq] at h
  subst h
  exact (purge_consistent (by exact hw.same rfl rfl) purged).same rfl rfl

theorem unitMainPidExited_consistent {fuel : Nat} {w w' : World} {abnormal : Bool}
    (hw : Consistent w.unit) (h : unitMainPidExited fuel w abnormal = some w') :
    Consistent w'.unit := by
  simp only [unitMainPidExited] at h
  split at h <;> repeat' split at h
  all_goals first
    | exact purge_consistent (by exact hw.same rfl rfl) h
    | exact unitRetryStart_consistent (by exact hw.same rfl rfl) h
    | exact entry_consistent _ .stop (by exact hw.same rfl rfl) trivial h
    | exact Option.some.inj h ▸ hw.same rfl rfl

theorem unitSecondaryPidExited_consistent {fuel : Nat} {w w' : World} {abnormal : Bool}
    (hw : Consistent w.unit) (h : unitSecondaryPidExited fuel w abnormal = some w') :
    Consistent w'.unit := by
  simp only [unitSecondaryPidExited, unitEnterOnline] at h
  repeat' split at h
  all_goals first
    | exact purge_consistent (by exact hw.same rfl rfl) h
    | exact unitRetryStart_consistent (by exact hw.same rfl rfl) h
    | exact Option.some.inj h ▸ hw.same rfl rfl

theorem unitPtevent_consistent {fuel : Nat} {w w' : World} {info : S16ProcessTrackerEvent}
    (hw : Consistent w.unit) (child : info.event = .child → w.unit.pids ≠ [])
    (h : unitPtevent fuel w info = some w') : Consistent w'.unit := by
  obtain ⟨_ | _, pid, abnormal⟩ := info
  · have born : Consistent (w.setUnit fun u => { u with pids := u.pids ++ [pid] }).unit :=
      .of_runsProcess (hw.runsProcess (child rfl))
    simp only [unitPtevent, reduceCtorEq, decide_False, Bool.false_and, Bool.false_eq_true,
      if_false, Option.some.injEq] at h
    subst h
    split
    · exact hw
    · exact born
  · have gone : Consistent (unitDeregisterPid w pid).unit :=
      hw.congr rfl fun hp none => hp (by simp [unitDeregisterPid, none])
    simp only [unitPtevent, decide_True, Bool.true_and, decide_eq_true_eq] at h
    repeat' split at h
    all_goals first
      | exact entry_consistent _ .stopterm (by exact gone.same rfl rfl) trivial h
      | exact entry_consistent _ (.state _) (by exact gone.same rfl rfl)
          (List.isEmpty_iff.mp (by assumption))
          ((unitEnterStopkill_of_isEmpty (by assumption)).symm.trans h)
      | exact unitMainPidExited_consistent gone h
      | exact unitSecondaryPidExited_consistent gone h
      | exact Option.some.inj h ▸ gone

theorem unitTimerEvent_consistent {fuel n : Nat} {w w' : World} (hw : Consistent w.unit)
    (h : unitTimerEvent fuel w n = some w') : Consistent w'.unit := by
  simp only [unitTimerEvent] at h
  repeat' split at h
  all_goals first
    | exact entry_consistent _ .stopterm (by exact hw.same rfl rfl) trivial h
    | exact purge_consistent (by exact hw.same rfl rfl) h
    | exact Option.some.inj h ▸ hw.same rfl rfl
    | exact (hw.not_stopKill (by assumption)).elim

theorem deliver_consistent {fuel : Nat} {w w' : World} {e : UnitEvent} (hw : Consistent w.unit)
    (admitted : e.admitted w = true) (h : deliver fuel w e = some w') : Consistent w'.unit := by
  cases e with
  | child pid =>
    simp only [deliver] at h
    exact unitPtevent_consistent (by exact hw)
      (fun _ => by simp_all [UnitEvent.admitted, UnitEvent.allowed]) h
  | exit pid abnormal => exact unitPtevent_consistent hw (by simp) h
  | timer n =>
    simp only [deliver] at h
    split at h
    · exact unitTimerEvent_consistent hw h
    · exact entry_consistent _ .prestart (by exact hw.same rfl rfl) trivial h
    · exact Option.some.inj h ▸ hw
  | notifyReady =>
    simp only [deliver, unitNotifyReady] at h
    split at h
    · exact entry_consistent _ .poststart (by exact hw.same rfl rfl) trivial h
    · exact Option.some.inj h ▸ hw
  | rrStart => exact entry_consistent _ .prestart hw trivial h

theorem UnitReachableAnyStart.consistent {w : World} (reach : UnitReachableAnyStart w) :
    Consistent w.unit := by
  induction reach with
  | add => exact ⟨nofun, nofun, fun h => absurd rfl h⟩
  | step _ admitted delivered ih => exact deliver_consistent ih admitted delivered

theorem UnitReachable.consistent {w : World} (reach : UnitReachable w) : Consistent w.unit :=
  reach.anyStart.consistent

/-- No run enters StopKill, and a unit tracks a process only in PreStart, Start, PostStart, Stop,
    StopTerm or PostStop: in every other state its list of pids is empty. -/
theorem reachable_unit_tracks_only_in_process_states {w : World} (reach : UnitReachable w) :
    w.unit.state ≠ .stopKill ∧ (w.unit.pids ≠ [] → w.unit.state.runsProcess = true) :=
  ⟨reach.consistent.not_stopKill, reach.consistent.runsProcess⟩

theorem started_unit_tracks_in_start :
    ∃ w, UnitReachable w ∧ w.unit.pids ≠ [] ∧ w.unit.state ≠ .stopKill ∧
      w.unit.state.runsProcess = true :=
  have reach := unitRun_reachable [.rrStart] (.add .simple ⟨none, some "start", none, none, none⟩
    fun _ => true) (show unitRun 20 _ _ = some _ from rfl)
  have tracks : _ ≠ [] := List.cons_ne_nil 1 []
  ⟨_, reach, tracks, (reachable_unit_tracks_only_in_process_states reach).1,
    (reachable_unit_tracks_only_in_process_states reach).2 tracks⟩

/-! ### The failure counts `unit_ptevent` increments -/

/-- An exit of a tracked pid outside the stop states finds the unit in PreStart, Start or
    PostStart, so the slot `unit_ptevent` counts a failure at is never -1. -/
theorem exit_fail_count_slot {w : World} {pid : Nat} {abnormal : Bool}
    (reach : UnitReachableAnyStart w)
    (tracked : (UnitEvent.exit pid abnormal).allowed w = true)
    (running : unitStopping w.unit = false) :
    (w.unit.state = .preStart ∨ w.unit.state = .start ∨ w.unit.state = .postStart) ∧
      stateToS16ServiceMethodype w.unit.state ≠ -1 := by
  have runs := reach.consistent.runsProcess
    (List.ne_nil_of_mem (by simpa [UnitEvent.allowed] using tracked))
  simp only [unitStopping] at running
  generalize w.unit.state = s at runs running
  cases s <;> simp_all [UnitState.runsProcess, stateToS16ServiceMethodype, UnitMethodType.toInt]

theorem exit_fail_count_slot_in_start :
    ∃ w, UnitReachable w ∧ (UnitEvent.exit 1 true).allowed w = true ∧
      unitStopping w.unit = false ∧ stateToS16ServiceMethodype w.unit.state ≠ -1 :=
  have reach := unitRun_reachable [.rrStart] (.add .simple ⟨none, some "start", none, none, none⟩
    fun _ => true) (show unitRun 20 _ _ = some _ from rfl)
  ⟨_, reach, rfl, rfl,
    (exit_fail_count_slot reach.anyStart (show (UnitEvent.exit 1 true).allowed _ = true from rfl)
      rfl).2⟩

/-! ### A started unit is not Online -/

def onlyStart : UnitMethods := ⟨none, some "start", none, none, none⟩

/-- No run reaches Online: a started Simple unit with only a Start method stays in Start, where an
    abnormal exit schedules a restart and a normal one leaves it with no process. -/
theorem started_unit_not_online :
    (∀ w, UnitReachable w → w.unit.state ≠ .online) ∧
      ∃ w w₁ w₂, unitRun 20 (unitAdd .simple onlyStart fun _ => true) [.rrStart] = some w ∧
        w.unit.state = .start ∧ w.unit.pids = [w.unit.mainPid] ∧
        deliver 20 w (.exit w.unit.mainPid true) = some w₁ ∧
        w₁.unit.failCnt UnitMethodType.start.toInt = 1 ∧ w₁.unit.target = .none ∧
        ⟨w₁.unit.methRestartTimerId, .unitRestartBeginCb⟩ ∈ w₁.ts ∧
        deliver 20 w (.exit w.unit.mainPid false) = some w₂ ∧
        w₂.unit.state = .start ∧ w₂.unit.pids = [] :=
  ⟨fun _ reach => reach.consistent.not_online, _, _, _, rfl, rfl, rfl, rfl, rfl, rfl,
    by decide, rfl, rfl, rfl⟩

end Restartd

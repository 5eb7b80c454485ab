import ServiceManager.Restartd.Event

/-!
How the failure counts `unit->fail_cnt` move. An abnormal exit of the main or secondary pid adds
one at the slot of the state the unit is in, and a state-timer expiry in PreStart or Start adds one
at the PreStart slot; nothing else writes them. So no event lowers or resets a count, and failures
of a method separated by successful runs of it add up.
-/

namespace Restartd

/-- The failure counts after an event: as they were, or one more at a single slot. -/
def Counted (w w' : World) : Prop :=
  w'.unit.failCnt = w.unit.failCnt ∨
    ∃ m, w'.unit.failCnt = fun i => if i = m then w.unit.failCnt m + 1 else w.unit.failCnt i

theorem Counted.le {w w' : World} (h : Counted w w') (i : Int) :
    w.unit.failCnt i ≤ w'.unit.failCnt i := by
  rcases h with same | ⟨m, bumped⟩
  · have := congrFun same i
    omega
  · have := congrFun bumped i
    split_ifs at this with slot
    · subst slot
      omega
    · omega

theorem Counted.congr_left {v w w' : World} (h : Counted v w')
    (same : v.unit.failCnt = w.unit.failCnt) : Counted w w' := by
  unfold Counted
  rwa [← same]

theorem entry_failCnt {fuel : Nat} {e : Entry} {w w' : World} (h : e.run fuel w = some w') :
    w'.unit.failCnt = w.unit.failCnt :=
  (keeps_entryStable.entry fuel e h).failCnt

theorem unitRetryStart_failCnt {fuel : Nat} {w w' : World} (h : unitRetryStart fuel w = some w') :
    w'.unit.failCnt = w.unit.failCnt := by
  obtain ⟨w₁, purged, h⟩ := Option.bind_eq_some.mp h
  simp only [timersetAdd, Option.some.injEq] at h
  subst h
  exact (entry_failCnt (e := .purgeAndTarget) purged :)

theorem unitMainPidExited_counted {fuel : Nat} {w w' : World} {abnormal : Bool}
    (h : unitMainPidExited fuel w abnormal = some w') : Counted w w' := by
  simp only [unitMainPidExited] at h
  split at h <;> repeat' split at h
  all_goals first
    | exact .inl ((entry_failCnt (e := .purgeAndTarget) h :))
    | exact .inl ((entry_failCnt (e := .stop) h :))
    | exact .inr ⟨_, entry_failCnt (e := .purgeAndTarget) h⟩
    | exact .inr ⟨_, (unitRetryStart_failCnt h :)⟩
    | exact .inl (Option.some.inj h ▸ rfl)

theorem unitSecondaryPidExited_counted {fuel : Nat} {w w' : World} {abnormal : Bool}
    (h : unitSecondaryPidExited fuel w abnormal = some w') : Counted w w' := by
  simp only [unitSecondaryPidExited, unitEnterOnline] at h
  repeat' split at h
  all_goals first
    | exact .inr ⟨_, entry_failCnt (e := .purgeAndTarget) h⟩
    | exact .inr ⟨_, (unitRetryStart_failCnt h :)⟩
    | exact .inl (Option.some.inj h ▸ rfl)

theorem unitPtevent_counted {fuel : Nat} {w w' : World} {info : S16ProcessTrackerEvent}
    (h : unitPtevent fuel w info = some w') : Counted w w' := by
  obtain ⟨_ | _, pid, abnormal⟩ := info
  · simp only [unitPtevent, reduceCtorEq, decide_False, Bool.false_and, Bool.false_eq_true,
      if_false, Option.some.injEq] at h
    subst h
    exact .inl (by split <;> rfl)
  · simp only [unitPtevent, decide_True, Bool.true_and, decide_eq_true_eq] at h
    repeat' split at h
    all_goals first
      | exact .inl ((entry_failCnt (e := .stopterm) h :))
      | exact .inl ((entry_failCnt (e := .state _)
          ((unitEnterStopkill_of_isEmpty (by assumption)).symm.trans h) :))
      | exact (unitMainPidExited_counted h).congr_left rfl
      | exact (unitSecondaryPidExited_counted h).congr_left rfl
      | exact .inl (Option.some.inj h ▸ rfl)

theorem unitTimerEvent_counted {fuel n : Nat} {w w' : World}
    (h : unitTimerEvent fuel w n = some w') : Counted w w' := by
  simp only [unitTimerEvent] at h
  repeat' split at h
  all_goals first
    | exact .inl ((entry_failCnt (e := .stopterm) h :))
    | exact .inl ((entry_failCnt (e := .state _) h :))
    | exact .inr ⟨_, entry_failCnt (e := .purgeAndTarget) h⟩
    | exact .inl (Option.some.inj h ▸ rfl)

theorem deliver_counted {fuel : Nat} {w w' : World} {e : UnitEvent}
    (h : deliver fuel w e = some w') : Counted w w' := by
  cases e with
  | child pid =>
    simp only [deliver] at h
    exact (unitPtevent_counted h).congr_left rfl
  | exit pid abnormal => exact unitPtevent_counted h
  | timer n =>
    simp only [deliver] at h
    split at h
    · exact unitTimerEvent_counted h
    · exact .inl ((entry_failCnt (e := .prestart) h :))
    · exact .inl (Option.some.inj h ▸ rfl)
  | notifyReady =>
    simp only [deliver, unitNotifyReady] at h
    split at h
    · exact .inl ((entry_failCnt (e := .poststart) h :))
    · exact .inl (Option.some.inj h ▸ rfl)
  | rrStart => exact .inl ((entry_failCnt (e := .prestart) h :))

/-! ### Failures separated by a success add up -/

def preAndStart : UnitMethods := ⟨some "pre", some "start", none, none, none⟩

def methodFailed (m : UnitMethodType) (f : Int → Int) : Int → Int :=
  fun i => if i = m.toInt then f m.toInt + 1 else f i

def afterFailures : Nat → Int → Int
  | 0 => fun _ => 0
  | n + 1 => methodFailed .preStart (afterFailures n)

theorem afterFailures_preStart (n : Nat) : afterFailures n UnitMethodType.preStart.toInt = n := by
  induction n with
  | zero => rfl
  | succ n ih => simp [afterFailures, methodFailed, ih]

/-- A Simple unit of `preAndStart`, every fork succeeding, after its `k + 1`-th PreStart failure:
    no process, the restart timer `2k + 2` pending. -/
def retryPending (k : Nat) (f : Int → Int) : World :=
  ⟨⟨.simple, preAndStart, .none, .none, 0, 0, [], 2 * k + 1, 2 * k + 2, f⟩,
    [⟨2 * k + 2, .unitRestartBeginCb⟩], 2 * k + 3, k + 2, k + 1, fun _ => true⟩

theorem retryPending_fails (fuel k : Nat) (f : Int → Int) (room : f 0 < 5) :
    unitRun (fuel + 3) (retryPending k f) [.timer (2 * k + 2), .exit (k + 2) true] =
      some (retryPending (k + 1) (methodFailed .preStart f)) := by
  simp [unitRun, UnitEvent.allowed, deliver, retryPending, unitRestartBeginCb, unitEnterPrestart,
    unitTimerReg, timersetAdd, timersetDel, setState, World.setUnit, unitForkAndRegister, unitPtevent,
    unitDeregisterPid, unitStopping, unitMainPidExited, incFailCnt, stateToS16ServiceMethodype,
    preAndStart, unitRetryStart, setTarget, unitPurgeAndTarget, unitEnterState, UnitMethodType.toInt,
    Nat.mul_add, Nat.add_assoc]
  rw [if_neg (by omega)]
  rfl

def failingAttempts : Nat → List UnitEvent
  | 0 => [.rrStart, .exit 1 true]
  | k + 1 => failingAttempts k ++ [.timer (2 * k + 2), .exit (k + 2) true]

theorem failingAttempts_run : ∀ k, k < 5 →
    unitRun 20 (unitAdd .simple preAndStart fun _ => true) (failingAttempts k) =
      some (retryPending k (afterFailures (k + 1)))
  | 0, _ => rfl
  | k + 1, bound => by
    have room : afterFailures (k + 1) 0 < 5 := by
      have := afterFailures_preStart (k + 1)
      simp only [UnitMethodType.toInt] at this
      omega
    rw [failingAttempts, unitRun_append, failingAttempts_run k (by omega), Option.some_bind]
    exact retryPending_fails 17 k _ room

def startedAfterFailures : World :=
  ⟨⟨.simple, preAndStart, .start, .start, 7, 0, [7], 11, 0, afterFailures 5⟩, [], 12, 8, 7,
    fun _ => true⟩

def startFailedPending : World :=
  { retryPending 5 (methodFailed .start (afterFailures 5)) with nextPid := 8, forkCount := 7 }

/-- No event resets the failure counts: a PreStart that fails five times, then succeeds, then
    fails once more after a failed Start sends the unit to Maintenance. -/
theorem prestart_failures_add_up_across_success :
    (∀ fuel w e w', deliver fuel w e = some w' → Counted w w') ∧
      ∃ w w', unitRun 20 (unitAdd .simple preAndStart fun _ => true)
          (failingAttempts 4 ++ [.timer 10, .exit 6 false]) = some w ∧
        w.unit.state = .start ∧ w.unit.failCnt UnitMethodType.preStart.toInt = 5 ∧
        unitRun 20 w [.exit 7 true, .timer 12, .exit 8 true] = some w' ∧
        w'.unit.state = .maintenance ∧ w'.unit.failCnt UnitMethodType.preStart.toInt = 6 := by
  have preStarted : unitRun 20 (retryPending 4 (afterFailures 5)) [.timer 10] =
      some ⟨⟨.simple, preAndStart, .preStart, .none, 6, 0, [6], 11, 0, afterFailures 5⟩,
        [⟨11, .unitTimerEvent⟩], 12, 7, 6, fun _ => true⟩ := rfl
  have started : unitRun 20 (unitAdd .simple preAndStart fun _ => true)
      (failingAttempts 4 ++ [.timer 10] ++ [.exit 6 false]) = some startedAfterFailures := by
    rw [unitRun_append, unitRun_append, failingAttempts_run 4 (by decide), Option.some_bind,
      preStarted, Option.some_bind]
    rfl
  have startFailed : unitRun 20 startedAfterFailures [.exit 7 true] = some startFailedPending := rfl
  have restarted : unitRun 20 startedAfterFailures [.exit 7 true, .timer 12, .exit 8 true] =
      unitRun 20 startFailedPending [.timer 12, .exit 8 true] := by
    rw [show [UnitEvent.exit 7 true, .timer 12, .exit 8 true] =
      [.exit 7 true] ++ [.timer 12, .exit 8 true] from rfl, unitRun_append, startFailed,
      Option.some_bind]
  exact ⟨fun _ _ _ _ => deliver_counted, _, _, started, rfl, afterFailures_preStart 5,
    restarted.trans rfl, rfl, rfl⟩

end Restartd

import ServiceManager.Restartd.Event

/-!
The stop sequence `unit_purge_and_target` starts while processes remain: Stop runs the stop
method, or StopTerm signals the processes, and each exit of a tracked pid is reported until none
is left; then the unit enters its target. This holds whenever the stop method can be forked. When
it cannot, `unit_enter_stop` purges again towards Maintenance while the same processes are still
tracked, and the recursion never ends.
-/

namespace Restartd

/-! ### A stop method that cannot be forked -/

/-- A unit that still tracks a process, has a stop method, and whose forks all fail from here
    on. -/
structure StopForkFails (w : World) : Prop where
  stop : w.unit.methods.stop.isSome = true
  tracking : w.unit.pids ≠ []
  fails : ∀ n ≥ w.forkCount, w.forkOk n = false

theorem StopForkFails.purge_again {w : World} (h : StopForkFails w) :
    ∃ w', StopForkFails w' ∧
      ∀ fuel, unitPurgeAndTarget (fuel + 2) w = unitPurgeAndTarget fuel w' := by
  obtain ⟨cmd, hcmd⟩ := Option.isSome_iff_exists.mp h.stop
  have failed := h.fails w.forkCount (Nat.le_refl _)
  refine ⟨setTarget ({ unitTimerReg (setState w .stop) with forkCount := w.forkCount + 1 }.setUnit
    fun u => { u with secondaryPid := 0 }) .maintenance,
    ⟨by exact h.stop, by exact h.tracking, fun n hn => by exact h.fails n (Nat.le_of_succ_le hn)⟩,
    fun fuel => ?_⟩
  have running : w.unit.pids.isEmpty = false := by simpa using h.tracking
  simp only [unitPurgeAndTarget, running, Bool.not_false, if_true, unitEnterStop, hcmd,
    unitForkAndRegister_of_fails (w := unitTimerReg (setState w .stop)) failed, if_pos]
  rfl

theorem StopForkFails.purge_none : ∀ (fuel : Nat) {w : World}, StopForkFails w →
    unitPurgeAndTarget fuel w = none
  | 0, _, _ => rfl
  | 1, w, h => by
    simp [unitPurgeAndTarget, List.isEmpty_iff, h.tracking, unitEnterStop]
  | fuel + 2, _, h => by
    obtain ⟨w', h', loop⟩ := h.purge_again
    rw [loop]
    exact purge_none fuel h'

def prestartAndStop : UnitMethods := ⟨some "pre", some "start", none, some "stop", none⟩

/-- The loop is reached: once forks fail, the expiry of the PreStart timer purges into Stop, whose
    fork fails, and so on; the expiry is never handled to the end, under any budget. -/
theorem stop_fork_failure_never_returns :
    (∀ fuel w, StopForkFails w → unitPurgeAndTarget fuel w = none) ∧
      ∃ w, unitRun 20 (unitAdd .simple prestartAndStop fun n => n == 0) [.rrStart] = some w ∧
        (UnitEvent.timer 1).allowed w = true ∧ ∀ fuel, deliver fuel w (.timer 1) = none :=
  ⟨fun fuel _ h => h.purge_none fuel, _, rfl, rfl, fun fuel =>
    StopForkFails.purge_none fuel ⟨rfl, nofun, fun n (hn : 1 ≤ n) =>
      show (n == 0) = false by simpa using Nat.pos_iff_ne_zero.mp hn⟩⟩

/-! ### The stop sequence when every fork succeeds -/

structure ForksSucceed (w : World) : Prop where
  ok : ∀ n ≥ w.forkCount, w.forkOk n = true
  positive : 0 < w.nextPid

theorem ForksSucceed.fork {w : World} (h : ForksSucceed w) (cmd : Option String) :
    (unitForkAndRegister w cmd).2 ≠ 0 ∧ ForksSucceed (unitForkAndRegister w cmd).1 ∧
      (unitForkAndRegister w cmd).1.unit = { w.unit with pids := w.unit.pids ++ [w.nextPid] } := by
  rw [unitForkAndRegister_of_ok (h.ok _ (Nat.le_refl _))]
  exact ⟨Nat.pos_iff_ne_zero.mp h.positive,
    ⟨fun n hn => h.ok n (Nat.le_of_succ_le hn), Nat.succ_pos _⟩, rfl⟩

theorem unitEnterPoststart_returns {fuel : Nat} {w : World} (h : ForksSucceed w) :
    ∃ w', unitEnterPoststart (fuel + 1) w = some w' := by
  simp only [unitEnterPoststart]
  split
  · have forked := ForksSucceed.fork (w := unitTimerReg (setState w .postStart))
      ⟨h.ok, h.positive⟩ (some ‹_›)
    simp only [if_neg forked.1]
    exact ⟨_, rfl⟩
  · exact ⟨_, rfl⟩

theorem unitEnterStart_returns {fuel : Nat} {w : World} (h : ForksSucceed w) :
    ∃ w', unitEnterStart (fuel + 2) w = some w' := by
  have forked := ForksSucceed.fork (w := setState w .start) ⟨h.ok, h.positive⟩
    (setState w .start).unit.methods.start
  simp only [unitEnterStart]
  generalize unitForkAndRegister (setState w .start) (setState w .start).unit.methods.start = r
    at forked
  obtain ⟨w₁, pid⟩ := r
  simp only [if_neg forked.1]
  split
  · exact unitEnterPoststart_returns ⟨forked.2.1.ok, forked.2.1.positive⟩
  · exact ⟨_, rfl⟩

theorem unitEnterPrestart_returns {fuel : Nat} {w : World} (h : ForksSucceed w) :
    ∃ w', unitEnterPrestart (fuel + 3) w = some w' := by
  simp only [unitEnterPrestart]
  split
  · have forked := ForksSucceed.fork (w := unitTimerReg (setState w .preStart))
      ⟨h.ok, h.positive⟩ (some ‹_›)
    simp only [if_neg forked.1]
    exact ⟨_, rfl⟩
  · exact unitEnterStart_returns h

theorem unitEnterState_returns (fuel : Nat) {w : World} (h : ForksSucceed w) (s : UnitState) :
    ∃ w', unitEnterState (fuel + 4) w s = some w' := by
  cases s with
  | preStart => exact unitEnterPrestart_returns h
  | start => exact unitEnterStart_returns h
  | postStart => exact unitEnterPoststart_returns h
  | _ => exact ⟨_, rfl⟩

/-- A unit in the stop sequence towards target `T`: in Stop or StopTerm, with a process left. -/
structure Stopping (T : UnitState) (w : World) : Prop where
  state : w.unit.state = .stop ∨ w.unit.state = .stopTerm
  target : w.unit.target = T
  tracking : w.unit.pids ≠ []
  forks : ForksSucceed w

theorem purge_stopping (fuel : Nat) {T : UnitState} {w : World} (target : w.unit.target = T)
    (forks : ForksSucceed w) (tracking : w.unit.pids ≠ []) :
    ∃ w₁, unitPurgeAndTarget (fuel + 3) w = some w₁ ∧ Stopping T w₁ := by
  have running : w.unit.pids.isEmpty = false := by simpa using tracking
  simp only [unitPurgeAndTarget, running, Bool.not_false, if_true, unitEnterStop]
  split
  · obtain ⟨pid, forked, armed⟩ :=
      (⟨forks.ok, forks.positive⟩ : ForksSucceed (unitTimerReg (setState w .stop))).fork (some ‹_›)
    simp only [if_neg pid]
    exact ⟨_, rfl, .inl (by simp [armed]), by simp [armed, target], by simp [armed],
      ⟨forked.ok, forked.positive⟩⟩
  · simp only [unitEnterStopterm, running, Bool.false_eq_true, if_false]
    exact ⟨_, rfl, .inr rfl, target, tracking, ⟨forks.ok, forks.positive⟩⟩

def UnitEvent.exitPid : UnitEvent → Option Nat
  | .exit pid _ => some pid
  | _ => none

def UnitEvent.stopsUnit (w : World) : UnitEvent → Prop
  | .exit _ _ => True
  | .timer n => ∃ t, w.ts.find? (·.id = n) = some t ∧ t.callback = .unitTimerEvent
  | _ => False

section Steps

variable {T : UnitState} {w : World}

theorem Stopping.stopping (h : Stopping T w) : unitStopping w.unit = true := by
  rcases h.state with s | s <;> simp [unitStopping, s]

theorem Stopping.exit_other (h : Stopping T w) {p : Nat} (left : w.unit.pids.filter (· ≠ p) ≠ [])
    (fuel : Nat) (abnormal : Bool) :
    deliver fuel w (.exit p abnormal) = some (unitDeregisterPid w p) ∧
      Stopping T (unitDeregisterPid w p) := by
  have remaining : (unitDeregisterPid w p).unit.pids.isEmpty = false :=
    Bool.eq_false_iff.mpr fun e => left (List.isEmpty_iff.mp e)
  have stopping : unitStopping (unitDeregisterPid w p).unit = true := h.stopping
  refine ⟨?_, h.state, h.target, left, ⟨h.forks.ok, h.forks.positive⟩⟩
  simp only [deliver, unitPtevent, decide_True, Bool.true_and, stopping, if_true]
  rcases h.state with s | s <;>
  · have s' : (unitDeregisterPid w p).unit.state = _ := s
    simp only [s', remaining, Bool.false_eq_true, if_false]

theorem Stopping.exit_last (h : Stopping T w) {p : Nat} (last : w.unit.pids.filter (· ≠ p) = [])
    (fuel : Nat) (abnormal : Bool) :
    ∃ w₂ F w', (w₂.unit.state = .stop ∨ w₂.unit.state = .stopTerm) ∧ w₂.unit.pids = [] ∧
      w₂.unit.target = T ∧ unitEnterState F w₂ T = some w' ∧
      deliver (fuel + 5) w (.exit p abnormal) = some w' := by
  have none : (unitDeregisterPid w p).unit.pids.isEmpty = true := List.isEmpty_iff.mpr last
  have stopping : unitStopping (unitDeregisterPid w p).unit = true := h.stopping
  have forks : ForksSucceed (timersetDel (unitDeregisterPid w p) w.unit.timerId) :=
    ⟨h.forks.ok, h.forks.positive⟩
  simp only [deliver, unitPtevent, decide_True, Bool.true_and, stopping, if_true]
  rcases h.state with s | s
  · obtain ⟨w', entered⟩ := unitEnterState_returns fuel forks T
    refine ⟨timersetDel (unitDeregisterPid w p) w.unit.timerId, _, w', .inl s, last, h.target,
      entered, ?_⟩
    simp only [unitDeregisterPid, World.setUnit_unit, s] at none ⊢
    simp only [none, if_true, unitEnterStopterm, timersetDel_unit, World.setUnit_unit]
    exact h.target ▸ entered
  · obtain ⟨w', entered⟩ := unitEnterState_returns (fuel + 1) forks T
    refine ⟨timersetDel (unitDeregisterPid w p) w.unit.timerId, _, w', .inr s, last, h.target,
      entered, ?_⟩
    simp only [unitDeregisterPid, World.setUnit_unit, s] at none ⊢
    simp only [none, if_true, unitEnterStopkill, timersetDel_unit, World.setUnit_unit]
    exact h.target ▸ entered

theorem Stopping.timer (h : Stopping T w) {n : Nat}
    (timer : ∃ t, w.ts.find? (·.id = n) = some t ∧ t.callback = .unitTimerEvent) (fuel : Nat) :
    ∃ w', deliver (fuel + 1) w (.timer n) = some w' ∧ Stopping T w' ∧
      w'.unit.pids = w.unit.pids := by
  obtain ⟨⟨_, _⟩, found, rfl⟩ := timer
  have running : w.unit.pids.isEmpty = false := by simpa using h.tracking
  simp only [deliver, found, unitTimerEvent]
  rcases h.state with s | s
  · simp only [timersetDel_unit, World.setUnit_unit, s, unitEnterStopterm, running,
      Bool.false_eq_true, if_false]
    exact ⟨_, rfl, ⟨.inr rfl, h.target, h.tracking, ⟨h.forks.ok, h.forks.positive⟩⟩, rfl⟩
  · simp only [timersetDel_unit, World.setUnit_unit, s]
    exact ⟨_, rfl, ⟨.inr s, h.target, h.tracking, ⟨h.forks.ok, h.forks.positive⟩⟩, rfl⟩

theorem Stopping.step (h : Stopping T w) {e : UnitEvent} {rest : List UnitEvent} {p : Nat}
    (stops : e.stopsUnit w) (nodup : ((e :: rest).filterMap UnitEvent.exitPid).Nodup)
    (tracked : p ∈ w.unit.pids) (later : p ∈ rest.filterMap UnitEvent.exitPid)
    (exits : ∀ q ∈ w.unit.pids, q ∈ (e :: rest).filterMap UnitEvent.exitPid) (fuel : Nat) :
    ∃ w₁, deliver (fuel + 5) w e = some w₁ ∧ Stopping T w₁ ∧ p ∈ w₁.unit.pids ∧
      ∀ q ∈ w₁.unit.pids, q ∈ rest.filterMap UnitEvent.exitPid := by
  cases e with
  | exit q _ =>
    simp only [List.filterMap_cons, UnitEvent.exitPid, List.nodup_cons] at nodup exits
    have other : q ≠ p := fun same => nodup.1 (same ▸ later)
    obtain ⟨delivered, h₁⟩ := h.exit_other (List.ne_nil_of_mem (List.mem_filter.mpr
      ⟨tracked, by simpa using other.symm⟩)) (fuel + 5) ‹_›
    refine ⟨_, delivered, h₁, by simpa [unitDeregisterPid] using ⟨tracked, other.symm⟩,
      fun r hr => ?_⟩
    simp only [unitDeregisterPid, World.setUnit_unit, List.mem_filter, ne_eq,
      decide_eq_true_eq] at hr
    exact (List.mem_cons.mp (exits r hr.1)).resolve_left hr.2
  | timer n =>
    obtain ⟨w₁, delivered, h₁, same⟩ := h.timer stops (fuel + 4)
    exact ⟨w₁, delivered, h₁, same ▸ tracked,
      fun q hq => by simpa [UnitEvent.exitPid] using exits q (same ▸ hq)⟩
  | _ => exact stops.elim

end Steps

/-! ### Runs of the stop sequence -/

def StopContinuation (fuel : Nat) : World → List UnitEvent → Prop
  | _, [] => True
  | w, e :: es => e.allowed w = true ∧ e.stopsUnit w ∧
    ∀ w', deliver fuel w e = some w' → StopContinuation fuel w' es

/-- The run lemma: while the last process to exit is still tracked, every event keeps the unit in
    Stop or StopTerm; its exit enters the target. -/
theorem Stopping.run {T : UnitState} {fuel p : Nat} {abnormal : Bool} : ∀ (pre : List UnitEvent)
    {w : World}, Stopping T w → StopContinuation (fuel + 5) w (pre ++ [UnitEvent.exit p abnormal]) →
    ((pre ++ [UnitEvent.exit p abnormal]).filterMap UnitEvent.exitPid).Nodup → p ∈ w.unit.pids →
    (∀ q ∈ w.unit.pids, q ∈ (pre ++ [UnitEvent.exit p abnormal]).filterMap UnitEvent.exitPid) →
    (∀ k ≤ pre.length, ∃ wk, unitRun (fuel + 5) w (pre.take k) = some wk ∧
      (wk.unit.state = .stop ∨ wk.unit.state = .stopTerm)) ∧
    ∃ w₂ F w', (w₂.unit.state = .stop ∨ w₂.unit.state = .stopTerm) ∧ w₂.unit.pids = [] ∧
      w₂.unit.target = T ∧ unitEnterState F w₂ T = some w' ∧
      unitRun (fuel + 5) w (pre ++ [UnitEvent.exit p abnormal]) = some w'
  | [], w, h, cont, _, _, exits => by
    have last : w.unit.pids.filter (· ≠ p) = [] :=
      List.filter_eq_nil_iff.mpr fun q hq => by simpa [UnitEvent.exitPid] using exits q hq
    obtain ⟨w₂, F, w', stopped, none, target, entered, delivered⟩ :=
      h.exit_last last fuel abnormal
    refine ⟨fun k _ => ⟨w, by simp [unitRun], h.state⟩, w₂, F, w', stopped, none, target, entered,
      ?_⟩
    simp [unitRun, cont.1, delivered]
  | e :: pre, w, h, ⟨allowed, stops, cont⟩, nodup, tracked, exits => by
    obtain ⟨w₁, delivered, h₁, tracked₁, exits₁⟩ :=
      h.step stops nodup tracked (by simp [UnitEvent.exitPid]) exits fuel
    obtain ⟨before, after⟩ := Stopping.run pre h₁ (cont w₁ delivered)
      (nodup.sublist ((List.sublist_cons_self e _).filterMap _)) tracked₁ exits₁
    have step : ∀ es, unitRun (fuel + 5) w (e :: es) = unitRun (fuel + 5) w₁ es := fun es => by
      simp [unitRun, allowed, delivered]
    refine ⟨fun k hk => ?_, by simpa only [List.cons_append, step] using after⟩
    cases k with
    | zero => exact ⟨w, rfl, h.state⟩
    | succ k => simpa only [List.take_succ_cons, step] using before k (by simpa using hk)

/-- With every fork succeeding, `unit_purge_and_target` with no process left enters `T` at once;
    otherwise the unit stays in Stop or StopTerm until its last pid exits, then enters `T`. -/
theorem purge_stops_then_enters_target {T : UnitState} {w : World} (target : w.unit.target = T)
    (forks : ForksSucceed w) (fuel : Nat) :
    (w.unit.pids = [] → unitPurgeAndTarget (fuel + 1) w = unitEnterState fuel w T) ∧
    (w.unit.pids ≠ [] → ∃ w₁, unitPurgeAndTarget (fuel + 5) w = some w₁ ∧
      (w₁.unit.state = .stop ∨ w₁.unit.state = .stopTerm) ∧
      ∀ pre p abnormal, StopContinuation (fuel + 5) w₁ (pre ++ [UnitEvent.exit p abnormal]) →
        ((pre ++ [UnitEvent.exit p abnormal]).filterMap UnitEvent.exitPid).Nodup →
        (∀ q, q ∈ (pre ++ [UnitEvent.exit p abnormal]).filterMap UnitEvent.exitPid ↔
          q ∈ w₁.unit.pids) →
        (∀ k ≤ pre.length, ∃ wk, unitRun (fuel + 5) w₁ (pre.take k) = some wk ∧
          (wk.unit.state = .stop ∨ wk.unit.state = .stopTerm)) ∧
        ∃ w₂ F w', (w₂.unit.state = .stop ∨ w₂.unit.state = .stopTerm) ∧ w₂.unit.pids = [] ∧
          w₂.unit.target = T ∧ unitEnterState F w₂ T = some w' ∧
          unitRun (fuel + 5) w₁ (pre ++ [UnitEvent.exit p abnormal]) = some w') := by
  refine ⟨fun none => by simp [unitPurgeAndTarget, none, target], fun tracking => ?_⟩
  obtain ⟨w₁, purged, h₁⟩ := purge_stopping (fuel + 2) target forks tracking
  refine ⟨w₁, purged, h₁.state, fun pre p abnormal cont nodup exits => ?_⟩
  exact h₁.run pre cont nodup ((exits p).mp (by simp [UnitEvent.exitPid]))
    fun q hq => (exits q).mpr hq

def startAndStop : UnitMethods := ⟨none, some "start", none, some "stop", none⟩

def startedWithStop : World :=
  ⟨⟨.simple, startAndStop, .start, .uninitialised, 1, 0, [1], 0, 0, fun _ => 0⟩, [], 1, 2, 1,
    fun _ => true⟩

def stoppingToOffline : World :=
  ⟨⟨.simple, startAndStop, .stop, .offline, 1, 2, [1, 2], 1, 0, fun _ => 0⟩,
    [⟨1, .unitTimerEvent⟩], 2, 3, 2, fun _ => true⟩

theorem started_unit_stops_to_offline :
    unitRun 20 (unitAdd .simple startAndStop fun _ => true) [.rrStart] = some startedWithStop ∧
      ∃ w₁ w', unitPurgeAndTarget 5 (setTarget startedWithStop .offline) = some w₁ ∧
        unitRun 5 w₁ [.exit 2 false, .exit 1 true] = some w' ∧ w'.unit.state = .offline ∧
        w'.unit.pids = [] := by
  obtain ⟨w₁, purged, -, run⟩ :=
    (purge_stops_then_enters_target (T := .offline) (w := setTarget startedWithStop .offline) rfl
      ⟨fun _ _ => rfl, Nat.succ_pos _⟩ 0).2 nofun
  obtain rfl : w₁ = stoppingToOffline := Option.some.inj (purged.symm.trans rfl)
  obtain ⟨-, w₂, F, w', -, none, -, entered, ran⟩ := run [.exit 2 false] 1 true
    ⟨rfl, trivial, fun w' h => by
      obtain rfl := Option.some.inj
        ((rfl : deliver 5 stoppingToOffline (.exit 2 false) = some _).symm.trans h)
      exact ⟨rfl, trivial, fun _ _ => trivial⟩⟩
    (by decide) (fun q => by simp [UnitEvent.exitPid, stoppingToOffline, or_comm])
  cases F with
  | zero => cases entered
  | succ F =>
    simp only [unitEnterState, unitEnterOffline, Option.some.injEq] at entered
    subst entered
    exact ⟨rfl, _, _, purged, ran, rfl, none⟩

end Restartd

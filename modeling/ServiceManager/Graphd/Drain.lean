import ServiceManager.Graphd.Setup

/-!
The states the engine reaches. `graph_setup_all` ends its first drain in a quiescent state; from
a quiescent state an administrator or the restarter sends one note, and the loop drains the queue
until it is empty again. Between two turns of a drain the engine is in the middle of one.
-/

namespace Graphd

/-- The notes sent from outside the engine: A_DISABLE or A_ENABLE naming an installed service or
    instance, and SC_ONLINE, SC_OFFLINE or SC_DISABLED naming an instance, with any reason. -/
def ExternalNote (g : Graph) : S16Note → Prop
  | .adminReq type path _ => (type = .disable ∨ type = .enable) ∧
    ∃ v, vtxFindByPath g path = some v ∧ ((g.vtx v).type = .svc ∨ (g.vtx v).type = .inst)
  | .stateChange type path _ => (type = .online ∨ type = .offline ∨ type = .disabled) ∧
    ∃ v, vtxFindByPath g path = some v ∧ (g.vtx v).type = .inst
  | .rreq _ _ => False

/-- The quiescent states: where `graph_setup_all`'s first drain ends, and where the drain of one
    external note from a quiescent state ends. -/
inductive Quiescent (repo : S16Repository) (order : List S16Service) : Graph → Prop
  | setup {fuel : Nat} {g : Graph} : graphSetupInitial repo order fuel = .done g →
    Quiescent repo order g
  | drain {g g' : Graph} {n : S16Note} {fuel : Nat} : Quiescent repo order g →
    processNotes fuel g [n] = .done g' → ExternalNote g n → Quiescent repo order g'

theorem graphSetupInitial_eq {repo : S16Repository} {order : List S16Service} {fuel : Nat}
    {g₁ g₂ : Graph} {notes : List S16Note}
    (built : setupPass repo fuel (installAll ⟨[]⟩ order) 0 = .done g₁)
    (initial : initialNotes g₁ fuel = .done notes) (drained : processNotes fuel g₁ notes = .done g₂) :
    graphSetupInitial repo order fuel = .done g₂ := by
  simp [graphSetupInitial, built, initial, drained]

inductive Drains (g₀ : Graph) (q₀ : List S16Note) : Graph → List S16Note → Prop
  | refl : Drains g₀ q₀ g₀ q₀
  | turn {g g' : Graph} {q new : List S16Note} {n : S16Note} {fuel : Nat} :
    Drains g₀ q₀ g (n :: q) → graphProcessNote g fuel n = .done (g', new) →
    Drains g₀ q₀ g' (q ++ new)

theorem Drains.trans {g₀ g₁ g₂ : Graph} {q₀ q₁ q₂ : List S16Note} (first : Drains g₀ q₀ g₁ q₁)
    (second : Drains g₁ q₁ g₂ q₂) : Drains g₀ q₀ g₂ q₂ := by
  induction second with
  | refl => exact first
  | turn _ processed ih => exact .turn ih processed

theorem drains_of_processNoteTurns {fuel : Nat} :
    ∀ {turns : Nat} {g g' : Graph} {q q' : List S16Note},
      processNoteTurns fuel turns g q = .done (g', q') → Drains g q g' q'
  | 0, _, _, _, _, h => by cases h; exact .refl
  | _ + 1, _, _, [], _, h => by cases h; exact .refl
  | _ + 1, g, _, n :: q, _, h => by
    obtain ⟨⟨g₁, new⟩, processed, rest⟩ := Run.bind_eq_done.mp h
    exact (Drains.turn .refl processed).trans (drains_of_processNoteTurns rest)

theorem drains_of_processNotes :
    ∀ {fuel : Nat} {g g' : Graph} {q : List S16Note},
      processNotes fuel g q = .done g' → Drains g q g' []
  | 0, _, _, _, h => by cases h
  | _ + 1, _, _, [], h => by cases h; exact .refl
  | _ + 1, g, _, n :: q, h => by
    obtain ⟨⟨g₁, new⟩, processed, rest⟩ := Run.bind_eq_done.mp h
    exact (Drains.turn .refl processed).trans (drains_of_processNotes rest)

/-! ### A startable instance left down

`x:i` excludes `v:i` and takes it optionally, `m:i` requires `x:i`, and `y:i` requires `v:i` and
takes `m:i` optionally. Disabling `m:i` and then `v:i` marks `x:i` through the OptionalAll group
on `v:i`. The SC_DISABLED of `v:i` is processed while `x:i` is still marked, so its
`vtx_notify_misc` pass does not start it; the SC_OFFLINE that clears the mark is the marked case
of `vtx_process_state_change`, which never asks whether `x:i` can come up. -/

def startableRepo : S16Repository :=
  [installedService "v" [],
   installedService "x" [⟨.excludeAll, .any, [⟨"v", some "i"⟩]⟩,
     ⟨.optionalAll, .any, [⟨"v", some "i"⟩]⟩],
   installedService "m" [⟨.requireAll, .any, [⟨"x", some "i"⟩]⟩],
   installedService "y" [⟨.requireAll, .any, [⟨"v", some "i"⟩]⟩,
     ⟨.optionalAll, .any, [⟨"m", some "i"⟩]⟩]]

def startableBuilt : Graph :=
  ⟨[⟨⟨"v", none⟩, .svc, .requireAll, .any, .uninitialised, true, false, false, false, [1], []⟩,
    ⟨⟨"v", some "i"⟩, .inst, .requireAll, .any, .uninitialised, true, true, false, false, [],
      [0, 8, 9, 11]⟩,
    ⟨⟨"x", none⟩, .svc, .requireAll, .any, .uninitialised, true, false, false, false, [3], []⟩,
    ⟨⟨"x", some "i"⟩, .inst, .requireAll, .any, .uninitialised, true, true, false, false, [8, 9],
      [2, 10]⟩,
    ⟨⟨"m", none⟩, .svc, .requireAll, .any, .uninitialised, true, false, false, false, [5], []⟩,
    ⟨⟨"m", some "i"⟩, .inst, .requireAll, .any, .uninitialised, true, true, false, false, [10],
      [4, 12]⟩,
    ⟨⟨"y", none⟩, .svc, .requireAll, .any, .uninitialised, true, false, false, false, [7], []⟩,
    ⟨⟨"y", some "i"⟩, .inst, .requireAll, .any, .uninitialised, true, true, false, false, [11, 12],
      [6]⟩,
    ⟨⟨"x", some "i#depgroups/0"⟩, .depgroup, .excludeAll, .any, .uninitialised, true, true, false,
      false, [1], [3]⟩,
    ⟨⟨"x", some "i#depgroups/1"⟩, .depgroup, .optionalAll, .any, .uninitialised, true, true, false,
      false, [1], [3]⟩,
    ⟨⟨"m", some "i#depgroups/0"⟩, .depgroup, .requireAll, .any, .uninitialised, true, true, false,
      false, [3], [5]⟩,
    ⟨⟨"y", some "i#depgroups/0"⟩, .depgroup, .requireAll, .any, .uninitialised, true, true, false,
      false, [1], [7]⟩,
    ⟨⟨"y", some "i#depgroups/1"⟩, .depgroup, .optionalAll, .any, .uninitialised, true, true, false,
      false, [5], [7]⟩]⟩

/-- A graph built from single-instance services with the instances' `state`, `is_enabled`,
    `to_offline` and `to_disable` replaced, in the order the services were installed. -/
def withInstances (g : Graph) (flags : List (S16State × Bool × Bool × Bool)) : Graph :=
  flags.enum.foldl (fun g (k, s) => g.modify (2 * k + 1) fun a =>
    { a with state := s.1, isEnabled := s.2.1, toOffline := s.2.2.1, toDisable := s.2.2.2 }) g

theorem startable_left_offline :
    ∃ g, Quiescent startableRepo startableRepo g ∧ Acyclic g ∧ (g.vtx 3).type = .inst ∧
      vtxInstCanComeUp g 30 3 = .done true ∧ (g.vtx 3).state = .offline := by
  let init := withInstances startableBuilt [(.online, true, false, false),
    (.uninitialised, true, false, false), (.uninitialised, true, false, false),
    (.uninitialised, true, false, false)]
  let afterM := withInstances startableBuilt [(.online, true, false, false),
    (.uninitialised, true, false, false), (.disabled, false, false, false),
    (.online, true, false, false)]
  let afterV := withInstances startableBuilt [(.disabled, false, false, false),
    (.offline, true, false, false), (.offline, false, false, false), (.offline, true, false, false)]
  let vUp := (installAll ⟨[]⟩ startableRepo).modify 1 fun x =>
    { x with isSetup := true, isEnabled := true }
  have vSetUp : vtxSetup startableRepo 28 (installAll ⟨[]⟩ startableRepo) 1 = .done vUp := by
    decide
  have xSetUp : vtxSetup startableRepo 26 vUp 3 = .done
      ⟨[⟨⟨"v", none⟩, .svc, .requireAll, .any, .uninitialised, true, false, false, false, [1], []⟩,
        ⟨⟨"v", some "i"⟩, .inst, .requireAll, .any, .uninitialised, true, true, false, false, [],
          [0, 8, 9]⟩,
        ⟨⟨"x", none⟩, .svc, .requireAll, .any, .uninitialised, true, false, false, false, [3], []⟩,
        ⟨⟨"x", some "i"⟩, .inst, .requireAll, .any, .uninitialised, true, true, false, false,
          [8, 9], [2]⟩,
        ⟨⟨"m", none⟩, .svc, .requireAll, .any, .uninitialised, true, false, false, false, [5], []⟩,
        ⟨⟨"m", some "i"⟩, .inst, .requireAll, .any, .uninitialised, false, false, false, false, [],
          [4]⟩,
        ⟨⟨"y", none⟩, .svc, .requireAll, .any, .uninitialised, true, false, false, false, [7], []⟩,
        ⟨⟨"y", some "i"⟩, .inst, .requireAll, .any, .uninitialised, false, false, false, false, [],
          [6]⟩,
        ⟨⟨"x", some "i#depgroups/0"⟩, .depgroup, .excludeAll, .any, .uninitialised, false, false,
          false, false, [1], [3]⟩,
        ⟨⟨"x", some "i#depgroups/1"⟩, .depgroup, .optionalAll, .any, .uninitialised, false, false,
          false, false, [1], [3]⟩]⟩ := by decide
  have built : setupPass startableRepo 30 (installAll ⟨[]⟩ startableRepo) 0 =
      .done startableBuilt := by
    rw [setupPass_of_vtxSetup (by decide) (vtxSetup_of_isSetup (by decide)),
      setupPass_of_vtxSetup (by decide) vSetUp,
      setupPass_of_vtxSetup (by decide) (vtxSetup_of_isSetup (by decide)),
      setupPass_of_vtxSetup (by decide) xSetUp]
    rfl
  have initial : initialNotes startableBuilt 30 =
      .done [.stateChange .offline ⟨"v", some "i"⟩ 0] := by decide
  have drained : processNotes 30 startableBuilt [.stateChange .offline ⟨"v", some "i"⟩ 0] =
      .done init := by decide
  have disableM : processNotes 40 init [.adminReq .disable ⟨"m", some "i"⟩ 0] = .done afterM := by
    decide
  have disableV : processNotes 40 afterM [.adminReq .disable ⟨"v", some "i"⟩ 0] =
      .done afterV := by decide
  have quiet := ((Quiescent.setup (graphSetupInitial_eq built initial drained)).drain disableM
    ⟨.inl rfl, 5, by decide, .inr (by decide)⟩).drain disableV ⟨.inl rfl, 1, by decide, .inr (by decide)⟩
  exact ⟨afterV, quiet, acyclic_of_rank _ (fun v => [1, 0, 3, 2, 5, 4, 7, 6, 1, 1, 3, 1, 5].getD v 0)
    (by decide), by decide, by decide, by decide⟩

/-! ### A dependency stopped under a running dependent

`w:i` requires `v:i`, `y:i` requires `w:i` and `z:i` requires `y:i`; `z:i` has been disabled.
Disabling `v:i` marks `w:i`, `y:i` and `z:i`, and the scan queues SC_OFFLINE for `z:i` and
`y:i`. Taking `z:i` down queues a second SC_OFFLINE for `y:i` through
`vtx_offline_dependency`. The first one clears `y:i`'s mark; the second finds it unmarked and able
to come up, so `y:i` is started again before SC_OFFLINE of `v:i` is processed. -/

def PassesStop (x : Vertex) : Prop :=
  x.type = .svc ∨
    (x.type = .depgroup ∧ x.dgType ≠ .excludeAll ∧
      S16DependencyGroupRestartOnCondition.error.toInt < x.restartOn.toInt) ∨
    (x.type = .inst ∧ x.toOffline = true)

instance (x : Vertex) : Decidable (PassesStop x) := inferInstanceAs (Decidable (_ ∨ _ ∨ _))

inductive StopsThrough (g : Graph) (x : Nat) : Nat → Prop
  | dependent {y : Nat} : y ∈ (g.vtx x).dependents → StopsThrough g x y
  | through {z y : Nat} : StopsThrough g x z → PassesStop (g.vtx z) →
    y ∈ (g.vtx z).dependents → StopsThrough g x y

def stopOrderRepo : S16Repository :=
  [installedService "v" [], installedService "w" [⟨.requireAll, .any, [⟨"v", some "i"⟩]⟩],
   installedService "z" [⟨.requireAll, .any, [⟨"y", some "i"⟩]⟩],
   installedService "y" [⟨.requireAll, .any, [⟨"w", some "i"⟩]⟩]]

def stopOrderBuilt : Graph :=
  ⟨[⟨⟨"v", none⟩, .svc, .requireAll, .any, .uninitialised, true, false, false, false, [1], []⟩,
    ⟨⟨"v", some "i"⟩, .inst, .requireAll, .any, .uninitialised, true, true, false, false, [],
      [0, 8]⟩,
    ⟨⟨"w", none⟩, .svc, .requireAll, .any, .uninitialised, true, false, false, false, [3], []⟩,
    ⟨⟨"w", some "i"⟩, .inst, .requireAll, .any, .uninitialised, true, true, false, false, [8],
      [2, 10]⟩,
    ⟨⟨"z", none⟩, .svc, .requireAll, .any, .uninitialised, true, false, false, false, [5], []⟩,
    ⟨⟨"z", some "i"⟩, .inst, .requireAll, .any, .uninitialised, true, true, false, false, [9], [4]⟩,
    ⟨⟨"y", none⟩, .svc, .requireAll, .any, .uninitialised, true, false, false, false, [7], []⟩,
    ⟨⟨"y", some "i"⟩, .inst, .requireAll, .any, .uninitialised, true, true, false, false, [10],
      [6, 9]⟩,
    ⟨⟨"w", some "i#depgroups/0"⟩, .depgroup, .requireAll, .any, .uninitialised, true, true, false,
      false, [1], [3]⟩,
    ⟨⟨"z", some "i#depgroups/0"⟩, .depgroup, .requireAll, .any, .uninitialised, true, true, false,
      false, [7], [5]⟩,
    ⟨⟨"y", some "i#depgroups/0"⟩, .depgroup, .requireAll, .any, .uninitialised, true, true, false,
      false, [3], [7]⟩]⟩

/-- `stopOrderRepo` after `graph_setup_all`'s first drain: every instance online. -/
def stopOrderOnline : Graph :=
  withInstances stopOrderBuilt (List.replicate 4 (.online, true, false, false))

theorem stopOrder_quiescent : Quiescent stopOrderRepo stopOrderRepo stopOrderOnline := by
  have built : setupPass stopOrderRepo 30 (installAll ⟨[]⟩ stopOrderRepo) 0 =
      .done stopOrderBuilt := by decide
  have initial : initialNotes stopOrderBuilt 30 =
      .done [.stateChange .offline ⟨"v", some "i"⟩ 0] := by decide
  have drained : processNotes 30 stopOrderBuilt [.stateChange .offline ⟨"v", some "i"⟩ 0] =
      .done stopOrderOnline := by decide
  exact .setup (graphSetupInitial_eq built initial drained)

theorem disable_stops_dependency_under_running_dependent :
    ∃ g₀ g₁ q₁ g q, Quiescent stopOrderRepo stopOrderRepo g₀ ∧ Acyclic g₀ ∧
      Drains g₀ [.adminReq .disable ⟨"v", some "i"⟩ 0] g₁ q₁ ∧
      (g₀.vtx 7).toOffline = false ∧ (g₁.vtx 7).toOffline = true ∧ StopsThrough g₁ 1 7 ∧
      Drains g₁ q₁ g (.stateChange .offline ⟨"v", some "i"⟩ 2 :: q) ∧
      vtxIsRunning (g.vtx 7) = true := by
  let online := (S16State.online, true, false, false)
  let zDisabled := withInstances stopOrderBuilt
    [online, online, (.disabled, false, false, false), online]
  let marked := withInstances stopOrderBuilt [(.online, false, true, true), (.online, true, true, false),
    (.disabled, false, true, false), (.online, true, true, false)]
  let stopping := withInstances stopOrderBuilt [(.online, false, true, true),
    (.offline, true, false, false), (.offline, false, false, false), online]
  have disableZ : processNotes 30 stopOrderOnline [.adminReq .disable ⟨"z", some "i"⟩ 0] =
      .done zDisabled := by decide
  have quiet := stopOrder_quiescent.drain disableZ ⟨.inl rfl, 5, by decide, .inr (by decide)⟩
  have request : processNoteTurns 30 1 zDisabled [.adminReq .disable ⟨"v", some "i"⟩ 0] =
      .done (marked, [.stateChange .offline ⟨"z", some "i"⟩ 2,
        .stateChange .offline ⟨"y", some "i"⟩ 2]) := by decide
  have turns : processNoteTurns 30 5 marked
      [.stateChange .offline ⟨"z", some "i"⟩ 2, .stateChange .offline ⟨"y", some "i"⟩ 2] =
      .done (stopping, [.stateChange .offline ⟨"v", some "i"⟩ 2]) := by decide
  have path : StopsThrough marked 1 7 :=
    .through (z := 10) (.through (z := 3) (.through (z := 8) (.dependent (by decide)) (by decide)
      (by decide)) (by decide) (by decide)) (by decide) (by decide)
  exact ⟨zDisabled, marked, _, stopping, [], quiet,
    acyclic_of_rank _ (fun v => [1, 0, 3, 2, 7, 6, 5, 4, 1, 5, 3].getD v 0) (by decide),
    drains_of_processNoteTurns request, by decide, by decide, path,
    drains_of_processNoteTurns turns, by decide⟩

end Graphd

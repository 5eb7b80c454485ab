import ServiceManager.Graphd.GoDown
import ServiceManager.Graphd.RoundTrip

/-!
What each traversal of the propagation engine queues, said as a set of vertices read off the
graph. `vtx_notify_stop`, `vtx_notify_start` and `vtx_notify_misc` climb dependents edges, going
on through the vertices their switch lets through, and `vtx_offline_dependency` goes down
dependency edges through groups and services. On every graph, whenever one of them returns, the
notes it appends are exactly the notes about the vertices where its climb or descent arrives and
that pass its test there; the marks `vtx_notify_admin_disable` sets are exactly those on the
instances its climb arrives at, and nothing else of the graph changes.
-/

namespace Graphd

open Run Relation

variable {g g' : Graph}

/-! ### Climbs up dependents edges -/

/-- `x` is where a climb up dependents edges from `v` arrives, going on only through vertices that
    `P` holds of. -/
inductive Climbs (g : Graph) (P : Vertex → Prop) : Nat → Nat → Prop
  | here (v : Nat) : Climbs g P v v
  | up {v d x : Nat} : P (g.vtx v) → d ∈ (g.vtx v).dependents → Climbs g P d x → Climbs g P v x

variable {P : Vertex → Prop}

theorem climbs_iff {v x : Nat} :
    Climbs g P v x ↔ x = v ∨ (P (g.vtx v) ∧ ∃ d ∈ (g.vtx v).dependents, Climbs g P d x) := by
  constructor
  · rintro (_ | ⟨p, hd, climbs⟩)
    · exact .inl rfl
    · exact .inr ⟨p, _, hd, climbs⟩
  · rintro (rfl | ⟨p, d, hd, climbs⟩)
    · exact .here x
    · exact .up p hd climbs

theorem Climbs.of_sameShape (hs : SameShape g g') (hP : ∀ v, P (g'.vtx v) ↔ P (g.vtx v))
    {v x : Nat} (h : Climbs g P v x) : Climbs g' P v x := by
  induction h with
  | here => exact .here _
  | up p hd _ ih => exact .up ((hP _).mpr p) (by rwa [hs.dependents]) ih

/-- The notes a climbing traversal queues: `note x` for every vertex `x` where its climb arrives
    and that `Q` holds of. -/
def ClimbNotes (g : Graph) (P : Vertex → Prop) (Q : Nat → Prop) (note : Nat → S16Note) (v : Nat)
    (n : S16Note) : Prop :=
  ∃ x, Climbs g P v x ∧ Q x ∧ n = note x

variable {Q : Nat → Prop} {note : Nat → S16Note}

theorem climbNotes_iff {v : Nat} {n : S16Note} :
    ClimbNotes g P Q note v n ↔ (Q v ∧ n = note v) ∨
      (P (g.vtx v) ∧ ∃ d ∈ (g.vtx v).dependents, ClimbNotes g P Q note d n) := by
  constructor
  · rintro ⟨x, _ | ⟨p, hd, climbs⟩, q, rfl⟩
    · exact .inl ⟨q, rfl⟩
    · exact .inr ⟨p, _, hd, x, climbs, q, rfl⟩
  · rintro (⟨q, rfl⟩ | ⟨p, d, hd, x, climbs, q, rfl⟩)
    · exact ⟨v, .here v, q, rfl⟩
    · exact ⟨x, .up p hd climbs, q, rfl⟩

/-! ### Lists appended to exactly -/

def AppendsExactly (S : S16Note → Prop) (notes₀ notes : List S16Note) : Prop :=
  ∃ extra, notes = notes₀ ++ extra ∧ ∀ n, n ∈ extra ↔ S n

variable {S T : S16Note → Prop} {notes notes₁ notes₂ : List S16Note} {n : S16Note}

theorem AppendsExactly.none (h : ∀ n, ¬ S n) : AppendsExactly S notes notes :=
  ⟨[], (List.append_nil _).symm, fun n => iff_of_false (List.not_mem_nil n) (h n)⟩

theorem AppendsExactly.congr (h : AppendsExactly S notes₁ notes₂) (hST : ∀ n, S n ↔ T n) :
    AppendsExactly T notes₁ notes₂ :=
  let ⟨e, he, hS⟩ := h
  ⟨e, he, fun n => (hS n).trans (hST n)⟩

theorem AppendsExactly.trans (h₁ : AppendsExactly S notes notes₁)
    (h₂ : AppendsExactly T notes₁ notes₂) : AppendsExactly (fun n => S n ∨ T n) notes notes₂ := by
  obtain ⟨e₁, rfl, h₁⟩ := h₁
  obtain ⟨e₂, rfl, h₂⟩ := h₂
  exact ⟨e₁ ++ e₂, List.append_assoc _ _ _, fun n => by rw [List.mem_append, h₁, h₂]⟩

theorem AppendsExactly.ite {c : Bool} {Q : Prop} (hc : c = true ↔ Q) (m : S16Note) :
    AppendsExactly (fun n => Q ∧ n = m) notes (if c then notes ++ [m] else notes) := by
  cases c
  · exact .none fun n h => Bool.false_ne_true (hc.mpr h.1)
  · exact ⟨[m], rfl, fun n => by simp [← hc]⟩

theorem appendsExactly_foldlM {f : List S16Note → Nat → Run (List S16Note)}
    {S : Nat → S16Note → Prop} :
    ∀ {l : List Nat} {s s' : List S16Note},
      (∀ d ∈ l, ∀ t t', f t d = .done t' → AppendsExactly (S d) t t') →
      l.foldlM f s = .done s' → AppendsExactly (fun n => ∃ d ∈ l, S d n) s s'
  | [], s, s', _, h => by
    obtain rfl : s = s' := Run.done.inj h
    exact .none fun n => by simp
  | d :: l, s, s', hf, h => by
    rw [List.foldlM_cons] at h
    obtain ⟨t, ht, rest⟩ := bind_eq_done.mp h
    exact ((hf d (List.mem_cons_self _ _) s t ht).trans (appendsExactly_foldlM
      (fun d' hd' => hf d' (List.mem_cons_of_mem _ hd')) rest)).congr fun n => by simp

theorem ClimbNotes.step {v : Nat}
    (own : AppendsExactly (fun n => Q v ∧ n = note v) notes notes₁)
    (climb : AppendsExactly (fun n => P (g.vtx v) ∧
      ∃ d ∈ (g.vtx v).dependents, ClimbNotes g P Q note d n) notes₁ notes₂) :
    AppendsExactly (ClimbNotes g P Q note v) notes notes₂ :=
  (own.trans climb).congr fun _ => climbNotes_iff.symm

theorem ClimbNotes.climb {v : Nat} {f : Nat → List S16Note → Run (List S16Note)}
    (p : P (g.vtx v))
    (ih : ∀ d t t', f d t = .done t' → AppendsExactly (ClimbNotes g P Q note d) t t')
    (h : vtxDependentsDo (g.vtx v) f notes₁ = .done notes₂) :
    AppendsExactly (fun n => P (g.vtx v) ∧
      ∃ d ∈ (g.vtx v).dependents, ClimbNotes g P Q note d n) notes₁ notes₂ :=
  (appendsExactly_foldlM (fun d _ => ih d) h).congr fun _ => (and_iff_right p).symm

/-! ### `vtx_notify_stop` -/

def PassesStopOf (r : Int) (x : Vertex) : Prop :=
  x.type = .svc ∨ (x.type = .depgroup ∧ x.dgType ≠ .excludeAll ∧ r ≤ x.restartOn.toInt)

def RunningInst (g : Graph) (x : Nat) : Prop :=
  (g.vtx x).type = .inst ∧ vtxIsRunning (g.vtx x) = true

/-- SC_OFFLINE of reason `r` for every Online or Degraded instance a stop of reason `r` that
    starts at `v` arrives at. -/
def StopNotes (g : Graph) (r : Int) : Nat → S16Note → Prop :=
  ClimbNotes g (PassesStopOf r) (RunningInst g) fun x => .stateChange .offline (g.vtx x).path r

theorem vtxNotifyStop_appendsExactly : ∀ {F v : Nat} {r : Int} {notes notes' : List S16Note},
    vtxNotifyStop g F v r notes = .done notes' → AppendsExactly (StopNotes g r v) notes notes'
  | 0, _, _, _, _, h => nomatch h
  | F + 1, v, r, notes, notes', h => by
    have stuck : ¬ PassesStopOf r (g.vtx v) → AppendsExactly (fun n => PassesStopOf r (g.vtx v) ∧
        ∃ d ∈ (g.vtx v).dependents, StopNotes g r d n) notes' notes' := fun np =>
      .none fun _ h => np h.1
    simp only [vtxNotifyStop] at h
    split at h
    · next inst =>
      refine ClimbNotes.step ?_ (stuck (by simp [PassesStopOf, inst]))
      have own : AppendsExactly (fun n => RunningInst g v ∧
          n = .stateChange .offline (g.vtx v).path r) notes (if vtxIsRunning (g.vtx v) then
            notes ++ [.stateChange .offline (g.vtx v).path r] else notes) :=
        .ite (by simp [RunningInst, inst]) _
      split at h <;> cases h <;> simp_all
    · next group =>
      have none : AppendsExactly (fun n => RunningInst g v ∧
          n = .stateChange .offline (g.vtx v).path r) notes notes :=
        .none fun _ h => by simp [RunningInst, group] at h
      split at h
      · next blocked =>
        cases h
        refine ClimbNotes.step none (stuck ?_)
        rintro (svc | ⟨-, ne, le⟩)
        · simp [group] at svc
        · rcases blocked with e | lt
          · exact ne e
          · omega
      · next passes =>
        exact ClimbNotes.step none (ClimbNotes.climb
          (.inr ⟨group, fun e => passes (.inl e), Int.not_lt.mp fun lt => passes (.inr lt)⟩)
          (fun d _ _ => vtxNotifyStop_appendsExactly) h)
    · next service =>
      exact ClimbNotes.step (.none fun _ h => by simp [RunningInst, service] at h)
        (ClimbNotes.climb (.inl service) (fun d _ _ => vtxNotifyStop_appendsExactly) h)

/-! ### `vtx_notify_start` and `vtx_notify_misc` -/

/-- `vtx_inst_can_come_up` says yes under some budget, and then under every larger one. -/
def CanComeUp (g : Graph) (x : Nat) : Prop := ∃ F, vtxInstCanComeUp g F x = .done true

theorem vtxInstCanComeUp_eq_true_iff {F x : Nat} {up : Bool}
    (h : vtxInstCanComeUp g F x = .done up) : up = true ↔ CanComeUp g x :=
  ⟨fun hup => ⟨F, hup ▸ h⟩, fun ⟨_, ht⟩ => Run.done_unique (vtxInstCanComeUp_below g · x) h ht⟩

def StartsUp (g : Graph) (x : Nat) : Prop :=
  (g.vtx x).type = .inst ∧ CanComeUp g x ∧ vtxIsRunning (g.vtx x) = false

theorem startsUp_iff {x : Nat} (inst : (g.vtx x).type = .inst) {F : Nat} {up : Bool}
    (h : vtxInstCanComeUp g F x = .done up) :
    (up && !vtxIsRunning (g.vtx x)) = true ↔ StartsUp g x := by
  simp [StartsUp, inst, ← vtxInstCanComeUp_eq_true_iff h]

/-- SC_ONLINE of reason 0 for every instance that starts up where a climb through groups and
    services that starts at `v` arrives. -/
def StartNotes (g : Graph) : Nat → S16Note → Prop :=
  ClimbNotes g (·.type ≠ .inst) (StartsUp g) fun x => .stateChange .online (g.vtx x).path 0

theorem vtxNotifyStart_appendsExactly : ∀ {F v : Nat} {r : Int} {notes notes' : List S16Note},
    vtxNotifyStart g F v r notes = .done notes' → AppendsExactly (StartNotes g v) notes notes'
  | 0, _, _, _, _, h => nomatch h
  | F + 1, v, r, notes, notes', h => by
    simp only [vtxNotifyStart] at h
    split at h
    · next inst =>
      obtain ⟨up, hup, rest⟩ := bind_eq_done.mp h
      rw [← apply_ite] at rest
      obtain rfl := Run.done.inj rest
      exact ClimbNotes.step (.ite (startsUp_iff inst hup) _) (.none fun _ h => h.1 inst)
    all_goals
      exact ClimbNotes.step (.none fun _ h => by simp_all [StartsUp])
        (ClimbNotes.climb (by simp_all) (fun d _ _ => vtxNotifyStart_appendsExactly) h)

def MiscNotes (g : Graph) (r : Int) : Nat → S16Note → Prop :=
  ClimbNotes g (fun _ => True) (StartsUp g) fun x => vtxOnline (g.vtx x) r

theorem vtxNotifyMisc_appendsExactly : ∀ {F v : Nat} {r : Int} {notes notes' : List S16Note},
    vtxNotifyMisc g F v r notes = .done notes' → AppendsExactly (MiscNotes g r v) notes notes'
  | 0, _, _, _, _, h => nomatch h
  | F + 1, v, r, notes, notes', h => by
    rw [vtxNotifyMisc] at h
    split at h
    · next inst =>
      obtain ⟨up, hup, h⟩ := bind_eq_done.mp h
      obtain ⟨notes₁, own, rest⟩ := bind_eq_done.mp h
      obtain rfl := Run.done.inj own
      exact ClimbNotes.step (.ite (startsUp_iff inst hup) _)
        (ClimbNotes.climb trivial (fun d _ _ => vtxNotifyMisc_appendsExactly) rest)
    · next other =>
      obtain ⟨notes₁, own, rest⟩ := bind_eq_done.mp h
      obtain rfl := Run.done.inj own
      exact ClimbNotes.step (.none fun _ h => other h.1.1)
        (ClimbNotes.climb trivial (fun d _ _ => vtxNotifyMisc_appendsExactly) rest)

/-! ### `vtx_offline_dependency` and the scan after A_DISABLE -/

def GoesDown (g : Graph) (x : Nat) : Prop := Marked g x ∧ ¬ RunningAbove g x

theorem vtxCanGoDown_root {F x : Nat} {b : Bool} (h : vtxCanGoDown g F x true = .done b) :
    b = true ↔ ¬ RunningAbove g x := by
  simpa using vtxCanGoDown_eq_true_iff h

theorem goesDown_iff {x F : Nat} (hm : Marked g x) {b : Bool}
    (h : vtxCanGoDown g F x true = .done b) : b = true ↔ GoesDown g x :=
  (vtxCanGoDown_root h).trans (and_iff_right hm).symm

/-- SC_OFFLINE of reason `r` for every instance that goes down where a descent from `c` through
    groups and services arrives. -/
def DownNotes (g : Graph) (r : Int) (c : Nat) (n : S16Note) : Prop :=
  ∃ x, Visits g c x ∧ GoesDown g x ∧ n = vtxOffline (g.vtx x) r

theorem downNotes_iff {r : Int} {c : Nat} : DownNotes g r c n ↔
    (GoesDown g c ∧ n = vtxOffline (g.vtx c) r) ∨
      ((g.vtx c).type ≠ .inst ∧ ∃ c' ∈ (g.vtx c).dependencies, DownNotes g r c' n) := by
  constructor
  · rintro ⟨x, _ | ⟨group, hc', visits⟩, down, rfl⟩
    · exact .inl ⟨down, rfl⟩
    · exact .inr ⟨group, _, hc', x, visits, down, rfl⟩
  · rintro (⟨down, rfl⟩ | ⟨group, c', hc', x, visits, down, rfl⟩)
    · exact ⟨c, .self c, down, rfl⟩
    · exact ⟨x, .down group hc' visits, down, rfl⟩

theorem vtxOfflineDependency_appendsExactly : ∀ {F c : Nat} {r : Int} {notes notes' : List S16Note},
    vtxOfflineDependency g F c r notes = .done notes' →
      AppendsExactly (DownNotes g r c) notes notes'
  | 0, _, _, _, _, h => nomatch h
  | F + 1, c, r, notes, notes', h => by
    have step : ∀ {notes₁}, AppendsExactly (fun n => GoesDown g c ∧ n = vtxOffline (g.vtx c) r)
        notes notes₁ → AppendsExactly (fun n => (g.vtx c).type ≠ .inst ∧
          ∃ c' ∈ (g.vtx c).dependencies, DownNotes g r c' n) notes₁ notes' →
        AppendsExactly (DownNotes g r c) notes notes' :=
      fun own descent => (own.trans descent).congr fun _ => downNotes_iff.symm
    simp only [vtxOfflineDependency] at h
    split at h
    · next unmarked =>
      cases h
      exact step (.none fun _ h => by simp_all [GoesDown, Marked]) (.none fun _ h => by simp_all)
    · split at h
      · next unmarked inst =>
        obtain ⟨b, hb, rest⟩ := bind_eq_done.mp h
        obtain rfl := Run.done.inj rest
        have hm : Marked g c := ⟨inst, by simpa [inst] using unmarked⟩
        exact step (.ite (goesDown_iff hm hb) _) (.none fun _ h => h.1 inst)
      · next group =>
        refine step (.none fun _ h => group h.1.1.1) ?_
        exact (appendsExactly_foldlM (f := fun s c' => vtxOfflineDependency g F c' r s)
          (fun c' _ _ _ => vtxOfflineDependency_appendsExactly) h).congr
          fun _ => (and_iff_right group).symm

theorem vtxOfflineIfPossible_appendsExactly {F x : Nat} {r : Int} {notes notes' : List S16Note}
    (h : vtxOfflineIfPossible g F x r notes = .done notes') :
    AppendsExactly (fun n => GoesDown g x ∧ n = vtxOffline (g.vtx x) r) notes notes' := by
  unfold vtxOfflineIfPossible at h
  split at h
  · next unmarked =>
    cases h
    exact .none fun _ h => by simp_all [GoesDown, Marked]
  · split at h
    · next marked inst =>
      obtain ⟨b, hb, rest⟩ := bind_eq_done.mp h
      obtain rfl := Run.done.inj rest
      exact .ite (goesDown_iff ⟨inst, by simpa using marked⟩ hb) _
    · next group =>
      cases h
      exact .none fun _ h => group h.1.1.1

theorem scan_appendsExactly {F : Nat} {notes : List S16Note}
    (h : (List.range g.size).foldlM (fun notes i => vtxOfflineIfPossible g F i
      S16DependencyGroupRestartOnCondition.restart.toInt notes) [] = .done notes) :
    ∀ n, n ∈ notes ↔ ∃ x < g.size, GoesDown g x ∧
      n = vtxOffline (g.vtx x) S16DependencyGroupRestartOnCondition.restart.toInt := by
  obtain ⟨e, rfl, he⟩ :=
    appendsExactly_foldlM (f := fun s i => vtxOfflineIfPossible g F i _ s)
      (fun _ _ _ _ => vtxOfflineIfPossible_appendsExactly) h
  simpa using he

/-! ### The marks of `vtx_notify_admin_disable` -/

def PassesDisable (x : Vertex) : Prop :=
  x.type = .depgroup → ¬ (x.dgType = .excludeAll ∨ x.restartOn = .none ∨ x.restartOn = .error)

/-- `g'` is `g` with the instances `S` holds of marked `to_offline`, and nothing else changed. -/
structure MarksExactly (g : Graph) (S : Nat → Prop) (g' : Graph) : Prop where
  size : g'.size = g.size
  frame : ∀ x, g'.vtx x = { g.vtx x with toOffline := (g'.vtx x).toOffline }
  marks : ∀ x, (g'.vtx x).toOffline = true ↔
    (g.vtx x).toOffline = true ∨ (S x ∧ (g.vtx x).type = .inst)

namespace MarksExactly

variable {S T : Nat → Prop} {g₁ g₂ : Graph}

theorem type (h : MarksExactly g S g') (x : Nat) : (g'.vtx x).type = (g.vtx x).type := by
  rw [h.frame]

theorem sameShape (h : MarksExactly g S g') : SameShape g g' :=
  ⟨h.size, fun x => by rw [h.frame]; rfl⟩

theorem none (hS : ∀ x, S x → (g.vtx x).type ≠ .inst) : MarksExactly g S g :=
  ⟨rfl, fun _ => rfl, fun x => (or_iff_left fun ⟨s, inst⟩ => hS x s inst).symm⟩

theorem congr (h : MarksExactly g S g') (hST : ∀ x, (g.vtx x).type = .inst → (S x ↔ T x)) :
    MarksExactly g T g' :=
  ⟨h.size, h.frame, fun x => by rw [h.marks, and_congr_left (hST x)]⟩

theorem trans (h₁ : MarksExactly g S g₁) (h₂ : MarksExactly g₁ T g₂) :
    MarksExactly g (fun x => S x ∨ T x) g₂ where
  size := h₂.size.trans h₁.size
  frame x := by conv_lhs => rw [h₂.frame x, h₁.frame x]
  marks x := by rw [h₂.marks, h₁.marks, h₁.type, or_and_right, or_assoc]

theorem markOne {v : Nat} (inst : (g.vtx v).type = .inst) :
    MarksExactly g (· = v) (g.modify v fun x => { x with toOffline := true }) := by
  have lt : v < g.size := Nat.lt_of_not_le fun le => by
    rw [Graph.vtx_of_size_le le] at inst
    cases inst
  refine ⟨Graph.size_modify .., fun x => ?_, fun x => ?_⟩
  · rw [Graph.vtx_modify]
    split <;> rfl
  · rcases eq_or_ne v x with rfl | ne
    · simp [lt, inst]
    · simp [Graph.vtx_modify_ne _ _ ne, Ne.symm ne]

end MarksExactly

theorem marksExactly_foldlM (g₀ : Graph) {f : Graph → Nat → Run Graph} {S : Nat → Nat → Prop} :
    ∀ {l : List Nat} {g g' : Graph}, SameShape g₀ g →
      (∀ d ∈ l, ∀ h h', SameShape g₀ h → f h d = .done h' → MarksExactly h (S d) h') →
      l.foldlM f g = .done g' → MarksExactly g (fun x => ∃ d ∈ l, S d x) g'
  | [], g, g', _, _, h => by
    obtain rfl : g = g' := Run.done.inj h
    exact .none fun x ⟨_, hd, _⟩ => nomatch hd
  | d :: l, g, g', hs, hf, h => by
    rw [List.foldlM_cons] at h
    obtain ⟨g₁, h₁, rest⟩ := bind_eq_done.mp h
    have first := hf d (List.mem_cons_self _ _) g g₁ hs h₁
    exact (first.trans (marksExactly_foldlM g₀ (hs.trans first.sameShape)
      (fun d' hd' => hf d' (List.mem_cons_of_mem _ hd')) rest)).congr fun x _ => by simp

theorem passesDisable_of_sameShape (hs : SameShape g g') (v : Nat) :
    PassesDisable (g'.vtx v) ↔ PassesDisable (g.vtx v) := by
  simp only [PassesDisable, hs.type, hs.dgType, hs.restartOn]

/-- Whenever `vtx_notify_admin_disable` returns, it has marked exactly the instances its climb
    arrives at, reading the shape of any graph with the same shape as the one it is given. -/
theorem vtxNotifyAdminDisable_marksExactly (g₀ : Graph) : ∀ {F v : Nat} {r : Int} {g g' : Graph},
    SameShape g₀ g → vtxNotifyAdminDisable F v r g = .done g' →
      MarksExactly g (Climbs g₀ PassesDisable v) g'
  | 0, _, _, _, _, _, h => nomatch h
  | F + 1, v, r, g, g', hs, h => by
    have loop : ∀ {g₁ : Graph}, SameShape g₀ g₁ →
        vtxDependentsDo (g₁.vtx v) (fun d => vtxNotifyAdminDisable F d r) g₁ = .done g' →
        MarksExactly g₁ (fun x => ∃ d ∈ (g₀.vtx v).dependents, Climbs g₀ PassesDisable d x) g' :=
      fun hs₁ h => by
        rw [← hs₁.dependents v]
        exact marksExactly_foldlM g₀ hs₁
          (fun d _ _ _ hs' => vtxNotifyAdminDisable_marksExactly g₀ hs') h
    have type := hs.type v
    simp only [vtxNotifyAdminDisable] at h
    split at h
    · next inst =>
      have p : PassesDisable (g₀.vtx v) := fun group => by simp [← type, inst] at group
      have marked := MarksExactly.markOne inst
      exact (marked.trans (loop (hs.trans marked.sameShape) h)).congr fun x _ =>
        (climbs_iff.trans (or_congr_right (and_iff_right p))).symm
    · next group =>
      split at h
      · next blocked =>
        cases h
        refine .none fun x hx => ?_
        rcases climbs_iff.mp hx with rfl | ⟨p, -⟩
        · simp [group]
        · rw [hs.dgType, hs.restartOn] at blocked
          exact (p (type.symm.trans group) blocked).elim
      · next passes =>
        have p : PassesDisable (g₀.vtx v) := fun _ => by rwa [hs.dgType, hs.restartOn] at passes
        exact (loop hs h).congr fun x inst => ((climbs_iff.trans (or_iff_right
          fun e => by simp [e, group] at inst)).trans (and_iff_right p)).symm
    · next svc =>
      have p : PassesDisable (g₀.vtx v) := fun group => by simp [← type, svc] at group
      exact (loop hs h).congr fun x inst => ((climbs_iff.trans (or_iff_right
        fun e => by simp [e, svc] at inst)).trans (and_iff_right p)).symm

end Graphd

import ServiceManager.Graphd.RoundTrip

/-!
The rules the evaluator implements, read against the values it can return. `satisfied_t` is
ordered UNSATISFIABLE < UNSATISFIED < SATISFIED, and the RequireAll, OptionalAll and ExcludeAll
loops keep the worst value seen. The RequireAny loop keeps its accumulator in a `bool`, which
cannot hold UNSATISFIABLE apart from UNSATISFIED. Bringing an instance online makes no value
UNSATISFIABLE, and raises every value that reaches it only through RequireAll and RequireAny
groups; an OptionalAll group, which counts an unsatisfiable offline instance as satisfied, can
drop.
-/

namespace Graphd

open Run Relation

def Satisfied.rank : Satisfied → Nat
  | .unsatisfiable => 0
  | .unsatisfied => 1
  | .satisfied => 2

theorem Satisfied.rank_le_two (s : Satisfied) : s.rank ≤ 2 := by
  cases s <;> decide

theorem Satisfied.satisfied_of_rank_le {s s' : Satisfied} (le : s.rank ≤ s'.rank)
    (top : s = .satisfied) : s' = .satisfied := by
  subst top
  revert le
  cases s' <;> decide

theorem Satisfied.rank_accumulate (sat esat : Satisfied) :
    (sat.accumulate esat).rank = min sat.rank esat.rank := by
  cases sat <;> cases esat <;> rfl

/-! ### RequireAny -/

theorem requireAnyOver_true_cons (e : Nat → Run Satisfied) (c : Nat) (cs : List Nat) :
    requireAnyOver e (c :: cs) true = e c >>= fun esat =>
      if esat = .satisfied then .done .satisfied else requireAnyOver e cs true := by
  simp only [requireAnyOver]
  congr
  funext esat
  split <;> cases esat <;> simp_all [Satisfied.toCBool]

theorem requireAnyOver_ne_unsatisfiable {e : Nat → Run Satisfied} :
    ∀ {cs : List Nat} {b : Bool} {s : Satisfied}, requireAnyOver e cs b = .done s →
      s ≠ .unsatisfiable
  | [], b, _, h => by cases b <;> cases h <;> decide
  | c :: cs, _, _, h => by
    obtain ⟨_, -, h⟩ := bind_eq_done.mp h
    split at h
    · cases h
      decide
    · exact requireAnyOver_ne_unsatisfiable h

theorem depgroupIsSatisfied_requireAny {g : Graph} {F v : Nat} {recurse : Bool} {s : Satisfied}
    (any : (g.vtx v).dgType = .requireAny) (h : depgroupIsSatisfied g F v recurse = .done s) :
    s ≠ .unsatisfiable := by
  cases F with
  | zero => cases h
  | succ F =>
    simp only [depgroupIsSatisfied, any] at h
    split at h
    · cases h
      decide
    · exact requireAnyOver_ne_unsatisfiable h

/-- The edges the builder makes: instance to group, group to service or instance, service to its
    own instances and to its own groups. -/
def edgeWellTyped (x c : Vertex) : Bool :=
  match x.type, c.type with
  | .inst, .depgroup | .depgroup, .svc | .depgroup, .inst => true
  | .svc, .inst => c.path.svc == x.path.svc
  | .svc, .depgroup => c.path.inst.isNone && (x.path.svc ++ "#depgroups/").isPrefixOf c.path.svc
  | _, _ => false

def WellTyped (g : Graph) : Prop :=
  ∀ v < g.size, ∀ c ∈ (g.vtx v).dependencies, edgeWellTyped (g.vtx v) (g.vtx c) = true

instance (g : Graph) : Decidable (WellTyped g) := inferInstanceAs (Decidable (∀ v < g.size, _))

/-- `a:i` requires any of `z:i`, which is Disabled. -/
def anyOfDisabled : Graph :=
  ⟨[⟨⟨"z", none⟩, .svc, .requireAll, .any, .uninitialised, true, true, false, false, [1], []⟩,
    ⟨⟨"z", some "i"⟩, .inst, .requireAll, .any, .disabled, true, true, false, false, [], [0, 3]⟩,
    ⟨⟨"a", some "i"⟩, .inst, .requireAll, .any, .offline, true, true, false, false, [3], []⟩,
    ⟨⟨"a", some "i#depgroups/0"⟩, .depgroup, .requireAny, .any, .uninitialised, true, true, false,
      false, [1], [2]⟩]⟩

/-- `b:i` excludes the service `s`, whose instance `s:i` is Online. -/
def excludeService : Graph :=
  ⟨[⟨⟨"s", none⟩, .svc, .requireAll, .any, .uninitialised, true, true, false, false, [1], [3]⟩,
    ⟨⟨"s", some "i"⟩, .inst, .requireAll, .any, .online, true, true, false, false, [], [0]⟩,
    ⟨⟨"b", some "i"⟩, .inst, .requireAll, .any, .offline, true, true, false, false, [3], []⟩,
    ⟨⟨"b", some "i#depgroups/0"⟩, .depgroup, .excludeAll, .any, .uninitialised, true, true, false,
      false, [0], [2]⟩]⟩

/-- No RequireAny group is UNSATISFIABLE, even when its only child is; and an ExcludeAll group on
    a service stops at the assert of `vtx_inst_satisfies_exclusion`. -/
theorem requireAny_group_never_unsatisfiable :
    (∀ g F v recurse s, (g.vtx v).dgType = .requireAny →
      depgroupIsSatisfied g F v recurse = .done s → s ≠ .unsatisfiable) ∧
    WellTyped anyOfDisabled ∧ Acyclic anyOfDisabled ∧ (anyOfDisabled.vtx 3).dependencies = [1] ∧
      vtxSatisfies anyOfDisabled 5 1 true = .done .unsatisfiable ∧
      depgroupIsSatisfied anyOfDisabled 5 3 true = .done .unsatisfied ∧
    WellTyped excludeService ∧ Acyclic excludeService ∧
      depgroupIsSatisfied excludeService 5 3 true = .aborted :=
  ⟨fun _ _ _ _ _ => depgroupIsSatisfied_requireAny, by decide,
    acyclic_of_rank _ (fun v => [1, 0, 2, 1].getD v 0) (by decide), rfl, by decide, by decide,
    by decide, acyclic_of_rank _ (fun v => [1, 0, 3, 2].getD v 0) (by decide), by decide⟩

/-! ### Bringing an instance online -/

/-- `r'` returns whenever `r` does, with a value at least as good. -/
def Raises (r r' : Run Satisfied) : Prop :=
  ∀ s, r = .done s → ∃ s', r' = .done s' ∧ s.rank ≤ s'.rank

theorem Raises.refl (r : Run Satisfied) : Raises r r := fun s h => ⟨s, h, Nat.le_refl _⟩

theorem Raises.bind {x x' : Run Satisfied} {f f' : Satisfied → Run Satisfied} (h : Raises x x')
    (hf : ∀ s s', s.rank ≤ s'.rank → Raises (f s) (f' s')) : Raises (x >>= f) (x' >>= f') :=
  fun _ hs => by
    obtain ⟨a, ha, rest⟩ := bind_eq_done.mp hs
    obtain ⟨a', ha', le⟩ := h a ha
    rw [ha', done_bind]
    exact hf a a' le _ rest

theorem Raises.bind_same {α : Type} (x : Run α) {f f' : α → Run Satisfied}
    (h : ∀ a, Raises (f a) (f' a)) : Raises (x >>= f) (x >>= f') :=
  fun _ hs => by
    obtain ⟨a, ha, rest⟩ := bind_eq_done.mp hs
    rw [ha, done_bind]
    exact h a _ rest

theorem raises_satisfied (r : Run Satisfied) : Raises r (.done .satisfied) :=
  fun s _ => ⟨_, rfl, s.rank_le_two⟩

theorem foldlM_accumulate_raises {e e' : Nat → Run Satisfied} :
    ∀ {l : List Nat}, (∀ c ∈ l, Raises (e c) (e' c)) → ∀ {sat sat' : Satisfied},
      sat.rank ≤ sat'.rank →
      Raises (l.foldlM (accumulateWith e) sat) (l.foldlM (accumulateWith e') sat')
  | [], _, _, _, le => fun _ h => ⟨_, rfl, (Run.done.inj h) ▸ le⟩
  | c :: l, h, sat, sat', le => fun s hs => by
    simp only [List.foldlM_cons, accumulateWith, bind_assoc, done_bind] at hs ⊢
    obtain ⟨esat, he, rest⟩ := bind_eq_done.mp hs
    obtain ⟨esat', he', higher⟩ := h c (List.mem_cons_self _ _) esat he
    rw [he', done_bind]
    refine foldlM_accumulate_raises (fun c hc => h c (List.mem_cons_of_mem _ hc)) ?_ s rest
    simp only [Satisfied.rank_accumulate]
    omega

theorem requireAnyOver_raises {e e' : Nat → Run Satisfied} :
    ∀ {l : List Nat}, (∀ c ∈ l, Raises (e c) (e' c)) →
      Raises (requireAnyOver e l true) (requireAnyOver e' l true)
  | [], _ => Raises.refl _
  | c :: l, h => fun s hs => by
    rw [requireAnyOver_true_cons] at hs ⊢
    obtain ⟨esat, he, rest⟩ := bind_eq_done.mp hs
    obtain ⟨esat', he', higher⟩ := h c (List.mem_cons_self _ _) esat he
    rw [he', done_bind]
    by_cases top : esat' = .satisfied
    · simp only [top, if_true]
      exact ⟨_, rfl, s.rank_le_two⟩
    · have low : esat ≠ .satisfied := fun e => top (Satisfied.satisfied_of_rank_le higher e)
      simp only [low, top, if_false] at rest ⊢
      exact requireAnyOver_raises (fun c hc => h c (List.mem_cons_of_mem _ hc)) s rest

/-- `r'` answers UNSATISFIABLE only where `r` does, when both return. -/
def KeepsSatisfiable (r r' : Run Satisfied) : Prop :=
  ∀ s s', r = .done s → r' = .done s' → s' = .unsatisfiable → s = .unsatisfiable

theorem KeepsSatisfiable.refl (r : Run Satisfied) : KeepsSatisfiable r r := fun _ _ hs hs' h => by
  rw [hs] at hs'
  exact Run.done.inj hs' ▸ h

theorem KeepsSatisfiable.of_ne {r r' : Run Satisfied}
    (h : ∀ s', r' = .done s' → s' ≠ .unsatisfiable) : KeepsSatisfiable r r' :=
  fun _ s' _ hs' unsat => (h s' hs' unsat).elim

theorem KeepsSatisfiable.bind {x x' : Run Satisfied} {f f' : Satisfied → Run Satisfied}
    (h : KeepsSatisfiable x x')
    (hf : ∀ a a', (a' = .unsatisfiable → a = .unsatisfiable) → KeepsSatisfiable (f a) (f' a')) :
    KeepsSatisfiable (x >>= f) (x' >>= f') := fun _ _ hs hs' => by
  obtain ⟨a, ha, rest⟩ := bind_eq_done.mp hs
  obtain ⟨a', ha', rest'⟩ := bind_eq_done.mp hs'
  exact hf a a' (h a a' ha ha') _ _ rest rest'

theorem KeepsSatisfiable.bind_same {α : Type} (x : Run α) {f f' : α → Run Satisfied}
    (h : ∀ a, KeepsSatisfiable (f a) (f' a)) : KeepsSatisfiable (x >>= f) (x >>= f') :=
  fun _ _ hs hs' => by
    obtain ⟨a, ha, rest⟩ := bind_eq_done.mp hs
    rw [ha, done_bind] at hs'
    exact h a _ _ rest hs'

theorem Satisfied.accumulate_eq_unsatisfiable {sat esat : Satisfied} :
    sat.accumulate esat = .unsatisfiable ↔ sat = .unsatisfiable ∨ esat = .unsatisfiable := by
  cases sat <;> cases esat <;> decide

theorem foldlM_accumulate_keeps {e e' : Nat → Run Satisfied} :
    ∀ {l : List Nat}, (∀ c ∈ l, KeepsSatisfiable (e c) (e' c)) → ∀ {sat sat' : Satisfied},
      (sat' = .unsatisfiable → sat = .unsatisfiable) →
      KeepsSatisfiable (l.foldlM (accumulateWith e) sat) (l.foldlM (accumulateWith e') sat')
  | [], _, _, _, keep => fun _ _ hs hs' => by
    cases hs
    cases hs'
    exact keep
  | c :: l, h, sat, sat', keep => fun s s' hs hs' => by
    simp only [List.foldlM_cons, accumulateWith, bind_assoc, done_bind] at hs hs'
    obtain ⟨esat, he, rest⟩ := bind_eq_done.mp hs
    obtain ⟨esat', he', rest'⟩ := bind_eq_done.mp hs'
    refine foldlM_accumulate_keeps (fun c hc => h c (List.mem_cons_of_mem _ hc)) ?_ s s' rest rest'
    simp only [Satisfied.accumulate_eq_unsatisfiable]
    exact Or.imp keep (h c (List.mem_cons_self _ _) esat esat' he he')

theorem vtxInstSatisfiesOptional_ne_unsatisfiable {g : Graph} {F v : Nat} {rec : Bool}
    {s : Satisfied} (h : vtxInstSatisfiesOptional g F v rec = .done s) : s ≠ .unsatisfiable := by
  obtain _ | F := F
  · cases h
  obtain ⟨_, -, h⟩ := bind_eq_done.mp h
  split at h
  · cases h
    decide
  split at h
  any_goals cases h; decide
  split at h
  · cases h
    decide
  obtain ⟨_, -, h⟩ := bind_eq_done.mp h
  split at h <;> cases h <;> decide

theorem depgroupIsSatisfied_optionalAll {g : Graph} {F v : Nat} {rec : Bool} {s : Satisfied}
    (opt : (g.vtx v).dgType = .optionalAll) (h : depgroupIsSatisfied g F v rec = .done s) :
    s ≠ .unsatisfiable := by
  obtain _ | F := F
  · cases h
  simp only [depgroupIsSatisfied, opt] at h
  have acc : ∀ sat c, sat ≠ .unsatisfiable → Post (· ≠ .unsatisfiable)
      (accumulateWith (fun d => vtxInstSatisfiesOptional g F d rec) sat c) :=
    fun sat c hsat => post_bind fun esat he => post_done fun unsat =>
      (Satisfied.accumulate_eq_unsatisfiable.mp unsat).elim hsat
        (vtxInstSatisfiesOptional_ne_unsatisfiable he)
  refine post_foldlM (· ≠ .unsatisfiable) (fun sat dv hsat => post_bind fun _ _ => ?_) _
    (by decide) s h
  have next : ∀ sat', sat' ≠ .unsatisfiable → Post (· ≠ .unsatisfiable)
      (if (g.vtx dv).type = .svc then (g.vtx dv).dependencies.foldlM
        (accumulateWith fun d => vtxInstSatisfiesOptional g F d rec) sat' else .done sat') :=
    fun sat' h => by
      split
      exacts [post_foldlM _ (fun s d hs => acc s d hs) _ h, post_done h]
  split
  · exact post_bind fun sat' h' => next sat' (acc sat dv hsat sat' h')
  · exact post_bind fun sat' h' => next sat' (Run.done.inj h' ▸ hsat)

section Online

variable {g : Graph} {x : Nat}

theorem vtx_online_write (v : Nat) :
    (g.modify x (stateChangeWrite .online)).vtx v =
      if x = v ∧ v < g.size then { g.vtx v with state := .online } else g.vtx v := by
  rw [Graph.vtx_modify]
  rfl

theorem online_keeps_edges (v : Nat) :
    ((g.modify x (stateChangeWrite .online)).vtx v).type = (g.vtx v).type ∧
      ((g.modify x (stateChangeWrite .online)).vtx v).dgType = (g.vtx v).dgType ∧
      ((g.modify x (stateChangeWrite .online)).vtx v).dependencies = (g.vtx v).dependencies := by
  rw [vtx_online_write]
  split <;> exact ⟨rfl, rfl, rfl⟩

theorem online_frame {u : Nat} (far : ¬ ReflTransGen (DependsOn g) u x) (F : Nat) (rec : Bool) :
    depgroupIsSatisfied (g.modify x (stateChangeWrite .online)) F u rec =
      depgroupIsSatisfied g F u rec :=
  (satisfies_frame (S := fun c => ¬ ReflTransGen (DependsOn g) c x)
    (sameShape_modify g x (stateChangeWrite_shape _))
    (fun c hc => Graph.vtx_modify_ne _ _ (by rintro rfl; exact hc .refl))
    (fun _ _ hc hd reach => hc (.head hd reach)) rec F).2.2.2 u
    fun _ hc reach => far (.head hc reach)

/-- Every OptionalAll group below `w` is out of reach of `x`: whatever `w`'s value reads of `x`
    it reads through RequireAll and RequireAny groups. -/
def ThroughRequireOnly (g : Graph) (x w : Nat) : Prop :=
  ∀ u, ReflTransGen (DependsOn g) w u → (g.vtx u).dgType = .optionalAll →
    ¬ ReflTransGen (DependsOn g) u x

theorem ThroughRequireOnly.dependency {w c : Nat} (h : ThroughRequireOnly g x w)
    (hc : DependsOn g w c) : ThroughRequireOnly g x c :=
  fun u hu => h u (.head hc hu)

theorem offline_rule_keeps {r r' : Run Satisfied} (h : KeepsSatisfiable r r') :
    KeepsSatisfiable (r >>= fun sat => .done (if sat = .unsatisfiable then .unsatisfiable
      else .unsatisfied)) (r' >>= fun sat => .done (if sat = .unsatisfiable then .unsatisfiable
      else .unsatisfied)) :=
  h.bind fun a a' keep _ _ hs hs' unsat => by
    cases hs
    cases hs'
    split at unsat
    · next e => simp [keep e]
    · cases unsat

theorem offline_rule_raises {r r' : Run Satisfied} (h : Raises r r') :
    Raises (r >>= fun sat => .done (if sat = .unsatisfiable then .unsatisfiable
      else .unsatisfied)) (r' >>= fun sat => .done (if sat = .unsatisfiable then .unsatisfiable
      else .unsatisfied)) :=
  h.bind fun s s' le _ hs => ⟨_, rfl, by
    cases hs
    revert le
    cases s <;> cases s' <;> decide⟩

variable (noExclude : ∀ v < g.size, (g.vtx v).dgType ≠ .excludeAll)
  (offline : (g.vtx x).state = .offline)
include noExclude

theorem dgType_cases (v : Nat) : (g.vtx v).dgType = .requireAll ∨
    (g.vtx v).dgType = .requireAny ∨ (g.vtx v).dgType = .optionalAll := by
  by_cases hv : v < g.size
  · cases h : (g.vtx v).dgType
    · exact .inl rfl
    · exact .inr (.inl rfl)
    · exact .inr (.inr rfl)
    · exact absurd h (noExclude v hv)
  · exact .inl (by rw [Graph.vtx_of_size_le (Nat.le_of_not_lt hv)]; rfl)

include offline

theorem satisfies_keep (rec : Bool) : ∀ F,
    (∀ v, KeepsSatisfiable (vtxInstSatisfies g F v rec)
      (vtxInstSatisfies (g.modify x (stateChangeWrite .online)) F v rec)) ∧
    (∀ v, KeepsSatisfiable (vtxSatisfies g F v rec)
      (vtxSatisfies (g.modify x (stateChangeWrite .online)) F v rec)) ∧
    (∀ v, KeepsSatisfiable (depgroupIsSatisfied g F v rec)
      (depgroupIsSatisfied (g.modify x (stateChangeWrite .online)) F v rec))
  | 0 => ⟨fun _ _ _ h => (nomatch h), fun _ _ _ h => (nomatch h), fun _ _ _ h => (nomatch h)⟩
  | F + 1 => by
    obtain ⟨inst, sat, dg⟩ := satisfies_keep rec F
    refine ⟨fun v => ?_, fun v => ?_, fun v => ?_⟩
    · simp only [vtxInstSatisfies, (online_keeps_edges v).1]
      refine KeepsSatisfiable.bind_same _ fun _ => ?_
      by_cases here : x = v ∧ v < g.size
      · obtain ⟨rfl, hx⟩ := here
        simp only [vtx_online_write, hx, and_self, if_true, offline]
        split
        · exact .refl _
        · exact .of_ne fun _ h => by cases h; decide
      · simp only [vtx_online_write, here, if_false]
        split
        · exact .refl _
        split <;> first | exact .refl _ | split
        · exact .refl _
        · exact offline_rule_keeps (dg v)
    · simp only [vtxSatisfies, (online_keeps_edges v).1]
      split
      · exact inst v
      · exact dg v
    · rcases dgType_cases noExclude v with all | any | opt
      · simp only [depgroupIsSatisfied, (online_keeps_edges v).2.1, (online_keeps_edges v).2.2,
          all]
        exact foldlM_accumulate_keeps (fun c _ => sat c) id
      · exact .of_ne fun _ h =>
          depgroupIsSatisfied_requireAny ((online_keeps_edges v).2.1.trans any) h
      · exact .of_ne fun _ h =>
          depgroupIsSatisfied_optionalAll ((online_keeps_edges v).2.1.trans opt) h

theorem satisfies_raise (rec : Bool) : ∀ F,
    (∀ v, ThroughRequireOnly g x v → Raises (vtxInstSatisfies g F v rec)
      (vtxInstSatisfies (g.modify x (stateChangeWrite .online)) F v rec)) ∧
    (∀ v, ThroughRequireOnly g x v → Raises (vtxSatisfies g F v rec)
      (vtxSatisfies (g.modify x (stateChangeWrite .online)) F v rec)) ∧
    (∀ v, ThroughRequireOnly g x v → Raises (depgroupIsSatisfied g F v rec)
      (depgroupIsSatisfied (g.modify x (stateChangeWrite .online)) F v rec))
  | 0 => ⟨fun _ _ _ h => (nomatch h), fun _ _ _ h => (nomatch h), fun _ _ _ h => (nomatch h)⟩
  | F + 1 => by
    obtain ⟨inst, sat, dg⟩ := satisfies_raise rec F
    refine ⟨fun v hv => ?_, fun v hv => ?_, fun v hv => ?_⟩
    · simp only [vtxInstSatisfies, (online_keeps_edges v).1]
      refine Raises.bind_same _ fun _ => ?_
      by_cases here : x = v ∧ v < g.size
      · obtain ⟨rfl, hx⟩ := here
        simp only [vtx_online_write, hx, and_self, if_true, offline]
        split
        · exact Raises.refl _
        · exact raises_satisfied _
      · simp only [vtx_online_write, here, if_false]
        split
        · exact Raises.refl _
        split <;> first | exact Raises.refl _ | split
        · exact Raises.refl _
        · exact offline_rule_raises (dg v hv)
    · simp only [vtxSatisfies, (online_keeps_edges v).1]
      split
      · exact inst v hv
      · exact dg v hv
    · rcases dgType_cases noExclude v with all | any | opt
      · simp only [depgroupIsSatisfied, (online_keeps_edges v).2.1, (online_keeps_edges v).2.2,
          all]
        exact foldlM_accumulate_raises (fun c hc => sat c (hv.dependency hc)) (Nat.le_refl _)
      · simp only [depgroupIsSatisfied, (online_keeps_edges v).2.1, (online_keeps_edges v).2.2,
          any]
        split
        · exact Raises.refl _
        · exact requireAnyOver_raises fun c hc => sat c (hv.dependency hc)
      · rw [online_frame (hv v .refl opt)]
        exact Raises.refl _

/-- Without ExcludeAll groups, bringing an Offline vertex online makes no value UNSATISFIABLE,
    and lowers no value that reads the vertex through RequireAll and RequireAny groups only. -/
theorem online_raises_requireAll_requireAny (F w : Nat) :
    (KeepsSatisfiable (vtxSatisfies g F w true)
        (vtxSatisfies (g.modify x (stateChangeWrite .online)) F w true) ∧
      KeepsSatisfiable (depgroupIsSatisfied g F w true)
        (depgroupIsSatisfied (g.modify x (stateChangeWrite .online)) F w true)) ∧
    (ThroughRequireOnly g x w →
      Raises (vtxSatisfies g F w true)
          (vtxSatisfies (g.modify x (stateChangeWrite .online)) F w true) ∧
        Raises (depgroupIsSatisfied g F w true)
          (depgroupIsSatisfied (g.modify x (stateChangeWrite .online)) F w true)) :=
  have keep := satisfies_keep noExclude offline true F
  have raise := satisfies_raise noExclude offline true F
  ⟨⟨keep.2.1 w, keep.2.2 w⟩, fun hw => ⟨raise.2.1 w hw, raise.2.2 w hw⟩⟩

end Online

theorem reflTransGen_mem_of_closed {g : Graph} {l : List Nat}
    (closed : ∀ u ∈ l, ∀ c ∈ (g.vtx u).dependencies, c ∈ l) {w u : Nat} (hw : w ∈ l)
    (h : ReflTransGen (DependsOn g) w u) : u ∈ l := by
  induction h with
  | refl => exact hw
  | tail _ hd ih => exact closed _ ih _ hd

/-- `w:i` optionally requires `y:i`, which requires `x:i`, which requires the Disabled `z:i`. -/
def optionalChain : Graph :=
  ⟨[⟨⟨"z", some "i"⟩, .inst, .requireAll, .any, .disabled, true, true, false, false, [], [1]⟩,
    ⟨⟨"x", some "i#depgroups/0"⟩, .depgroup, .requireAll, .any, .uninitialised, true, true, false,
      false, [0], [2]⟩,
    ⟨⟨"x", some "i"⟩, .inst, .requireAll, .any, .offline, true, true, false, false, [1], [3]⟩,
    ⟨⟨"y", some "i#depgroups/0"⟩, .depgroup, .requireAll, .any, .uninitialised, true, true, false,
      false, [2], [4]⟩,
    ⟨⟨"y", some "i"⟩, .inst, .requireAll, .any, .offline, true, true, false, false, [3], [5]⟩,
    ⟨⟨"w", some "i#depgroups/0"⟩, .depgroup, .optionalAll, .any, .uninitialised, true, true, false,
      false, [4], [6]⟩,
    ⟨⟨"w", some "i"⟩, .inst, .requireAll, .any, .offline, true, true, false, false, [5], []⟩]⟩

theorem online_raises_through_required_group :
    (∀ v < optionalChain.size, (optionalChain.vtx v).dgType ≠ .excludeAll) ∧
      (optionalChain.vtx 2).state = .offline ∧ ThroughRequireOnly optionalChain 2 3 ∧
      depgroupIsSatisfied optionalChain 20 3 true = .done .unsatisfiable ∧
      depgroupIsSatisfied (optionalChain.modify 2 (stateChangeWrite .online)) 20 3 true =
        .done .satisfied ∧
      Raises (depgroupIsSatisfied optionalChain 20 3 true)
        (depgroupIsSatisfied (optionalChain.modify 2 (stateChangeWrite .online)) 20 3 true) :=
  have through : ThroughRequireOnly optionalChain 2 3 := fun u hu opt =>
    absurd opt ((by decide : ∀ u ∈ [0, 1, 2, 3], (optionalChain.vtx u).dgType ≠ .optionalAll) u
      (reflTransGen_mem_of_closed (by decide) (by decide) hu))
  ⟨by decide, rfl, through, by decide, by decide,
    ((online_raises_requireAll_requireAny (g := optionalChain) (x := 2) (by decide) rfl 20 3).2
      through).2⟩

/-- With `x:i` Offline, `y:i` can never come up, and the OptionalAll group of `w:i` counts it as
    SATISFIED; with `x:i` Online, `y:i` merely has not come up yet, and the group is UNSATISFIED. -/
theorem optional_group_drops_when_instance_comes_online :
    WellTyped optionalChain ∧ Acyclic optionalChain ∧
      (∀ v < optionalChain.size, (optionalChain.vtx v).dgType ≠ .excludeAll) ∧
      (optionalChain.vtx 2).type = .inst ∧ (optionalChain.vtx 2).state = .offline ∧
      depgroupIsSatisfied optionalChain 20 5 true = .done .satisfied ∧
      depgroupIsSatisfied (optionalChain.modify 2 (stateChangeWrite .online)) 20 5 true =
        .done .unsatisfied :=
  ⟨by decide, acyclic_of_rank _ id (by decide), by decide, rfl, rfl, by decide, by decide⟩

end Graphd

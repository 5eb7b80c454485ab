import ServiceManager.Graphd.Setup

/-!
A larger budget never changes an outcome; it can only turn `exhausted` into one. Every
fuel-indexed function of the engine is monotone in this sense (`Run.Below`), so an outcome
reached under some budget is the outcome under every larger one.
-/

namespace Graphd

namespace Run

/-- `y` is `x`, or `x` ran out of budget. -/
def Below {α : Type} (x y : Run α) : Prop := x = exhausted ∨ x = y

variable {α β σ : Type}

theorem Below.refl (x : Run α) : Below x x := .inr rfl

theorem Below.trans {x y z : Run α} (hxy : Below x y) (hyz : Below y z) : Below x z := by
  rcases hxy with rfl | rfl
  · exact .inl rfl
  · exact hyz

theorem Below.bind {x y : Run α} {f g : α → Run β} (h : Below x y)
    (hf : ∀ a, Below (f a) (g a)) : Below (x >>= f) (y >>= g) := by
  rcases h with rfl | rfl
  · exact .inl rfl
  · cases x with
    | done a => exact hf a
    | aborted => exact .refl _
    | exhausted => exact .inl rfl

theorem Below.ite {c : Prop} [Decidable c] {a a' b b' : Run α} (ha : Below a a')
    (hb : Below b b') : Below (if c then a else b) (if c then a' else b') := by
  split
  · exact ha
  · exact hb

theorem foldlM_below {f g : σ → α → Run σ} (h : ∀ s a, Below (f s a) (g s a)) :
    ∀ (l : List α) (s : σ), Below (l.foldlM f s) (l.foldlM g s)
  | [], _ => .refl _
  | a :: l, s => by
    simpa only [List.foldlM_cons] using (h s a).bind fun s' => foldlM_below h l s'

theorem Below.eq {x y : Run α} (h : Below x y) (finished : x.Finished) : x = y :=
  h.resolve_left fun e => by subst e; exact finished

theorem below_of_le {r : Nat → Run α} (succ : ∀ n, Below (r n) (r (n + 1))) {n m : Nat}
    (le : n ≤ m) : Below (r n) (r m) := by
  induction le with
  | refl => exact .refl _
  | step _ ih => exact ih.trans (succ _)

end Run

open Run

theorem accumulateWith_below {e e' : Nat → Run Satisfied} (h : ∀ c, Below (e c) (e' c))
    (sat : Satisfied) (c : Nat) : Below (accumulateWith e sat c) (accumulateWith e' sat c) :=
  (h c).bind fun _ => .refl _

theorem requireAnyOver_below {e e' : Nat → Run Satisfied} (h : ∀ c, Below (e c) (e' c)) :
    ∀ (l : List Nat) (sat : Bool), Below (requireAnyOver e l sat) (requireAnyOver e' l sat)
  | [], _ => .refl _
  | c :: l, sat => (h c).bind fun _ => by
    split
    · exact .refl _
    · exact requireAnyOver_below h l _

theorem satisfies_below (g : Graph) : ∀ n,
    (∀ v r, Below (vtxInstSatisfies g n v r) (vtxInstSatisfies g (n + 1) v r)) ∧
    (∀ v r, Below (vtxInstSatisfiesOptional g n v r) (vtxInstSatisfiesOptional g (n + 1) v r)) ∧
    (∀ v r, Below (vtxSatisfies g n v r) (vtxSatisfies g (n + 1) v r)) ∧
    (∀ v r, Below (depgroupIsSatisfied g n v r) (depgroupIsSatisfied g (n + 1) v r))
  | 0 => ⟨fun _ _ => .inl rfl, fun _ _ => .inl rfl, fun _ _ => .inl rfl, fun _ _ => .inl rfl⟩
  | n + 1 => by
    obtain ⟨inst, opt, sat, dg⟩ := satisfies_below g n
    refine ⟨fun v r => ?_, fun v r => ?_, fun v r => ?_, fun v r => ?_⟩
    · simp only [vtxInstSatisfies]
      refine (Below.refl _).bind fun _ => ?_
      split
      · exact .refl _
      · split <;> first | exact .refl _ | skip
        split
        · exact .refl _
        · exact (dg v r).bind fun _ => .refl _
    · simp only [vtxInstSatisfiesOptional]
      refine (Below.refl _).bind fun _ => ?_
      split
      · exact .refl _
      · split <;> first | exact .refl _ | skip
        split
        · exact .refl _
        · exact (dg v r).bind fun _ => .refl _
    · simp only [vtxSatisfies]
      split
      · exact inst v r
      · exact dg v r
    · simp only [depgroupIsSatisfied]
      split
      · exact foldlM_below (accumulateWith_below fun c => sat c r) _ _
      · split
        · exact .refl _
        · exact requireAnyOver_below (fun c => sat c r) _ _
      · refine foldlM_below (fun s dv => (Below.refl _).bind fun _ => ?_) _ _
        split <;> refine Below.bind ?_ fun y => ?_ <;>
          first
          | exact .refl _
          | exact accumulateWith_below (fun c => opt c r) _ _
          | split
            · exact foldlM_below (accumulateWith_below fun c => opt c r) _ _
            · exact .refl _
      · exact .refl _

theorem vtxInstCanComeUp_below (g : Graph) (n v : Nat) :
    Below (vtxInstCanComeUp g n v) (vtxInstCanComeUp g (n + 1) v) := by
  unfold vtxInstCanComeUp
  split
  · exact ((satisfies_below g n).2.2.2 v true).bind fun _ => .refl _
  · exact .refl _

theorem dependentsDo_below {σ : Type} (x : Vertex) {f f' : Nat → σ → Run σ}
    (h : ∀ d s, Below (f d s) (f' d s)) (s : σ) :
    Below (vtxDependentsDo x f s) (vtxDependentsDo x f' s) :=
  foldlM_below (fun s d => h d s) _ _

theorem dependenciesDo_below {σ : Type} (x : Vertex) {f f' : Nat → σ → Run σ}
    (h : ∀ c s, Below (f c s) (f' c s)) (s : σ) :
    Below (vtxDependenciesDo x f s) (vtxDependenciesDo x f' s) :=
  foldlM_below (fun s c => h c s) _ _

theorem vtxNotifyStart_below (g : Graph) : ∀ n v r notes,
    Below (vtxNotifyStart g n v r notes) (vtxNotifyStart g (n + 1) v r notes)
  | 0, _, _, _ => .inl rfl
  | n + 1, v, r, notes => by
    simp only [vtxNotifyStart]
    split
    · exact (vtxInstCanComeUp_below g n v).bind fun _ => .refl _
    all_goals exact dependentsDo_below _ (fun d s => vtxNotifyStart_below g n d _ s) _

theorem vtxNotifyStop_below (g : Graph) : ∀ n v r notes,
    Below (vtxNotifyStop g n v r notes) (vtxNotifyStop g (n + 1) v r notes)
  | 0, _, _, _ => .inl rfl
  | n + 1, v, r, notes => by
    simp only [vtxNotifyStop]
    split
    · exact .refl _
    · split
      · exact .refl _
      · exact dependentsDo_below _ (fun d s => vtxNotifyStop_below g n d r s) _
    · exact dependentsDo_below _ (fun d s => vtxNotifyStop_below g n d r s) _

theorem vtxNotifyMisc_below (g : Graph) : ∀ n v r notes,
    Below (vtxNotifyMisc g n v r notes) (vtxNotifyMisc g (n + 1) v r notes)
  | 0, _, _, _ => .inl rfl
  | n + 1, v, r, notes => by
    simp only [vtxNotifyMisc]
    have rest := dependentsDo_below (g.vtx v) (fun d s => vtxNotifyMisc_below g n d r s)
    split
    · exact (vtxInstCanComeUp_below g n v).bind fun _ => (Below.refl _).bind fun _ => rest _
    · exact (Below.refl _).bind fun _ => rest _

theorem vtxNotifyAdminDisable_below : ∀ n v r g,
    Below (vtxNotifyAdminDisable n v r g) (vtxNotifyAdminDisable (n + 1) v r g)
  | 0, _, _, _ => .inl rfl
  | n + 1, v, r, g => by
    simp only [vtxNotifyAdminDisable]
    split
    · exact dependentsDo_below _ (fun d s => vtxNotifyAdminDisable_below n d r s) _
    · split
      · exact .refl _
      · exact dependentsDo_below _ (fun d s => vtxNotifyAdminDisable_below n d r s) _
    · exact dependentsDo_below _ (fun d s => vtxNotifyAdminDisable_below n d r s) _

theorem allUntilFalse_below {check check' : Nat → Run Bool} (h : ∀ d, Below (check d) (check' d)) :
    ∀ l : List Nat, Below (allUntilFalse check l) (allUntilFalse check' l)
  | [] => .refl _
  | d :: l => (h d).bind fun ok => by
    split
    · exact allUntilFalse_below h l
    · exact .refl _

theorem vtxCanGoDown_below (g : Graph) : ∀ n v root,
    Below (vtxCanGoDown g n v root) (vtxCanGoDown g (n + 1) v root)
  | 0, _, _ => .inl rfl
  | n + 1, v, root => by
    simp only [vtxCanGoDown]
    refine Below.bind (allUntilFalse_below (fun d => ?_) _) fun _ => .refl _
    split
    · exact .refl _
    · exact vtxCanGoDown_below g n d false

theorem vtxOfflineIfPossible_below (g : Graph) (n v : Nat) (r : Int) (notes : List S16Note) :
    Below (vtxOfflineIfPossible g n v r notes) (vtxOfflineIfPossible g (n + 1) v r notes) := by
  unfold vtxOfflineIfPossible
  split
  · exact .refl _
  · split
    · exact (vtxCanGoDown_below g n v true).bind fun _ => .refl _
    · exact .refl _

theorem vtxOfflineDependency_below (g : Graph) : ∀ n v r notes,
    Below (vtxOfflineDependency g n v r notes) (vtxOfflineDependency g (n + 1) v r notes)
  | 0, _, _, _ => .inl rfl
  | n + 1, v, r, notes => by
    simp only [vtxOfflineDependency]
    split
    · exact .refl _
    · split
      · exact (vtxCanGoDown_below g n v true).bind fun _ => .refl _
      · exact dependenciesDo_below _ (fun c s => vtxOfflineDependency_below g n c r s) _

theorem vtxProcessAdminReq_below (g : Graph) (n v : Nat) (type : S16NoteAdminType) (r : Int) :
    Below (vtxProcessAdminReq g n v type r) (vtxProcessAdminReq g (n + 1) v type r) := by
  unfold vtxProcessAdminReq
  split
  · refine (dependentsDo_below _ (fun d s => vtxNotifyAdminDisable_below n d r s) _).bind
      fun g' => (vtxCanGoDown_below g' n v true).bind fun _ =>
        (foldlM_below (fun notes i => vtxOfflineIfPossible_below g' n i _ notes) _ _).bind
          fun _ => .refl _
  all_goals exact .refl _

theorem vtxProcessStateChange_below (g : Graph) (n v : Nat) (type : S16NoteScType) (r : Int) :
    Below (vtxProcessStateChange g n v type r) (vtxProcessStateChange g (n + 1) v type r) := by
  unfold vtxProcessStateChange
  split
  · exact (dependentsDo_below _ (fun d s => vtxNotifyStart_below _ n d r s) _).bind
      fun _ => .refl _
  · dsimp only
    split
    · exact (dependenciesDo_below _ (fun c s => vtxOfflineDependency_below _ n c r s) _).bind
        fun _ => (Below.refl _).bind fun _ =>
          (dependentsDo_below _ (fun d s => vtxNotifyStop_below _ n d r s) _).bind fun _ => .refl _
    · exact (vtxInstCanComeUp_below _ n v).bind fun _ => (Below.refl _).bind fun _ =>
          (dependentsDo_below _ (fun d s => vtxNotifyStop_below _ n d r s) _).bind fun _ => .refl _
  · exact (dependentsDo_below _ (fun d s => vtxNotifyMisc_below _ n d r s) _).bind
      fun _ => .refl _
  all_goals exact .refl _

theorem graphProcessNote_below (g : Graph) (n : Nat) (note : S16Note) :
    Below (graphProcessNote g n note) (graphProcessNote g (n + 1) note) := by
  cases note <;> simp only [graphProcessNote]
  · split
    · exact vtxProcessAdminReq_below g n _ _ _
    · exact .refl _
  · split
    · exact vtxProcessStateChange_below g n _ _ _
    · exact .refl _
  · exact .refl _

theorem processNotes_below : ∀ n g q, Below (processNotes n g q) (processNotes (n + 1) g q)
  | 0, _, _ => .inl rfl
  | _ + 1, _, [] => .refl _
  | n + 1, g, note :: q =>
    (graphProcessNote_below g n note).bind fun r => processNotes_below n r.1 (q ++ r.2)

end Graphd

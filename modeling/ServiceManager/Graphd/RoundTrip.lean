import ServiceManager.Graphd.Marks

/-!
A_DISABLE followed by A_ENABLE puts an instance back online. Neither drain touches a vertex the
instance depends on: a note queues notes only about its own vertex, about vertices above it and
about marked instances, a quiescent state has no marked instance, and A_DISABLE marks only
vertices above the instance. So its groups evaluate as they did before, the SC_OFFLINE that
A_ENABLE queues finds it able to come up and queues its SC_ONLINE, and that is the last note
about it.
-/

namespace Graphd

open Run Relation

variable {g g' g₀ : Graph} {v : Nat}

def S16Note.path : S16Note → S16Path
  | .adminReq _ path _ | .stateChange _ path _ | .rreq path _ => path

theorem Run.post_foldlM_mem {α σ : Type} (I : σ → Prop) {f : σ → α → Run σ} :
    ∀ {l : List α}, (∀ s, ∀ a ∈ l, I s → Post I (f s a)) → ∀ {s}, I s → Post I (l.foldlM f s)
  | [], _, _, hs => post_done hs
  | a :: l, step, s, hs => by
    rw [List.foldlM_cons]
    exact post_bind fun s' hs' => Run.post_foldlM_mem I
      (fun t b hb => step t b (List.mem_cons_of_mem _ hb)) (step s a (List.mem_cons_self _ _) hs s' hs')

theorem Queued.cases {x y : Nat} {type k : S16NoteScType} (h : Queued g x type y k) :
    y = x ∨ TransGen (DependsOn g) y x ∨ Marked g y := by
  cases type with
  | online | disabled => exact .inr (.inl h.2)
  | offline =>
    rcases h with ⟨-, above⟩ | ⟨-, ⟨-, marked⟩ | ⟨-, rfl⟩⟩ | ⟨-, -, rfl⟩
    · exact .inr (.inl above)
    · exact .inr (.inr marked)
    · exact .inl rfl
    · exact .inl rfl
  | degraded | maintenance => exact h.elim

theorem lt_size_of_transGen (hl : WellLinked g) {v u : Nat} (h : TransGen (DependsOn g) v u) :
    u < g.size := by
  obtain ⟨c, -, hc⟩ := TransGen.tail'_iff.mp h
  exact hl.inRange c u hc

/-! ### A_DISABLE marks only above the vertex it names -/

def OnlyAbove (g : Graph) (d : Nat) (g' : Graph) : Prop :=
  ∀ u, ¬ ReflTransGen (DependsOn g) u d → g'.vtx u = g.vtx u

theorem adminDisable_climb (hl : WellLinked g) {d F : Nat} {r : Int}
    (step : ∀ e s, WellLinked s → Post (OnlyAbove s e) (vtxNotifyAdminDisable F e r s))
    (g₁ : Graph) (hs₁ : SameShape g g₁) (outside₁ : OnlyAbove g d g₁) :
    Post (OnlyAbove g d) (vtxDependentsDo (g₁.vtx d) (fun e => vtxNotifyAdminDisable F e r) g₁) := by
  refine (Run.post_foldlM_mem (fun s => SameShape g s ∧ OnlyAbove g d s)
    (fun s e he ⟨hs, outside⟩ s' h' => ⟨hs.trans (vtxNotifyAdminDisable_sameShape F e r s s' h'),
      fun u hu => ?_⟩) ⟨hs₁, outside₁⟩).mono fun _ h => h.2
  have above : DependsOn g e d := hl.dependsOn_of_mem_dependents (by rwa [← hs₁.dependents])
  rw [step e s (hs.wellLinked hl) s' h' u fun hue => hu (.tail (hs.dependsOn ▸ hue) above),
    outside u hu]

theorem vtxNotifyAdminDisable_frame : ∀ F d r g, WellLinked g →
    Post (OnlyAbove g d) (vtxNotifyAdminDisable F d r g)
  | 0, _, _, _, _ => fun _ h => nomatch h
  | F + 1, d, r, g, hl => by
    have climb := adminDisable_climb hl (d := d) fun e s => vtxNotifyAdminDisable_frame F e r s
    simp only [vtxNotifyAdminDisable]
    split
    · exact climb _ (sameShape_modify g d fun _ => rfl) fun u hu =>
        Graph.vtx_modify_ne _ _ fun e => hu (e ▸ .refl)
    · split
      · exact post_done fun _ _ => rfl
      · exact climb g (.refl g) fun _ _ => rfl
    · exact climb g (.refl g) fun _ _ => rfl

theorem vtxProcessAdminReq_frame (hl : WellLinked g) {F : Nat} {type : S16NoteAdminType}
    {r : Int} {p : Graph × List S16Note} (h : vtxProcessAdminReq g F v type r = .done p) :
    OnlyAbove g v p.1 := by
  have own : ∀ f, OnlyAbove g v (g.modify v f) := fun _ u hu =>
    Graph.vtx_modify_ne _ _ fun e => hu (e ▸ .refl)
  unfold vtxProcessAdminReq at h
  split at h
  · obtain ⟨g₂, h₂, rest⟩ := bind_eq_done.mp h
    obtain ⟨_, -, rest⟩ := bind_eq_done.mp rest
    obtain ⟨_, -, rest⟩ := bind_eq_done.mp rest
    cases rest
    exact adminDisable_climb hl (fun e s => vtxNotifyAdminDisable_frame F e r s)
      _ (sameShape_modify g v fun _ => by rfl) (own _) g₂ h₂
  · cases h
    exact own _
  · cases h
    exact fun _ _ => rfl

/-! ### Nothing below the instance changes -/

/-- `g` is shaped like `g₀` and agrees with it on every vertex `v` depends on. -/
structure KeepsBelow (g₀ g : Graph) (v : Nat) : Prop where
  shape : SameShape g₀ g
  below : ∀ u, TransGen (DependsOn g₀) v u → g.vtx u = g₀.vtx u

def AvoidsBelow (g₀ : Graph) (v : Nat) (q : List S16Note) : Prop :=
  ∀ n ∈ q, ∀ u, TransGen (DependsOn g₀) v u → n.path ≠ (g₀.vtx u).path

section Frame

variable (wb₀ : WellBuilt g₀) (hu₀ : Unmarked g₀)
include wb₀

theorem KeepsBelow.wellBuilt (keeps : KeepsBelow g₀ g v) : WellBuilt g :=
  wb₀.of_sameShape keeps.shape

theorem KeepsBelow.avoids_of_emits (keeps : KeepsBelow g₀ g v)
    {P : S16NoteScType → Nat → Prop} {notes : List S16Note}
    (emits : ∀ n ∈ notes, ∃ k, Emits g k (P k) n)
    (outside : ∀ k y, P k y → ¬ TransGen (DependsOn g₀) v y) :
    AvoidsBelow g₀ v notes := by
  intro n hn u hu same
  obtain ⟨k, y, hy, hP, r, rfl⟩ := emits n hn
  have hy₀ : y < g₀.size := keeps.shape.size ▸ hy
  exact outside k y hP (wb₀.unique y u hy₀ (lt_size_of_transGen wb₀.linked hu)
    ((keeps.shape.path y).symm.trans same) ▸ hu)

omit wb₀ in
theorem KeepsBelow.not_marked (hu₀ : Unmarked g₀) (keeps : KeepsBelow g₀ g v) {y : Nat}
    (hy : TransGen (DependsOn g₀) v y) : ¬ Marked g y := by
  unfold Marked
  rw [keeps.below y hy]
  exact hu₀ y

include hu₀

theorem KeepsBelow.stateChange {F : Nat} {type : S16NoteScType} {path : S16Path} {r : Int}
    {q new : List S16Note} (keeps : KeepsBelow g₀ g v)
    (avoids : AvoidsBelow g₀ v (.stateChange type path r :: q))
    (h : graphProcessNote g F (.stateChange type path r) = .done (g', new)) :
    KeepsBelow g₀ g' v ∧ AvoidsBelow g₀ v (q ++ new) := by
  simp only [graphProcessNote] at h
  split at h
  · rename_i x found
    have hx := vtxFindByPath_lt_size found
    have outside : ¬ TransGen (DependsOn g₀) v x := fun hvx =>
      avoids _ (List.mem_cons_self _ _) x hvx
        (by rw [← keeps.shape.path x, vtxFindByPath_path found]; rfl)
    have written := vtxProcessStateChange_graph g F x type r _ h
    have queued := vtxProcessStateChange_queues (keeps.wellBuilt wb₀).linked hx F type r _ h
    simp only at written queued
    subst written
    refine ⟨⟨keeps.shape.trans (sameShape_modify g x (stateChangeWrite_shape type)), fun u hu => ?_⟩,
      fun n hn => ?_⟩
    · rw [Graph.vtx_modify_ne _ _ fun e : x = u => outside (e ▸ hu), keeps.below u hu]
    rcases List.mem_append.mp hn with hn | hn
    · exact avoids n (List.mem_cons_of_mem _ hn)
    refine keeps.avoids_of_emits wb₀ queued (fun k y hy hvy => ?_) n hn
    rcases hy.cases with rfl | above | marked
    · exact outside hvy
    · exact outside (hvy.trans (keeps.shape.dependsOn ▸ above))
    · exact keeps.not_marked hu₀ hvy marked
  · cases h

theorem KeepsBelow.adminReq (hc : Acyclic g₀) {F : Nat} {type : S16NoteAdminType} {r : Int}
    {new : List S16Note} (keeps : KeepsBelow g₀ g v) (hv : v < g.size)
    (h : vtxProcessAdminReq g F v type r = .done (g', new)) :
    KeepsBelow g₀ g' v ∧ AvoidsBelow g₀ v new := by
  have frame := vtxProcessAdminReq_frame (keeps.wellBuilt wb₀).linked h
  have keeps' : KeepsBelow g₀ g' v :=
    ⟨keeps.shape.trans (vtxProcessAdminReq_sameShape g F v type r _ h), fun u hu => by
      rw [frame u fun huv => hc v (hu.trans_left (keeps.shape.dependsOn ▸ huv)), keeps.below u hu]⟩
  refine ⟨keeps', keeps.avoids_of_emits wb₀ (vtxProcessAdminReq_queues hv F type r _ h)
    fun _ y hy hvy => ?_⟩
  rcases hy with rfl | marked
  · exact hc _ hvy
  · exact keeps'.not_marked hu₀ hvy marked

theorem KeepsBelow.processNotes : ∀ {F : Nat} {g g' : Graph} {q : List S16Note},
    processNotes F g q = .done g' → KeepsBelow g₀ g v → AvoidsBelow g₀ v q →
      (∀ n ∈ q, n.isRequest = false) → KeepsBelow g₀ g' v
  | 0, _, _, _, h, _, _, _ => nomatch h
  | _ + 1, _, _, [], h, keeps, _, _ => by
    cases h
    exact keeps
  | F + 1, g, _, n :: q, h, keeps, avoids, sc => by
    obtain ⟨⟨g₁, new⟩, h₁, rest⟩ := bind_eq_done.mp h
    obtain ⟨type, path, r, rfl⟩ := S16Note.stateChange_of_not_isRequest (sc _ (List.mem_cons_self _ _))
    obtain ⟨keeps₁, avoids₁⟩ := keeps.stateChange wb₀ hu₀ avoids h₁
    exact KeepsBelow.processNotes rest keeps₁ avoids₁
      (graphProcessNote_not_isRequest (keeps.wellBuilt wb₀).linked
        (fun n hn => sc n (List.mem_cons_of_mem _ hn)) h₁)

end Frame

/-! ### The evaluator reads only what lies below -/

theorem foldlM_congr_mem {α σ : Type} {f f' : σ → α → Run σ} :
    ∀ {l : List α}, (∀ s, ∀ a ∈ l, f s a = f' s a) → ∀ s, l.foldlM f s = l.foldlM f' s
  | [], _, _ => rfl
  | a :: l, h, s => by
    simp only [List.foldlM_cons, h s a (List.mem_cons_self _ _),
      foldlM_congr_mem fun t b hb => h t b (List.mem_cons_of_mem _ hb)]

theorem requireAnyOver_congr {e e' : Nat → Run Satisfied} :
    ∀ {l : List Nat}, (∀ c ∈ l, e c = e' c) → ∀ sat, requireAnyOver e l sat = requireAnyOver e' l sat
  | [], _, _ => rfl
  | c :: l, h, sat => by
    simp only [requireAnyOver, h c (List.mem_cons_self _ _),
      requireAnyOver_congr fun c hc => h c (List.mem_cons_of_mem _ hc)]

/-- On a set of vertices closed under dependencies, two graphs of one shape that agree there
    evaluate alike, and so do the groups whose dependencies lie in it. -/
theorem satisfies_frame {S : Nat → Prop} (hs : SameShape g₀ g) (agree : ∀ u, S u → g.vtx u = g₀.vtx u)
    (closed : ∀ u c, S u → DependsOn g₀ u c → S c) (rec : Bool) : ∀ F,
    (∀ u, S u → vtxInstSatisfies g F u rec = vtxInstSatisfies g₀ F u rec) ∧
    (∀ u, S u → vtxInstSatisfiesOptional g F u rec = vtxInstSatisfiesOptional g₀ F u rec) ∧
    (∀ u, S u → vtxSatisfies g F u rec = vtxSatisfies g₀ F u rec) ∧
    (∀ w, (∀ c, DependsOn g₀ w c → S c) →
      depgroupIsSatisfied g F w rec = depgroupIsSatisfied g₀ F w rec)
  | 0 => ⟨fun _ _ => rfl, fun _ _ => rfl, fun _ _ => rfl, fun _ _ => rfl⟩
  | F + 1 => by
    obtain ⟨inst, opt, sat, dg⟩ := satisfies_frame hs agree closed rec F
    refine ⟨fun u hu => ?_, fun u hu => ?_, fun u hu => ?_, fun w hw => ?_⟩
    · simp only [vtxInstSatisfies, agree u hu, dg u (closed u · hu)]
    · simp only [vtxInstSatisfiesOptional, agree u hu, dg u (closed u · hu)]
    · simp only [vtxSatisfies, agree u hu, inst u hu, dg u (closed u · hu)]
    simp only [depgroupIsSatisfied, hs.dgType w, hs.dependencies w]
    split
    · exact foldlM_congr_mem (fun s c hc => by simp only [accumulateWith, sat c (hw c hc)]) _
    · split
      · rfl
      · exact requireAnyOver_congr (fun c hc => sat c (hw c hc)) _
    · refine foldlM_congr_mem (fun s dv hdv => ?_) _
      have hdv : S dv := hw dv hdv
      have inner : ∀ s, (g₀.vtx dv).dependencies.foldlM
          (accumulateWith fun ddv => vtxInstSatisfiesOptional g F ddv rec) s =
          (g₀.vtx dv).dependencies.foldlM
            (accumulateWith fun ddv => vtxInstSatisfiesOptional g₀ F ddv rec) s :=
        foldlM_congr_mem fun s ddv hddv => by
          simp only [accumulateWith, opt ddv (closed dv ddv hdv hddv)]
      simp only [agree dv hdv, inner, accumulateWith, opt dv hdv]
    · refine foldlM_congr_mem (fun s dv hdv => ?_) _
      simp only [accumulateWith, vtxInstSatisfiesExclusion, agree dv (hw dv hdv)]

theorem KeepsBelow.satisfied_eq (keeps : KeepsBelow g₀ g v) (F : Nat) (rec : Bool) :
    depgroupIsSatisfied g F v rec = depgroupIsSatisfied g₀ F v rec :=
  (satisfies_frame keeps.shape keeps.below (fun _ _ hvu huc => hvu.tail huc) rec F).2.2.2 v
    fun _ => .single

theorem Run.done_unique {α : Type} {r : Nat → Run α} (succ : ∀ n, Below (r n) (r (n + 1)))
    {n m : Nat} {a b : α} (hn : r n = .done a) (hm : r m = .done b) : a = b := by
  rcases le_total n m with le | le
  · have same := (below_of_le succ le).eq (by rw [hn]; trivial)
    rw [hn, hm] at same
    exact Run.done.inj same
  · have same := (below_of_le succ le).eq (by rw [hm]; trivial)
    rw [hn, hm] at same
    exact (Run.done.inj same).symm

/-! ### The enable drain, seen from the instance -/

theorem vtxProcessStateChange_offline_unmarked (hl : WellLinked g) {F x : Nat} {r : Int}
    {p : Graph × List S16Note} (unmarked : (g.vtx x).toOffline = false)
    (h : vtxProcessStateChange g F x .offline r = .done p) :
    ∃ up, vtxInstCanComeUp p.1 F x = .done up ∧
      Appends (Emits g .offline fun y => TransGen (DependsOn g) y x)
        (if up then [vtxOnline (p.1.vtx x) r] else []) p.2 := by
  simp only [vtxProcessStateChange, unmarked, Bool.false_eq_true, ↓reduceIte] at h
  obtain ⟨up, hup, rest⟩ := bind_eq_done.mp h
  obtain ⟨n₂, h₂, rest⟩ := bind_eq_done.mp rest
  obtain ⟨n₃, h₃, rest⟩ := bind_eq_done.mp rest
  cases rest
  cases h₂
  exact ⟨up, hup,
    dependentsDo_write_emits hl (fun _ => by rfl) (fun _ => vtxNotifyStop_emits) F r _ n₃ h₃⟩

def notesAbout (g₀ : Graph) (v : Nat) (q : List S16Note) : List S16Note :=
  q.filter fun n => n.path = (g₀.vtx v).path

theorem notesAbout_append (q q' : List S16Note) :
    notesAbout g₀ v (q ++ q') = notesAbout g₀ v q ++ notesAbout g₀ v q' :=
  List.filter_append ..

theorem notesAbout_emits (hu : UniquePaths g₀) (hs : SameShape g₀ g) (hv : v < g₀.size)
    {P : S16NoteScType → Nat → Prop} (other : ∀ k y, P k y → y ≠ v) {new : List S16Note}
    (emits : ∀ n ∈ new, ∃ k, Emits g k (P k) n) : notesAbout g₀ v new = [] :=
  List.filter_eq_nil_iff.mpr fun n hn about => by
    obtain ⟨k, y, hy, hP, r, rfl⟩ := emits n hn
    exact other k y hP (hu y v (hs.size ▸ hy) hv ((hs.path y).symm.trans (of_decide_eq_true about)))

def Cleared (x : Vertex) : Prop :=
  x.isEnabled = true ∧ x.toOffline = false ∧ x.toDisable = false

theorem Cleared.stateChangeWrite {x : Vertex} (h : Cleared x) (type : S16NoteScType) :
    Cleared (stateChangeWrite type x) := by
  cases type <;> exact ⟨h.1, by first | exact h.2.1 | rfl, by first | exact h.2.2 | rfl⟩

theorem KeepsBelow.canComeUp (keeps : KeepsBelow g₀ g v) (cleared : Cleared (g.vtx v))
    (sat : ∃ F, depgroupIsSatisfied g₀ F v true = .done .satisfied) {F : Nat} {up : Bool}
    (h : vtxInstCanComeUp g F v = .done up) : up = true := by
  simp only [vtxInstCanComeUp, cleared.1, cleared.2.1, cleared.2.2, Bool.not_false,
    Bool.and_self, ↓reduceIte] at h
  obtain ⟨s, hs, ⟨⟩⟩ := bind_eq_done.mp h
  obtain ⟨F₀, h₀⟩ := sat
  rw [keeps.satisfied_eq] at hs
  obtain rfl := Run.done_unique (fun n => (satisfies_below g₀ n).2.2.2 v true) hs h₀
  rfl

/-- Where the enable drain is, seen from `v`: the SC_OFFLINE that A_ENABLE queued is the one note
    about it; or the SC_ONLINE that note queued is; or `v` is online and no note names it. -/
def EnableStage (g₀ g : Graph) (v : Nat) (q : List S16Note) : Prop :=
  (∃ r, notesAbout g₀ v q = [.stateChange .offline (g₀.vtx v).path r]) ∨
    (∃ r, notesAbout g₀ v q = [.stateChange .online (g₀.vtx v).path r]) ∨
    (notesAbout g₀ v q = [] ∧ (g.vtx v).state = .online)

theorem EnableStage.congr {q q' : List S16Note} (same : notesAbout g₀ v q' = notesAbout g₀ v q)
    (state : (g'.vtx v).state = (g.vtx v).state) (h : EnableStage g₀ g v q) :
    EnableStage g₀ g' v q' := by
  unfold EnableStage
  rwa [same, state]

section Enable

variable (wb₀ : WellBuilt g₀) (hc : Acyclic g₀) (hu₀ : Unmarked g₀) (hv : v < g₀.size)
  (sat : ∃ F, depgroupIsSatisfied g₀ F v true = .done .satisfied)
include wb₀ hc hu₀ hv sat

theorem EnableStage.stateChange {F : Nat} {type : S16NoteScType} {path : S16Path} {r : Int}
    {q new : List S16Note} (keeps : KeepsBelow g₀ g v)
    (avoids : AvoidsBelow g₀ v (.stateChange type path r :: q)) (cleared : Cleared (g.vtx v))
    (stage : EnableStage g₀ g v (.stateChange type path r :: q))
    (h : graphProcessNote g F (.stateChange type path r) = .done (g', new)) :
    Cleared (g'.vtx v) ∧ EnableStage g₀ g' v (q ++ new) := by
  obtain ⟨keeps', -⟩ := keeps.stateChange wb₀ hu₀ avoids h
  have wb := keeps.wellBuilt wb₀
  have acyclic := keeps.shape.acyclic hc
  simp only [graphProcessNote] at h
  split at h
  · rename_i x found
    have hx := vtxFindByPath_lt_size found
    have named := vtxFindByPath_path found
    have written := vtxProcessStateChange_graph g F x type r _ h
    have queued := vtxProcessStateChange_queues wb.linked hx F type r _ h
    simp only at written queued
    by_cases hxv : x = v
    · subst hxv
      have own : g'.vtx x = stateChangeWrite type (g.vtx x) := by
        rw [written, Graph.vtx_modify_self _ _ _ hx]
      have cleared' : Cleared (g'.vtx x) := own ▸ cleared.stateChangeWrite type
      have about : notesAbout g₀ x (.stateChange type path r :: q) =
          .stateChange type path r :: notesAbout g₀ x q :=
        List.filter_cons_of_pos (decide_eq_true (named.symm.trans (keeps.shape.path x)))
      have above : ∀ (_ : S16NoteScType) y, TransGen (DependsOn g) y x → y ≠ x :=
        fun _ y hy e => acyclic y (e ▸ hy)
      refine ⟨cleared', ?_⟩
      rcases stage with ⟨r₁, off⟩ | ⟨r₂, online⟩ | ⟨empty, -⟩
      · rw [about, List.cons.injEq, S16Note.stateChange.injEq] at off
        obtain ⟨⟨rfl, -, rfl⟩, rest⟩ := off
        obtain ⟨up, hup, ⟨extra, hnew, stops⟩⟩ :=
          vtxProcessStateChange_offline_unmarked wb.linked cleared.2.1 h
        obtain rfl := keeps'.canComeUp cleared' sat hup
        simp only at hnew
        refine .inr (.inl ⟨r, ?_⟩)
        rw [notesAbout_append, rest, hnew, notesAbout_append,
          notesAbout_emits wb₀.unique keeps.shape hv above fun n hn => ⟨.offline, stops n hn⟩]
        simp only [notesAbout, vtxOnline, S16Note.path, decide_eq_true_eq, keeps'.shape.path,
          List.filter_cons, ↓reduceIte, List.filter_nil, List.nil_append, List.append_nil]
      · rw [about, List.cons.injEq, S16Note.stateChange.injEq] at online
        obtain ⟨⟨rfl, -, rfl⟩, rest⟩ := online
        refine .inr (.inr ⟨?_, by rw [own]; rfl⟩)
        rw [notesAbout_append, rest, notesAbout_emits wb₀.unique keeps.shape hv
          (fun k y hy => above k y hy.2) queued]
        rfl
      · rw [about] at empty
        exact absurd empty (List.cons_ne_nil _ _)
    · have other : g'.vtx v = g.vtx v := by rw [written, Graph.vtx_modify_ne _ _ hxv]
      have skip : notesAbout g₀ v (.stateChange type path r :: q) = notesAbout g₀ v q :=
        List.filter_cons_of_neg fun about => hxv (wb₀.unique x v (keeps.shape.size ▸ hx) hv
          ((keeps.shape.path x).symm.trans (named.trans (of_decide_eq_true about))))
      have none : notesAbout g₀ v new = [] := by
        refine notesAbout_emits wb₀.unique keeps.shape hv (fun k y hy e => ?_) queued
        subst e
        rcases hy.cases with rfl | below | marked
        · exact hxv rfl
        · exact avoids _ (List.mem_cons_self _ _) x (keeps.shape.dependsOn ▸ below)
            (named.symm.trans (keeps.shape.path x))
        · exact Bool.false_ne_true (cleared.2.1.symm.trans marked.2)
      refine ⟨other ▸ cleared, stage.congr ?_ (by rw [other])⟩
      rw [notesAbout_append, none, List.append_nil, skip]
  · cases h

theorem EnableStage.processNotes : ∀ {F : Nat} {g g' : Graph} {q : List S16Note},
    processNotes F g q = .done g' → KeepsBelow g₀ g v → AvoidsBelow g₀ v q →
      (∀ n ∈ q, n.isRequest = false) → Cleared (g.vtx v) → EnableStage g₀ g v q →
        Cleared (g'.vtx v) ∧ (g'.vtx v).state = .online
  | 0, _, _, _, h, _, _, _, _, _ => nomatch h
  | _ + 1, _, _, [], h, _, _, _, cleared, stage => by
    cases h
    rcases stage with ⟨_, off⟩ | ⟨_, online⟩ | ⟨-, online⟩
    · exact absurd off.symm (List.cons_ne_nil _ _)
    · exact absurd online.symm (List.cons_ne_nil _ _)
    · exact ⟨cleared, online⟩
  | F + 1, g, _, n :: q, h, keeps, avoids, sc, cleared, stage => by
    obtain ⟨⟨g₁, new⟩, h₁, rest⟩ := bind_eq_done.mp h
    obtain ⟨type, path, r, rfl⟩ := S16Note.stateChange_of_not_isRequest (sc _ (List.mem_cons_self _ _))
    obtain ⟨keeps₁, avoids₁⟩ := keeps.stateChange wb₀ hu₀ avoids h₁
    obtain ⟨cleared₁, stage₁⟩ := EnableStage.stateChange wb₀ hc hu₀ hv sat keeps avoids cleared stage h₁
    exact EnableStage.processNotes rest keeps₁ avoids₁
      (graphProcessNote_not_isRequest (keeps.wellBuilt wb₀).linked
        (fun n hn => sc n (List.mem_cons_of_mem _ hn)) h₁) cleared₁ stage₁

/-- A_ENABLE of `v`, from a state that keeps everything below it, drains to `v` online and
    cleared: A_ENABLE clears `v` and queues its SC_OFFLINE, and the drain goes on from there. -/
theorem enable_drain {F : Nat} {r : Int} {g₁ g₂ : Graph} (keeps : KeepsBelow g₀ g₁ v)
    (h : processNotes F g₁ [.adminReq .enable (g₀.vtx v).path r] = .done g₂) :
    Cleared (g₂.vtx v) ∧ (g₂.vtx v).state = .online := by
  cases F with
  | zero => cases h
  | succ F =>
    obtain ⟨⟨g₃, new⟩, h₁, rest⟩ := bind_eq_done.mp h
    have hv₁ : v < g₁.size := keeps.shape.size ▸ hv
    have found : vtxFindByPath g₁ (g₀.vtx v).path = some v := by
      rw [keeps.shape.vtxFindByPath, vtxFindByPath_vtx wb₀.unique hv]
    simp only [graphProcessNote, found] at h₁
    obtain ⟨keeps₃, avoids₃⟩ := keeps.adminReq wb₀ hu₀ hc hv₁ h₁
    simp only [vtxProcessAdminReq] at h₁
    cases h₁
    refine EnableStage.processNotes wb₀ hc hu₀ hv sat rest keeps₃ avoids₃
      (fun n hn => by rw [List.mem_singleton.mp hn]; rfl)
      (by rw [Graph.vtx_modify_self _ _ _ hv₁]; exact ⟨rfl, rfl, rfl⟩)
      (.inl ⟨S16DependencyGroupRestartOnCondition.restart.toInt, ?_⟩)
    simp [notesAbout, vtxEnable, S16Note.path, keeps.shape.path, hv₁]

end Enable

/-- The A_DISABLE drain of `v` keeps everything below `v`: A_DISABLE writes only above `v`, and
    every note it queues and every note those queue avoid what lies below. -/
theorem disable_drain (wb₀ : WellBuilt g₀) (hc : Acyclic g₀) (hu₀ : Unmarked g₀) (hv : v < g₀.size)
    {F : Nat} {r : Int} {g₁ : Graph}
    (h : processNotes F g₀ [.adminReq .disable (g₀.vtx v).path r] = .done g₁) :
    KeepsBelow g₀ g₁ v := by
  cases F with
  | zero => cases h
  | succ F =>
    obtain ⟨⟨g₂, new⟩, h₁, rest⟩ := bind_eq_done.mp h
    have sc := graphProcessNote_not_isRequest wb₀.linked (q := []) (fun _ h => nomatch h) h₁
    simp only [graphProcessNote, vtxFindByPath_vtx wb₀.unique hv] at h₁
    obtain ⟨keeps₂, avoids₂⟩ := KeepsBelow.adminReq wb₀ hu₀ hc ⟨.refl g₀, fun _ _ => rfl⟩ hv h₁
    exact keeps₂.processNotes wb₀ hu₀ rest avoids₂ sc

section RoundTrip

variable {repo : S16Repository} {order : List S16Service}

/-- A_DISABLE and then A_ENABLE of a vertex whose group is satisfied, each drained from a
    quiescent state, return and leave it online, enabled and clear of admin flags. -/
theorem disable_enable_restores (wf : ∀ svc ∈ order, svc.WellFormed)
    (quiescent : Quiescent repo order g) (acyclic : Acyclic g) (hv : v < g.size)
    (satisfied : ∃ F, depgroupIsSatisfied g F v true = .done .satisfied) (r r' : Int) :
    ∃ g₁ g₂, (∃ N, ∀ F ≥ N, processNotes F g [.adminReq .disable (g.vtx v).path r] = .done g₁) ∧
      (∃ N, ∀ F ≥ N, processNotes F g₁ [.adminReq .enable (g.vtx v).path r'] = .done g₂) ∧
      (g₂.vtx v).state = .online ∧ (g₂.vtx v).isEnabled = true ∧
      (g₂.vtx v).toOffline = false ∧ (g₂.vtx v).toDisable = false := by
  have wb := quiescent.reached.wellBuilt wf
  have hu := quiescent.unmarked wf acyclic
  have found := vtxFindByPath_vtx wb.unique hv
  obtain ⟨N₁, g₁, disable⟩ := processNotes_returns wb acyclic
    (q := [.adminReq .disable (g.vtx v).path r]) (by simp [Dispatchable, found])
  have keeps := disable_drain wb acyclic hu hv (disable N₁ le_rfl)
  obtain ⟨N₂, g₂, enable⟩ := processNotes_returns (keeps.wellBuilt wb) (keeps.shape.acyclic acyclic)
    (q := [.adminReq .enable (g.vtx v).path r'])
    (by simp [Dispatchable, keeps.shape.vtxFindByPath, found])
  obtain ⟨⟨enabled, unmarked, undisabled⟩, online⟩ :=
    enable_drain wb acyclic hu hv satisfied keeps (enable N₂ le_rfl)
  exact ⟨g₁, g₂, ⟨N₁, disable⟩, ⟨N₂, enable⟩, online, enabled, unmarked, undisabled⟩

theorem disable_enable_restores_on_stop_order :
    (∀ svc ∈ stopOrderRepo, svc.WellFormed) ∧
      Quiescent stopOrderRepo stopOrderRepo stopOrderOnline ∧ Acyclic stopOrderOnline ∧
      3 < stopOrderOnline.size ∧
      (∃ F, depgroupIsSatisfied stopOrderOnline F 3 true = .done .satisfied) ∧
      ∃ g₁ g₂, (∃ N, ∀ F ≥ N, processNotes F stopOrderOnline
          [.adminReq .disable (stopOrderOnline.vtx 3).path 0] = .done g₁) ∧
        (∃ N, ∀ F ≥ N, processNotes F g₁
          [.adminReq .enable (stopOrderOnline.vtx 3).path 0] = .done g₂) ∧
        (g₂.vtx 3).state = .online ∧ (g₂.vtx 3).isEnabled = true ∧
        (g₂.vtx 3).toOffline = false ∧ (g₂.vtx 3).toDisable = false := by
  have wf : ∀ svc ∈ stopOrderRepo, svc.WellFormed := by decide
  have acyclic : Acyclic stopOrderOnline :=
    acyclic_of_rank _ (fun v => [1, 0, 3, 2, 7, 6, 5, 4, 1, 5, 3].getD v 0) (by decide)
  have satisfied : ∃ F, depgroupIsSatisfied stopOrderOnline F 3 true = .done .satisfied :=
    ⟨5, by decide⟩
  exact ⟨wf, stopOrder_quiescent, acyclic, by decide, satisfied,
    disable_enable_restores wf stopOrder_quiescent acyclic (by decide) satisfied 0 0⟩

end RoundTrip

end Graphd

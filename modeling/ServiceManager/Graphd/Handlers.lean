import ServiceManager.Graphd.Termination
import ServiceManager.Graphd.Fuel

/-!
The two handlers of `graph_process_note` as wholes. On an acyclic graph whose asserts hold, each
returns under every large enough budget, and what it queues is known: state changes only, each
about a vertex of the graph. A state change about `v` that clears no `to_offline` mark queues
state changes only about vertices that depend on `v`, or about `v` itself of a kind listed
before its own: the SC_OFFLINE of an unmarked instance may queue its SC_ONLINE.
-/

namespace Graphd

open Run Relation

variable {g g' : Graph}

theorem Run.post_seq {α β : Type} {P : β → Prop} {Q : α → Prop} {x : Run α} {f : α → Run β}
    (hx : Post Q x) (hf : ∀ a, Q a → Post P (f a)) : Post P (x >>= f) :=
  post_bind fun a ha => hf a (hx a ha)

/-- The notes `graph_process_note` handles without dereferencing a null vertex: those whose path
    names a vertex, an A_REFRESH of any path, and a restarter request. -/
def Dispatchable (g : Graph) : S16Note → Prop
  | .adminReq type path _ => (vtxFindByPath g path).isSome ∨ type = .refresh
  | .stateChange _ path _ => (vtxFindByPath g path).isSome
  | .rreq _ _ => True

instance (g : Graph) : (n : S16Note) → Decidable (Dispatchable g n)
  | .adminReq .. => inferInstanceAs (Decidable (_ ∨ _))
  | .stateChange .. => inferInstanceAs (Decidable (_ = true))
  | .rreq .. => inferInstanceAs (Decidable True)

/-! ### What the traversals queue -/

def Emits (g : Graph) (k : S16NoteScType) (P : Nat → Prop) (n : S16Note) : Prop :=
  ∃ x < g.size, P x ∧ ∃ r, n = .stateChange k (g.vtx x).path r

def Appends (P : S16Note → Prop) (notes₀ notes : List S16Note) : Prop :=
  ∃ extra, notes = notes₀ ++ extra ∧ ∀ n ∈ extra, P n

variable {k : S16NoteScType} {P Q : Nat → Prop} {A B : S16Note → Prop} {n : S16Note}
  {notes notes₁ notes₂ : List S16Note}

theorem Emits.mono (h : Emits g k P n) (hPQ : ∀ x, P x → Q x) : Emits g k Q n :=
  let ⟨x, hx, hp, e⟩ := h
  ⟨x, hx, hPQ x hp, e⟩

theorem Emits.of_sameShape (hs : SameShape g g') (h : Emits g' k P n) : Emits g k P n := by
  obtain ⟨x, hx, hp, r, rfl⟩ := h
  exact ⟨x, hs.size ▸ hx, hp, r, by rw [hs.path]⟩

theorem Appends.refl (A : S16Note → Prop) (notes : List S16Note) : Appends A notes notes :=
  ⟨[], (List.append_nil notes).symm, fun _ h => nomatch h⟩

theorem Appends.trans (h₁ : Appends A notes notes₁) (h₂ : Appends A notes₁ notes₂) :
    Appends A notes notes₂ := by
  obtain ⟨e₁, rfl, h₁⟩ := h₁
  obtain ⟨e₂, rfl, h₂⟩ := h₂
  refine ⟨e₁ ++ e₂, List.append_assoc _ _ _, fun n hn => ?_⟩
  rcases List.mem_append.mp hn with hn | hn
  · exact h₁ n hn
  · exact h₂ n hn

theorem Appends.mono (h : Appends A notes notes₁) (hAB : ∀ n, A n → B n) :
    Appends B notes notes₁ :=
  let ⟨e, he, hA⟩ := h
  ⟨e, he, fun n hn => hAB n (hA n hn)⟩

theorem Appends.of_nil (h : Appends A [] notes) : ∀ n ∈ notes, A n := by
  obtain ⟨e, rfl, hA⟩ := h
  exact hA

theorem Appends.subset (h : Appends A notes notes₁) : notes ⊆ notes₁ := by
  obtain ⟨e, rfl, -⟩ := h
  exact List.subset_append_left _ _

theorem Appends.filter (h : Appends A notes notes₁) {p : S16Note → Bool}
    (hp : ∀ n, A n → p n = false) : notes₁.filter p = notes.filter p := by
  obtain ⟨e, rfl, hA⟩ := h
  rw [List.filter_append, List.filter_eq_nil_iff (l := e).mpr fun n hn => by
    simp [hp n (hA n hn)], List.append_nil]

theorem Appends.snoc (h : A n) : Appends A notes (notes ++ [n]) :=
  ⟨[n], rfl, fun _ hm => List.mem_singleton.mp hm ▸ h⟩

theorem appends_ite {c : Prop} [Decidable c] (h : c → A n) :
    Appends A notes (if c then notes ++ [n] else notes) := by
  split
  · exact .snoc (h ‹_›)
  · exact .refl A notes

theorem appends_foldlM {α : Type} {f : List S16Note → α → Run (List S16Note)} :
    ∀ {l : List α}, (∀ s, ∀ a ∈ l, Post (Appends A s) (f s a)) → ∀ s,
      Post (Appends A s) (l.foldlM f s)
  | [], _, s => post_done (.refl A s)
  | a :: l, h, s => by
    rw [List.foldlM_cons]
    exact post_bind fun s' hs' =>
      (appends_foldlM (fun t b hb => h t b (List.mem_cons_of_mem _ hb)) s').mono
        fun _ => (h s a (List.mem_cons_self _ _) s' hs').trans

section Traversals

variable (hl : WellLinked g)
include hl

theorem dependentsDo_emits {v : Nat} {f : Nat → List S16Note → Run (List S16Note)}
    (h : ∀ d ∈ (g.vtx v).dependents, d < g.size → ∀ s,
      Post (Appends (Emits g k fun x => ReflTransGen (DependsOn g) x d) s) (f d s)) (s) :
    Post (Appends (Emits g k fun x => TransGen (DependsOn g) x v) s) (vtxDependentsDo (g.vtx v) f s) :=
  appends_foldlM (fun s d hd => (h d hd (hl.lt_size_of_mem_dependents hd) s).mono fun _ h =>
    h.mono fun _ e => e.mono fun _ hx =>
      TransGen.tail' hx (hl.dependsOn_of_mem_dependents hd)) s

theorem vtxNotifyStart_emits : ∀ F v r notes, v < g.size →
    Post (Appends (Emits g .online fun x => ReflTransGen (DependsOn g) x v) notes)
      (vtxNotifyStart g F v r notes)
  | 0, _, _, _, _ => fun _ h => nomatch h
  | F + 1, v, _, notes, hv => by
    have climb := fun r s => (dependentsDo_emits hl (k := .online) (v := v)
      (fun d _ hd s => vtxNotifyStart_emits F d r s hd) s).mono fun _ h =>
        h.mono fun _ e => e.mono fun _ => TransGen.to_reflTransGen
    simp only [vtxNotifyStart]
    split
    · refine post_bind fun _ _ => ?_
      split
      · exact post_done (.snoc ⟨v, hv, .refl, 0, rfl⟩)
      · exact post_done (.refl _ _)
    · exact climb _ _
    · exact climb _ _

theorem vtxNotifyStop_emits : ∀ F v r notes, v < g.size →
    Post (Appends (Emits g .offline fun x => ReflTransGen (DependsOn g) x v) notes)
      (vtxNotifyStop g F v r notes)
  | 0, _, _, _, _ => fun _ h => nomatch h
  | F + 1, v, r, notes, hv => by
    have climb := fun s => (dependentsDo_emits hl (k := .offline) (v := v)
      (fun d _ hd s => vtxNotifyStop_emits F d r s hd) s).mono fun _ h =>
        h.mono fun _ e => e.mono fun _ => TransGen.to_reflTransGen
    simp only [vtxNotifyStop]
    split
    · split
      · exact post_done (.refl _ _)
      · exact post_done (.snoc ⟨v, hv, .refl, r, rfl⟩)
    · split
      · exact post_done (.refl _ _)
      · exact climb _
    · exact climb _

theorem vtxNotifyMisc_emits : ∀ F v r notes, v < g.size →
    Post (Appends (Emits g .online fun x => ReflTransGen (DependsOn g) x v) notes)
      (vtxNotifyMisc g F v r notes)
  | 0, _, _, _, _ => fun _ h => nomatch h
  | F + 1, v, r, notes, hv => by
    have climb := fun s => (dependentsDo_emits hl (k := .online) (v := v)
      (fun d _ hd s => vtxNotifyMisc_emits F d r s hd) s).mono fun _ h =>
        h.mono fun _ e => e.mono fun _ => TransGen.to_reflTransGen
    simp only [vtxNotifyMisc]
    split
    · exact post_bind fun _ _ => post_seq (post_done (appends_ite fun _ => ⟨v, hv, .refl, r, rfl⟩))
        fun s hs => (climb s).mono fun _ => hs.trans
    · exact post_seq (post_done (Appends.refl _ notes)) fun s hs => (climb s).mono fun _ => hs.trans

end Traversals

def Marked (g : Graph) (x : Nat) : Prop := (g.vtx x).type = .inst ∧ (g.vtx x).toOffline = true

theorem Marked.of_modify {v x : Nat} {f : Vertex → Vertex} (kind : ∀ y, (f y).type = y.type)
    (clears : ∀ y, (f y).toOffline = true → y.toOffline = true) (h : Marked (g.modify v f) x) :
    Marked g x := by
  obtain ⟨inst, marked⟩ := h
  rw [Graph.vtx_modify] at inst marked
  split at inst
  · rw [if_pos ‹_›] at marked
    exact ⟨(kind _).symm.trans inst, clears _ marked⟩
  · rw [if_neg ‹_›] at marked
    exact ⟨inst, marked⟩

theorem vtxOfflineDependency_emits (hl : WellLinked g) : ∀ F v r notes, v < g.size →
    Post (Appends (Emits g .offline (Marked g)) notes) (vtxOfflineDependency g F v r notes)
  | 0, _, _, _, _ => fun _ h => nomatch h
  | F + 1, v, r, notes, hv => by
    simp only [vtxOfflineDependency]
    split
    · exact post_done (.refl _ _)
    · rename_i marked
      split
      · rename_i inst
        exact post_bind fun _ _ => post_done (appends_ite fun _ =>
          ⟨v, hv, ⟨inst, by simpa [inst] using marked⟩, r, rfl⟩)
      · exact appends_foldlM (fun s c hc => vtxOfflineDependency_emits hl F c r s
          (hl.inRange v c hc)) _

theorem vtxOfflineIfPossible_emits {F v : Nat} (hv : v < g.size) (r : Int) (notes) :
    Post (Appends (Emits g .offline (Marked g)) notes) (vtxOfflineIfPossible g F v r notes) := by
  unfold vtxOfflineIfPossible
  split
  · exact post_done (.refl _ _)
  · rename_i marked
    split
    · rename_i inst
      exact post_bind fun _ _ => post_done (appends_ite fun _ =>
        ⟨v, hv, ⟨inst, by simpa using marked⟩, r, rfl⟩)
    · exact post_done (.refl _ _)

theorem dependentsDo_write_emits (hl : WellLinked g) {k : S16NoteScType} {v : Nat}
    {f : Vertex → Vertex} (hf : ∀ x, (f x).shape = x.shape)
    {visit : Graph → Nat → Nat → Int → List S16Note → Run (List S16Note)}
    (emits : ∀ g', WellLinked g' → ∀ F d r s, d < g'.size →
      Post (Appends (Emits g' k fun x => ReflTransGen (DependsOn g') x d) s) (visit g' F d r s))
    (F : Nat) (r : Int) (s : List S16Note) :
    Post (Appends (Emits g k fun x => TransGen (DependsOn g) x v) s)
      (vtxDependentsDo ((g.modify v f).vtx v) (fun d => visit (g.modify v f) F d r) s) := by
  have hs := sameShape_modify g v hf
  exact (dependentsDo_emits (hs.wellLinked hl) (fun d _ hd s => emits _ (hs.wellLinked hl) F d r s hd)
    s).mono fun _ h => h.mono fun _ e => (e.of_sameShape hs).mono fun _ hx => hs.dependsOn ▸ hx

/-! ### What the handlers queue -/

def StateChangeOf (g : Graph) (n : S16Note) : Prop := ∃ k, Emits g k (fun _ => True) n

def S16NoteScType.rank : S16NoteScType → Nat
  | .online => 0
  | .offline => 1
  | .disabled => 2
  | .degraded => 3
  | .maintenance => 4

/-- The vertex `x` and kind `k` of a state change that the handler of a `type` change about `v`
    may queue: one above `v`, a marked instance, or `v` itself. -/
def Queued (g : Graph) (v : Nat) : S16NoteScType → Nat → S16NoteScType → Prop
  | .online, x, k | .disabled, x, k => k = .online ∧ TransGen (DependsOn g) x v
  | .offline, x, k => k = .offline ∧ TransGen (DependsOn g) x v ∨
      (g.vtx v).toOffline = true ∧ (k = .offline ∧ Marked g x ∨ k = .disabled ∧ x = v) ∨
      (g.vtx v).toOffline = false ∧ k = .online ∧ x = v
  | .degraded, _, _ | .maintenance, _, _ => False

theorem Queued.lex {v x : Nat} {type k : S16NoteScType} (h : Queued g v type x k)
    (keeps : ¬ (type = .offline ∧ (g.vtx v).toOffline = true)) :
    Prod.Lex (TransGen (DependsOn g)) (· < ·) (x, k.rank) (v, type.rank) := by
  cases type with
  | online => exact .left _ _ h.2
  | disabled => exact .left _ _ h.2
  | offline =>
    rcases h with ⟨-, above⟩ | ⟨marked, -⟩ | ⟨-, rfl, rfl⟩
    · exact .left _ _ above
    · exact absurd ⟨rfl, marked⟩ keeps
    · exact .right _ (by decide)
  | degraded => exact h.elim
  | maintenance => exact h.elim

theorem vtxProcessAdminReq_queues {v : Nat} (hv : v < g.size) (F : Nat) (type : S16NoteAdminType)
    (r : Int) : Post (fun p => ∀ n ∈ p.2, ∃ k, Emits g k (fun x => x = v ∨ Marked p.1 x) n)
      (vtxProcessAdminReq g F v type r) := by
  have hs : SameShape g (g.modify v _) := sameShape_modify g v (f := fun x =>
    { x with toDisable := false, toOffline := false, isEnabled := true }) fun _ => rfl
  unfold vtxProcessAdminReq
  split
  · refine post_bind fun g₂ h₂ => post_bind fun _ _ => post_bind fun notes h => post_done fun n hn => ?_
    have hs₂ : SameShape g g₂ := post_foldlM (SameShape g) (fun _ d hs =>
      (vtxNotifyAdminDisable_sameShape F d r _).mono fun _ => hs.trans) _
      (sameShape_modify g v fun _ => by rfl) g₂ h₂
    have scan := appends_foldlM (fun s i hi => vtxOfflineIfPossible_emits
      (List.mem_range.mp hi) _ s) [] notes h
    exact ⟨.offline, ((scan.of_nil n hn).of_sameShape hs₂).mono fun _ => .inr⟩
  · exact post_done fun n hn => ⟨.offline, Emits.of_sameShape hs
      ⟨v, by simpa using hv, .inl rfl, _, List.mem_singleton.mp hn⟩⟩
  · exact post_done fun n hn => nomatch hn

theorem vtxProcessStateChange_queues (hl : WellLinked g) {v : Nat} (hv : v < g.size) (F : Nat)
    (type : S16NoteScType) (r : Int) :
    Post (fun p => ∀ n ∈ p.2, ∃ k, Emits g k (fun x => Queued g v type x k) n)
      (vtxProcessStateChange g F v type r) := by
  have hv₁ : ∀ {f : Vertex → Vertex}, v < (g.modify v f).size := by simpa using hv
  unfold vtxProcessStateChange
  cases type
  · exact post_bind fun notes h => post_done fun n hn => ⟨.online,
      ((dependentsDo_write_emits hl (fun _ => by rfl) (fun _ => vtxNotifyStart_emits) F r [] notes
        h).of_nil n hn).mono fun _ above => ⟨rfl, above⟩⟩
  · dsimp only
    have hs := sameShape_modify g v (f := fun x => { x with state := .offline, toOffline := false })
      fun _ => rfl
    have stop : ∀ n₂ n₃, vtxDependentsDo ((g.modify v fun x =>
        { x with state := .offline, toOffline := false }).vtx v) (fun d => vtxNotifyStop (g.modify v
          fun x => { x with state := .offline, toOffline := false }) F d r) n₂ =
        .done n₃ → Appends (fun n => ∃ k, Emits g k (fun x => Queued g v .offline x k) n) n₂ n₃ :=
      fun n₂ n₃ h₃ => (dependentsDo_write_emits hl (fun _ => by rfl) (fun _ => vtxNotifyStop_emits)
        F r n₂ n₃ h₃).mono fun _ e => ⟨.offline, e.mono fun _ above => .inl ⟨rfl, above⟩⟩
    split
    · rename_i marked
      refine post_bind fun n₁ h₁ => post_bind fun n₂ h₂ => post_bind fun n₃ h₃ =>
        post_done fun n hn => ?_
      have deps : Appends (fun n => ∃ k, Emits g k (fun x => Queued g v .offline x k) n) [] n₁ :=
        (appends_foldlM (fun s c hc => vtxOfflineDependency_emits (hs.wellLinked hl) F c r s
          ((hs.wellLinked hl).inRange v c hc)) [] n₁ h₁).mono fun _ e =>
            ⟨.offline, (e.of_sameShape hs).mono fun _ hx =>
              .inr (.inl ⟨marked, .inl ⟨rfl, hx.of_modify (fun _ => by rfl) fun _ h => by cases h⟩⟩)⟩
      have disable : Appends (fun n => ∃ k, Emits g k (fun x => Queued g v .offline x k) n)
          n₁ n₂ := by
        cases h₂
        exact appends_ite fun _ => ⟨.disabled, Emits.of_sameShape hs
          ⟨v, hv₁, .inr (.inl ⟨marked, .inr ⟨rfl, rfl⟩⟩), r, rfl⟩⟩
      exact (deps.trans (disable.trans (stop n₂ n₃ h₃))).of_nil n hn
    · rename_i unmarked
      refine post_bind fun _ _ => post_bind fun n₂ h₂ => post_bind fun n₃ h₃ =>
        post_done fun n hn => ?_
      have own : Appends (fun n => ∃ k, Emits g k (fun x => Queued g v .offline x k) n) [] n₂ := by
        cases h₂
        exact appends_ite fun _ => ⟨.online, Emits.of_sameShape hs
          ⟨v, hv₁, .inr (.inr ⟨by simpa using unmarked, rfl, rfl⟩), r, rfl⟩⟩
      exact (own.trans (stop n₂ n₃ h₃)).of_nil n hn
  · exact post_bind fun notes h => post_done fun n hn => ⟨.online,
      ((dependentsDo_write_emits hl (fun _ => by rfl) (fun _ => vtxNotifyMisc_emits) F r [] notes
        h).of_nil n hn).mono fun _ above => ⟨rfl, above⟩⟩
  all_goals exact post_done fun n hn => nomatch hn

/-! ### No handler aborts where the builder's asserts hold -/

theorem vtxNotifyStop_not_aborted (g : Graph) :
    ∀ F v r notes, vtxNotifyStop g F v r notes ≠ .aborted
  | 0, _, _, _ => nofun
  | F + 1, v, r, notes => by
    have climb := not_aborted_foldlM (l := (g.vtx v).dependents)
      (f := fun s d => vtxNotifyStop g F d r s) fun s d _ => vtxNotifyStop_not_aborted g F d r s
    simp only [vtxNotifyStop]
    split
    · split <;> nofun
    · split
      · nofun
      · exact climb _
    · exact climb _

theorem vtxNotifyStart_not_aborted (ha : AbortFree g) :
    ∀ F v r notes, vtxNotifyStart g F v r notes ≠ .aborted
  | 0, _, _, _ => nofun
  | F + 1, v, _, notes => by
    have climb := fun r => not_aborted_foldlM (l := (g.vtx v).dependents)
      (f := fun s d => vtxNotifyStart g F d r s) fun s d _ => vtxNotifyStart_not_aborted ha F d r s
    simp only [vtxNotifyStart]
    split
    · exact not_aborted_bind (vtxInstCanComeUp_not_aborted ha F v) fun _ _ => by split <;> nofun
    · exact climb _ _
    · exact climb _ _

theorem vtxNotifyAdminDisable_not_aborted :
    ∀ F v r g, vtxNotifyAdminDisable F v r g ≠ .aborted
  | 0, _, _, _ => nofun
  | F + 1, v, r, g => by
    have climb := fun (x : Vertex) => not_aborted_foldlM (l := x.dependents)
      (f := fun s d => vtxNotifyAdminDisable F d r s) fun s d _ =>
        vtxNotifyAdminDisable_not_aborted F d r s
    simp only [vtxNotifyAdminDisable]
    split
    · exact climb _ _
    · split
      · nofun
      · exact climb _ _
    · exact climb _ _

theorem allUntilFalse_not_aborted {check : Nat → Run Bool} :
    ∀ {l : List Nat}, (∀ d ∈ l, check d ≠ .aborted) → allUntilFalse check l ≠ .aborted
  | [], _ => nofun
  | d :: l, h => not_aborted_bind (h d (List.mem_cons_self _ _)) fun _ _ => by
    split
    · exact allUntilFalse_not_aborted fun e he => h e (List.mem_cons_of_mem _ he)
    · nofun

theorem vtxCanGoDown_not_aborted (g : Graph) : ∀ F v root, vtxCanGoDown g F v root ≠ .aborted
  | 0, _, _ => nofun
  | F + 1, v, _ => by
    simp only [vtxCanGoDown]
    refine not_aborted_bind (allUntilFalse_not_aborted fun d _ => ?_) fun _ _ => ?_
    · split
      · nofun
      · exact vtxCanGoDown_not_aborted g F d false
    · split
      · nofun
      · split <;> nofun

theorem vtxOfflineDependency_not_aborted (g : Graph) :
    ∀ F v r notes, vtxOfflineDependency g F v r notes ≠ .aborted
  | 0, _, _, _ => nofun
  | F + 1, v, r, _ => by
    simp only [vtxOfflineDependency]
    split
    · nofun
    · split
      · exact not_aborted_bind (vtxCanGoDown_not_aborted g F v true) fun _ _ => nofun
      · exact not_aborted_foldlM (fun s c _ => vtxOfflineDependency_not_aborted g F c r s) _

theorem vtxOfflineIfPossible_not_aborted (g : Graph) (F v : Nat) (r : Int) (notes : List S16Note) :
    vtxOfflineIfPossible g F v r notes ≠ .aborted := by
  unfold vtxOfflineIfPossible
  split
  · nofun
  · split
    · exact not_aborted_bind (vtxCanGoDown_not_aborted g F v true) fun _ _ => nofun
    · nofun

theorem vtxProcessAdminReq_not_aborted (g : Graph) (F v : Nat) (type : S16NoteAdminType)
    (r : Int) : vtxProcessAdminReq g F v type r ≠ .aborted := by
  unfold vtxProcessAdminReq
  split
  · exact not_aborted_bind (not_aborted_foldlM (fun s d _ => vtxNotifyAdminDisable_not_aborted F d r s)
      _) fun g₂ _ => not_aborted_bind (vtxCanGoDown_not_aborted g₂ F v true) fun _ _ =>
        not_aborted_bind (not_aborted_foldlM (fun s i _ => vtxOfflineIfPossible_not_aborted g₂ F i _ s)
          _) fun _ _ => nofun
  all_goals nofun

theorem vtxProcessStateChange_not_aborted (ha : AbortFree g) (F v : Nat) (type : S16NoteScType)
    (r : Int) : vtxProcessStateChange g F v type r ≠ .aborted := by
  have ha₁ : ∀ {f : Vertex → Vertex}, (∀ x, (f x).shape = x.shape) → AbortFree (g.modify v f) :=
    fun hf => (sameShape_modify g v hf).abortFree ha
  have stop := fun (g₁ : Graph) (s : List S16Note) => not_aborted_foldlM
    (l := (g₁.vtx v).dependents) (f := fun s d => vtxNotifyStop g₁ F d r s)
    (fun s d _ => vtxNotifyStop_not_aborted g₁ F d r s) s
  unfold vtxProcessStateChange
  cases type
  · exact not_aborted_bind (not_aborted_foldlM (fun s d _ =>
      vtxNotifyStart_not_aborted (ha₁ fun _ => by rfl) F d r s) _) fun _ _ => nofun
  · dsimp only
    split
    · exact not_aborted_bind (not_aborted_foldlM (fun s c _ =>
        vtxOfflineDependency_not_aborted _ F c r s) _) fun _ _ => not_aborted_bind (by nofun)
          fun _ _ => not_aborted_bind (stop _ _) fun _ _ => nofun
    · exact not_aborted_bind (vtxInstCanComeUp_not_aborted (ha₁ fun _ => by rfl) F v) fun _ _ =>
        not_aborted_bind (by nofun) fun _ _ => not_aborted_bind (stop _ _) fun _ _ => nofun
  · exact not_aborted_bind (not_aborted_foldlM (fun s d _ =>
      vtxNotifyMisc_not_aborted (ha₁ fun _ => by rfl) F d r s) _) fun _ _ => nofun
  all_goals nofun

theorem graphProcessNote_not_aborted (ha : AbortFree g) (F : Nat) :
    ∀ note, Dispatchable g note → graphProcessNote g F note ≠ .aborted
  | .adminReq type path r, hn => by
    simp only [graphProcessNote]
    split
    · exact vtxProcessAdminReq_not_aborted g F _ type r
    · rename_i none
      simp only [Dispatchable, none, Option.isSome_none, Bool.false_eq_true, false_or] at hn
      simp [hn]
  | .stateChange type path r, hn => by
    simp only [graphProcessNote]
    split
    · exact vtxProcessStateChange_not_aborted ha F _ type r
    · rename_i none
      simp [Dispatchable, none] at hn
  | .rreq _ _, _ => nofun

/-! ### Every handler returns on an acyclic graph -/

section Acyclic

variable (hl : WellLinked g) (hc : Acyclic g)
include hl hc

theorem vtxOfflineIfPossible_terminates (v : Nat) : ∃ N, ∀ F ≥ N, ∀ g', SameShape g g' →
    ∀ r notes, (vtxOfflineIfPossible g' F v r notes).Finished := by
  obtain ⟨N, hN⟩ := vtxCanGoDown_terminates hl hc v
  refine ⟨N, fun F hF g' hs r notes => ?_⟩
  unfold vtxOfflineIfPossible
  split
  · trivial
  · split
    · exact finished_bind (hN F hF g' hs true) fun _ _ => trivial
    · trivial

theorem vtxProcessAdminReq_terminates (v : Nat) :
    ∃ N, ∀ F ≥ N, ∀ type r, (vtxProcessAdminReq g F v type r).Finished := by
  obtain ⟨M, hM⟩ := dependents_bound hl v fun d _ => vtxNotifyAdminDisable_terminates hl hc d
  obtain ⟨K, hK⟩ := vtxCanGoDown_terminates hl hc v
  obtain ⟨L, hL⟩ := exists_bound_forall_mem (List.range g.size) fun i _ =>
    vtxOfflineIfPossible_terminates hl hc i
  refine ⟨max M (max K L), fun F hF type r => ?_⟩
  have marks : ∀ s d, SameShape g s → Post (SameShape g) (vtxNotifyAdminDisable F d r s) :=
    fun s d hs => (vtxNotifyAdminDisable_sameShape F d r s).mono fun _ => hs.trans
  unfold vtxProcessAdminReq
  split
  · have hs₁ := sameShape_modify g v (f := fun x =>
      { x with toDisable := true, toOffline := true, isEnabled := false }) fun _ => rfl
    refine finished_bind (finished_foldlM (SameShape g) marks (fun s d hd hs => hM F (by omega) s hs
      d (by rwa [hs.dependents, ← hs₁.dependents]) r) _ hs₁) fun g₂ h₂ => ?_
    have hs₂ : SameShape g g₂ := post_foldlM (SameShape g) marks _ hs₁ g₂ h₂
    refine finished_bind (hK F (by omega) g₂ hs₂ true) fun _ _ => finished_bind
      (finished_foldlM (fun _ => True) (fun _ _ _ _ _ => trivial) (fun s i hi _ => ?_) _ trivial)
      fun _ _ => trivial
    rw [List.mem_range, hs₂.size, ← List.mem_range] at hi
    exact hL i hi F (by omega) g₂ hs₂ _ s
  all_goals trivial

theorem vtxProcessStateChange_terminates (v : Nat) :
    ∃ N, ∀ F ≥ N, ∀ type r, (vtxProcessStateChange g F v type r).Finished := by
  obtain ⟨M₁, start⟩ := dependents_bound hl v fun d _ => vtxNotifyStart_terminates hl hc d
  obtain ⟨M₂, stop⟩ := dependents_bound hl v fun d _ => vtxNotifyStop_terminates hl hc d
  obtain ⟨M₃, misc⟩ := dependents_bound hl v fun d _ => vtxNotifyMisc_terminates hl hc d
  obtain ⟨M₄, dep⟩ := exists_bound_forall_mem (g.vtx v).dependencies fun c _ =>
    vtxOfflineDependency_terminates hl hc c
  obtain ⟨M₅, up⟩ := vtxInstCanComeUp_terminates hl hc v
  refine ⟨M₁ + M₂ + M₃ + M₄ + M₅, fun F hF type r => ?_⟩
  have hs : ∀ {f : Vertex → Vertex}, (∀ x, (f x).shape = x.shape) → SameShape g (g.modify v f) :=
    sameShape_modify g v
  unfold vtxProcessStateChange
  cases type
  · exact finished_bind (dependentsDo_finished (fun d hd =>
      start F (by omega) _ (hs fun _ => by rfl) d hd r) _) fun _ _ => trivial
  · dsimp only
    have hs₁ := hs (f := fun x => { x with state := .offline, toOffline := false }) fun _ => rfl
    have stopping := fun s => dependentsDo_finished (fun d hd => stop F (by omega) _ hs₁ d hd r) s
    split
    · refine finished_bind (finished_foldlM (fun _ => True) (fun _ _ _ _ _ => trivial)
        (fun s c hc _ => ?_) _ trivial) fun _ _ => finished_bind trivial fun _ _ =>
          finished_bind (stopping _) fun _ _ => trivial
      rw [hs₁.dependencies] at hc
      exact dep c hc F (by omega) _ hs₁ r s
    · exact finished_bind (up F (by omega) _ hs₁) fun _ _ =>
        finished_bind trivial fun _ _ => finished_bind (stopping _) fun _ _ => trivial
  · exact finished_bind (dependentsDo_finished (fun d hd =>
      misc F (by omega) _ (hs fun _ => by rfl) d hd r) _) fun _ _ => trivial
  all_goals trivial

theorem graphProcessNote_terminates (note : S16Note) :
    ∃ N, ∀ F ≥ N, (graphProcessNote g F note).Finished := by
  cases note with
  | adminReq type path r =>
    cases h : vtxFindByPath g path with
    | none => exact ⟨0, fun F _ => by simp only [graphProcessNote, h]; split <;> trivial⟩
    | some v =>
      obtain ⟨N, hN⟩ := vtxProcessAdminReq_terminates hl hc v
      exact ⟨N, fun F hF => by simpa only [graphProcessNote, h] using hN F hF type r⟩
  | stateChange type path r =>
    cases h : vtxFindByPath g path with
    | none => exact ⟨0, fun F _ => by simp only [graphProcessNote, h]; trivial⟩
    | some v =>
      obtain ⟨N, hN⟩ := vtxProcessStateChange_terminates hl hc v
      exact ⟨N, fun F hF => by simpa only [graphProcessNote, h] using hN F hF type r⟩
  | rreq => exact ⟨0, fun _ _ => trivial⟩

/-- A note the handlers can take returns one result under every budget past some bound. -/
theorem graphProcessNote_returns (ha : AbortFree g) {note : S16Note} (hn : Dispatchable g note) :
    ∃ N p, ∀ F ≥ N, graphProcessNote g F note = .done p := by
  obtain ⟨N, hN⟩ := graphProcessNote_terminates hl hc note
  obtain ⟨p, hp⟩ := exists_done (hN N le_rfl) (graphProcessNote_not_aborted ha N note hn)
  exact ⟨N, p, fun F hF =>
    ((below_of_le (graphProcessNote_below g · note) hF).eq (hN N le_rfl)).symm.trans hp⟩

end Acyclic

end Graphd

import Mathlib.Logic.Hydra
import ServiceManager.Graphd.Handlers

/-!
Draining the queue ends. A request is consumed and puts back only state changes. A state change
that takes a marked vertex offline, or disables it, clears its `to_offline` mark, and no state
change sets one. Any other state change about `v` puts back only state changes about vertices
that depend on `v`, or about `v` of an earlier kind. So each turn of the loop lowers, in this
order, the number of queued requests, the number of marked vertices, or the multiset of queued
state changes keyed by vertex and kind; on a graph with no dependency cycle that order is well
founded, and from every state note processing reaches the loop stops on every queue, with the
queue empty unless a note names no vertex.
-/

namespace Graphd

open Run Relation

variable {g g' : Graph}

/-! ### Marks -/

def markCount (g : Graph) : Nat :=
  ((List.range g.size).filter fun i => (g.vtx i).toOffline).length

theorem markCount_modify_le {v : Nat} {f : Vertex → Vertex}
    (hf : ∀ x, (f x).toOffline = true → x.toOffline = true) :
    markCount (g.modify v f) ≤ markCount g := by
  unfold markCount
  rw [Graph.size_modify]
  refine (List.monotone_filter_right _ fun i h => ?_).length_le
  simp only [Graph.vtx_modify] at h
  split at h
  · exact hf _ h
  · exact h

theorem markCount_modify_lt {v : Nat} {f : Vertex → Vertex} (hv : v < g.size)
    (marked : (g.vtx v).toOffline = true) (clears : ∀ x, (f x).toOffline = false) :
    markCount (g.modify v f) < markCount g := by
  unfold markCount
  rw [Graph.size_modify]
  have sub := List.monotone_filter_right (List.range g.size)
    (p := fun i => ((g.modify v f).vtx i).toOffline) (q := fun i => (g.vtx i).toOffline)
    fun i h => by
      simp only [Graph.vtx_modify] at h
      split at h
      · simp [clears] at h
      · exact h
  refine lt_of_le_of_ne sub.length_le fun same => ?_
  have mem : v ∈ (List.range g.size).filter fun i => (g.vtx i).toOffline :=
    List.mem_filter.mpr ⟨List.mem_range.mpr hv, marked⟩
  rw [← sub.eq_of_length same, List.mem_filter] at mem
  simp [hv, clears] at mem

theorem stateChangeWrite_marks (type : S16NoteScType) (x : Vertex) :
    (stateChangeWrite type x).toOffline = true → x.toOffline = true := by
  cases type <;> simp [stateChangeWrite]

/-! ### The measure -/

def noteKey (g : Graph) : S16Note → Nat × Nat
  | .stateChange type path _ => ((vtxFindByPath g path).getD 0, type.rank)
  | _ => (0, 0)

def S16Note.isRequest : S16Note → Bool
  | .stateChange .. => false
  | _ => true

def drainMeasure (g : Graph) (q : List S16Note) : Nat × Nat × Multiset (Nat × Nat) :=
  (q.countP S16Note.isRequest, markCount g, (q.map (noteKey g) : Multiset (Nat × Nat)))

/-- The order the measure descends in: a key goes down by being replaced with any number of keys
    of vertices above it, or of the same vertex and an earlier kind. -/
def DrainOrder (g : Graph) :
    Nat × Nat × Multiset (Nat × Nat) → Nat × Nat × Multiset (Nat × Nat) → Prop :=
  Prod.Lex (· < ·) (Prod.Lex (· < ·) (CutExpand (Prod.Lex (TransGen (DependsOn g)) (· < ·))))

theorem DrainOrder.wellFounded (hc : Acyclic g) : WellFounded (DrainOrder g) :=
  wellFounded_lt.prod_lex (wellFounded_lt.prod_lex
    (hc.wellFounded_dependsOn.transGen.prod_lex wellFounded_lt).cutExpand)

theorem DrainOrder.of_sameShape (hs : SameShape g g') : DrainOrder g' = DrainOrder g := by
  unfold DrainOrder
  rw [hs.dependsOn]

theorem noteKey_of_sameShape (hs : SameShape g g') : noteKey g' = noteKey g := by
  funext n
  cases n <;> simp only [noteKey, hs.vtxFindByPath]

theorem noteKey_stateChange (hu : UniquePaths g) {x : Nat} (hx : x < g.size)
    (k : S16NoteScType) (r : Int) : noteKey g (.stateChange k (g.vtx x).path r) = (x, k.rank) := by
  simp [noteKey, vtxFindByPath_vtx hu hx]

/-! ### One turn of the loop -/

/-- What the engine relies on of the graph and never changes: edges recorded at both ends, one
    vertex per path, and groups whose asserts hold. -/
structure WellBuilt (g : Graph) : Prop where
  linked : WellLinked g
  unique : UniquePaths g
  abortFree : AbortFree g

theorem WellBuilt.of_sameShape (wb : WellBuilt g) (hs : SameShape g g') : WellBuilt g' :=
  ⟨hs.wellLinked wb.linked, hs.uniquePaths wb.unique, hs.abortFree wb.abortFree⟩

theorem Dispatchable.of_sameShape (hs : SameShape g g') {n : S16Note} (h : Dispatchable g n) :
    Dispatchable g' n := by
  cases n <;> simp only [Dispatchable, hs.vtxFindByPath] at h ⊢ <;> exact h

theorem StateChangeOf.dispatchable (hu : UniquePaths g) {n : S16Note} (h : StateChangeOf g n) :
    Dispatchable g n := by
  obtain ⟨_, x, hx, -, _, rfl⟩ := h
  simp [Dispatchable, vtxFindByPath_vtx hu hx]

theorem StateChangeOf.not_isRequest {n : S16Note} (h : StateChangeOf g n) :
    n.isRequest = false := by
  obtain ⟨_, _, _, -, _, rfl⟩ := h
  rfl

theorem graphProcessNote_queues (hl : WellLinked g) (F : Nat) (note : S16Note) :
    Post (fun p => ∀ n ∈ p.2, StateChangeOf g n) (graphProcessNote g F note) := by
  cases note <;> simp only [graphProcessNote]
  · split
    · exact (vtxProcessAdminReq_queues (vtxFindByPath_lt_size ‹_›) F _ _).mono
        fun _ h n hn => (h n hn).imp fun _ e => e.mono fun _ _ => trivial
    · split
      · exact post_done fun _ h => nomatch h
      · exact fun _ h => nomatch h
  · split
    · exact (vtxProcessStateChange_queues hl (vtxFindByPath_lt_size ‹_›) F _ _).mono
        fun _ h n hn => (h n hn).imp fun _ e => e.mono fun _ _ => trivial
    · exact fun _ h => nomatch h
  · exact post_done fun _ h => nomatch h

theorem S16Note.stateChange_of_not_isRequest {n : S16Note} (h : n.isRequest = false) :
    ∃ type path r, n = .stateChange type path r := by
  cases n <;> simp_all [S16Note.isRequest]

theorem graphProcessNote_not_isRequest (hl : WellLinked g) {F : Nat} {n₀ : S16Note}
    {q new : List S16Note} {p : Graph} (sc : ∀ n ∈ q, n.isRequest = false)
    (h : graphProcessNote g F n₀ = .done (p, new)) : ∀ n ∈ q ++ new, n.isRequest = false := by
  intro n hn
  rcases List.mem_append.mp hn with hn | hn
  · exact sc n hn
  · exact (graphProcessNote_queues hl F _ _ h n hn).not_isRequest

theorem keys_cutExpand {r : Nat × Nat → Nat × Nat → Prop} {key : S16Note → Nat × Nat}
    {note : S16Note} {q new : List S16Note} (h : ∀ n ∈ new, r (key n) (key note)) :
    CutExpand r ((q ++ new).map key : Multiset (Nat × Nat)) ((note :: q).map key) := by
  refine ⟨(new.map key : Multiset (Nat × Nat)), key note, fun a ha => ?_, ?_⟩
  · obtain ⟨n, hn, rfl⟩ := List.mem_map.mp (Multiset.mem_coe.mp ha)
    exact h n hn
  · simp only [List.map_append, List.map_cons, ← Multiset.coe_add, ← Multiset.cons_coe,
      Multiset.cons_add]
    exact (add_comm _ _).trans (Multiset.singleton_add _ _)

/-- Every turn of the loop lowers the measure. -/
theorem drainMeasure_step (wb : WellBuilt g) {F : Nat} {note : S16Note} {q new : List S16Note}
    (h : graphProcessNote g F note = .done (g', new)) :
    DrainOrder g (drainMeasure g' (q ++ new)) (drainMeasure g (note :: q)) := by
  have hs : SameShape g g' := graphProcessNote_sameShape g F note _ h
  have queued := graphProcessNote_queues wb.linked F note _ h
  have none : new.countP S16Note.isRequest = 0 :=
    List.countP_eq_zero.mpr fun n hn => by simp [(queued n hn).not_isRequest]
  have requests : (q ++ new).countP S16Note.isRequest = q.countP S16Note.isRequest := by
    rw [List.countP_append, none, add_zero]
  unfold drainMeasure
  rw [requests, noteKey_of_sameShape hs]
  cases note with
  | adminReq => exact .left _ _ (by simp [S16Note.isRequest])
  | rreq => exact .left _ _ (by simp [S16Note.isRequest])
  | stateChange type path r =>
    simp only [graphProcessNote] at h
    split at h
    · rename_i v found
      have hv := vtxFindByPath_lt_size found
      have written := vtxProcessStateChange_graph g F v type r _ h
      have key : noteKey g (.stateChange type path r) = (v, type.rank) := by simp [noteKey, found]
      simp only [List.countP_cons, S16Note.isRequest]
      refine .right _ ?_
      simp only at written
      subst written
      by_cases clears : type = .offline ∧ (g.vtx v).toOffline = true
      · exact .left _ _ (markCount_modify_lt hv clears.2 fun x => by simp [clears.1, stateChangeWrite])
      · rcases (markCount_modify_le (stateChangeWrite_marks type)).lt_or_eq with lt | same
        · exact .left _ _ lt
        · rw [same]
          refine .right _ (keys_cutExpand fun n hn => ?_)
          obtain ⟨k, x, hx, below, r', rfl⟩ :=
            vtxProcessStateChange_queues wb.linked hv F type r _ h n hn
          rw [key, noteKey_stateChange wb.unique hx]
          exact below.lex clears
    · cases h

/-! ### The whole drain -/

theorem graphProcessNote_aborted {F : Nat} {note : S16Note} (hn : ¬ Dispatchable g note) :
    graphProcessNote g F note = .aborted := by
  cases note with
  | adminReq type path r =>
    simp only [Dispatchable, not_or] at hn
    simp [graphProcessNote, Option.not_isSome_iff_eq_none.mp hn.1, hn.2]
  | stateChange type path r =>
    simp only [Dispatchable] at hn
    simp [graphProcessNote, Option.not_isSome_iff_eq_none.mp hn]
  | rreq => exact absurd trivial hn

theorem processNotes_head_aborted {note : S16Note} (hn : ¬ Dispatchable g note) (q : List S16Note)
    (F : Nat) : processNotes (F + 1) g (note :: q) = .aborted := by
  simp only [processNotes, graphProcessNote_aborted hn, aborted_bind]

/-- From a graph shaped like `g₀`, the loop stops on every queue under every large enough
    budget. -/
theorem processNotes_terminates {g₀ : Graph} (wb₀ : WellBuilt g₀) (hc : Acyclic g₀) :
    ∀ g q, SameShape g₀ g → ∃ N, ∀ F ≥ N, (processNotes F g q).Finished := by
  suffices ∀ p : Graph × List S16Note, SameShape g₀ p.1 →
      ∃ N, ∀ F ≥ N, (processNotes F p.1 p.2).Finished from fun g q => this (g, q)
  intro p
  refine (InvImage.wf (fun p : Graph × List S16Note => drainMeasure p.1 p.2)
    (DrainOrder.wellFounded hc)).induction p (C := fun p => SameShape g₀ p.1 →
      ∃ N, ∀ F ≥ N, (processNotes F p.1 p.2).Finished) ?_
  rintro ⟨g, q⟩ ih hs
  have wb := wb₀.of_sameShape hs
  obtain _ | ⟨note, q⟩ := q
  · exact ⟨1, fun F hF => by obtain ⟨F, rfl⟩ : ∃ F', F = F' + 1 := ⟨F - 1, by omega⟩; trivial⟩
  by_cases hn : Dispatchable g note
  · obtain ⟨N₁, ⟨g₁, new⟩, hN₁⟩ := graphProcessNote_returns wb.linked (hs.acyclic hc)
      wb.abortFree hn
    have processed := hN₁ N₁ le_rfl
    have hs₁ := graphProcessNote_sameShape g N₁ note _ processed
    have lower := drainMeasure_step wb (q := q) processed
    rw [DrainOrder.of_sameShape hs] at lower
    obtain ⟨N₂, hN₂⟩ := ih (g₁, q ++ new) lower (hs.trans hs₁)
    refine ⟨max N₁ N₂ + 1, fun F hF => ?_⟩
    obtain ⟨F, rfl⟩ : ∃ F', F = F' + 1 := ⟨F - 1, by omega⟩
    simp only [processNotes, hN₁ F (by omega), done_bind]
    exact hN₂ F (by omega)
  · refine ⟨1, fun F hF => ?_⟩
    obtain ⟨F, rfl⟩ : ∃ F', F = F' + 1 := ⟨F - 1, by omega⟩
    rw [processNotes_head_aborted hn]
    trivial

theorem processNotes_not_aborted : ∀ F g q, WellBuilt g → (∀ n ∈ q, Dispatchable g n) →
    processNotes F g q ≠ .aborted
  | 0, _, _, _, _ => nofun
  | _ + 1, _, [], _, _ => nofun
  | F + 1, g, note :: q, wb, hq => by
    simp only [processNotes]
    refine not_aborted_bind (graphProcessNote_not_aborted wb.abortFree F note
      (hq note (List.mem_cons_self _ _))) fun ⟨g₁, new⟩ h => ?_
    have hs := graphProcessNote_sameShape g F note _ h
    refine processNotes_not_aborted F g₁ _ (wb.of_sameShape hs) fun n hn => ?_
    rcases List.mem_append.mp hn with hn | hn
    · exact (hq n (List.mem_cons_of_mem _ hn)).of_sameShape hs
    · exact ((graphProcessNote_queues wb.linked F note _ h n hn).dispatchable wb.unique).of_sameShape hs

/-- The states note processing reaches: the graph `graph_setup_all` builds, once its question to
    every instance has been answered, and every graph a processed note leaves. -/
inductive Reached (repo : S16Repository) (order : List S16Service) : Graph → Prop
  | setup {fuel : Nat} {g : Graph} {notes : List S16Note} :
    setupPass repo fuel (installAll ⟨[]⟩ order) 0 = .done g → initialNotes g fuel = .done notes →
    Reached repo order g
  | note {g g' : Graph} {fuel : Nat} {n : S16Note} {new : List S16Note} : Reached repo order g →
    graphProcessNote g fuel n = .done (g', new) → Reached repo order g'

theorem Reached.wellBuilt {repo : S16Repository} {order : List S16Service}
    (wf : ∀ svc ∈ order, svc.WellFormed) (h : Reached repo order g) : WellBuilt g := by
  induction h with
  | setup built initial =>
    have core := (built_setupPass repo _ _ 0 (built_installAll .empty wf) _ built).buildInv.core
    exact ⟨core.linked, core.unique, core.abortFree initial⟩
  | note _ processed ih => exact ih.of_sameShape (graphProcessNote_sameShape _ _ _ _ processed)

theorem processNotes_returns (wb : WellBuilt g) (hc : Acyclic g) {q : List S16Note}
    (hq : ∀ n ∈ q, Dispatchable g n) : ∃ N g', ∀ F ≥ N, processNotes F g q = .done g' := by
  obtain ⟨N, hN⟩ := processNotes_terminates wb hc g q (.refl g)
  obtain ⟨g', done⟩ := exists_done (hN N le_rfl) (processNotes_not_aborted N g q wb hq)
  exact ⟨N, g', fun F hF =>
    ((below_of_le (processNotes_below · g q) hF).eq (hN N le_rfl)).symm.trans done⟩

/-- From every reached state of an acyclic graph the drain of any queue stops under every large
    enough budget, and it empties the queue when the handlers can take every note. -/
theorem drain_ends {repo : S16Repository} {order : List S16Service}
    (wf : ∀ svc ∈ order, svc.WellFormed) (reached : Reached repo order g) (acyclic : Acyclic g)
    (q : List S16Note) :
    (∃ N, ∀ F ≥ N, (processNotes F g q).Finished) ∧
      ((∀ n ∈ q, Dispatchable g n) → ∃ N g', ∀ F ≥ N, processNotes F g q = .done g') :=
  ⟨processNotes_terminates (reached.wellBuilt wf) acyclic g q (.refl g),
    fun hq => processNotes_returns (reached.wellBuilt wf) acyclic hq⟩

theorem serviceGroupGraph_reached : Reached serviceGroupRepo serviceGroupRepo serviceGroupGraph :=
  @Reached.setup _ _ 10 _
    [.stateChange .offline ⟨"a", some "i"⟩ 0, .stateChange .offline ⟨"b", some "i"⟩ 0]
    (by decide) (by decide)

theorem serviceGroupGraph_acyclic : Acyclic serviceGroupGraph :=
  acyclic_of_rank _ (fun v => [1, 0, 1, 0].getD v 0) (by decide)

theorem setup_drain_ends_on_service_group :
    (∀ svc ∈ serviceGroupRepo, svc.WellFormed) ∧
      Reached serviceGroupRepo serviceGroupRepo serviceGroupGraph ∧ Acyclic serviceGroupGraph ∧
      (∃ N, ∀ F ≥ N, (processNotes F serviceGroupGraph
        [.stateChange .offline ⟨"a", some "i"⟩ 0, .stateChange .offline ⟨"b", some "i"⟩ 0]).Finished) ∧
      (∀ n ∈ [S16Note.stateChange .offline ⟨"a", some "i"⟩ 0, .stateChange .offline ⟨"b", some "i"⟩ 0],
        Dispatchable serviceGroupGraph n) ∧
      ∃ N g', ∀ F ≥ N, processNotes F serviceGroupGraph
        [.stateChange .offline ⟨"a", some "i"⟩ 0, .stateChange .offline ⟨"b", some "i"⟩ 0] = .done g' := by
  have wf : ∀ svc ∈ serviceGroupRepo, svc.WellFormed := by decide
  have reached := serviceGroupGraph_reached
  have acyclic := serviceGroupGraph_acyclic
  have dispatchable : ∀ n ∈ [S16Note.stateChange .offline ⟨"a", some "i"⟩ 0,
      .stateChange .offline ⟨"b", some "i"⟩ 0], Dispatchable serviceGroupGraph n := by decide
  exact ⟨wf, reached, acyclic, (drain_ends wf reached acyclic _).1, dispatchable,
    (drain_ends wf reached acyclic _).2 dispatchable⟩

/-- A state change about `c:i`, a path the services of `serviceGroupRepo` do not have, stops the
    first drain at a null dereference under every budget: the queue is never emptied. -/
theorem unknown_path_drain_aborts :
    Reached serviceGroupRepo serviceGroupRepo serviceGroupGraph ∧ Acyclic serviceGroupGraph ∧
      vtxFindByPath serviceGroupGraph ⟨"c", some "i"⟩ = none ∧
      ∀ F, processNotes (F + 1) serviceGroupGraph [.stateChange .offline ⟨"c", some "i"⟩ 0] =
        .aborted :=
  ⟨serviceGroupGraph_reached, serviceGroupGraph_acyclic, by decide,
    processNotes_head_aborted (by decide) []⟩

end Graphd

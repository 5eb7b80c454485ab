import ServiceManager.Graphd.Requires

/-!
What the engine does only when it is asked. A handler writes the vertex its note names and, for
A_DISABLE, the `to_offline` marks of instances above it: every other field of every other vertex
stays as it was (`NoteEffect.vtx`). What it queues are SC_ONLINE and SC_OFFLINE notes, and
SC_DISABLED only for a vertex that is to be disabled (`NoteEffect.queued`). So across a whole
drain `is_enabled` changes only at the vertices an A_DISABLE or A_ENABLE of the queue names, and a
vertex becomes Disabled only if it was to be disabled already or an A_DISABLE or SC_DISABLED of
the queue names it.
-/

namespace Graphd

variable {g : Graph}

/-- What a note writes to the vertex it names, `to_offline` apart. -/
def noteWrite : S16Note → Vertex → Vertex
  | .adminReq .disable _ _ => disableWrite
  | .adminReq .enable _ _ => enableWrite
  | .stateChange type _ _ => stateChangeWrite type
  | _ => id

def S16Note.asksDisable : S16Note → Bool
  | .adminReq .disable _ _ | .stateChange .disabled _ _ => true
  | _ => false

def S16Note.togglesEnabled : S16Note → Bool
  | .adminReq .disable _ _ | .adminReq .enable _ _ => true
  | _ => false

theorem noteWrite_undisabled {n : S16Note} (h : n.asksDisable = false) {x : Vertex}
    (kept : x.toDisable = false) :
    (noteWrite n x).toDisable = false ∧
      ((noteWrite n x).state = .disabled → x.state = .disabled) := by
  rcases n with ⟨_ | _ | _, _, _⟩ | ⟨_ | _ | _ | _ | _, _, _⟩ | _ <;>
    simp_all [noteWrite, enableWrite, stateChangeWrite, S16Note.asksDisable]

theorem noteWrite_isEnabled {n : S16Note} (h : n.togglesEnabled = false) (x : Vertex) :
    (noteWrite n x).isEnabled = x.isEnabled := by
  rcases n with ⟨_ | _ | _, _, _⟩ | ⟨_ | _ | _ | _ | _, _, _⟩ | _ <;>
    simp_all [noteWrite, stateChangeWrite, S16Note.togglesEnabled]

theorem vtx_modify_named {p : S16Path} {v : Nat} (hv : vtxFindByPath g p = some v)
    (f : Vertex → Vertex) (x : Nat) :
    (g.modify v f).vtx x = if vtxFindByPath g p = some x then f (g.vtx x) else g.vtx x := by
  rw [Graph.vtx_modify, hv]
  by_cases e : v = x
  · simp [← e, vtxFindByPath_lt_size hv]
  · simp [e]

theorem NoteEffect.vtx {n : S16Note} {p : Graph × List S16Note} (h : NoteEffect g n p) (x : Nat) :
    p.1.vtx x = { (if vtxFindByPath g n.path = some x then noteWrite n (g.vtx x) else g.vtx x) with
      toOffline := (p.1.vtx x).toOffline } := by
  cases h with
  | disable hv marks => rw [marks.frame x, vtx_modify_named hv]; rfl
  | enable hv | online hv | offlineMarked hv | offlineUnmarked hv | disabled hv =>
    rw [vtx_modify_named hv]; rfl
  | refresh | rreq => split <;> rfl
  | unchanged _ type => rcases type with rfl | rfl <;> split <;> rfl

theorem NoteEffect.sameShape {n : S16Note} {p : Graph × List S16Note} (h : NoteEffect g n p) :
    SameShape g p.1 := by
  cases h with
  | disable _ marks =>
    exact (sameShape_modify g _ (f := disableWrite) fun _ => rfl).trans marks.sameShape
  | enable => exact sameShape_modify g _ fun _ => rfl
  | online | offlineMarked | offlineUnmarked | disabled =>
    exact sameShape_modify g _ (stateChangeWrite_shape _)
  | refresh | unchanged | rreq => exact .refl g

theorem NoteEffect.queued {n : S16Note} {g₁ : Graph} {new : List S16Note}
    (h : NoteEffect g n (g₁, new)) {m : S16Note} (hm : m ∈ new) :
    m.togglesEnabled = false ∧ (m.asksDisable = false ∨
      ∃ v, vtxFindByPath g n.path = some v ∧ (g.vtx v).toDisable = true ∧
        m.path = (g.vtx v).path) := by
  rcases h.queued_cases hm with ⟨_, _, rfl⟩ | ⟨_, _, rfl, -⟩ | ⟨v, _, hv, todo, rfl⟩
  · exact ⟨rfl, .inl rfl⟩
  · exact ⟨rfl, .inl rfl⟩
  · exact ⟨rfl, .inr ⟨v, hv, todo, rfl⟩⟩

/-! ### Disabling -/

section Runs

variable {g' : Graph} {q : List S16Note} {v : Nat}

theorem NoteEffect.undisabled {n : S16Note} {g₁ : Graph} {new : List S16Note}
    (h : NoteEffect g n (g₁, new)) (hu : UniquePaths g) (kept : (g.vtx v).toDisable = false)
    (unasked : n.asksDisable = true → vtxFindByPath g n.path ≠ some v) :
    ((g₁.vtx v).toDisable = false ∧ ((g₁.vtx v).state = .disabled → (g.vtx v).state = .disabled)) ∧
      ∀ m ∈ new, m.asksDisable = true → vtxFindByPath g₁ m.path ≠ some v := by
  refine ⟨?_, fun m hm asks named => ?_⟩
  · rw [h.vtx v]
    split
    · next named =>
      exact noteWrite_undisabled (Bool.eq_false_iff.mpr fun asks => unasked asks named) kept
    · exact ⟨kept, id⟩
  · obtain ⟨-, plain | ⟨w, hw, todo, path⟩⟩ := h.queued hm
    · rw [plain] at asks
      cases asks
    · rw [h.sameShape.vtxFindByPath, path, vtxFindByPath_vtx hu (vtxFindByPath_lt_size hw),
        Option.some.injEq] at named
      subst named
      rw [kept] at todo
      cases todo

/-- A run of the abstract engine keeps a vertex that is not to be disabled, and that no note of
    the queue asks to disable, out of Disabled unless it started there. -/
theorem Settles.undisabled (h : Settles g q g') (hu : UniquePaths g)
    (kept : (g.vtx v).toDisable = false)
    (unasked : ∀ n ∈ q, n.asksDisable = true → vtxFindByPath g n.path ≠ some v) :
    (g'.vtx v).toDisable = false ∧
      ((g'.vtx v).state = .disabled → (g.vtx v).state = .disabled) := by
  induction h with
  | empty => exact ⟨kept, id⟩
  | turn effect _ ih =>
    have shape := effect.sameShape
    obtain ⟨⟨kept₁, back⟩, queued⟩ :=
      effect.undisabled hu kept (unasked _ (List.mem_cons_self _ _))
    refine (ih (shape.uniquePaths hu) kept₁ fun m hm => ?_).imp_right (back ∘ ·)
    rcases List.mem_append.mp hm with hm | hm
    · rw [shape.vtxFindByPath]
      exact unasked m (List.mem_cons_of_mem _ hm)
    · exact queued m hm

/-- A drain that returns leaves a vertex that was not to be disabled, and that no A_DISABLE or
    SC_DISABLED of the queue names, not to be disabled, and Disabled only if it was before. -/
theorem drain_disables_only_on_request {F : Nat} (h : processNotes F g q = .done g')
    (hu : UniquePaths g) (kept : (g.vtx v).toDisable = false)
    (unasked : ∀ n ∈ q, n.asksDisable = true → vtxFindByPath g n.path ≠ some v) :
    (g'.vtx v).toDisable = false ∧ ((g'.vtx v).state = .disabled → (g.vtx v).state = .disabled) :=
  (processNotes_settles h).undisabled hu kept unasked

/-! ### Enabling -/

theorem NoteEffect.keepsEnabled {n : S16Note} {g₁ : Graph} {new : List S16Note}
    (h : NoteEffect g n (g₁, new))
    (unasked : n.togglesEnabled = true → vtxFindByPath g n.path ≠ some v) :
    (g₁.vtx v).isEnabled = (g.vtx v).isEnabled ∧ ∀ m ∈ new, m.togglesEnabled = false := by
  refine ⟨?_, fun m hm => (h.queued hm).1⟩
  rw [h.vtx v]
  split
  · next named => exact noteWrite_isEnabled (Bool.eq_false_iff.mpr fun set => unasked set named) _
  · rfl

theorem Settles.keepsEnabled (h : Settles g q g')
    (unasked : ∀ n ∈ q, n.togglesEnabled = true → vtxFindByPath g n.path ≠ some v) :
    (g'.vtx v).isEnabled = (g.vtx v).isEnabled := by
  induction h with
  | empty => rfl
  | turn effect _ ih =>
    obtain ⟨kept, queued⟩ := effect.keepsEnabled (unasked _ (List.mem_cons_self _ _))
    refine (ih fun m hm set => ?_).trans kept
    rcases List.mem_append.mp hm with hm | hm
    · rw [effect.sameShape.vtxFindByPath]
      exact unasked m (List.mem_cons_of_mem _ hm) set
    · rw [queued m hm] at set
      cases set

/-- On every graph, a drain that returns leaves `is_enabled` of every vertex that no A_DISABLE or
    A_ENABLE of the queue names as it was. -/
theorem drain_sets_enabled_only_on_request {F : Nat} (h : processNotes F g q = .done g')
    (unasked : ∀ n ∈ q, n.togglesEnabled = true → vtxFindByPath g n.path ≠ some v) :
    (g'.vtx v).isEnabled = (g.vtx v).isEnabled :=
  (processNotes_settles h).keepsEnabled unasked

end Runs

theorem stopOrder_disable_drains :
    UniquePaths stopOrderOnline ∧ ∃ F g', processNotes F stopOrderOnline
      [.adminReq .disable ⟨"v", some "i"⟩ 0] = .done g' := by
  obtain ⟨wb, acyclic⟩ := stopOrderOnline_wellBuilt
  obtain ⟨N, g', drained⟩ :=
    processNotes_returns wb acyclic (q := [.adminReq .disable ⟨"v", some "i"⟩ 0]) (by decide)
  exact ⟨wb.unique, N, g', drained N le_rfl⟩

theorem stopOrder_disable_leaves_dependent_undisabled :
    ∃ F g', processNotes F stopOrderOnline [.adminReq .disable ⟨"v", some "i"⟩ 0] = .done g' ∧
      UniquePaths stopOrderOnline ∧ (stopOrderOnline.vtx 3).toDisable = false ∧
      (∀ n ∈ [S16Note.adminReq .disable ⟨"v", some "i"⟩ 0],
        n.asksDisable = true → vtxFindByPath stopOrderOnline n.path ≠ some 3) ∧
      (g'.vtx 3).toDisable = false ∧
      ((g'.vtx 3).state = .disabled → (stopOrderOnline.vtx 3).state = .disabled) := by
  obtain ⟨hu, F, g', drained⟩ := stopOrder_disable_drains
  have unasked : ∀ n ∈ [S16Note.adminReq .disable ⟨"v", some "i"⟩ 0],
      n.asksDisable = true → vtxFindByPath stopOrderOnline n.path ≠ some 3 := by decide
  exact ⟨F, g', drained, hu, rfl, unasked, drain_disables_only_on_request drained hu rfl unasked⟩

theorem stopOrder_disable_keeps_dependent_enabled :
    ∃ F g', processNotes F stopOrderOnline [.adminReq .disable ⟨"v", some "i"⟩ 0] = .done g' ∧
      (∀ n ∈ [S16Note.adminReq .disable ⟨"v", some "i"⟩ 0],
        n.togglesEnabled = true → vtxFindByPath stopOrderOnline n.path ≠ some 3) ∧
      (g'.vtx 3).isEnabled = (stopOrderOnline.vtx 3).isEnabled := by
  obtain ⟨-, F, g', drained⟩ := stopOrder_disable_drains
  have unasked : ∀ n ∈ [S16Note.adminReq .disable ⟨"v", some "i"⟩ 0],
      n.togglesEnabled = true → vtxFindByPath stopOrderOnline n.path ≠ some 3 := by decide
  exact ⟨F, g', drained, unasked, drain_sets_enabled_only_on_request drained unasked⟩

end Graphd

import ReactiveKernel.Proofs.State.Enclosure
import ReactiveKernel.Proofs.Unfolding.Plan

/-!
# Planting trees

Closures for all nodes of some trees are made one after another, each before those below it. The new
closures are the rows of the trees, the holder gets the roots as its last children, and nothing else
changes. When the closure goes that everything was planted below, only the counter tells that
something was there.
-/

namespace ReactiveKernel

variable {κ : Type}

/-- Of a repeated name the last value counts. -/
theorem FieldMap.getElem?_insertAll (fields : FieldMap) (params : List (String × Value))
    (name : String) :
    (fields.insertAll params)[name]? = (params.reverse.lookup name).or fields[name]? := by
  induction params using List.reverseRecOn with
  | nil => rfl
  | append_singleton params p ih =>
    obtain ⟨key, value⟩ := p
    have last : fields.insertAll (params ++ [(key, value)]) =
        (fields.insertAll params).insert key value := List.foldl_append
    rw [last, Std.ExtTreeMap.getElem?_insert, ih, List.reverse_concat]
    by_cases is : key = name
    · simp [is]
    · have other : (name == key) = false := beq_eq_false_iff_ne.mpr (Ne.symm is)
      simp [is, List.lookup_cons, other]

namespace State

/-- The state with closures for all nodes of trees beside each other. -/
def plant : Option ClosureId → Grove → State κ → State κ
  | _, .none, s => s
  | parent, .tree template below beside, s =>
    plant parent beside (plant (some s.nextClosure) below (s.addClosure template parent))

variable {s : State κ} {parent : Option ClosureId} {f : Grove}

/-- Only the closures and their counter change. -/
theorem plant_eq (s : State κ) (parent : Option ClosureId) (f : Grove) :
    s.plant parent f = { s.spend f.size with closures := (s.plant parent f).closures } := by
  induction f generalizing s parent with
  | none => rfl
  | tree template below beside ih ih' =>
    rw [plant, ih', ih]
    simp only [spend, addClosure, Grove.size, Nat.add_assoc]

@[simp] theorem counters_plant (s : State κ) (parent : Option ClosureId) (f : Grove) :
    (s.plant parent f).counters.closures = s.counters.closures + f.size := by
  rw [plant_eq]
  rfl

@[simp] theorem generation_plant (s : State κ) (parent : Option ClosureId) (f : Grove) :
    (s.plant parent f).generation = s.generation := by
  rw [plant_eq]
  rfl

@[simp] theorem templates_plant (s : State κ) (parent : Option ClosureId) (f : Grove) :
    (s.plant parent f).templates = s.templates := by
  rw [plant_eq]
  rfl

/-- Of the closures that were there, only the holder of the trees changes. -/
theorem getElem?_closures_plant (f : Grove) {c : ClosureId} (old : c.index < s.counters.closures) :
    (s.plant parent f).closures[c]? = (s.closures[c]?).map fun x =>
      if parent = some c then { x with children := x.children ++ f.roots s.counters.closures }
      else x := by
  induction f generalizing s parent with
  | none => simp [plant, Grove.roots]
  | tree template below beside ih ih' =>
    have new : ¬ s.nextClosure = c := by
      rintro rfl
      exact Nat.lt_irrefl _ old
    have new' : ¬ (⟨s.counters.closures⟩ : ClosureId) = c := new
    have made : c.index < (s.addClosure template parent).counters.closures := Nat.lt_succ_of_lt old
    rw [plant, ih' (by simpa using Nat.lt_add_right below.size made), ih made,
      getElem?_closures_addClosure, if_neg new]
    cases s.closures[c]? with
    | none => rfl
    | some x =>
      by_cases holds : parent = some c
      · simp [holds, new', Grove.roots, addClosure, nextClosure]
      · simp [holds, new', nextClosure]

/-- The new closures are those that stand for the nodes. -/
theorem getElem?_closures_plant_row (bounded : ∀ p, parent = some p → p.index < s.counters.closures)
    {row : ClosureId × Closure} (h : row ∈ f.rows s.generation parent s.counters.closures) :
    (s.plant parent f).closures[row.1]? = some row.2 := by
  induction f generalizing s parent with
  | none => cases h
  | tree template below beside ih ih' =>
    let t := s.addClosure template parent
    let u := t.plant (some s.nextClosure) below
    have start : u.counters.closures = s.counters.closures + 1 + below.size := counters_plant ..
    have later {c : ClosureId} (new : s.counters.closures ≤ c.index)
        (old : c.index < u.counters.closures) :
        (u.plant parent beside).closures[c]? = u.closures[c]? := by
      have other : ¬ parent = some c := fun is => Nat.not_le.mpr (bounded c is) new
      rw [getElem?_closures_plant beside old]
      simp [other]
    rcases List.mem_cons.mp h with rfl | h
    · have made : t.closures[s.nextClosure]? = some (.create template parent s.generation) := by
        rw [getElem?_closures_addClosure, if_pos rfl]
      have first : s.nextClosure.index < t.counters.closures := Nat.lt_succ_self _
      change (u.plant parent beside).closures[s.nextClosure]? = _
      rw [later (Nat.le_refl _) (start ▸ Nat.lt_of_lt_of_le first (Nat.le_add_right _ _)),
        getElem?_closures_plant below first, made]
      simp [Closure.create, t, addClosure, nextClosure]
    · rcases List.mem_append.mp h with under | next
      · have range := Grove.mem_rows under
        change (u.plant parent beside).closures[row.1]? = _
        rw [later (Nat.le_of_succ_le range.1) (start ▸ range.2)]
        refine ih (fun p is => ?_) under
        cases is
        exact Nat.lt_succ_self _
      · refine ih' (fun p is => ?_) ?_
        · rw [start]
          have := bounded p is
          omega
        · rw [start, generation_plant]
          exact next

/-- Nothing else is new. -/
theorem mem_closures_plant {c : ClosureId} (h : c ∈ (s.plant parent f).closures) :
    c ∈ s.closures ∨
      s.counters.closures ≤ c.index ∧ c.index < s.counters.closures + f.size := by
  induction f generalizing s parent with
  | none => exact .inl h
  | tree template below beside ih ih' =>
    have start : (s.addClosure template parent).counters.closures = s.counters.closures + 1 := rfl
    rcases ih' h with there | ⟨ge, lt⟩
    · rcases ih there with there | ⟨ge, lt⟩
      · obtain ⟨y, hy⟩ := exists_closure there
        rw [getElem?_closures_addClosure] at hy
        split at hy
        · next is =>
          subst is
          simp only [nextClosure, Grove.size]
          omega
        · obtain ⟨x, hx, _⟩ := Option.map_eq_some_iff.mp hy
          exact .inl (mem_closures hx)
      · simp only [start, Grove.size] at ge lt ⊢
        omega
    · simp only [counters_plant, start, Grove.size] at ge lt ⊢
      omega

/-! Planting keeps the state consistent, and it is undone when what it was below goes. -/

/-- What was there stays. -/
theorem Issued.mem_closures_plant (issued : s.Issued) (parent : Option ClosureId) (f : Grove)
    {c : ClosureId} (live : c ∈ s.closures) : c ∈ (s.plant parent f).closures := by
  obtain ⟨x, hx⟩ := exists_closure live
  rw [Std.ExtTreeMap.mem_iff_isSome_getElem?,
    getElem?_closures_plant f (issued.closures c x hx), hx]
  rfl

/-- A state is consistent when trees are planted below a live closure or as roots. -/
theorem Consistent.plant (consistent : s.Consistent) (live : s.HolderLive parent) (f : Grove) :
    (s.plant parent f).Consistent := by
  induction f generalizing s parent with
  | none => exact consistent
  | tree template below beside ih ih' =>
    have made := consistent.addClosure template live
    have first : (s.addClosure template parent).HolderLive (some s.nextClosure) := by
      rintro c ⟨⟩
      exact Std.ExtTreeMap.mem_insert_self
    refine ih' (ih made first) fun c is => ?_
    have old := consistent.issued.mem_closures_plant parent (.tree template .none .none) (live c is)
    exact made.issued.mem_closures_plant _ below old

/-- It does not matter how many identities were given out besides. -/
theorem Consistent.spend (consistent : s.Consistent) (n : Nat) : (s.spend n).Consistent where
  indexed := consistent.indexed.transfer rfl (fun _ => rfl) (fun _ => rfl) fun _ live => live
  forest := (SameTables.tree ⟨rfl, rfl, rfl⟩ : s.SameTree (s.spend n)).forest consistent.forest
  issued := { consistent.issued with
    closures := fun c x hx => Nat.lt_add_right n (consistent.issued.closures c x hx) }

variable {s₀ : State κ} {c p : ClosureId}

/-- What is planted below a closure that encloses all that is new is enclosed too. -/
theorem Encloses.plant (h : s₀.Encloses s c) (consistent : s.Consistent) (live : p ∈ s.closures)
    (new : c.index ≤ p.index) (f : Grove) : s₀.Encloses (s.plant (some p) f) c := by
  induction f generalizing s p with
  | none => exact h
  | tree template below beside ih ih' =>
    obtain ⟨x, hx⟩ := exists_closure live
    have holder : s.HolderLive (some p) := by
      rintro _ ⟨⟩
      exact live
    have later : c.index ≤ s.nextClosure.index :=
      Nat.le_of_lt (Nat.lt_of_le_of_lt new (consistent.issued.closures p x hx))
    have made := consistent.addClosure template holder
    have first : s.nextClosure ∈ (s.addClosure template (some p)).closures :=
      Std.ExtTreeMap.mem_insert_self
    have encloses := h.addClosure consistent template holder (.inr ⟨p, rfl, h.inside p live new⟩)
    have old := consistent.issued.mem_closures_plant (some p) (.tree template .none .none) live
    refine ih' (ih encloses made first later) (made.plant ?_ below)
      (made.issued.mem_closures_plant _ below old) new
    rintro _ ⟨⟩
    exact first

/-! The closure at the top. -/

variable {template : String} {params : List (String × Value)}

/-- Only the closures and their counter change when a closure is made and trees are planted. -/
theorem plant_enroll_eq (s : State κ) (template : String) (parent holder : Option ClosureId)
    (params : List (String × Value)) (f : Grove) :
    (s.enroll template parent params).plant holder f = { s.spend (1 + f.size) with
      closures := ((s.enroll template parent params).plant holder f).closures } := by
  rw [plant_eq, enroll_eq]
  simp only [spend, Nat.add_assoc]

/-- When the closure goes below which everything was planted, the state is as before, but for the
counter. -/
theorem Consistent.without_planted (consistent : s.Consistent) (live : s.HolderLive parent)
    (f : Grove) (m : Nat) {u : State κ}
    (planted : u = ((s.enroll template parent params).plant (some s.nextClosure) f).spend m) :
    u.Consistent ∧ u.without (u.Below s.nextClosure) = s.spend (1 + f.size + m) := by
  have made : (s.addClosure template parent).closures[s.nextClosure]? =
      some (.create template parent s.generation) := by
    rw [getElem?_closures_addClosure, if_pos rfl]
  have there : s.nextClosure ∈ (s.enroll template parent params).closures := by
    rw [Std.ExtTreeMap.mem_iff_isSome_getElem?, getElem?_closures_enroll, if_pos rfl]
    rfl
  have enrolled : (s.enroll template parent params).Consistent := consistent.enroll live
  have encloses : s.Encloses (s.enroll template parent params) s.nextClosure :=
    ((Encloses.refl consistent).addClosure consistent template live (.inl rfl)).updateClosure
      (fun _ => .self made) fun _ => rfl
  have grown := encloses.plant enrolled there (Nat.le_refl _) f
  have tables := (grown.same (t := u) ⟨planted ▸ rfl, planted ▸ rfl, planted ▸ rfl⟩).outside
  have shape : u = { s.spend (1 + f.size + m) with closures := u.closures } := by
    rw [planted, plant_enroll_eq]
    simp only [State.spend, Nat.add_assoc]
  have settings := congrArg State.settings shape
  have counters := congrArg State.counters shape
  have schedule := congrArg State.schedule shape
  have templates := congrArg State.templates shape
  have inbox := congrArg State.inbox shape
  refine ⟨planted ▸ (enrolled.plant ?_ f).spend m, ?_⟩
  · rintro _ ⟨⟩
    exact there
  · exact ext_tables settings counters (fun d => congrArg (·[d]?) tables.datums)
      (fun c => congrArg (·[c]?) tables.closures) tables.edges schedule templates inbox

/-- What a state is after an instantiation without host code: the new closure, below it the closures
of a grove, and nothing else. -/
structure Unfolds (s : State κ) (template : String) (parent : Option ClosureId)
    (params : List (String × Value)) (below : Grove) (t : State κ) : Prop where
  /-- Besides the closures, only their counter changes. -/
  rest : t = { s.spend (1 + below.size) with closures := t.closures }
  /-- The new closure has the roots below it as its children, and of each parameter the last
  value. -/
  top : ∃ fields : FieldMap, t.closures[s.nextClosure]? =
      some { Closure.create template parent s.generation with
        children := below.roots (s.counters.closures + 1), fields } ∧
    ∀ name, fields[name]? = params.reverse.lookup name
  /-- Below it are the closures of the grove. -/
  new : ∀ row ∈ below.rows s.generation (some s.nextClosure) (s.counters.closures + 1),
    t.closures[row.1]? = some row.2
  /-- They have consecutive numbers. -/
  numbered : (below.rows s.generation (some s.nextClosure) (s.counters.closures + 1)).map
    (·.1.raw) = (List.range below.size).map fun i => s.nextClosure.raw + 2 * (i + 1)
  /-- The parent gets the closure as its last child. -/
  holder : ∀ p x, parent = some p → s.closures[p]? = some x →
    t.closures[p]? = some { x with children := x.children ++ [s.nextClosure] }
  /-- The other closures stay as they are. -/
  kept : ∀ c x, parent ≠ some c → s.closures[c]? = some x → t.closures[c]? = some x
  /-- There are no others. -/
  only : ∀ c ∈ t.closures, c ∈ s.closures ∨ c = s.nextClosure ∨
    c ∈ (below.rows s.generation (some s.nextClosure) (s.counters.closures + 1)).map (·.1)

/-- A closure that was there stays, and the parent gets the new one as its last child. -/
theorem Issued.getElem?_closures_plant_enroll (issued : s.Issued) (below : Grove) {c : ClosureId}
    {x : Closure} (hx : s.closures[c]? = some x) :
    ((s.enroll template parent params).plant (some s.nextClosure) below).closures[c]? =
      some (if parent = some c then { x with children := x.children ++ [s.nextClosure] }
        else x) := by
  have older := issued.closures c x hx
  have start : (s.enroll template parent params).counters.closures = s.counters.closures + 1 :=
    congrArg (·.counters.closures) (enroll_eq s template parent params)
  have new : ¬ s.nextClosure = c := by
    rintro rfl
    exact Nat.lt_irrefl _ older
  rw [getElem?_closures_plant below (start ▸ Nat.lt_succ_of_lt older)]
  simp [getElem?_closures_enroll, getElem?_closures_addClosure, new, hx]

/-- Planting trees below a closure with parameters unfolds them. -/
theorem Consistent.unfolds (consistent : s.Consistent) (below : Grove) :
    s.Unfolds template parent params below
      ((s.enroll template parent params).plant (some s.nextClosure) below) := by
  let t := s.enroll template parent params
  have start : t.counters.closures = s.counters.closures + 1 :=
    congrArg (·.counters.closures) (enroll_eq s template parent params)
  have generation : t.generation = s.generation :=
    congrArg (·.generation) (enroll_eq s template parent params)
  have bounded : ∀ p, some s.nextClosure = some p → p.index < t.counters.closures := by
    rintro _ ⟨⟩
    exact start ▸ Nat.lt_succ_self _
  have first : s.nextClosure.index < t.counters.closures := bounded _ rfl
  have rows := below.map_fst_rows s.generation (some s.nextClosure) (s.counters.closures + 1)
  refine ⟨?_, ⟨FieldMap.insertAll ∅ params, ?_, fun name => ?_⟩, fun row h => ?_, ?_, ?_, ?_, ?_⟩
  · exact plant_enroll_eq ..
  · rw [getElem?_closures_plant below first, getElem?_closures_enroll, if_pos rfl]
    simp [Closure.create, start]
  · simp [FieldMap.getElem?_insertAll]
  · refine getElem?_closures_plant_row bounded ?_
    rw [generation, start]
    exact h
  · exact below.map_raw_rows s.generation (some s.nextClosure) s.nextClosure
  · intro p x is hx
    rw [consistent.issued.getElem?_closures_plant_enroll below hx, if_pos is]
  · intro c x other hx
    rw [consistent.issued.getElem?_closures_plant_enroll below hx, if_neg other]
  · intro c h
    rw [rows]
    rcases mem_closures_plant h with there | inside
    · obtain ⟨x, hx⟩ := exists_closure there
      rw [getElem?_closures_enroll, getElem?_closures_addClosure] at hx
      split at hx
      · next is => exact .inr (.inl is.symm)
      · obtain ⟨y, hy, _⟩ := Option.map_eq_some_iff.mp hx
        exact .inl (mem_closures hy)
    · refine .inr (.inr (List.mem_map.mpr ⟨c.index, ?_, rfl⟩))
      exact List.mem_range'_1.mpr (start ▸ inside)

end State

end ReactiveKernel

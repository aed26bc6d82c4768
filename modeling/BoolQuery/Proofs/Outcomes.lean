/-! Steps that may fail, and entries that are looked up by their names. -/
namespace BoolQuery

section Outcomes

variable {fault other first second : Type} {report : fault → other} {outcome : Except fault first}

theorem bind_eq_ok_iff {next : first → Except fault second} {result : second} :
    outcome >>= next = .ok result ↔ ∃ value, outcome = .ok value ∧ next value = .ok result := by
  cases outcome with
  | error cause => simp [bind, Except.bind]
  | ok value => simp [bind, Except.bind]

theorem map_eq_ok_iff {function : first → second} {result : second} :
    function <$> outcome = .ok result ↔ ∃ value, outcome = .ok value ∧ function value = result := by
  cases outcome with
  | error cause => simp [Functor.map, Except.map]
  | ok value => simp [Functor.map, Except.map]

theorem reported_ok_iff {found : first} :
    outcome.mapError report = .ok found ↔ outcome = .ok found := by
  cases outcome with
  | ok value =>
    constructor
    · intro same
      cases same
      rfl
    · intro same
      cases same
      rfl
  | error cause =>
    constructor
    · intro same
      cases same
    · intro same
      cases same

theorem reported_error_iff {error : other} :
    outcome.mapError report = .error error ↔
      ∃ cause, outcome = .error cause ∧ error = report cause := by
  cases outcome with
  | ok value =>
    constructor
    · intro same
      cases same
    · rintro ⟨cause, same, -⟩
      cases same
  | error cause =>
    constructor
    · intro same
      cases same
      exact ⟨cause, rfl, rfl⟩
    · rintro ⟨_, same, rfl⟩
      cases same
      rfl

end Outcomes

section Sequences

variable {item fault result : Type} {passes stops : item → Prop} {step : item → Except fault result}

/-- The first item of a list that stops, behind items that pass, is its head or comes behind a head that
passes. -/
theorem first_cons_iff {head : item} {rest : List item} :
    (∃ front here behind, head :: rest = front ++ here :: behind ∧
        (∀ earlier ∈ front, passes earlier) ∧ stops here) ↔
      stops head ∨ passes head ∧ ∃ front here behind, rest = front ++ here :: behind ∧
        (∀ earlier ∈ front, passes earlier) ∧ stops here := by
  constructor
  · rintro ⟨front, here, behind, split, passed, stopped⟩
    cases front with
    | nil =>
      cases split
      exact Or.inl stopped
    | cons earlier front =>
      cases split
      exact Or.inr ⟨passed _ List.mem_cons_self, front, here, behind, rfl,
        fun one member => passed one (List.mem_cons_of_mem _ member), stopped⟩
  · rintro (stopped | ⟨passed, front, here, behind, rfl, others, stopped⟩)
    · exact ⟨[], head, rest, rfl, by simp, stopped⟩
    · exact ⟨head :: front, here, behind, rfl, List.forall_mem_cons.mpr ⟨passed, others⟩, stopped⟩

theorem mapM_ok_iff {items : List item} :
    (∃ results, items.mapM step = .ok results) ↔ ∀ one ∈ items, ∃ result, step one = .ok result := by
  induction items with
  | nil => simp [pure, Except.pure]
  | cons head rest ih =>
    rw [List.forall_mem_cons, ← ih, List.mapM_cons]
    simp only [bind_eq_ok_iff]
    constructor
    · rintro ⟨_, value, first, values, others, -⟩
      exact ⟨⟨value, first⟩, values, others⟩
    · rintro ⟨⟨value, first⟩, values, others⟩
      exact ⟨_, value, first, values, others, rfl⟩

/-- Steps that are taken one after the other fail as the first of them that fails. -/
theorem mapM_error_iff {items : List item} {cause : fault} : items.mapM step = .error cause ↔
    ∃ front here behind, items = front ++ here :: behind ∧
      (∀ earlier ∈ front, ∃ result, step earlier = .ok result) ∧ step here = .error cause := by
  induction items with
  | nil => simp [pure, Except.pure]
  | cons head rest ih =>
    rw [List.mapM_cons, first_cons_iff, ← ih]
    cases first : step head with
    | error other => simp [bind, Except.bind]
    | ok value => cases rest.mapM step <;> simp [bind, Except.bind, pure, Except.pure]

end Sequences
theorem lookup_entry {value : Type} (name : String) (entry : String × value)
    (rest : List (String × value)) :
    (entry :: rest).lookup name = if name = entry.1 then some entry.2 else rest.lookup name := by
  rw [List.lookup_cons]
  by_cases here : name = entry.1
  · simp [here]
  · simp [here, beq_eq_false_iff_ne.mpr here]

end BoolQuery

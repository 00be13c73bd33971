import Mathlib.Data.List.Forall2

/-! Reading the elements of a list one after the other.  It succeeds exactly if
every element can be read, and the results stand in the order of the
elements. -/

namespace RightLinear

variable {α β ε : Type} {step : α → Except ε β}

theorem eq_ok_of_toOption {result : Except ε α} {value : α}
    (h : result.toOption = some value) : result = .ok value := by
  cases result with
  | error failure => contradiction
  | ok found => exact congrArg Except.ok (Option.some.inj h)

theorem exists_of_map_eq_ok {result : Except ε α} {convert : α → β} {value : β}
    (h : result.map convert = .ok value) :
    ∃ found, result = .ok found ∧ convert found = value := by
  cases result with
  | error failure => contradiction
  | ok found => exact ⟨found, rfl, Except.ok.inj h⟩

theorem mapM_eq_ok_iff {list : List α} {results : List β} :
    list.mapM step = .ok results ↔
      List.Forall₂ (fun element result => step element = .ok result)
        list results := by
  induction list generalizing results with
  | nil =>
      rw [List.forall₂_nil_left_iff]
      constructor
      · rintro ⟨⟩
        rfl
      · rintro rfl
        rfl
  | cons element list ih =>
      rw [List.mapM_cons]
      constructor
      · intro h
        cases hfirst : step element with
        | error failure =>
            rw [hfirst] at h
            contradiction
        | ok result =>
            cases hlater : list.mapM step with
            | error failure =>
                rw [hfirst, hlater] at h
                contradiction
            | ok later =>
                rw [hfirst, hlater] at h
                cases h
                exact .cons hfirst (ih.mp hlater)
      · rintro (_ | ⟨hfirst, hlater⟩)
        rw [hfirst, ih.mpr hlater]
        rfl

theorem exists_mem_of_forall₂ {relation : α → β → Prop} {list : List α}
    {results : List β} (h : List.Forall₂ relation list results) :
    ∀ result ∈ results, ∃ element ∈ list, relation element result := by
  induction h with
  | nil => exact List.forall_mem_nil _
  | cons hfirst hlater ih =>
      refine List.forall_mem_cons.mpr ⟨⟨_, List.mem_cons_self, hfirst⟩, ?_⟩
      intro result hresult
      obtain ⟨element, helement, hrelation⟩ := ih result hresult
      exact ⟨element, List.mem_cons_of_mem _ helement, hrelation⟩

theorem mapM_eq_ok {result : α → β} {list : List α}
    (h : ∀ element ∈ list, step element = .ok (result element)) :
    list.mapM step = .ok (list.map result) := by
  rw [mapM_eq_ok_iff, List.forall₂_map_right_iff, List.forall₂_same]
  exact h

/-- Each element gave one of the results. -/
theorem exists_of_mapM {list : List α} {results : List β}
    (h : list.mapM step = .ok results) :
    ∀ element ∈ list, ∃ result ∈ results, step element = .ok result :=
  exists_mem_of_forall₂ (mapM_eq_ok_iff.mp h).flip

/-- Each result was read from one of the elements. -/
theorem exists_mem_of_mapM {list : List α} {results : List β}
    (h : list.mapM step = .ok results) :
    ∀ result ∈ results, ∃ element ∈ list, step element = .ok result :=
  exists_mem_of_forall₂ (mapM_eq_ok_iff.mp h)

/-- What stops the reading is one of the elements. -/
theorem exists_of_mapM_eq_error {list : List α} {failure : ε}
    (h : list.mapM step = .error failure) :
    ∃ element ∈ list, step element = .error failure := by
  induction list with
  | nil => cases h
  | cons element list ih =>
      rw [List.mapM_cons] at h
      cases hfirst : step element with
      | error found =>
          rw [hfirst] at h
          obtain rfl := Except.error.inj h
          exact ⟨element, List.mem_cons_self, hfirst⟩
      | ok result =>
          cases hlater : list.mapM step with
          | error found =>
              rw [hfirst, hlater] at h
              obtain rfl := Except.error.inj h
              obtain ⟨other, hother, hstep⟩ := ih hlater
              exact ⟨other, List.mem_cons_of_mem _ hother, hstep⟩
          | ok later =>
              rw [hfirst, hlater] at h
              cases h

/-- What is taken from the results may be taken from the elements. -/
theorem filterMap_of_mapM {γ : Type} {part : β → Option γ} {other : α → Option γ}
    (hstep : ∀ element result, step element = .ok result →
      part result = other element) {list : List α} {results : List β}
    (h : list.mapM step = .ok results) :
    results.filterMap part = list.filterMap other := by
  induction mapM_eq_ok_iff.mp h with
  | nil => rfl
  | cons hfirst hlater ih =>
      rw [List.filterMap_cons, List.filterMap_cons, hstep _ _ hfirst,
        ih (mapM_eq_ok_iff.mpr hlater)]

end RightLinear

import RightLinear.Proofs.Collection.Entries

/-! Changes that leave most of a registry alone.  Whatever is written under one
name or taken away from it, the other entries stay as they are and in their
order. -/

namespace RightLinear

namespace Registry

variable {α : Type} {registry earlier later : Registry α} {name other : String}

theorem get?_erase (registry : Registry α) (name other : String) :
    (registry.erase name).get? other =
      if other = name then none else registry.get? other := by
  apply Option.ext
  intro value
  rw [get?_eq_some_iff, erase, List.mem_filter, bne_iff_ne]
  split
  · next heq => simp [heq]
  · next hne => rw [and_iff_left hne, get?_eq_some_iff]

theorem not_mem_names_iff : name ∉ registry.names ↔ registry.get? name = none := by
  rw [mem_names_iff, ← Option.isSome_iff_exists, Option.not_isSome_iff_eq_none]

theorem not_mem_names_erase (registry : Registry α) (name : String) :
    name ∉ (registry.erase name).names := by
  rw [not_mem_names_iff, get?_erase, if_pos rfl]

theorem erase_insert (registry : Registry α) (name : String) (value : α) :
    (registry.insert name value).erase name = registry.erase name := by
  apply entries_injective
  simp only [erase, insert]
  induction registry.entries with
  | nil => simp [putInto]
  | cons entry entries ih =>
      rw [putInto]
      split
      · next heq => simp [heq]
      · rw [List.filter_cons, List.filter_cons, ih]

theorem erase_of_get?_eq_none (h : registry.get? name = none) :
    registry.erase name = registry := by
  apply entries_injective
  rw [erase, List.filter_eq_self]
  intro entry hentry
  rw [bne_iff_ne]
  intro heq
  rw [← heq, get?_eq_some_iff.mpr hentry] at h
  contradiction

/-- The same entries in the same order, except for the one under `name`. -/
def SameBut (name : String) (earlier later : Registry α) : Prop :=
  later.erase name = earlier.erase name

theorem SameBut.get?_eq (h : SameBut name earlier later)
    (hother : other ≠ name) : later.get? other = earlier.get? other := by
  have hget := congrArg (fun registry => registry.get? other) h
  simpa only [get?_erase, if_neg hother] using hget

theorem sameBut_insert (registry : Registry α) (name : String) (value : α) :
    registry.SameBut name (registry.insert name value) :=
  registry.erase_insert name value

/-- Nothing is lost, and only what `written` has a name for can differ. -/
structure WrittenOver (written earlier later : Registry α) : Prop where
  names : ∀ name ∈ earlier.names, name ∈ later.names
  get?_eq : ∀ name, name ∉ written.names → later.get? name = earlier.get? name

theorem writtenOver_merge (written earlier : Registry α) :
    written.WrittenOver earlier (earlier.merge written) where
  names := by
    intro name hname
    rw [names_merge]
    exact List.mem_append_left _ hname
  get?_eq := by
    intro name hname
    rw [get?_merge, not_mem_names_iff.mp hname, Option.none_or]

end Registry

end RightLinear

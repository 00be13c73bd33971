/-! Values under distinct names, in the order in which the names were first
given.  A later value for a name takes the place of the earlier one. -/

namespace RightLinear

theorem lookup_eq_some_iff {α β : Type} [BEq α] [LawfulBEq α]
    {entries : List (α × β)} (hnodup : (entries.map Prod.fst).Nodup)
    {key : α} {value : β} :
    entries.lookup key = some value ↔ (key, value) ∈ entries := by
  induction entries with
  | nil => simp
  | cons entry rest ih =>
      obtain ⟨other, first⟩ := entry
      rw [List.map_cons, List.nodup_cons] at hnodup
      rw [List.lookup_cons, List.mem_cons, Prod.mk.injEq]
      by_cases hkey : key = other
      · subst hkey
        have hlater : ¬ (key, value) ∈ rest := fun hmem =>
          hnodup.1 (List.mem_map.mpr ⟨_, hmem, rfl⟩)
        simp [hlater, eq_comm]
      · simp [hkey, beq_eq_false_iff_ne.mpr hkey, ih hnodup.2]

theorem filter_eq_of_nodup {α β : Type} [DecidableEq α] [BEq α] [LawfulBEq α]
    {entries : List (α × β)} (hnodup : (entries.map Prod.fst).Nodup)
    {key : α} :
    (entries.filter fun entry => entry.1 = key) =
      ((entries.lookup key).map fun value => (key, value)).toList := by
  induction entries with
  | nil => rfl
  | cons entry rest ih =>
      obtain ⟨other, first⟩ := entry
      rw [List.map_cons, List.nodup_cons] at hnodup
      rw [List.lookup_cons, List.filter_cons]
      by_cases hkey : key = other
      · subst hkey
        have hlater : (rest.filter fun entry => entry.1 = key) = [] := by
          rw [List.filter_eq_nil_iff]
          intro entry hentry hsame
          exact hnodup.1 (List.mem_map.mpr ⟨entry, hentry, by simpa using hsame⟩)
        simp [hlater]
      · simp [Ne.symm hkey, beq_eq_false_iff_ne.mpr hkey, ih hnodup.2]

theorem eraseDups_concat (names : List String) (name : String) :
    (names ++ [name]).eraseDups =
      if name ∈ names then names.eraseDups else names.eraseDups ++ [name] := by
  rw [List.eraseDups_append, List.removeAll]
  split
  · next hmem =>
      rw [List.filter_cons_of_neg (by simpa using hmem)]
      exact List.append_nil _
  · next hmem =>
      rw [List.filter_cons_of_pos (by simpa using hmem)]
      rfl

structure Registry (α : Type) where
  entries : List (String × α)
  nodup : (entries.map Prod.fst).Nodup

namespace Registry

variable {α : Type}

theorem entries_injective {first second : Registry α}
    (h : first.entries = second.entries) : first = second := by
  cases first
  cases second
  simpa using h

instance [DecidableEq α] : DecidableEq (Registry α) := fun first second =>
  decidable_of_iff (first.entries = second.entries)
    ⟨entries_injective, congrArg entries⟩

def empty : Registry α := ⟨[], List.nodup_nil⟩

instance : EmptyCollection (Registry α) := ⟨empty⟩

instance : Inhabited (Registry α) := ⟨∅⟩

def names (registry : Registry α) : List String :=
  registry.entries.map Prod.fst

def values (registry : Registry α) : List α :=
  registry.entries.map Prod.snd

def size (registry : Registry α) : Nat := registry.entries.length

def isEmpty (registry : Registry α) : Bool := registry.entries.isEmpty

def get? (registry : Registry α) (name : String) : Option α :=
  registry.entries.lookup name

@[simp] theorem names_empty : (∅ : Registry α).names = [] := rfl

@[simp] theorem get?_empty (name : String) :
    (∅ : Registry α).get? name = none := rfl

section Entries

variable {κ : Type} [DecidableEq κ] {name other : κ} {value : α}
  {entries : List (κ × α)}

def putInto (name : κ) (value : α) : List (κ × α) → List (κ × α)
  | [] => [(name, value)]
  | (other, old) :: rest =>
      if other = name then (name, value) :: rest
      else (other, old) :: putInto name value rest

theorem mem_names_putInto :
    other ∈ (putInto name value entries).map Prod.fst ↔
      other = name ∨ other ∈ entries.map Prod.fst := by
  induction entries with
  | nil => simp [putInto]
  | cons entry rest ih =>
      simp only [putInto]
      split
      · next heq => simp [heq]
      · simp only [List.map_cons, List.mem_cons, ih, or_left_comm]

theorem nodup_putInto (hnodup : (entries.map Prod.fst).Nodup) :
    ((putInto name value entries).map Prod.fst).Nodup := by
  induction entries with
  | nil => simp [putInto]
  | cons entry rest ih =>
      simp only [List.map_cons, List.nodup_cons] at hnodup
      simp only [putInto]
      split
      · next heq => simpa [← heq] using hnodup
      · next hne =>
          simp only [List.map_cons, List.nodup_cons, mem_names_putInto, not_or]
          exact ⟨⟨hne, hnodup.1⟩, ih hnodup.2⟩

theorem names_putInto (entries : List (κ × α)) :
    (putInto name value entries).map Prod.fst =
      if name ∈ entries.map Prod.fst then entries.map Prod.fst
      else entries.map Prod.fst ++ [name] := by
  induction entries with
  | nil => rfl
  | cons entry rest ih =>
      rw [putInto]
      split
      · next heq => simp [heq]
      · next hne =>
          have hother : name ≠ entry.1 := fun heq => hne heq.symm
          rw [List.map_cons, ih, List.map_cons]
          simp only [List.mem_cons, hother, false_or]
          split
          · rfl
          · rfl

theorem putInto_of_not_mem (h : name ∉ entries.map Prod.fst) :
    putInto name value entries = entries ++ [(name, value)] := by
  induction entries with
  | nil => rfl
  | cons entry entries ih =>
      rw [List.map_cons, List.mem_cons, not_or] at h
      rw [putInto, if_neg (Ne.symm h.1), ih h.2]
      rfl

theorem lookup_putInto [BEq κ] [LawfulBEq κ] :
    (putInto name value entries).lookup other =
      if other = name then some value else entries.lookup other := by
  induction entries with
  | nil =>
      by_cases h : other = name
      · simp [putInto, h]
      · simp [putInto, List.lookup_cons, h, beq_eq_false_iff_ne.mpr h]
  | cons entry rest ih =>
      obtain ⟨key, old⟩ := entry
      by_cases hkey : key = name
      · subst hkey
        by_cases h : other = key
        · simp [putInto, h]
        · simp [putInto, List.lookup_cons, h, beq_eq_false_iff_ne.mpr h]
      · by_cases h : other = key
        · subst h
          simp [putInto, hkey]
        · simp [putInto, hkey, List.lookup_cons, ih,
            beq_eq_false_iff_ne.mpr h]

end Entries

def insert (name : String) (value : α) (registry : Registry α) : Registry α :=
  ⟨putInto name value registry.entries, nodup_putInto registry.nodup⟩

def erase (name : String) (registry : Registry α) : Registry α :=
  ⟨registry.entries.filter (·.1 != name),
    registry.nodup.sublist (List.filter_sublist.map _)⟩

def ofList (entries : List (String × α)) : Registry α :=
  entries.foldl (fun registry (name, value) => registry.insert name value) ∅

/-- The entries of `later` go into `earlier` one by one. -/
def merge (earlier later : Registry α) : Registry α :=
  later.entries.foldl
    (fun registry (name, value) => registry.insert name value) earlier

@[simp] theorem mem_names_insert {registry : Registry α}
    {name other : String} {value : α} :
    other ∈ (registry.insert name value).names ↔
      other = name ∨ other ∈ registry.names :=
  mem_names_putInto

theorem names_insert (registry : Registry α) (name : String) (value : α) :
    (registry.insert name value).names =
      if name ∈ registry.names then registry.names
      else registry.names ++ [name] :=
  names_putInto registry.entries

theorem get?_insert {registry : Registry α} {name other : String} {value : α} :
    (registry.insert name value).get? other =
      if other = name then some value else registry.get? other :=
  lookup_putInto

theorem get?_eq_some_iff {registry : Registry α} {name : String} {value : α} :
    registry.get? name = some value ↔ (name, value) ∈ registry.entries :=
  lookup_eq_some_iff registry.nodup

/-- Same names with the same values, in any order. -/
def sameEntries [BEq α] (first second : Registry α) : Bool :=
  first.size == second.size &&
    first.entries.all fun (name, value) => second.get? name == some value

end Registry

end RightLinear

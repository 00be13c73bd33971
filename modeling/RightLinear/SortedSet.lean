/-! Finite sets as strictly increasing lists.  Two sets with the same members
are the same list, so equality of sets is equality of values and every listing
of a set comes out in order. -/

namespace RightLinear

/-- Of two different elements one is below the other, and nothing is below
itself. -/
class LinearlyOrdered (α : Type) [LT α] : Prop where
  irrefl : ∀ element : α, ¬ element < element
  trans : ∀ {first second third : α},
    first < second → second < third → first < third
  eq_of_not_lt : ∀ {first second : α},
    ¬ first < second → ¬ second < first → first = second

instance : LinearlyOrdered String where
  irrefl := String.lt_irrefl
  trans := String.lt_trans
  eq_of_not_lt hbelow habove :=
    String.le_antisymm (String.not_lt.mp habove) (String.not_lt.mp hbelow)

structure SortedSet (α : Type) [LT α] where
  toList : List α
  sorted : toList.Pairwise (· < ·)

namespace SortedSet

variable {α : Type} [LT α]

theorem toList_injective {first second : SortedSet α}
    (h : first.toList = second.toList) : first = second := by
  cases first
  cases second
  simpa using h

instance [DecidableEq α] : DecidableEq (SortedSet α) := fun first second =>
  decidable_of_iff (first.toList = second.toList)
    ⟨toList_injective, congrArg toList⟩

instance : Membership α (SortedSet α) where
  mem set element := element ∈ set.toList

@[simp] theorem mem_toList {set : SortedSet α} {element : α} :
    element ∈ set.toList ↔ element ∈ set := Iff.rfl

instance [DecidableEq α] (element : α) (set : SortedSet α) :
    Decidable (element ∈ set) :=
  inferInstanceAs (Decidable (element ∈ set.toList))

def empty : SortedSet α := ⟨[], List.Pairwise.nil⟩

instance : EmptyCollection (SortedSet α) := ⟨empty⟩

instance : Inhabited (SortedSet α) := ⟨∅⟩

def singleton (element : α) : SortedSet α :=
  ⟨[element], List.pairwise_singleton _ _⟩

def isEmpty (set : SortedSet α) : Bool := set.toList.isEmpty

def size (set : SortedSet α) : Nat := set.toList.length

def filter (keep : α → Bool) (set : SortedSet α) : SortedSet α :=
  ⟨set.toList.filter keep, set.sorted.filter keep⟩

@[simp] theorem toList_empty : (∅ : SortedSet α).toList = [] := rfl

@[simp] theorem toList_singleton (element : α) :
    (singleton element).toList = [element] := rfl

@[simp] theorem toList_filter (keep : α → Bool) (set : SortedSet α) :
    (set.filter keep).toList = set.toList.filter keep := rfl

@[simp] theorem not_mem_empty (element : α) : ¬ element ∈ (∅ : SortedSet α) :=
  List.not_mem_nil

@[simp] theorem mem_singleton {element other : α} :
    element ∈ singleton other ↔ element = other :=
  List.mem_singleton

@[simp] theorem mem_filter {keep : α → Bool} {set : SortedSet α} {element : α} :
    element ∈ set.filter keep ↔ element ∈ set ∧ keep element = true :=
  List.mem_filter

theorem isEmpty_eq_false_iff {set : SortedSet α} :
    set.isEmpty = false ↔ ∃ element, element ∈ set :=
  List.isEmpty_eq_false_iff_exists_mem

section Equality

variable [LinearlyOrdered α]

private theorem eq_of_sorted : ∀ {first second : List α},
    first.Pairwise (· < ·) → second.Pairwise (· < ·) →
      (∀ element, element ∈ first ↔ element ∈ second) → first = second
  | [], [], _, _, _ => rfl
  | [], head :: _, _, _, hmem => by simpa using hmem head
  | head :: _, [], _, _, hmem => by simpa using hmem head
  | head :: first, other :: second, hfirst, hsecond, hmem => by
      rw [List.pairwise_cons] at hfirst hsecond
      have hhead : head = other := by
        rcases List.mem_cons.mp ((hmem head).mp List.mem_cons_self) with
          heq | hlater
        · exact heq
        · rcases List.mem_cons.mp ((hmem other).mpr List.mem_cons_self) with
            heq | hother
          · exact heq.symm
          · exact absurd
              (LinearlyOrdered.trans (hfirst.1 other hother) (hsecond.1 head hlater))
              (LinearlyOrdered.irrefl head)
      subst hhead
      have htail : ∀ element, element ∈ first ↔ element ∈ second := by
        intro element
        constructor
        · intro helement
          rcases List.mem_cons.mp
            ((hmem element).mp (List.mem_cons_of_mem _ helement)) with
            rfl | hlater
          · exact absurd (hfirst.1 _ helement) (LinearlyOrdered.irrefl _)
          · exact hlater
        · intro helement
          rcases List.mem_cons.mp
            ((hmem element).mpr (List.mem_cons_of_mem _ helement)) with
            rfl | hlater
          · exact absurd (hsecond.1 _ helement) (LinearlyOrdered.irrefl _)
          · exact hlater
      rw [eq_of_sorted hfirst.2 hsecond.2 htail]

@[ext] theorem ext {first second : SortedSet α}
    (h : ∀ element, element ∈ first ↔ element ∈ second) : first = second :=
  toList_injective (eq_of_sorted first.sorted second.sorted h)

theorem nodup (set : SortedSet α) : set.toList.Nodup := by
  refine set.sorted.imp ?_
  intro element other hlt heq
  subst heq
  exact LinearlyOrdered.irrefl element hlt

end Equality

section Insertion

variable [DecidableLT α]

def insertInto (element : α) : List α → List α
  | [] => [element]
  | head :: tail =>
      if element < head then element :: head :: tail
      else if head < element then head :: insertInto element tail
      else head :: tail

variable [LinearlyOrdered α]

theorem mem_insertInto {element other : α} {list : List α} :
    other ∈ insertInto element list ↔ other = element ∨ other ∈ list := by
  induction list with
  | nil => simp [insertInto]
  | cons head tail ih =>
      simp only [insertInto]
      split
      · simp
      · split
        · simp [ih, or_left_comm]
        · next hbelow habove =>
            have heq : element = head :=
              LinearlyOrdered.eq_of_not_lt hbelow habove
            simp [heq]

theorem sorted_insertInto {element : α} {list : List α}
    (hsorted : list.Pairwise (· < ·)) :
    (insertInto element list).Pairwise (· < ·) := by
  induction list with
  | nil => simp [insertInto]
  | cons head tail ih =>
      have hparts := List.pairwise_cons.mp hsorted
      simp only [insertInto]
      split
      · next hbelow =>
          refine List.pairwise_cons.mpr ⟨?_, hsorted⟩
          intro other hother
          rcases List.mem_cons.mp hother with rfl | hlater
          · exact hbelow
          · exact LinearlyOrdered.trans hbelow (hparts.1 other hlater)
      · split
        · next habove =>
            refine List.pairwise_cons.mpr ⟨?_, ih hparts.2⟩
            intro other hother
            rcases mem_insertInto.mp hother with rfl | hlater
            · exact habove
            · exact hparts.1 other hlater
        · exact hsorted

def insert (element : α) (set : SortedSet α) : SortedSet α :=
  ⟨insertInto element set.toList, sorted_insertInto set.sorted⟩

@[simp] theorem mem_insert {element other : α} {set : SortedSet α} :
    other ∈ set.insert element ↔ other = element ∨ other ∈ set :=
  mem_insertInto

def ofList : List α → SortedSet α
  | [] => ∅
  | head :: tail => (ofList tail).insert head

@[simp] theorem mem_ofList {list : List α} {element : α} :
    element ∈ ofList list ↔ element ∈ list := by
  induction list with
  | nil => simp [ofList]
  | cons head tail ih => simp [ofList, ih]

def union (first second : SortedSet α) : SortedSet α :=
  first.toList.foldr insert second

private theorem mem_foldr_insert {list : List α} {set : SortedSet α}
    {element : α} :
    element ∈ list.foldr insert set ↔ element ∈ list ∨ element ∈ set := by
  induction list with
  | nil => simp
  | cons head tail ih => simp [ih, or_assoc]

@[simp] theorem mem_union {first second : SortedSet α} {element : α} :
    element ∈ first.union second ↔ element ∈ first ∨ element ∈ second :=
  mem_foldr_insert

end Insertion

end SortedSet

end RightLinear

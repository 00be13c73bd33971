import RightLinear.SortedSet

/-! The selections from a list: every way to keep some members, in order.  A
sorted list whose members occur in another sorted list is a selection from it,
so there are only finitely many. -/

namespace RightLinear

def selections {α : Type} : List α → List (List α)
  | [] => [[]]
  | head :: tail => selections tail ++ (selections tail).map (head :: ·)

theorem mem_selections {α : Type} {chosen list : List α}
    (h : chosen.Sublist list) : chosen ∈ selections list := by
  induction h with
  | slnil => simp [selections]
  | cons head _ ih => exact List.mem_append_left _ ih
  | cons_cons head _ ih =>
      exact List.mem_append_right _ (List.mem_map_of_mem ih)

theorem sublist_of_sorted {α : Type} [LT α] [LinearlyOrdered α]
    {chosen list : List α}
    (hchosen : chosen.Pairwise (· < ·)) (hlist : list.Pairwise (· < ·))
    (hmem : ∀ element ∈ chosen, element ∈ list) : chosen.Sublist list := by
  induction list generalizing chosen with
  | nil =>
      cases chosen with
      | nil => exact List.Sublist.slnil
      | cons head tail => exact absurd (hmem head List.mem_cons_self) List.not_mem_nil
  | cons head tail ih =>
      have hparts := List.pairwise_cons.mp hlist
      cases chosen with
      | nil => exact List.nil_sublist _
      | cons first rest =>
          have hrest := List.pairwise_cons.mp hchosen
          have hlater : ∀ element ∈ rest, element ∈ tail := by
            intro element helement
            rcases List.mem_cons.mp (hmem element (List.mem_cons_of_mem _ helement))
              with rfl | hin
            · have hfirst := hrest.1 _ helement
              rcases List.mem_cons.mp (hmem first List.mem_cons_self)
                with rfl | habove
              · exact absurd hfirst (LinearlyOrdered.irrefl _)
              · exact absurd (LinearlyOrdered.trans hfirst (hparts.1 _ habove))
                  (LinearlyOrdered.irrefl _)
            · exact hin
          rcases List.mem_cons.mp (hmem first List.mem_cons_self) with rfl | hin
          · exact (ih hrest.2 hparts.2 hlater).cons_cons _
          · refine (ih hchosen hparts.2 ?_).cons _
            intro element helement
            rcases List.mem_cons.mp helement with rfl | hrestMem
            · exact hin
            · exact hlater element hrestMem

theorem countP_lt_countP {α : Type} {narrow wide : α → Bool}
    {list : List α} (himp : ∀ element ∈ list, narrow element → wide element)
    {witness : α} (hmem : witness ∈ list) (hwide : wide witness = true)
    (hnarrow : narrow witness = false) :
    list.countP narrow < list.countP wide := by
  induction list with
  | nil => exact absurd hmem List.not_mem_nil
  | cons head tail ih =>
      have htail : tail.countP narrow ≤ tail.countP wide :=
        List.countP_mono_left fun element helement =>
          himp element (List.mem_cons_of_mem _ helement)
      rcases List.mem_cons.mp hmem with rfl | hlater
      · simp only [List.countP_cons, hwide, hnarrow]
        simp
        omega
      · have hbelow := ih
          (fun element helement => himp element (List.mem_cons_of_mem _ helement))
          hlater
        have hhead : (if narrow head = true then 1 else 0) ≤
            (if wide head = true then 1 else 0) := by
          split
          · next hn => simp [himp head List.mem_cons_self hn]
          · exact Nat.zero_le _
        simp only [List.countP_cons]
        omega

end RightLinear

import Mathlib.Data.List.Induction
import RightLinear.Grammar.Document

/-! Rules with one left-hand side come together at the place of the first,
their productions in the order in which they were given.  The start symbol is
chosen among what was gathered. -/

namespace RightLinear.Grammar.Document

variable {rules : List (String × List Production)}

theorem eraseDups_append_cons_of_mem {name : String} {earlier : List String}
    (h : name ∈ earlier) (later : List String) :
    (earlier ++ name :: later).eraseDups = (earlier ++ later).eraseDups := by
  rw [List.eraseDups_append, List.eraseDups_append, List.removeAll,
    List.filter_cons_of_neg (by simpa using h)]
  rfl

theorem gather_concat (rules : List (String × List Production))
    (left : String) (productions : List Production) :
    gather (rules ++ [(left, productions)]) =
      (gather rules).insert left
        (((gather rules).get? left).getD [] ++ productions) := by
  rw [gather, List.foldl_append]
  rfl

theorem names_gather (rules : List (String × List Production)) :
    (gather rules).names = (rules.map Prod.fst).eraseDups := by
  induction rules using List.reverseRecOn with
  | nil => rfl
  | append_singleton rules rule ih =>
      obtain ⟨left, productions⟩ := rule
      rw [gather_concat, Registry.names_insert, ih, List.map_append,
        List.map_singleton, eraseDups_concat]
      simp only [List.mem_eraseDups]

theorem get?_gather (rules : List (String × List Production)) (left : String) :
    ((gather rules).get? left).getD [] =
      (rules.filter (·.1 = left)).flatMap Prod.snd := by
  induction rules using List.reverseRecOn with
  | nil => rfl
  | append_singleton rules rule ih =>
      obtain ⟨other, productions⟩ := rule
      rw [gather_concat, Registry.get?_insert, List.filter_append,
        List.flatMap_append, ← ih]
      split
      · next heq => simp [heq]
      · next hne => simp [Ne.symm hne]

/-- Rules with different left-hand sides stay as they are. -/
theorem entries_gather (hnodup : (rules.map Prod.fst).Nodup) :
    (gather rules).entries = rules := by
  induction rules using List.reverseRecOn with
  | nil => rfl
  | append_singleton rules rule ih =>
      obtain ⟨left, productions⟩ := rule
      rw [List.map_append, List.map_singleton] at hnodup
      obtain ⟨hearlier, -, hdistinct⟩ := List.nodup_append.mp hnodup
      have hentries := ih hearlier
      have hnew : left ∉ (gather rules).entries.map Prod.fst := by
        rw [hentries]
        exact fun hmem => hdistinct left hmem left List.mem_cons_self rfl
      have hnone : (gather rules).get? left = none := by
        rw [Registry.get?, List.lookup_eq_none_iff]
        intro entry hentry
        rw [bne_iff_ne]
        rintro rfl
        exact hnew (List.mem_map_of_mem hentry)
      rw [gather_concat, hnone, Option.getD_none, List.nil_append]
      exact (Registry.putInto_of_not_mem hnew).trans (by rw [hentries])

/-- Every production of the gathered rules stands in one of them. -/
theorem mem_gather {left : String} {productions : List Production}
    (h : (left, productions) ∈ (gather rules).entries)
    {production : Production} (hproduction : production ∈ productions) :
    ∃ rule ∈ rules, rule.1 = left ∧ production ∈ rule.2 := by
  have hget := Registry.get?_eq_some_iff.mpr h
  have hall := get?_gather rules left
  rw [hget, Option.getD_some] at hall
  rw [hall, List.mem_flatMap] at hproduction
  obtain ⟨rule, hrule, hin⟩ := hproduction
  obtain ⟨hmem, hleft⟩ := List.mem_filter.mp hrule
  exact ⟨rule, hmem, of_decide_eq_true hleft, hin⟩

theorem usualStart_mem {nonterminals : List String} (hne : nonterminals ≠ [])
    (leftSides : List String) :
    usualStart nonterminals leftSides ∈ nonterminals := by
  rw [usualStart]
  split
  · assumption
  · split
    · next left hleft => simpa using List.find?_some hleft
    · obtain ⟨name, hname⟩ := List.exists_mem_of_ne_nil nonterminals hne
      have hmem := SortedSet.mem_ofList.mpr hname
      rw [← SortedSet.mem_toList] at hmem
      cases hlist : (SortedSet.ofList nonterminals).toList with
      | nil =>
          rw [hlist] at hmem
          contradiction
      | cons least greater =>
          have hleast : least ∈ SortedSet.ofList nonterminals := by
            rw [← SortedSet.mem_toList, hlist]
            exact List.mem_cons_self
          exact SortedSet.mem_ofList.mp hleast

theorem usualStart_first {nonterminals leftSides : List String} {left : String}
    (hletter : "S" ∉ nonterminals)
    (hleft : leftSides.find? (fun left => decide (left ∈ nonterminals)) =
      some left) : usualStart nonterminals leftSides = left := by
  rw [usualStart, if_neg hletter, hleft]

theorem usualStart_least {nonterminals leftSides : List String}
    (hletter : "S" ∉ nonterminals)
    (hnone : ∀ left ∈ leftSides, left ∉ nonterminals) {other : String}
    (hother : other ∈ nonterminals) :
    ¬ other < usualStart nonterminals leftSides := by
  have hfind : leftSides.find? (fun left => decide (left ∈ nonterminals)) =
      none := by
    rw [List.find?_eq_none]
    exact fun left hleft => by simpa using hnone left hleft
  rw [usualStart, if_neg hletter, hfind]
  have hmem := SortedSet.mem_ofList.mpr hother
  have hsorted := (SortedSet.ofList nonterminals).sorted
  rw [← SortedSet.mem_toList] at hmem
  cases hlist : (SortedSet.ofList nonterminals).toList with
  | nil =>
      rw [hlist] at hmem
      contradiction
  | cons least greater =>
      rw [hlist] at hmem hsorted
      rcases List.mem_cons.mp hmem with rfl | hgreater
      · exact String.lt_irrefl _
      · exact fun hlt => String.lt_irrefl _
          (String.lt_trans hlt ((List.pairwise_cons.mp hsorted).1 _ hgreater))

end RightLinear.Grammar.Document

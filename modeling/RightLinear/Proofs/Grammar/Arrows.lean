import RightLinear.Proofs.Grammar.Blanks
import RightLinear.Proofs.Grammar.Spelling
import RightLinear.Proofs.Text.Replace
import RightLinear.Proofs.Traversal

/-! The arrow of a production.  A line that is read as a rule is cut at its
first arrow, and what a production can have after it is too short for another
one: only a name that ends in a hyphen makes one with the bracket after it.  So
the arrows of a production can be counted by what it is read as. -/

namespace RightLinear.Grammar

open Text Document

variable {line text : List Char} {rule : Rule}

section Lines

/-- Only a heading and what is no more than a comment say nothing. -/
theorem code_of_blank (h : readLine line = .ok .blank) :
    trim (withoutComment line) = [] ∨
      trim (withoutComment line) = "PRODUCTIONS:".toList := by
  rw [readLine] at h
  split at h
  · next hempty => exact .inl (List.isEmpty_iff.mp hempty)
  · split at h
    · cases h
    · split at h
      · next hheading => exact .inr hheading
      · obtain ⟨found, -, heq⟩ := exists_of_map_eq_ok h
        cases heq

theorem readRule_of_readLine (h : readLine line = .ok (.rule rule)) :
    readRule (withPlainArrows (trim (withoutComment line))) = .ok rule := by
  rw [readLine] at h
  split at h
  · cases h
  · split at h
    · cases h
    · split at h
      · cases h
      · obtain ⟨found, hfound, heq⟩ := exists_of_map_eq_ok h
        cases heq
        exact hfound

theorem exists_sides (h : readRule text = .ok rule) :
    ∃ left right, cut? "->".toList text = some (left, right) ∧
      rule.alternatives = (splitWhere (· == '|') right).map tokens := by
  rw [readRule] at h
  split at h
  · contradiction
  · next left right hcut =>
      split at h
      · contradiction
      · cases h
        exact ⟨left, right, hcut, rfl⟩

/-- Without `::=` only the arrow symbol is replaced. -/
theorem withPlainArrows_eq (h : ¬ "::=".toList <:+: text) :
    withPlainArrows text = replace ['→'] "->".toList text := by
  have hnone : ¬ "::=".toList <:+: replace ['→'] "->".toList text :=
    fun hoccurs => h (infix_of_infix_replace (by decide) (by decide)
      (by simp [Avoids]) hoccurs)
  exact replace_of_passes (passes_nil hnone) _

end Lines

section Productions

/-- The symbol after the first one is a non-terminal. -/
theorem ne_angle_of_readProduction {left : String} {right : List Token}
    {production : Production}
    (h : readProduction left right = .ok production) :
    ∀ token ∈ right.tail, token ≠ .plain ">" := by
  unfold readProduction at h
  split at h
  · exact List.forall_mem_nil _
  · split at h
    · contradiction
    · next terminal target hkinds =>
        rw [List.tail_cons, List.forall_mem_singleton]
        rintro rfl
        have hangle : (Token.plain ">").isNonterminal = false := by
          decide +kernel
        simp [hangle] at hkinds
  · contradiction

variable {entry : String × List Production}

theorem ne_angle_of_readProductions {right : List Token}
    (halternatives : rule.alternatives = [right])
    (h : readProductions rule = .ok entry) :
    ∀ token ∈ right.tail, token ≠ .plain ">" := by
  rw [readProductions, halternatives, List.mapM_cons] at h
  cases hproduction : readProduction rule.leftText right with
  | error failure =>
      rw [hproduction] at h
      contradiction
  | ok production => exact ne_angle_of_readProduction hproduction

/-- A line with one production has its arrow and those that names make. -/
theorem arrowCount_of_rule (hread : readLine line = .ok (.rule rule))
    (hproductions : readProductions rule = .ok entry)
    (hbar : '|' ∉ trim (withoutComment line))
    (hdefinition : ¬ "::=".toList <:+: trim (withoutComment line)) :
    arrowCount (trim (withoutComment line)) =
      rule.alternatives.flatten.countP Token.endsInHyphen + 1 := by
  have hrule := readRule_of_readLine hread
  rw [withPlainArrows_eq hdefinition] at hrule
  obtain ⟨left, right, hcut, halternatives⟩ := exists_sides hrule
  have hsound := cut?_sound hcut
  have hright : '|' ∉ right := by
    intro hin
    have hcode :
        '|' ∈ replace ['→'] "->".toList (trim (withoutComment line)) := by
      rw [hsound]
      exact List.mem_append_right _ hin
    rcases mem_replace hcode with harrow | hmem
    · simp at harrow
    · exact hbar hmem
  rw [splitWhere_piece (beq_eq_false_of_not_mem hright)] at halternatives
  obtain ⟨⟨hleftSymbol, -⟩, hrightSymbol⟩ :
      ('→' ∉ left ∧ '→' ∉ "->".toList) ∧ '→' ∉ right := by
    rw [← not_or, ← not_or, ← List.mem_append, ← List.mem_append, ← hsound]
    exact not_mem_replace (by decide) _
  have hfirst : arrowCount left = 0 := arrowCount_eq_zero_iff.mpr
    ⟨not_isInfix_of_cut?_eq_some (by decide) hcut, hleftSymbol⟩
  have hlater := (spelled_tokens right).arrowCount_eq hrightSymbol
    (ne_angle_of_readProductions halternatives hproductions)
  have hsign : arrowCount ("->".toList ++ right) = arrowCount right + 1 := rfl
  rw [← arrowCount_replace, hsound, List.append_assoc,
    arrowCount_append (.inr (by simp)), hfirst, Nat.zero_add, hsign, hlater,
    halternatives, List.map_singleton, List.flatten_singleton]

end Productions

end RightLinear.Grammar

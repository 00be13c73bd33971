import RightLinear.Proofs.Grammar.Generation

/-! Batches of random sentences.  A batch makes one attempt after another on
one source, as long as sentences are missing and attempts are left; it holds the
first distinct sentences of these attempts, so a batch with more of either
begins with the same sentences. -/

namespace RightLinear.Grammar

variable {σ : Type} [RandomSource σ] {grammar : Grammar} {sentence : String}

/-- The symbols of a sentence are a word of the grammar, and the sentence is
that word written without separators. -/
theorem derives_of_generate {source : σ}
    (h : (grammar.generate source).1 = some sentence) :
    ∃ word, grammar.Derives word ∧ String.join word = sentence := by
  have hwalk : sentenceOf?
      (grammar.walkFrom stepLimit 0 grammar.start source).1 =
        some sentence := h
  obtain ⟨word, hderives, -, hjoin⟩ := derivesFrom_of_walkFrom hwalk
  exact ⟨word, hderives, hjoin⟩

/-- What successive walks give. -/
def attempts (grammar : Grammar) : Nat → σ → List (Option String)
  | 0, _ => []
  | number + 1, source =>
      (grammar.generate source).1 ::
        grammar.attempts number (grammar.generate source).2

/-- The source as successive walks leave it. -/
def sourceAfter (grammar : Grammar) : Nat → σ → σ
  | 0, source => source
  | number + 1, source =>
      grammar.sourceAfter number (grammar.generate source).2

/-- The sentences among some results, each where it was first found. -/
def distinct (results : List (Option String)) : List String :=
  (results.filterMap id).eraseDups

theorem distinct_concat_none (results : List (Option String)) :
    distinct (results ++ [none]) = distinct results := by
  simp [distinct]

theorem distinct_concat_some (results : List (Option String))
    (sentence : String) :
    distinct (results ++ [some sentence]) =
      if sentence ∈ distinct results then distinct results
      else distinct results ++ [sentence] := by
  have hlast : [some sentence].filterMap id = [sentence] := rfl
  rw [distinct, List.filterMap_append, hlast, eraseDups_concat, distinct]
  simp only [List.mem_eraseDups]

theorem distinct_prefix {fewer more : List (Option String)}
    (h : fewer <+: more) : distinct fewer <+: distinct more := by
  obtain ⟨later, rfl⟩ := h
  rw [distinct, distinct, List.filterMap_append, List.eraseDups_append]
  exact List.prefix_append _ _

theorem attempts_prefix (grammar : Grammar) {fewer more : Nat}
    (h : fewer ≤ more) (source : σ) :
    grammar.attempts fewer source <+: grammar.attempts more source := by
  induction fewer generalizing more source with
  | zero => exact List.nil_prefix
  | succ fewer ih =>
      cases more with
      | zero => contradiction
      | succ more =>
          exact List.cons_prefix_cons.mpr
            ⟨rfl, ih (Nat.le_of_succ_le_succ h) _⟩

/-- Once there are enough sentences nothing is drawn any more. -/
theorem collect_of_enough {count : Int} {found : List String}
    (h : count ≤ found.length) (remaining : Nat) (source : σ) :
    grammar.collect count remaining found source = (found, source) := by
  cases remaining with
  | zero => rfl
  | succ remaining => rw [collect, if_pos h]

theorem collect_succ (grammar : Grammar) {count : Int}
    {earlier : List (Option String)} (h : ¬ count ≤ (distinct earlier).length)
    (remaining : Nat) (source : σ) :
    grammar.collect count (remaining + 1) (distinct earlier) source =
      grammar.collect count remaining
        (distinct (earlier ++ [(grammar.generate source).1]))
        (grammar.generate source).2 := by
  rw [collect, if_neg h]
  obtain ⟨result, next⟩ := grammar.generate source
  cases result with
  | none => rw [distinct_concat_none]
  | some sentence =>
      rw [distinct_concat_some]
      dsimp only
      split
      · rfl
      · rfl

/-- How a batch stands to the attempts on its source, of which some have been
made before: it makes the least number of attempts that gives enough sentences,
or all that are left. -/
structure Collects (grammar : Grammar) (count : Int) (remaining : Nat)
    (earlier : List (Option String)) (source : σ) (made : Nat) : Prop where
  made_le : made ≤ remaining
  collect_eq : grammar.collect count remaining (distinct earlier) source =
    (distinct (earlier ++ grammar.attempts made source),
      grammar.sourceAfter made source)
  missing : ∀ fewer < made, ((distinct (earlier ++
    grammar.attempts fewer source)).length : Int) < count
  enough : made < remaining → count ≤ (distinct (earlier ++
    grammar.attempts made source)).length

/-- By induction on the attempts left, for any results before. -/
theorem exists_collects (grammar : Grammar) (count : Int) (remaining : Nat)
    (earlier : List (Option String)) (source : σ) :
    ∃ made, Collects grammar count remaining earlier source made := by
  induction remaining generalizing earlier source with
  | zero =>
      refine ⟨0, Nat.le_refl 0, ?_, ?_, ?_⟩
      · simp [collect, attempts, sourceAfter]
      · exact fun fewer h => absurd h (Nat.not_lt_zero fewer)
      · exact fun h => absurd h (Nat.lt_irrefl 0)
  | succ remaining ih =>
      by_cases henough : count ≤ (distinct earlier).length
      · refine ⟨0, Nat.zero_le _, ?_, ?_, ?_⟩
        · simp [collect_of_enough henough, attempts, sourceAfter]
        · exact fun fewer h => absurd h (Nat.not_lt_zero fewer)
        · simpa [attempts] using henough
      · obtain ⟨made, hmade, hcollect, hmissing, hlater⟩ :=
          ih (earlier ++ [(grammar.generate source).1])
            (grammar.generate source).2
        simp only [List.append_assoc, List.singleton_append]
          at hcollect hmissing hlater
        refine ⟨made + 1, Nat.succ_le_succ hmade, ?_, ?_, ?_⟩
        · exact (grammar.collect_succ henough remaining source).trans hcollect
        · intro fewer hfewer
          cases fewer with
          | zero => simpa [attempts] using henough
          | succ fewer => exact hmissing fewer (Nat.lt_of_succ_lt_succ hfewer)
        · exact fun hleft => hlater (Nat.lt_of_succ_lt_succ hleft)

theorem exists_attempts_succ (grammar : Grammar) (number : Nat) (source : σ) :
    ∃ result, grammar.attempts (number + 1) source =
      grammar.attempts number source ++ [result] := by
  induction number generalizing source with
  | zero => exact ⟨(grammar.generate source).1, rfl⟩
  | succ number ih =>
      obtain ⟨result, hlast⟩ := ih (grammar.generate source).2
      refine ⟨result, ?_⟩
      rw [attempts, hlast]
      rfl

theorem length_distinct_concat_le (results : List (Option String))
    (result : Option String) :
    (distinct (results ++ [result])).length ≤ (distinct results).length + 1 := by
  cases result with
  | none =>
      rw [distinct_concat_none]
      exact Nat.le_succ _
  | some sentence =>
      rw [distinct_concat_some]
      split
      · exact Nat.le_succ _
      · rw [List.length_append, List.length_singleton]

namespace Collects

variable {count : Int} {remaining made : Nat} {source : σ}

/-- Every attempt adds one sentence at most. -/
theorem length_le (h : Collects grammar count remaining [] source made) :
    (distinct (grammar.attempts made source)).length ≤ count.toNat := by
  cases made with
  | zero => exact Nat.zero_le _
  | succ number =>
      obtain ⟨result, hlast⟩ := grammar.exists_attempts_succ number source
      have hmissing := h.missing number (Nat.lt_succ_self number)
      have hbound :=
        length_distinct_concat_le (grammar.attempts number source) result
      rw [List.nil_append] at hmissing
      rw [hlast]
      omega

theorem distinct_eq_take (h : Collects grammar count remaining [] source made) :
    distinct (grammar.attempts made source) =
      (distinct (grammar.attempts remaining source)).take count.toNat := by
  have hlength := h.length_le
  have henough := h.enough
  have hbegins := distinct_prefix (grammar.attempts_prefix h.made_le source)
  rw [List.nil_append] at henough
  by_cases hleft : made < remaining
  · have hexact : (distinct (grammar.attempts made source)).length =
        count.toNat := by
      have hreached := henough hleft
      omega
    rw [← hexact]
    exact List.prefix_iff_eq_take.mp hbegins
  · obtain rfl : made = remaining :=
      Nat.le_antisymm h.made_le (Nat.le_of_not_lt hleft)
    exact (List.take_of_length_le hlength).symm

theorem collect_eq_take (h : Collects grammar count remaining [] source made) :
    grammar.collect count remaining [] source =
      ((distinct (grammar.attempts remaining source)).take count.toNat,
        grammar.sourceAfter made source) := by
  rw [← h.distinct_eq_take]
  exact h.collect_eq

end Collects

theorem sentences_generateMany (grammar : Grammar) (count limit : Int)
    (source : σ) :
    (grammar.generateMany count limit source).1.sentences =
      (distinct (grammar.attempts limit.toNat source)).take count.toNat := by
  obtain ⟨made, hmade⟩ := grammar.exists_collects count limit.toNat [] source
  exact congrArg Prod.fst hmade.collect_eq_take

/-- By induction on the attempts. -/
theorem exists_generate_of_mem_attempts {number : Nat} {source : σ}
    (h : some sentence ∈ grammar.attempts number source) :
    ∃ source : σ, (grammar.generate source).1 = some sentence := by
  induction number generalizing source with
  | zero => contradiction
  | succ number ih =>
      rcases List.mem_cons.mp h with hfirst | hlater
      · exact ⟨source, hfirst.symm⟩
      · exact ih hlater

theorem derives_of_mem_sentences {count limit : Int} {source : σ}
    (h : sentence ∈ (grammar.generateMany count limit source).1.sentences) :
    ∃ word, grammar.Derives word ∧ String.join word = sentence := by
  rw [sentences_generateMany] at h
  have hfound := List.mem_eraseDups.mp (List.mem_of_mem_take h)
  obtain ⟨_, hresult, rfl⟩ := List.mem_filterMap.mp hfound
  obtain ⟨drawn, hdrawn⟩ := exists_generate_of_mem_attempts hresult
  exact derives_of_generate hdrawn

theorem shortfall_generateMany (grammar : Grammar) (count limit : Int)
    (source : σ) :
    (grammar.generateMany count limit source).1.shortfall =
      if ((grammar.generateMany count limit source).1.sentences.length : Int) <
          count then
        some ⟨(grammar.generateMany count limit source).1.sentences.length,
          count, limit⟩
      else none := rfl

/-- A batch holds the first distinct sentences of successive attempts, as many
as were asked for or as the attempts give.  No attempt is made that is not
needed, a shortfall is reported exactly if there is one, and a batch with more
of either begins with the same sentences. -/
theorem generateMany_first_distinct (grammar : Grammar) (count limit : Int)
    (source : σ) :
    (grammar.generateMany count limit source).1.sentences =
      (distinct (grammar.attempts limit.toNat source)).take count.toNat ∧
    (∃ made ≤ limit.toNat,
      (grammar.generateMany count limit source).1.sentences =
        distinct (grammar.attempts made source) ∧
      (grammar.generateMany count limit source).2 =
        grammar.sourceAfter made source ∧
      (∀ fewer < made,
        ((distinct (grammar.attempts fewer source)).length : Int) < count) ∧
      (made < limit.toNat →
        count ≤ (distinct (grammar.attempts made source)).length)) ∧
    (∀ shortfall,
      (grammar.generateMany count limit source).1.shortfall = some shortfall ↔
        shortfall = ⟨(grammar.generateMany count limit source).1.sentences.length,
          count, limit⟩ ∧ (shortfall.found : Int) < count) ∧
    ∀ more longer, count ≤ more → limit ≤ longer →
      (grammar.generateMany count limit source).1.sentences <+:
        (grammar.generateMany more longer source).1.sentences := by
  obtain ⟨made, hmade⟩ := grammar.exists_collects count limit.toNat [] source
  refine ⟨grammar.sentences_generateMany count limit source,
    ⟨made, hmade.made_le, ?_, ?_, hmade.missing, hmade.enough⟩, ?_, ?_⟩
  · exact congrArg Prod.fst hmade.collect_eq
  · exact congrArg Prod.snd hmade.collect_eq
  · intro shortfall
    rw [shortfall_generateMany]
    split
    · next hfewer =>
        rw [Option.some_inj]
        constructor
        · rintro rfl
          exact ⟨rfl, hfewer⟩
        · exact fun h => h.1.symm
    · next henough =>
        refine iff_of_false (Option.some_ne_none shortfall).symm ?_
        rintro ⟨rfl, hfewer⟩
        exact henough hfewer
  · intro more longer hmore hlonger
    rw [sentences_generateMany, sentences_generateMany]
    have hbegins := distinct_prefix
      (grammar.attempts_prefix (Int.toNat_le_toNat hlonger) source)
    exact (hbegins.take _).trans
      (List.take_prefix_take_left (Int.toNat_le_toNat hmore))

/-- Of two walks through `crowdedGrammar` the first one fails and the second one
ends. -/
def everySecond : Script where
  units := []
  positions := [0, 0, 0, 1]

theorem crowdedGrammar_first_distinct :
    crowdedGrammar.attempts 4 everySecond =
        [none, some "ab", none, some "ab"] ∧
      (crowdedGrammar.generateMany 1 2 everySecond).1.sentences = ["ab"] ∧
      (crowdedGrammar.generateMany 3 4 everySecond).1.shortfall =
        some ⟨1, 3, 4⟩ ∧
      (1 : Int) ≤ 3 ∧ (2 : Int) ≤ 4 ∧
      (crowdedGrammar.generateMany 1 2 everySecond).1.sentences <+:
        (crowdedGrammar.generateMany 3 4 everySecond).1.sentences := by
  have hmore : (1 : Int) ≤ 3 := by decide
  have hlonger : (2 : Int) ≤ 4 := by decide
  have hlaw := generateMany_first_distinct crowdedGrammar 1 2 everySecond
  refine ⟨?_, ?_, ?_, hmore, hlonger, hlaw.2.2.2 3 4 hmore hlonger⟩
  · decide +kernel
  · decide +kernel
  · decide +kernel

end RightLinear.Grammar

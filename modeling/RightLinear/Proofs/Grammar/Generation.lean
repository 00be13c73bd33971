import RightLinear.Grammar.Sentence
import RightLinear.Proofs.Grammar.Kind

/-! Random sentences are the short words of the grammar.  Whatever is drawn, a
walk that ends has followed a derivation of its sentence; and as a source may
always leave a walk free to go on, every derivation within the step limit is
followed by some walk. -/

namespace RightLinear

namespace Grammar

theorem sentenceOf?_ending (terminal : String) :
    sentenceOf? [⟨terminal, none⟩] = some terminal := by
  simp [sentenceOf?, Production.ends, String.join_cons]

/-- A production that goes on only adds its terminal. -/
theorem sentenceOf?_continuing (terminal target : String)
    (later : List Production) :
    sentenceOf? (⟨terminal, some target⟩ :: later) =
      (sentenceOf? later).map (terminal ++ ·) := by
  cases later with
  | nil => rfl
  | cons next later =>
      unfold sentenceOf?
      rw [List.getLast?_cons_of_ne_nil (List.cons_ne_nil next later)]
      split
      · simp [String.join_cons]
      · rfl

section Draws

variable {σ : Type} [RandomSource σ]

theorem chooseProduction_mem (taken : Nat) (first : Production)
    (rest : List Production) (source : σ) :
    (chooseProduction taken first rest source).1 ∈ first :: rest := by
  unfold chooseProduction
  split
  · exact choose_mem first rest source
  · split
    · exact choose_mem first rest source
    · next ending endings hendings =>
        dsimp only
        split
        · have hchosen := choose_mem ending endings (RandomSource.unit source).2
          rw [← hendings] at hchosen
          exact (List.mem_filter.mp hchosen).1
        · exact choose_mem first rest _

variable {grammar : Grammar}

/-- By induction on the number of steps left, whatever the source draws. -/
theorem derivesFrom_of_walkFrom {remaining taken : Nat} {current : String}
    {source : σ} {sentence : String}
    (h : sentenceOf? (grammar.walkFrom remaining taken current source).1 =
      some sentence) :
    ∃ word, grammar.DerivesFrom current word ∧ word.length ≤ remaining ∧
      String.join word = sentence := by
  induction remaining generalizing taken current source sentence with
  | zero => contradiction
  | succ remaining ih =>
      rw [walkFrom] at h
      cases hproductions : grammar.productionsOf current with
      | nil =>
          rw [hproductions] at h
          contradiction
      | cons first rest =>
          rw [hproductions] at h
          have hchosen := chooseProduction_mem taken first rest source
          rw [← hproductions] at hchosen
          obtain ⟨⟨⟨terminal, target⟩, next⟩, hdrawn⟩ :
              ∃ drawn, chooseProduction taken first rest source = drawn :=
            ⟨_, rfl⟩
          simp only [hdrawn] at h hchosen
          cases target with
          | none =>
              obtain rfl :=
                Option.some.inj ((sentenceOf?_ending terminal).symm.trans h)
              refine ⟨[terminal], .ending hchosen, ?_, ?_⟩
              · exact Nat.succ_le_succ (Nat.zero_le _)
              · simp [String.join_cons]
          | some target =>
              obtain ⟨_, hlater, rfl⟩ := Option.map_eq_some_iff.mp
                ((sentenceOf?_continuing terminal target _).symm.trans h)
              obtain ⟨word, hderives, hlength, rfl⟩ := ih hlater
              refine ⟨terminal :: word, .continuing hchosen hderives, ?_, ?_⟩
              · exact Nat.succ_le_succ hlength
              · rw [String.join_cons]

end Draws

end Grammar

/-- The source gives these positions next, and no draw of a number sends a walk
to its end. -/
structure Script.Offers (script : Script) (pending : List Nat) : Prop where
  units : script.units = [0.99]
  positions : pending <+: script.positions.drop script.positionCount

namespace Script.Offers

variable {script : Script} {pending : List Nat} {position : Nat}

theorem getElem? (h : script.Offers (position :: pending)) :
    script.positions[script.positionCount]? = some position := by
  obtain ⟨later, hlater⟩ := h.positions
  rw [← List.head?_drop, ← hlater]
  rfl

theorem next (h : script.Offers (position :: pending)) :
    Offers { script with positionCount := script.positionCount + 1 }
      pending := by
  refine ⟨h.units, ?_⟩
  obtain ⟨later, hlater⟩ := h.positions
  refine ⟨later, ?_⟩
  rw [← List.tail_drop, ← hlater]
  rfl

theorem unit (h : script.Offers pending) :
    ∃ next, RandomSource.unit script = (0.99, next) ∧ next.Offers pending :=
  ⟨_, unit_eq h.units, h.units, h.positions⟩

theorem choose {α : Type} {first : α} {rest : List α}
    {position : Fin (rest.length + 1)}
    (h : script.Offers (position.val :: pending)) :
    ∃ next, RightLinear.choose first rest script =
        ((first :: rest).get position, next) ∧ next.Offers pending := by
  refine ⟨_, ?_, h.next⟩
  simp only [RightLinear.choose, index_eq h.getElem?]
  rfl

theorem chooseProduction {rest : List Production}
    {position : Fin (rest.length + 1)}
    (h : script.Offers (position.val :: pending)) (taken : Nat)
    (first : Production) :
    ∃ next, Grammar.chooseProduction taken first rest script =
        ((first :: rest).get position, next) ∧ next.Offers pending := by
  unfold Grammar.chooseProduction
  split
  · exact h.choose
  · split
    · exact h.choose
    · obtain ⟨drawn, hdrawn, hoffers⟩ := h.unit
      have hfree : ¬ (0.99 : Float) < Grammar.endingBias := by decide +kernel
      simp only [hdrawn, if_neg hfree]
      exact hoffers.choose

end Script.Offers

namespace Grammar

variable {grammar : Grammar}

/-- An offered position is the one that the next production of a walk is
chosen by. -/
theorem walkFrom_of_offers {left : String} {production : Production}
    {position : Nat} {pending : List Nat} {script : Script}
    (hposition : (grammar.productionsOf left)[position]? = some production)
    (hoffers : script.Offers (position :: pending)) (remaining taken : Nat) :
    ∃ next : Script, next.Offers pending ∧
      (grammar.walkFrom (remaining + 1) taken left script).1 =
        production :: match production.target with
          | none => []
          | some target =>
              (grammar.walkFrom remaining (taken + 1) target next).1 := by
  obtain ⟨hbound, hproduction⟩ := List.getElem?_eq_some_iff.mp hposition
  rw [walkFrom]
  cases hproductions : grammar.productionsOf left with
  | nil => simp [hproductions] at hbound
  | cons first rest =>
      simp only [hproductions] at hbound hproduction
      obtain ⟨next, hchosen, hnext⟩ :=
        @Script.Offers.chooseProduction script pending rest ⟨position, hbound⟩
          hoffers taken first
      refine ⟨next, hnext, ?_⟩
      simp only [hchosen, List.get_eq_getElem, hproduction]
      cases production.target with
      | none => rfl
      | some target => rfl

/-- By induction on the derivation: the positions of its productions among
those of their left-hand sides lead a walk along it. -/
theorem DerivesFrom.exists_positions {left : String} {word : List String}
    (h : grammar.DerivesFrom left word) :
    ∃ pending, ∀ (remaining taken : Nat) (script : Script),
      word.length ≤ remaining → script.Offers pending →
        sentenceOf? (grammar.walkFrom remaining taken left script).1 =
          some (String.join word) := by
  induction h with
  | @ending left terminal last =>
      obtain ⟨position, hposition⟩ := List.mem_iff_getElem?.mp last
      refine ⟨[position], ?_⟩
      intro remaining taken script hlength hoffers
      cases remaining with
      | zero => contradiction
      | succ remaining =>
          obtain ⟨_, _, hwalk⟩ :=
            walkFrom_of_offers hposition hoffers remaining taken
          rw [hwalk, sentenceOf?_ending]
          simp [String.join_cons]
  | @continuing left terminal target word first _ ih =>
      obtain ⟨position, hposition⟩ := List.mem_iff_getElem?.mp first
      obtain ⟨pending, hpending⟩ := ih
      refine ⟨position :: pending, ?_⟩
      intro remaining taken script hlength hoffers
      cases remaining with
      | zero => contradiction
      | succ remaining =>
          obtain ⟨next, hnext, hwalk⟩ :=
            walkFrom_of_offers hposition hoffers remaining taken
          have hlater := hpending remaining (taken + 1) next
            (Nat.le_of_succ_le_succ hlength) hnext
          rw [hwalk, sentenceOf?_continuing, hlater, String.join_cons]
          rfl

/-- A sentence is a word of the grammar within the step limit, and every such
word is the sentence of some walk. -/
theorem generate_short_words (grammar : Grammar) :
    (∀ {σ : Type} [RandomSource σ] (source : σ) (sentence : String),
      (grammar.generate source).1 = some sentence →
        grammar.Derives (Automaton.symbolsOf sentence) ∧
          1 ≤ sentence.length ∧ sentence.length ≤ stepLimit ∧
            ∀ automaton, grammar.toAutomaton = .ok automaton →
              automaton.accepts (Automaton.symbolsOf sentence) = true) ∧
      ∀ word, grammar.Derives word → word.length ≤ stepLimit →
        ∃ script : Script,
          (∀ drawn ∈ script.units, 0 ≤ drawn ∧ drawn < 1) ∧
            (grammar.generate script).1 = some (String.join word) := by
  constructor
  · intro σ _ source sentence hsentence
    have hwalk : sentenceOf?
        (grammar.walkFrom stepLimit 0 grammar.start source).1 =
          some sentence := hsentence
    obtain ⟨word, hderives, hlength, rfl⟩ := derivesFrom_of_walkFrom hwalk
    have hsymbols := Automaton.symbolsOf_join hderives.length_symbol
    have hcount := Automaton.length_symbolsOf (String.join word)
    rw [hsymbols] at hcount
    rw [hsymbols, ← hcount]
    refine ⟨hderives, List.length_pos_iff.mpr hderives.ne_nil, hlength, ?_⟩
    intro automaton hautomaton
    have hlinear := exists_toAutomaton_eq_ok_iff.mp ⟨automaton, hautomaton⟩
    rw [toAutomaton_eq_ok hlinear] at hautomaton
    obtain rfl := Except.ok.inj hautomaton
    exact accepts_recognizer_iff.mpr hderives
  · intro word hderives hlength
    obtain ⟨pending, hpending⟩ := hderives.exists_positions
    refine ⟨{ units := [0.99], positions := pending }, ?_, ?_⟩
    · intro drawn hdrawn
      rw [List.mem_singleton.mp hdrawn]
      decide +kernel
    · exact hpending stepLimit 0 _ hlength ⟨rfl, List.prefix_refl pending⟩

theorem crowdedGrammar_generate_short_words :
    crowdedGrammar.Derives ["a", "b"] ∧
      ∃ script : Script,
        (∀ drawn ∈ script.units, 0 ≤ drawn ∧ drawn < 1) ∧
          (crowdedGrammar.generate script).1 = some "ab" ∧
            crowdedGrammar.Derives (Automaton.symbolsOf "ab") ∧
              1 ≤ "ab".length ∧ "ab".length ≤ stepLimit ∧
                ∀ automaton, crowdedGrammar.toAutomaton = .ok automaton →
                  automaton.accepts (Automaton.symbolsOf "ab") = true := by
  have hending : ⟨"b", none⟩ ∈ crowdedGrammar.productionsOf "X" := by
    decide +kernel
  have hcontinuing :
      ⟨"a", some "X"⟩ ∈ crowdedGrammar.productionsOf "S" := by decide +kernel
  have hderives : crowdedGrammar.Derives ["a", "b"] :=
    .continuing hcontinuing (.ending hending)
  obtain ⟨script, hunits, hsentence⟩ :=
    (generate_short_words crowdedGrammar).2 _ hderives (by decide)
  exact ⟨hderives, script, hunits, hsentence,
    (generate_short_words crowdedGrammar).1 script _ hsentence⟩

end Grammar

end RightLinear

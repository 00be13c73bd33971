import RightLinear.Proofs.Grammar.Generation

/-! The draws of a walk.  A source that keeps what is drawn from it gives the
same walks, and what it has kept shows how every production was chosen: one
position for each of them and, on a long walk at a non-terminal that can end,
one number before it. -/

namespace RightLinear

inductive Draw where
  | unit (drawn : Float)
  | index (others position : Nat)

/-- A source that keeps the draws made from it, in order. -/
structure Recorded (σ : Type) where
  source : σ
  draws : List Draw := []

section Sources

variable {σ τ α : Type} [RandomSource σ] [RandomSource τ]

instance : RandomSource (Recorded σ) where
  unit recorded :=
    let (drawn, source) := RandomSource.unit recorded.source
    (drawn, ⟨source, recorded.draws ++ [.unit drawn]⟩)
  index others recorded :=
    let (position, source) := RandomSource.index others recorded.source
    (position, ⟨source, recorded.draws ++ [.index others position.val]⟩)

/-- Both sources give the same draws and correspond again after each. -/
structure KeepsDraws (convert : σ → τ) : Prop where
  unit : ∀ source, RandomSource.unit (convert source) =
    (RandomSource.unit source).map id convert
  index : ∀ others source, RandomSource.index others (convert source) =
    (RandomSource.index others source).map id convert

theorem Recorded.keepsDraws : KeepsDraws (Recorded.source : Recorded σ → σ) where
  unit _ := rfl
  index _ _ := rfl

theorem Recorded.exists_choose (first : α) (rest : List α)
    (recorded : Recorded σ) :
    ∃ position,
      (first :: rest)[position]? = some (choose first rest recorded).1 ∧
        (choose first rest recorded).2.draws =
          recorded.draws ++ [.index rest.length position] := by
  refine ⟨(RandomSource.index rest.length recorded.source).1.val, ?_, rfl⟩
  exact List.getElem?_eq_getElem (Fin.isLt _)

namespace KeepsDraws

variable {convert : σ → τ}

theorem choose (h : KeepsDraws convert) (first : α) (rest : List α)
    (source : σ) :
    RightLinear.choose first rest (convert source) =
      (RightLinear.choose first rest source).map id convert := by
  rw [RightLinear.choose, h.index]
  rfl

theorem chooseProduction (h : KeepsDraws convert) (taken : Nat)
    (first : Production) (rest : List Production) (source : σ) :
    Grammar.chooseProduction taken first rest (convert source) =
      (Grammar.chooseProduction taken first rest source).map id convert := by
  unfold Grammar.chooseProduction
  split
  · exact h.choose first rest source
  · split
    · exact h.choose first rest source
    · next ending endings _ =>
        rw [h.unit]
        obtain ⟨drawn, next⟩ := RandomSource.unit source
        by_cases hbias : drawn < Grammar.endingBias
        · simp only [Prod.map_apply, id, if_pos hbias]
          exact h.choose ending endings next
        · simp only [Prod.map_apply, id, if_neg hbias]
          exact h.choose first rest next

/-- By induction on the steps left: both walks stand at the same non-terminal,
and their sources correspond. -/
theorem walkFrom (h : KeepsDraws convert) (grammar : Grammar)
    (remaining taken : Nat) (left : String) (source : σ) :
    grammar.walkFrom remaining taken left (convert source) =
      (grammar.walkFrom remaining taken left source).map id convert := by
  induction remaining generalizing taken left source with
  | zero => rfl
  | succ remaining ih =>
      rw [Grammar.walkFrom, Grammar.walkFrom]
      cases grammar.productionsOf left with
      | nil => rfl
      | cons first rest =>
          dsimp only
          rw [h.chooseProduction]
          obtain ⟨⟨terminal, target⟩, next⟩ :=
            Grammar.chooseProduction taken first rest source
          cases target with
          | none => rfl
          | some target =>
              simp only [Prod.map_apply, id, ih]
              rfl

theorem generate (h : KeepsDraws convert) (grammar : Grammar) (source : σ) :
    grammar.generate (convert source) =
      (grammar.generate source).map id convert := by
  rw [Grammar.generate, Grammar.walk, h.walkFrom]
  rfl

end KeepsDraws

end Sources

namespace Grammar

/-- A production chosen on a walk, with what was drawn for it. -/
structure Choice where
  /-- The number drawn first, if any. -/
  leaning : Option Float
  /-- The productions among which the position was drawn. -/
  options : List Production
  position : Nat
  production : Production

namespace Choice

def draws (choice : Choice) : List Draw :=
  (choice.leaning.map Draw.unit).toList ++
    [.index (choice.options.length - 1) choice.position]

/-- The choice was made for a production of `left`, as the given step of a
walk; the first step has number one. -/
structure IsMade (grammar : Grammar) (step : Nat) (left : String)
    (choice : Choice) : Prop where
  leaning_iff : choice.leaning.isSome = true ↔
    leaningThreshold < step ∧
      ∃ production ∈ grammar.productionsOf left, production.ends = true
  options_eq : choice.options =
    if choice.leaning.any (· < endingBias) then
      (grammar.productionsOf left).filter Production.ends
    else grammar.productionsOf left
  production_eq : choice.options[choice.position]? = some choice.production

namespace IsMade

variable {grammar : Grammar} {step : Nat} {left : String} {choice : Choice}

theorem mem (h : choice.IsMade grammar step left) :
    choice.production ∈ grammar.productionsOf left := by
  have hmem := List.mem_of_getElem? h.production_eq
  rw [h.options_eq] at hmem
  split at hmem
  · exact (List.mem_filter.mp hmem).1
  · exact hmem

/-- A small number sends the walk to its end. -/
theorem ends (h : choice.IsMade grammar step left)
    (hleaning : choice.leaning.any (· < endingBias) = true) :
    choice.production.ends = true := by
  have hmem := List.mem_of_getElem? h.production_eq
  rw [h.options_eq, if_pos hleaning] at hmem
  exact (List.mem_filter.mp hmem).2

end IsMade

end Choice

/-- The choices of a walk from `left`, up to any point; the first one is the
given step. -/
inductive Follows (grammar : Grammar) : Nat → String → List Choice → Prop
  | stopped {step : Nat} {left : String} : Follows grammar step left []
  | ending {step : Nat} {left : String} {choice : Choice}
      (made : choice.IsMade grammar step left)
      (last : choice.production.target = none) :
      Follows grammar step left [choice]
  | continuing {step : Nat} {left next : String} {choice : Choice}
      {later : List Choice} (made : choice.IsMade grammar step left)
      (first : choice.production.target = some next)
      (rest : Follows grammar (step + 1) next later) :
      Follows grammar step left (choice :: later)

/-- The non-terminal that a walk from `left` has come to, unless it has
ended. -/
def reached (left : String) (choices : List Choice) : Option String :=
  match choices.getLast? with
  | none => some left
  | some last => last.production.target

theorem reached_cons {left next : String} {choice : Choice}
    (h : choice.production.target = some next) (later : List Choice) :
    reached left (choice :: later) = reached next later := by
  cases later with
  | nil => exact h
  | cons second later =>
      rw [reached, reached, List.getLast?_cons_of_ne_nil (List.cons_ne_nil _ _)]
      rfl

theorem reached_eq_none_iff (left : String) {choices : List Choice} :
    reached left choices = none ↔
      ∃ last, choices.getLast? = some last ∧ last.production.ends = true := by
  rw [reached]
  cases choices.getLast? with
  | none => simp
  | some last => simp [Production.ends]

section Walks

variable {σ : Type} [RandomSource σ] {grammar : Grammar}

/-- A position drawn after the number, if any, makes a choice. -/
theorem exists_of_choose {step : Nat} {left : String} {leaning : Option Float}
    {first : Production} {rest : List Production} {earlier : List Draw}
    {recorded : Recorded σ}
    (hdrawn : recorded.draws = earlier ++ (leaning.map Draw.unit).toList)
    (hleaning : leaning.isSome = true ↔ leaningThreshold < step ∧
      ∃ production ∈ grammar.productionsOf left, production.ends = true)
    (hoptions : first :: rest =
      if leaning.any (· < endingBias) then
        (grammar.productionsOf left).filter Production.ends
      else grammar.productionsOf left) :
    ∃ choice : Choice, choice.IsMade grammar step left ∧
      (choose first rest recorded).1 = choice.production ∧
        (choose first rest recorded).2.draws = earlier ++ choice.draws := by
  obtain ⟨position, hchosen, hdraws⟩ := recorded.exists_choose first rest
  refine ⟨⟨leaning, first :: rest, position, _⟩, ⟨hleaning, hoptions, hchosen⟩,
    rfl, ?_⟩
  rw [hdraws, hdrawn, List.append_assoc]
  rfl

/-- What has been drawn for a production shows how it was chosen. -/
theorem exists_choice {left : String} {first : Production}
    {rest : List Production}
    (hproductions : grammar.productionsOf left = first :: rest) (taken : Nat)
    (recorded : Recorded σ) :
    ∃ choice : Choice, choice.IsMade grammar (taken + 1) left ∧
      (chooseProduction taken first rest recorded).1 = choice.production ∧
        (chooseProduction taken first rest recorded).2.draws =
          recorded.draws ++ choice.draws := by
  have hnothing : recorded.draws =
      recorded.draws ++ (Option.map Draw.unit none).toList :=
    (List.append_nil _).symm
  unfold chooseProduction
  split
  · next hearly =>
      have hbound : ¬ leaningThreshold < taken + 1 := by omega
      exact exists_of_choose hnothing (by simp [hbound]) hproductions.symm
  · next hlate =>
      have hbound : leaningThreshold < taken + 1 := by omega
      split
      · next hnone =>
          rw [List.filter_eq_nil_iff, ← hproductions] at hnone
          exact exists_of_choose hnothing (by simpa [hbound] using hnone)
            hproductions.symm
      · next ending endings hendings =>
          rw [← hproductions] at hendings
          have hending : ending ∈
              (grammar.productionsOf left).filter Production.ends :=
            hendings ▸ List.mem_cons_self
          have hcan : leaningThreshold < taken + 1 ∧
              ∃ production ∈ grammar.productionsOf left,
                production.ends = true :=
            ⟨hbound, ending, List.mem_filter.mp hending⟩
          obtain ⟨⟨drawn, next⟩, hunit⟩ :
              ∃ result, RandomSource.unit recorded = result := ⟨_, rfl⟩
          have hkept : next.draws =
              recorded.draws ++ (Option.map Draw.unit (some drawn)).toList := by
            cases hunit
            rfl
          simp only [hunit]
          split
          · next hbias =>
              exact exists_of_choose hkept (iff_of_true rfl hcan)
                (by simp [hbias, hendings])
          · next hbias =>
              exact exists_of_choose hkept (iff_of_true rfl hcan)
                (by simp [hbias, hproductions])

/-- By induction on the steps left: a walk is made of choices, its draws are
theirs, and it stops at the step limit, at its end or where nothing can be
chosen. -/
theorem exists_follows (grammar : Grammar) (remaining taken : Nat)
    (left : String) (recorded : Recorded σ) :
    ∃ choices, Follows grammar (taken + 1) left choices ∧
      choices.length ≤ remaining ∧
        (grammar.walkFrom remaining taken left recorded).1 =
          choices.map Choice.production ∧
        (grammar.walkFrom remaining taken left recorded).2.draws =
          recorded.draws ++ choices.flatMap Choice.draws ∧
        ∀ next, reached left choices = some next →
          grammar.productionsOf next = [] ∨ choices.length = remaining := by
  induction remaining generalizing taken left recorded with
  | zero =>
      refine ⟨[], .stopped, Nat.le_refl 0, rfl, (List.append_nil _).symm, ?_⟩
      exact fun next _ => .inr rfl
  | succ remaining ih =>
      rw [walkFrom]
      cases hproductions : grammar.productionsOf left with
      | nil =>
          refine ⟨[], .stopped, Nat.zero_le _, rfl, (List.append_nil _).symm, ?_⟩
          rintro next ⟨rfl⟩
          exact .inl hproductions
      | cons first rest =>
          obtain ⟨choice, hmade, hchosen, hdraws⟩ :=
            exists_choice hproductions taken recorded
          obtain ⟨⟨production, next⟩, hdrawn⟩ :
              ∃ result, chooseProduction taken first rest recorded = result :=
            ⟨_, rfl⟩
          rw [hdrawn] at hchosen hdraws
          simp only at hchosen hdraws
          simp only [hdrawn, hchosen]
          cases htarget : choice.production.target with
          | none =>
              refine ⟨[choice], .ending hmade htarget, ?_, rfl, ?_, ?_⟩
              · exact Nat.succ_le_succ (Nat.zero_le _)
              · simpa using hdraws
              · intro after hafter
                rw [reached] at hafter
                simp [htarget] at hafter
          | some target =>
              obtain ⟨later, hfollows, hlength, hwalk, hlater, hstops⟩ :=
                ih (taken + 1) target next
              refine ⟨choice :: later, .continuing hmade htarget hfollows,
                Nat.succ_le_succ hlength, ?_, ?_, ?_⟩
              · simp only [hwalk, List.map_cons]
              · simp only [hlater, hdraws, List.flatMap_cons, List.append_assoc]
              · intro after hafter
                rw [reached_cons htarget] at hafter
                rw [List.length_cons, Nat.succ_inj]
                exact hstops after hafter

end Walks

section Sentences

variable {grammar : Grammar} {step : Nat} {left : String}
  {choices : List Choice}

theorem Follows.length_terminal (h : Follows grammar step left choices) :
    ∀ terminal ∈ (choices.map Choice.production).map Production.terminal,
      terminal.length = 1 := by
  induction h with
  | stopped => exact List.forall_mem_nil _
  | ending made _ =>
      exact List.forall_mem_singleton.mpr (grammar.length_terminal _
        (terminal_mem_of_mem_productionsOf made.mem))
  | continuing made _ _ ih =>
      exact List.forall_mem_cons.mpr ⟨grammar.length_terminal _
        (terminal_mem_of_mem_productionsOf made.mem), ih⟩

/-- A small number drawn for a choice sends the walk to its end. -/
theorem Follows.ends (h : Follows grammar step left choices) :
    ∀ choice ∈ choices, choice.leaning.any (· < endingBias) = true →
      choice.production.ends = true := by
  induction h with
  | stopped => exact List.forall_mem_nil _
  | ending made _ => exact List.forall_mem_singleton.mpr made.ends
  | continuing made _ _ ih => exact List.forall_mem_cons.mpr ⟨made.ends, ih⟩

/-- A walk that has come to a non-terminal has not ended before. -/
theorem Follows.continue_of_reached (h : Follows grammar step left choices)
    {current : String} (hreached : reached left choices = some current) :
    ∀ choice ∈ choices, choice.production.ends = false := by
  induction h with
  | stopped => exact List.forall_mem_nil _
  | ending _ last =>
      rw [reached, List.getLast?_singleton] at hreached
      simp [last] at hreached
  | continuing _ first _ ih =>
      rw [reached_cons first] at hreached
      refine List.forall_mem_cons.mpr ⟨?_, ih hreached⟩
      rw [Production.ends, first]
      rfl

theorem length_join {word : List String}
    (h : ∀ symbol ∈ word, symbol.length = 1) :
    (String.join word).length = word.length := by
  rw [← Automaton.length_symbolsOf, Automaton.symbolsOf_join h]

/-- Choices give a sentence if they have come to an end. -/
theorem sentenceOf?_choices (left : String) (choices : List Choice) :
    sentenceOf? (choices.map Choice.production) =
      match reached left choices with
      | none => some (String.join
          ((choices.map Choice.production).map Production.terminal))
      | some _ => none := by
  rw [sentenceOf?, reached, List.getLast?_map]
  cases choices.getLast? with
  | none => rfl
  | some last =>
      cases htarget : last.production.target with
      | none => simp [Production.ends, htarget]
      | some target => simp [Production.ends, htarget]

/-- Its sentence has one symbol for each choice. -/
theorem Follows.exists_sentence_iff (h : Follows grammar step left choices) :
    (∃ sentence, sentenceOf? (choices.map Choice.production) = some sentence ∧
        sentence.length = choices.length) ↔
      ∃ last, choices.getLast? = some last ∧ last.production.ends = true := by
  have hcount := length_join h.length_terminal
  rw [List.length_map, List.length_map] at hcount
  rw [sentenceOf?_choices left choices, ← reached_eq_none_iff left]
  cases reached left choices with
  | none => exact iff_of_true ⟨_, rfl, hcount⟩ rfl
  | some next =>
      refine iff_of_false ?_ (Option.some_ne_none next)
      rintro ⟨sentence, hsentence, -⟩
      contradiction

/-- Choices that can go no further give no sentence exactly if nothing can be
chosen where they have come to, or they are all that the limit allows. -/
theorem Follows.sentenceOf?_eq_none_iff (h : Follows grammar step left choices)
    {limit : Nat} (hstops : ∀ next, reached left choices = some next →
      grammar.productionsOf next = [] ∨ choices.length = limit) :
    sentenceOf? (choices.map Choice.production) = none ↔
      (∃ next, reached left choices = some next ∧
        grammar.productionsOf next = []) ∨
      choices.length = limit ∧
        ∀ choice ∈ choices, choice.production.ends = false := by
  rw [sentenceOf?_choices left choices]
  cases hreached : reached left choices with
  | none =>
      obtain ⟨last, hlast, hends⟩ := (reached_eq_none_iff left).mp hreached
      refine iff_of_false (Option.some_ne_none _) ?_
      rintro (⟨next, hnext, -⟩ | ⟨-, hcontinue⟩)
      · contradiction
      · have hnot := hcontinue last (List.mem_of_getLast? hlast)
        rw [hends] at hnot
        contradiction
  | some next =>
      refine iff_of_true rfl ?_
      rcases hstops next hreached with hstuck | hfull
      · exact .inl ⟨next, rfl, hstuck⟩
      · exact .inr ⟨hfull, h.continue_of_reached hreached⟩

end Sentences

/-- A walk makes at most as many choices as the step limit allows.  Each takes
one position from the source and, beyond the leaning threshold at a
non-terminal that can end, one number before it; nothing else is drawn. -/
theorem generate_choices {σ : Type} [RandomSource σ] (grammar : Grammar)
    (source : σ) :
    ∃ choices : List Choice,
      Follows grammar 1 grammar.start choices ∧
        choices.length ≤ stepLimit ∧
        grammar.generate (Recorded.mk source []) =
          ((grammar.generate source).1,
            ⟨(grammar.generate source).2, choices.flatMap Choice.draws⟩) ∧
        (∀ choice ∈ choices, choice.leaning.any (· < endingBias) = true →
          choice.production.ends = true) ∧
        ((∃ sentence, (grammar.generate source).1 = some sentence ∧
            sentence.length = choices.length) ↔
          ∃ last, choices.getLast? = some last ∧
            last.production.ends = true) ∧
        ((grammar.generate source).1 = none ↔
          (∃ next, reached grammar.start choices = some next ∧
            grammar.productionsOf next = []) ∨
          choices.length = stepLimit ∧
            ∀ choice ∈ choices, choice.production.ends = false) := by
  obtain ⟨choices, hfollows, hlength, hwalk, hdraws, hstops⟩ :=
    exists_follows grammar stepLimit 0 grammar.start (Recorded.mk source [])
  have hsame : grammar.generate source =
      (grammar.generate (Recorded.mk source [])).map id Recorded.source :=
    Recorded.keepsDraws.generate grammar (Recorded.mk source [])
  have hresult : (grammar.generate source).1 =
      sentenceOf? (choices.map Choice.production) := by
    rw [hsame, ← hwalk]
    rfl
  refine ⟨choices, hfollows, hlength, ?_, hfollows.ends, ?_, ?_⟩
  · have hkept : (grammar.generate (Recorded.mk source [])).2.draws =
        choices.flatMap Choice.draws := hdraws
    rw [← hkept, hsame]
    rfl
  · rw [hresult]
    exact hfollows.exists_sentence_iff
  · rw [hresult]
    exact hfollows.sentenceOf?_eq_none_iff hstops

/-- Every sentence is some symbols `a` and one `b`. -/
def loopGrammar : Grammar where
  nonterminals := .ofList ["L"]
  terminals := .ofList ["b", "a"]
  rules := .ofList [("L", [⟨"a", some "L"⟩, ⟨"b", none⟩])]
  start := "L"
  length_terminal := by decide +kernel
  start_mem := by decide +kernel
  left_side := by
    intro left hleft
    apply isLeftSide_of_mem
    revert left
    decide +kernel
  terminal_mem := by decide +kernel
  target_mem := by decide +kernel

/-! A source that always gives the first of several productions: the number
drawn for choice 21 decides whether the walk ends. -/

example : (loopGrammar.generate (Script.mk [0.0] [] 0 0)).1 =
    some "aaaaaaaaaaaaaaaaaaaab" := by decide +kernel

example : (loopGrammar.generate (Script.mk [0.99] [] 0 0)).1 = none := by
  decide +kernel

end Grammar

end RightLinear

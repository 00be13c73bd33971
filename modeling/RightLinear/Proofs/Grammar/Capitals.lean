import RightLinear.Proofs.Grammar.Derivation
import RightLinear.Proofs.Grammar.Faults
import RightLinear.Proofs.Grammar.PrintedLine

/-! Names that begin with an upper-case letter of any script.  Digits and primes
after the letter belong to the name only where the letter is one of the capitals
A to Z.  Any other upper-case letter is a non-terminal by itself, the digits and
primes after it are terminals, and a production that goes on with such a name is
refused. -/

namespace RightLinear.Grammar

open Text Document Format

/-- An upper-case letter with digits and primes after it. -/
structure UppercaseName where
  letter : Char
  suffix : List Char
  isUppercase : Text.isUppercase letter = true
  isSuffix : ∀ character ∈ suffix, Token.isSuffix character = true

section Letters

variable {character : Char}

theorem uppercaseRanges_apart :
    (uppercaseRanges.all fun range => blankRanges.all fun blanks =>
      Nat.blt range.high blanks.1 || Nat.blt blanks.2 range.low) = true := by
  decide +kernel

theorem isBlank_of_isUppercase (h : isUppercase character = true) :
    isBlank character = false := by
  obtain ⟨range, hrange, hinside⟩ := List.any_eq_true.mp h
  rw [SteppedRange.contains, Bool.and_eq_true, Bool.and_eq_true,
    decide_eq_true_eq, decide_eq_true_eq] at hinside
  have hapart := List.all_eq_true.mp uppercaseRanges_apart range hrange
  exact isBlank_of_apart hapart hinside.1.1 hinside.1.2

end Letters

namespace UppercaseName

variable {name : UppercaseName} {character : Char} {rest : List Char}

def text (name : UppercaseName) : List Char := name.letter :: name.suffix

def symbol (name : UppercaseName) : String := String.ofList name.text

/-- Only capitals take what follows them into the name. -/
def IsWhole (name : UppercaseName) : Prop :=
  Token.isCapital name.letter = true ∨ name.suffix = []

instance (name : UppercaseName) : Decidable name.IsWhole :=
  inferInstanceAs (Decidable (_ ∨ _))

/-- The symbols that the name is read as. -/
def pieces (name : UppercaseName) : List String :=
  if Token.isCapital name.letter then [name.symbol]
  else name.text.map String.singleton

def tokens (name : UppercaseName) : List Token := name.pieces.map .plain

theorem uppercase_or_suffix (h : character ∈ name.text) :
    Text.isUppercase character = true ∨ Token.isSuffix character = true := by
  cases List.mem_cons.mp h with
  | inl hletter => exact .inl (hletter ▸ name.isUppercase)
  | inr hsuffix => exact .inr (name.isSuffix character hsuffix)

theorem isBlank_of_mem (h : character ∈ name.text) :
    isBlank character = false := by
  cases uppercase_or_suffix h with
  | inl huppercase => exact isBlank_of_isUppercase huppercase
  | inr hsuffix => exact isBlank_of_isSuffix hsuffix

theorem not_mem_text (huppercase : Text.isUppercase character = false)
    (hsuffix : Token.isSuffix character = false) : character ∉ name.text := by
  intro hmem
  cases uppercase_or_suffix hmem with
  | inl h => exact Bool.false_ne_true (huppercase.symm.trans h)
  | inr h => exact Bool.false_ne_true (hsuffix.symm.trans h)

theorem avoids (name : UppercaseName) :
    Avoids ['|', '#', '→', '\n'] name.text := by
  intro character hcharacter hreserved
  simp only [List.mem_cons, List.not_mem_nil, or_false] at hreserved
  revert hcharacter
  rcases hreserved with rfl | rfl | rfl | rfl
  all_goals exact not_mem_text (by decide +kernel) (by decide)

section Reading

/-- Digits and primes that belong to no name are read one by one. -/
theorem tokens_singles {text : List Char}
    (h : ∀ character ∈ text, isBlank character = false ∧ character ≠ '<' ∧
      Token.isCapital character = false) (rest : List Char) :
    Grammar.tokens (text ++ rest) =
      (text.map String.singleton).map .plain ++ Grammar.tokens rest := by
  induction text with
  | nil => rfl
  | cons character text ih =>
      obtain ⟨⟨hvisible, hangle, hcapital⟩, hlater⟩ := List.forall_mem_cons.mp h
      rw [List.cons_append, tokens_cons hvisible,
        Token.read_single hangle hcapital, ih hlater]
      rfl

theorem not_capital_of_suffix (h : character ∈ name.suffix) :
    Token.isCapital character = false := by
  have hsuffix := Token.isSuffix_iff.mp (name.isSuffix character h)
  rw [Bool.eq_false_iff]
  intro hcapital
  have hrange := Token.isCapital_iff.mp hcapital
  omega

theorem tokens_text (hrest : Boundary rest) :
    Grammar.tokens (name.text ++ rest) = name.tokens ++ Grammar.tokens rest := by
  cases hcapital : Token.isCapital name.letter with
  | true =>
      rw [text, List.cons_append, tokens_cons (isBlank_of_isCapital hcapital),
        Token.read_capital hcapital name.isSuffix hrest.not_suffix, tokens, pieces,
        if_pos hcapital]
      rfl
  | false =>
      have hsingle : ∀ character ∈ name.text, isBlank character = false ∧
          character ≠ '<' ∧ Token.isCapital character = false := by
        intro character hcharacter
        refine ⟨isBlank_of_mem hcharacter, ?_, ?_⟩
        · intro hangle
          exact not_mem_text (by decide +kernel) (by decide) (hangle ▸ hcharacter)
        · cases List.mem_cons.mp hcharacter with
          | inl hletter => exact hletter ▸ hcapital
          | inr hsuffix => exact not_capital_of_suffix hsuffix
      rw [tokens_singles hsingle, tokens, pieces, if_neg (by simp [hcapital])]

theorem join_pieces (name : UppercaseName) :
    String.join name.pieces = name.symbol := by
  apply String.toList_injective
  rw [pieces]
  split
  · simp
  · rw [String.toList_join, List.flatMap_map, symbol, String.toList_ofList]
    simp only [String.toList_singleton]
    exact List.flatMap_singleton' name.text

theorem join_tokens (name : UppercaseName) {shown : Token → String}
    (hshown : ∀ text, shown (.plain text) = text) :
    String.join (name.tokens.map shown) = name.symbol := by
  have hall : shown ∘ Token.plain = id := funext hshown
  rw [tokens, List.map_map, hall, List.map_id, join_pieces]

theorem isNonterminal_symbol (name : UppercaseName) :
    (Token.plain name.symbol).isNonterminal = true := by
  rw [Token.isNonterminal, symbol, String.toList_ofList]
  exact name.isUppercase

/-- The first token is a non-terminal, whether it is the whole name or only its
letter. -/
theorem exists_nonterminal (name : UppercaseName) :
    ∃ token ∈ name.tokens, token.isNonterminal = true := by
  cases hcapital : Token.isCapital name.letter with
  | true =>
      refine ⟨.plain name.symbol, ?_, name.isNonterminal_symbol⟩
      rw [tokens, pieces, if_pos hcapital]
      exact List.mem_cons_self
  | false =>
      refine ⟨.plain (String.singleton name.letter), ?_, ?_⟩
      · rw [tokens, pieces, if_neg (by simp [hcapital])]
        exact List.mem_cons_self
      · rw [Token.isNonterminal, String.toList_singleton]
        exact name.isUppercase

theorem IsWhole.tokens_eq (h : name.IsWhole) :
    name.tokens = [.plain name.symbol] := by
  rw [tokens, pieces]
  split
  · rfl
  · next hcapital =>
      have hsuffix : name.suffix = [] := h.resolve_left hcapital
      rw [symbol, text, hsuffix, ← String.singleton_eq_ofList]
      rfl

/-- A name that is not whole is read as its characters, of which there are at
least two. -/
theorem exists_tokens_eq (h : ¬ name.IsWhole) :
    ∃ second later, name.tokens =
      .plain (String.singleton name.letter) ::
        .plain (String.singleton second) ::
          (later.map String.singleton).map .plain ∧
      name.suffix = second :: later := by
  obtain ⟨hcapital, hsuffix⟩ := not_or.mp h
  obtain ⟨second, later, hsuffix⟩ := List.exists_cons_of_ne_nil hsuffix
  refine ⟨second, later, ?_, hsuffix⟩
  rw [tokens, pieces, if_neg hcapital, text, hsuffix]
  rfl

theorem tokens_eq_singleton_iff :
    name.tokens = [.plain name.symbol] ↔ name.IsWhole := by
  constructor
  · intro hsingle
    by_contra hbroken
    obtain ⟨second, later, htokens, -⟩ := exists_tokens_eq hbroken
    have hlength := congrArg List.length (hsingle.symm.trans htokens)
    simp at hlength
  · exact IsWhole.tokens_eq

end Reading

section Symbols

variable {other : UppercaseName} {token : Token}

theorem length_symbol (name : UppercaseName) :
    name.symbol.length = name.suffix.length + 1 := by
  rw [symbol, String.length_ofList]
  rfl

theorem isWhole_congr (h : other.symbol = name.symbol) :
    other.IsWhole ↔ name.IsWhole := by
  obtain ⟨hletter, hsuffix⟩ := List.cons.inj (String.ofList_injective h)
  rw [IsWhole, IsWhole, hletter, hsuffix]

/-- No symbol that is read for any name is a name that is not whole. -/
theorem isWhole_of_symbol (htoken : token ∈ other.tokens)
    (h : token.symbol = name.symbol) : name.IsWhole := by
  by_cases hother : other.IsWhole
  · rw [hother.tokens_eq, List.mem_singleton] at htoken
    subst htoken
    exact (isWhole_congr h).mp hother
  · have hcapital : ¬ Token.isCapital other.letter = true :=
      fun hcapital => hother (.inl hcapital)
    rw [tokens, pieces, if_neg hcapital, List.map_map] at htoken
    obtain ⟨character, -, rfl⟩ := List.mem_map.mp htoken
    have hlength := name.length_symbol
    rw [← h, Function.comp_apply, Token.symbol, String.length_singleton]
      at hlength
    exact .inr (List.length_eq_zero_iff.mp (by omega))

theorem mem_suffix_of_terminal (htoken : token ∈ name.tokens)
    (hterminal : token.isNonterminal = false) :
    ∃ character ∈ name.suffix, token = .plain (String.singleton character) := by
  by_cases hwhole : name.IsWhole
  · rw [hwhole.tokens_eq, List.mem_singleton] at htoken
    rw [htoken, isNonterminal_symbol] at hterminal
    contradiction
  · obtain ⟨second, later, htokens, hsuffix⟩ := exists_tokens_eq hwhole
    rw [htokens] at htoken
    cases List.mem_cons.mp htoken with
    | inl hfirst =>
        rw [hfirst, Token.isNonterminal, String.toList_singleton] at hterminal
        exact absurd (hterminal.symm.trans name.isUppercase) Bool.false_ne_true
    | inr hlater =>
        rw [← List.map_cons, ← List.map_cons, List.map_map, ← hsuffix] at hlater
        obtain ⟨character, hcharacter, rfl⟩ := List.mem_map.mp hlater
        exact ⟨character, hcharacter, rfl⟩

end Symbols

end UppercaseName

section Terminals

variable {line text : List Char} {character : Char}

theorem not_mem_withPlainArrows (line : List Char) :
    '→' ∉ withPlainArrows line := by
  intro hmem
  rcases mem_replace hmem with harrow | hreplaced
  · exact absurd harrow (by decide)
  · exact not_mem_replace (by decide) line hreplaced

theorem mem_withPlainArrows (h : character ∈ withPlainArrows line) :
    character ∈ "->".toList ∨ character ∈ line := by
  rcases mem_replace h with harrow | hreplaced
  · exact .inl harrow
  · exact mem_replace hreplaced

/-- Comments are taken off before arrows are replaced. -/
theorem not_mem_code (line : List Char) :
    '#' ∉ withPlainArrows (trim (withoutComment line)) := by
  intro hmem
  rcases mem_withPlainArrows hmem with harrow | hcode
  · exact absurd harrow (by decide)
  · obtain ⟨lead, trail, -, -, hline⟩ := exists_trim (withoutComment line)
    have hin : '#' ∈ withoutComment line := by
      rw [hline]
      simp [hcode]
    simpa using List.all_eq_true.mp List.all_takeWhile '#' hin

theorem mem_of_single_mem_tokens
    (h : .plain (String.singleton character) ∈ tokens text)
    (hvisible : isBlank character = false) : character ∈ text := by
  have hall := (tokenized_tokens text).visible_eq
  have hmem : character ∈
      ((tokens text).flatMap (·.written.toList)).filter (!isBlank ·) := by
    refine List.mem_filter.mpr ⟨List.mem_flatMap.mpr ⟨_, h, ?_⟩, by simp [hvisible]⟩
    rw [Token.written, String.toList_singleton]
    exact List.mem_cons_self
  rw [hall] at hmem
  exact (List.mem_filter.mp hmem).1

/-- Nothing but plain characters is read as the terminal of a production. -/
theorem exists_plain_of_read {text : String} {grammar : Grammar}
    {left : String} {production : Production} (hread : read text = .ok grammar)
    (hproduction : production ∈ grammar.productionsOf left) :
    ∃ character, IsPlainCharacter character ∧
      production.terminal = String.singleton character := by
  obtain ⟨found, productions, hlines, hepsilon, hrules, hformed, rfl⟩ :=
    exists_description_of_read hread
  obtain ⟨gathered, hgathered, hmem⟩ := mem_productionsOf.mp hproduction
  obtain ⟨entry, hentry, -, hin⟩ := mem_gather hgathered hmem
  obtain ⟨rule, hrule, hentryRead⟩ := exists_mem_of_mapM hrules entry hentry
  obtain ⟨right, hright, hstep⟩ :=
    exists_mem_of_mapM (eq_of_readProductions hentryRead).2 production hin
  obtain ⟨⟨token, htoken, hkind, hsymbol⟩, -⟩ :=
    exists_tokens_of_readProduction hstep
  obtain ⟨line, -, hline⟩ := exists_readLine_of_rule hlines hrule
  have hcode := readRule_of_readLine hline
  obtain ⟨rest, hstands⟩ := exists_stands_of_readRule hcode token
    (List.mem_append_right _ (List.mem_flatten.mpr ⟨right, hright, htoken⟩))
  obtain ⟨character, hvisible, rfl⟩ := hstands.eq_singleton hkind
  obtain ⟨front, back, hcut, halternatives⟩ := exists_sides hcode
  rw [halternatives] at hright
  obtain ⟨piece, hpiece, rfl⟩ := List.mem_map.mp hright
  have hmemPiece := mem_of_single_mem_tokens htoken hvisible
  have hmemCode : character ∈
      withPlainArrows (trim (withoutComment line)) := by
    rw [cut?_sound hcut]
    rw [splitWhere_eq_splitOnP] at hpiece
    exact List.mem_append_right _
      (mem_of_mem_splitOnP hpiece character hmemPiece)
  refine ⟨character, ⟨hvisible, ?_, ?_⟩, hsymbol.symm⟩
  · rwa [Token.isNonterminal, String.toList_singleton] at hkind
  · simp only [List.mem_cons, List.not_mem_nil, or_false, not_or]
    refine ⟨?_, ?_, ?_, ?_⟩
    · exact fun heq => not_mem_code line (heq ▸ hmemCode)
    · intro heq
      have hbar := separates_eq_false_of_mem hpiece character hmemPiece
      rw [heq] at hbar
      contradiction
    · exact fun heq => not_mem_withPlainArrows _ (heq ▸ hmemCode)
    · intro heq
      rw [heq] at hsymbol
      have hdeclared := (declared_of_mem_gather hrules hgathered hmem).1
      rw [← hsymbol] at hdeclared
      exact hepsilon hdeclared

end Terminals

/-- A production of a terminal and an upper-case name, for another such name.
The terminal is any that a production can have, `exists_plain_of_read`. -/
structure UppercaseRule where
  left : UppercaseName
  terminal : Char
  right : UppercaseName
  isPlain : IsPlainCharacter terminal

namespace UppercaseRule

variable {rule : UppercaseRule}

def production (rule : UppercaseRule) : Production :=
  ⟨String.singleton rule.terminal, some rule.right.symbol⟩

def rightTokens (rule : UppercaseRule) : List Token :=
  .plain (String.singleton rule.terminal) :: rule.right.tokens

/-- What is read from the line. -/
def document (rule : UppercaseRule) : Document.Rule :=
  ⟨rule.left.tokens, [rule.rightTokens]⟩

def refusal (rule : UppercaseRule) (left : String) : DocumentError :=
  .notRightLinear left
    (String.singleton rule.terminal ++ rule.right.symbol)

/-- The right-hand side, with blanks between its symbols and around it. -/
inductive RightText (rule : UppercaseRule) : List Char → Prop
  | right {lead between trail : List Char} (hlead : IsGap lead)
      (hbetween : IsGap between) (htrail : IsGap trail) :
      RightText rule
        (lead ++ (rule.terminal :: (between ++ (rule.right.text ++ trail))))

/-- The only production of a line. -/
inductive LineText (rule : UppercaseRule) : List Char → Prop
  | line {before arrow after between : List Char} (hbefore : IsGap before)
      (harrow : IsArrow arrow) (hafter : IsGap after)
      (hbetween : IsGap between) :
      LineText rule (rule.left.text ++ (before ++ (arrow ++
        (after ++ (rule.terminal :: (between ++ rule.right.text))))))

section Lines

variable {text core line : List Char}

theorem isNonterminal_terminal (rule : UppercaseRule) :
    (Token.plain (String.singleton rule.terminal)).isNonterminal = false := by
  rw [Token.isNonterminal, String.toList_singleton]
  exact rule.isPlain.2.1

theorem RightText.tokens (h : rule.RightText text) :
    Grammar.tokens text = rule.rightTokens := by
  cases h with
  | @right lead between trail hlead hbetween htrail =>
      have hclosed : '>' ∉ between ++ (rule.right.text ++ trail) := by
        rw [List.mem_append, List.mem_append, not_or, not_or]
        exact ⟨hbetween.not_mem rfl,
          UppercaseName.not_mem_text (by decide +kernel) (by decide),
          htrail.not_mem rfl⟩
      rw [tokens_append hlead.blank, tokens_cons rule.isPlain.1,
        read_unclosed rule.isPlain.not_capital hclosed,
        tokens_append hbetween.blank, UppercaseName.tokens_text htrail.boundary,
        htrail.tokens, List.append_nil, rightTokens]

/-- An alternative is read as the production that is meant exactly if its name is
whole. -/
theorem readProduction_rightTokens (rule : UppercaseRule) (left : String) :
    readProduction left rule.rightTokens =
      if rule.right.IsWhole then .ok rule.production
      else .error (rule.refusal left) := by
  have hterminal := rule.isNonterminal_terminal
  split
  · next hwhole =>
      have hname := rule.right.isNonterminal_symbol
      rw [rightTokens, hwhole.tokens_eq]
      simp [readProduction, hterminal, hname, production, Token.symbol]
  · next hbroken =>
      have hwritten : String.join (rule.rightTokens.map Token.written) =
          String.singleton rule.terminal ++ rule.right.symbol := by
        rw [rightTokens, List.map_cons, String.join_cons]
        exact congrArg _ (rule.right.join_tokens fun _ => rfl)
      obtain ⟨second, later, htokens, -⟩ := UppercaseName.exists_tokens_eq hbroken
      rw [refusal, ← hwritten, rightTokens, htokens]
      rfl

theorem leftText_document (rule : UppercaseRule) :
    rule.document.leftText = rule.left.symbol :=
  rule.left.join_tokens fun _ => rfl

theorem readProductions_document (rule : UppercaseRule) :
    readProductions rule.document =
      if rule.right.IsWhole then .ok (rule.left.symbol, [rule.production])
      else .error (rule.refusal rule.left.symbol) := by
  rw [readProductions, leftText_document, document, List.mapM_cons,
    readProduction_rightTokens]
  split
  · rfl
  · rfl

theorem RightText.avoids (h : rule.RightText text) :
    Avoids ['|', '#', '→', '\n'] text := by
  cases h with
  | right hlead hbetween htrail =>
      rw [← List.singleton_append]
      exact avoids_append.mpr ⟨hlead.avoids, avoids_append.mpr
        ⟨rule.isPlain.avoids, avoids_append.mpr ⟨hbetween.avoids,
          avoids_append.mpr ⟨rule.right.avoids, htrail.avoids⟩⟩⟩⟩

theorem RightText.passes_definition (h : rule.RightText text) :
    Passes "::=".toList text [] := by
  have hdefinition : "::=".toList = [':', ':', '='] := rfl
  rw [hdefinition]
  cases h with
  | @right lead between trail hlead hbetween htrail =>
      have hcolon : ':' ∉ between ++ (rule.right.text ++ trail) := by
        rw [List.mem_append, List.mem_append, not_or, not_or]
        exact ⟨hbetween.not_mem rfl,
          UppercaseName.not_mem_text (by decide +kernel) (by decide),
          htrail.not_mem rfl⟩
      refine passes_append.mpr ⟨hlead.passes rfl _ _, ?_⟩
      refine ⟨fun hprefix => ?_, passes_of_not_mem hcolon _ _⟩
      -- A terminal that is a colon has no other one after it.
      obtain ⟨after, hafter⟩ := (List.cons_prefix_cons.mp hprefix).2
      rw [List.append_nil] at hafter
      exact hcolon (hafter ▸ List.mem_cons_self)

theorem LineText.exists_sides (h : rule.LineText core) :
    ∃ before arrow right, IsGap before ∧ IsArrow arrow ∧
      rule.RightText right ∧
        core = rule.left.text ++ (before ++ (arrow ++ right)) := by
  cases h with
  | line hbefore harrow hafter hbetween =>
      have hright := @RightText.right rule _ _ _ hafter hbetween isGap_nil
      rw [List.append_nil] at hright
      exact ⟨_, _, _, hbefore, harrow, hright, rfl⟩

theorem LineText.readRule (h : rule.LineText core) :
    readRule (withPlainArrows core) = .ok rule.document := by
  obtain ⟨before, arrow, right, hbefore, harrow, hright, rfl⟩ := h.exists_sides
  have hfront : ∀ {lead : Char} {mark rest : List Char},
      isUppercase lead = false → Token.isSuffix lead = false →
        isBlank lead = false →
          Passes (lead :: mark) (rule.left.text ++ before) rest := by
    intro lead mark rest huppercase hsuffix hvisible
    refine passes_of_not_mem ?_ _ _
    rw [List.mem_append, not_or]
    exact ⟨UppercaseName.not_mem_text huppercase hsuffix,
      hbefore.not_mem hvisible⟩
  have hfrontSymbol : '→' ∉ rule.left.text ++ before :=
    (avoids_append.mpr ⟨rule.left.avoids, hbefore.avoids⟩).not_mem (by decide)
  have hleft : tokens (rule.left.text ++ before) = rule.document.left := by
    rw [UppercaseName.tokens_text hbefore.boundary, hbefore.tokens,
      List.append_nil]
    rfl
  have hne : rule.document.left ≠ [] := by
    obtain ⟨token, htoken, -⟩ := rule.left.exists_nonterminal
    exact List.ne_nil_of_mem htoken
  have hright' : (splitWhere (· == '|') right).map tokens =
      rule.document.alternatives := by
    rw [splitWhere_piece (not_bar_of_avoids hright.avoids), List.map_singleton,
      hright.tokens]
    rfl
  rw [← List.append_assoc, ← List.append_assoc,
    withPlainArrows_append harrow hfrontSymbol
      (hright.avoids.not_mem (by decide))
      (fun _ => hfront (by decide +kernel) (by decide) rfl)
      hright.passes_definition]
  exact readRule_of_sides (hfront (by decide +kernel) (by decide) rfl) hleft hne
    hright'

theorem LineText.isTrimmed (h : rule.LineText core) : IsTrimmed core := by
  cases h with
  | @line before arrow after between hbefore harrow hafter hbetween =>
      have hname : ∀ name : UppercaseName, IsTrimmed name.text :=
        fun name => isTrimmed_of_forall fun _ => UppercaseName.isBlank_of_mem
      have hall := (hname rule.left).append (List.cons_ne_nil _ _)
        (hname rule.right) (List.cons_ne_nil _ _)
          (before ++ (arrow ++ (after ++ rule.terminal :: between)))
      simpa using hall

theorem LineText.avoids (h : rule.LineText core) : Avoids ['#', '\n'] core := by
  obtain ⟨before, arrow, right, hbefore, harrow, hright, rfl⟩ := h.exists_sides
  have hfewer : ['#', '\n'] ⊆ ['|', '#', '→', '\n'] := by decide
  exact avoids_append.mpr ⟨rule.left.avoids.mono hfewer,
    avoids_append.mpr ⟨hbefore.avoids.mono hfewer,
      avoids_append.mpr ⟨harrow.avoids, hright.avoids.mono hfewer⟩⟩⟩

/-- Two capitals are never side by side where the line begins. -/
theorem LineText.not_heading {first second : Char} {heading : List Char}
    (h : rule.LineText core) (hsecond : Token.isCapital second = true) :
    ¬ first :: second :: heading <+: core := by
  obtain ⟨before, arrow, right, hbefore, harrow, hright, rfl⟩ := h.exists_sides
  intro hprefix
  obtain ⟨-, after, hafter⟩ := List.cons_prefix_cons.mp hprefix
  have hnext : Boundary (before ++ (arrow ++ right)) :=
    (Boundary.arrow harrow right).gap hbefore
  have hcapital : Token.isCapital second = false := by
    cases hsuffix : rule.left.suffix with
    | nil =>
        rw [hsuffix] at hafter
        exact hnext.not_capital second (congrArg List.head? hafter.symm)
    | cons next later =>
        rw [hsuffix] at hafter
        obtain ⟨rfl, -⟩ := List.cons.inj hafter
        exact UppercaseName.not_capital_of_suffix (hsuffix ▸ List.mem_cons_self)
  rw [hcapital] at hsecond
  contradiction

theorem LineText.readLine (h : rule.LineText core) (hline : Padded core line) :
    readLine line = .ok (.rule rule.document) := by
  have htrim := hline.trim h.isTrimmed (h.avoids.not_mem (by decide))
  have hne : core ≠ [] := by
    cases h with
    | line => exact List.cons_ne_nil _ _
  rw [readLine_of_not_heading htrim hne (fun _ hsecond => h.not_heading hsecond),
    h.readRule]
  rfl

end Lines

section Texts

variable {core line : List Char} {text : String} {grammar : Grammar}

theorem left_mem_declared_iff (rule : UppercaseRule) :
    rule.left.symbol ∈ declaredNonterminals [rule.document] ↔
      rule.left.IsWhole := by
  rw [declaredNonterminals, List.flatMap_singleton, List.mem_map, Rule.tokens,
    document, List.flatten_singleton]
  constructor
  · intro hdeclared
    obtain ⟨token, htoken, hsymbol⟩ := hdeclared
    obtain ⟨hmem, hkind⟩ := List.mem_filter.mp htoken
    rw [List.mem_append, rightTokens, List.mem_cons] at hmem
    rcases hmem with hleft | rfl | hright
    · exact UppercaseName.isWhole_of_symbol hleft hsymbol
    · rw [isNonterminal_terminal] at hkind
      contradiction
    · exact UppercaseName.isWhole_of_symbol hright hsymbol
  · intro hwhole
    rw [hwhole.tokens_eq]
    exact ⟨_, List.mem_filter.mpr
      ⟨List.mem_cons_self, rule.left.isNonterminal_symbol⟩, rfl⟩

theorem epsilon_not_declared (rule : UppercaseRule) :
    epsilon ∉ declaredTerminals [rule.document] := by
  rw [declaredTerminals, List.flatMap_singleton, List.mem_map, Rule.tokens,
    document, List.flatten_singleton]
  intro hdeclared
  obtain ⟨token, htoken, hsymbol⟩ := hdeclared
  obtain ⟨hmem, hkind⟩ := List.mem_filter.mp htoken
  rw [Bool.not_eq_true'] at hkind
  have hname : ∀ name : UppercaseName, token ∉ name.tokens := by
    intro name hin
    obtain ⟨character, hcharacter, rfl⟩ :=
      UppercaseName.mem_suffix_of_terminal hin hkind
    have hcharacters := congrArg String.toList hsymbol
    rw [Token.symbol, String.toList_singleton] at hcharacters
    obtain ⟨rfl, -⟩ := List.cons.inj hcharacters
    exact absurd (name.isSuffix _ hcharacter) (by decide)
  rw [List.mem_append, rightTokens, List.mem_cons] at hmem
  rcases hmem with hleft | rfl | hright
  · exact hname rule.left hleft
  · have hcharacters := congrArg String.toList hsymbol
    rw [Token.symbol, String.toList_singleton] at hcharacters
    obtain ⟨hterminal, -⟩ := List.cons.inj hcharacters
    exact rule.isPlain.2.2 (hterminal ▸ by decide)
  · exact hname rule.right hright

/-- A text that is read has no line for a broken name. -/
theorem production_of_read (hrule : readLine line = .ok (.rule rule.document))
    (hline : line ∈ lines text.toList) (hread : read text = .ok grammar) :
    rule.right.IsWhole ∧
      rule.production ∈ grammar.productionsOf rule.left.symbol ∧
        rule.right.symbol ∈ grammar.nonterminals ∧
          (rule.left.IsWhole → rule.left.symbol ∈ grammar.nonterminals) := by
  obtain ⟨found, productions, hlines, -, hrules, hformed, rfl⟩ :=
    exists_description_of_read hread
  obtain ⟨result, hresult, hfound⟩ := exists_of_mapM hlines line hline
  obtain rfl := Except.ok.inj (hrule.symm.trans hfound)
  have hmem : rule.document ∈ found.filterMap Line.rule? :=
    List.mem_filterMap.mpr ⟨_, hresult, rfl⟩
  obtain ⟨entry, hentry, hproductions⟩ := exists_of_mapM hrules _ hmem
  rw [readProductions_document] at hproductions
  split at hproductions
  · next hwhole =>
      obtain rfl := Except.ok.inj hproductions
      have hproduction : rule.production ∈
          (ofWellFormed _ hformed).productionsOf rule.left.symbol := by
        change rule.production ∈
          ((gather productions).get? rule.left.symbol).getD []
        rw [get?_gather]
        exact List.mem_flatMap.mpr
          ⟨_, List.mem_filter.mpr ⟨hentry, by simp⟩, List.mem_cons_self⟩
      refine ⟨hwhole, hproduction,
        target_mem_of_mem_productionsOf hproduction rfl, ?_⟩
      intro hleft
      have hdeclared := rule.left_mem_declared_iff.mpr hleft
      obtain ⟨token, htoken, hsymbol⟩ := List.mem_map.mp hdeclared
      obtain ⟨hin, hkind⟩ := List.mem_filter.mp htoken
      rw [List.flatMap_singleton] at hin
      refine SortedSet.mem_ofList.mpr (List.mem_append_right _ ?_)
      exact List.mem_map.mpr ⟨token, List.mem_filter.mpr
        ⟨List.mem_flatMap.mpr ⟨_, hmem, hin⟩, hkind⟩, hsymbol⟩
  · contradiction

/-- A text that is nothing but the line. -/
theorem read_line (hrule : readLine line = .ok (.rule rule.document))
    (hnewline : '\n' ∉ line) :
    (rule.right.IsWhole → ∃ grammar, read (String.ofList line) = .ok grammar ∧
      grammar.rules.entries = [(rule.left.symbol, [rule.production])] ∧
        (rule.left.symbol ∈ grammar.nonterminals ↔ rule.left.IsWhole)) ∧
    (¬ rule.right.IsWhole → read (String.ofList line) =
      .error (rule.refusal rule.left.symbol)) := by
  have hlines : (lines (String.ofList line).toList).mapM readLine =
      .ok [.rule rule.document] := by
    rw [String.toList_ofList, lines_of_not_mem hnewline, List.mapM_cons, hrule]
    rfl
  have hread := read_of_lines hlines (List.cons_ne_nil _ _)
    rule.epsilon_not_declared
  have hproductions : [rule.document].mapM readProductions =
      (readProductions rule.document).map (List.cons · []) := by
    rw [List.mapM_cons]
    cases readProductions rule.document with
    | error failure => rfl
    | ok entry => rfl
  rw [readProductions_document] at hproductions
  constructor
  · intro hwhole
    rw [if_pos hwhole] at hproductions
    have hformed := wellFormed_of_named hlines hproductions
      (List.cons_ne_nil _ _)
      (List.forall_mem_singleton.mpr rule.left.exists_nonterminal)
    refine ⟨ofWellFormed _ hformed, ?_, ?_, ?_⟩
    · refine hread.trans ?_
      change [rule.document].mapM readProductions >>= _ = _
      rw [hproductions]
      exact congrArg (Except.mapError DocumentError.fault)
        (ofDescription_eq_ok hformed)
    · exact entries_gather (by simp)
    · rw [← rule.left_mem_declared_iff]
      exact SortedSet.mem_ofList
  · intro hbroken
    rw [if_neg hbroken] at hproductions
    refine hread.trans ?_
    change [rule.document].mapM readProductions >>= _ = _
    rw [hproductions]
    rfl

end Texts

end UppercaseRule

open UppercaseRule in
/-- An upper-case letter of any script with digits and primes after it is read as
one name exactly if the letter is a capital or nothing follows it.  So it is on
both sides of a production: with such a name after the terminal the production is
read as it is meant, and with any other name it is refused, in whatever text the
line stands. -/
theorem uppercase_name_whole_iff (rule : UppercaseRule) {core line : List Char}
    (hcore : rule.LineText core) (hline : Padded core line) :
    (∀ text, rule.RightText text → ∀ left, readProduction left (tokens text) =
      if rule.right.IsWhole then .ok rule.production
      else .error (rule.refusal left)) ∧
    readLine line = .ok (.rule rule.document) ∧
    (rule.left.tokens = [.plain rule.left.symbol] ↔ rule.left.IsWhole) ∧
    (∀ text grammar, line ∈ lines text.toList → read text = .ok grammar →
      rule.right.IsWhole ∧
        rule.production ∈ grammar.productionsOf rule.left.symbol ∧
          rule.right.symbol ∈ grammar.nonterminals ∧
            (rule.left.IsWhole → rule.left.symbol ∈ grammar.nonterminals)) ∧
    (rule.right.IsWhole → ∃ grammar, read (String.ofList line) = .ok grammar ∧
      grammar.rules.entries = [(rule.left.symbol, [rule.production])] ∧
        (rule.left.symbol ∈ grammar.nonterminals ↔ rule.left.IsWhole)) ∧
    (¬ rule.right.IsWhole → read (String.ofList line) =
      .error (rule.refusal rule.left.symbol)) := by
  have hrule := hcore.readLine hline
  have hnewline := hline.not_mem_newline (hcore.avoids.not_mem (by decide))
  refine ⟨?_, hrule, UppercaseName.tokens_eq_singleton_iff, ?_,
    read_line hrule hnewline⟩
  · intro text htext left
    rw [htext.tokens, readProduction_rightTokens]
  · intro text grammar hmem hread
    exact production_of_read hrule hmem hread

theorem isSuffix_of_mem_nil : ∀ character ∈ [], Token.isSuffix character = true :=
  List.forall_mem_nil _

/-- A Greek letter by itself, and a capital with a digit after it. -/
def greekRule : UppercaseRule where
  left := ⟨'Γ', [], by decide +kernel, isSuffix_of_mem_nil⟩
  terminal := 'γ'
  right := ⟨'B', ['2'], by decide +kernel, List.forall_mem_singleton.mpr rfl⟩
  isPlain := by decide +kernel

theorem greekRule_read :
    greekRule.LineText "Γ -> γB2".toList ∧
    Padded "Γ -> γB2".toList "Γ -> γB2 # both are names".toList ∧
    greekRule.left.IsWhole ∧ greekRule.right.IsWhole ∧
    ∃ grammar, read "Γ -> γB2 # both are names" = .ok grammar ∧
      grammar.rules.entries = [("Γ", [⟨"γ", some "B2"⟩])] ∧
        "Γ" ∈ grammar.nonterminals := by
  have hcore : greekRule.LineText "Γ -> γB2".toList :=
    .line isGap_space .plain isGap_space isGap_nil
  have hline : Padded "Γ -> γB2".toList "Γ -> γB2 # both are names".toList :=
    .padded isGap_nil isGap_space (.present (by decide))
  obtain ⟨-, -, -, -, hread, -⟩ :=
    uppercase_name_whole_iff greekRule hcore hline
  have hleft : greekRule.left.IsWhole := .inr rfl
  have hright : greekRule.right.IsWhole := .inl rfl
  obtain ⟨grammar, hgrammar, hentries, hmem⟩ := hread hright
  exact ⟨hcore, hline, hleft, hright, grammar, hgrammar, hentries,
    hmem.mpr hleft⟩

/-- An accented letter with a digit after it. -/
def accentedRule : UppercaseRule where
  left := ⟨'É', ['1'], by decide +kernel, List.forall_mem_singleton.mpr rfl⟩
  terminal := 'a'
  right := ⟨'S', [], by decide +kernel, isSuffix_of_mem_nil⟩
  isPlain := by decide +kernel

/-- The accented letter is a non-terminal by itself and the digit a terminal, on
both sides. -/
theorem accented_name_broken :
    read "S -> aÉ1\nÉ1 -> b" = .error (.notRightLinear "S" "aÉ1") ∧
      readLine "É1 -> aS".toList =
          .ok (.rule ⟨[.plain "É", .plain "1"], [[.plain "a", .plain "S"]]⟩) ∧
        ∃ grammar, read "É1 -> aS" = .ok grammar ∧
          "É1" ∉ grammar.nonterminals := by
  have hcore : accentedRule.LineText "É1 -> aS".toList :=
    .line isGap_space .plain isGap_space isGap_nil
  have hrule := hcore.readLine (padded_self _)
  obtain ⟨hread, -⟩ := UppercaseRule.read_line hrule (by decide)
  obtain ⟨grammar, hgrammar, -, hmem⟩ := hread (.inl rfl)
  have hbroken : ¬ accentedRule.left.IsWhole := by decide
  exact ⟨by decide +kernel, hrule, grammar, hgrammar,
    fun hdeclared => hbroken (hmem.mp hdeclared)⟩

end RightLinear.Grammar

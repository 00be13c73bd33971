import RightLinear.Grammar.Summary
import RightLinear.Proofs.Grammar.Lines
import RightLinear.Proofs.Grammar.Tokens
import RightLinear.Proofs.Traversal

/-! Productions as they are printed.  A terminal stands right before its target
and a bar with blanks around it between two alternatives.  So a terminal that is
a bracket opens no name, and no characters that come to stand side by side make
an arrow. -/

namespace RightLinear.Grammar

open Text Document Format

/-- A capital with digits and primes after it. -/
def IsPlainName (symbol : String) : Prop :=
  symbol.toList.head?.any Token.isCapital = true ∧
    symbol.toList.tail.all Token.isSuffix = true

instance (symbol : String) : Decidable (IsPlainName symbol) :=
  inferInstanceAs (Decidable (_ ∧ _))

/-- A character that is read as a terminal where no bracket is closed. -/
def IsPlainCharacter (character : Char) : Prop :=
  isBlank character = false ∧ isUppercase character = false ∧
    character ∉ ['#', '|', '→', 'ε']

instance (character : Char) : Decidable (IsPlainCharacter character) :=
  inferInstanceAs (Decidable (_ ∧ _ ∧ _))

/-- The text that is printed for a production of plain symbols. -/
inductive PrintedText : Production → List Char → Prop
  | final {character : Char} (hcharacter : IsPlainCharacter character) :
      PrintedText ⟨String.singleton character, none⟩ [character]
  | onward {character letter : Char} {suffix : List Char}
      (hcharacter : IsPlainCharacter character)
      (hletter : Token.isCapital letter = true)
      (hsuffix : ∀ character ∈ suffix, Token.isSuffix character = true) :
      PrintedText
        ⟨String.singleton character, some (String.ofList (letter :: suffix))⟩
        (character :: letter :: suffix)

section Symbols

variable {character first : Char} {symbol : String} {text rest trail : List Char}
  {production : Production}

theorem IsPlainName.exists_capital (h : IsPlainName symbol) :
    ∃ letter suffix, symbol = String.ofList (letter :: suffix) ∧
      Token.isCapital letter = true ∧
        ∀ character ∈ suffix, Token.isSuffix character = true := by
  obtain ⟨hletter, hsuffix⟩ := h
  rw [← String.ofList_toList (s := symbol)]
  cases hsymbol : symbol.toList with
  | nil =>
      rw [hsymbol] at hletter
      contradiction
  | cons letter suffix =>
      rw [hsymbol] at hletter hsuffix
      exact ⟨letter, suffix, rfl, hletter, List.all_eq_true.mp hsuffix⟩

theorem IsPlainCharacter.not_capital (h : IsPlainCharacter character) :
    Token.isCapital character = false := by
  rw [Bool.eq_false_iff]
  intro hcapital
  have huppercase := Token.isUppercase_of_isCapital hcapital
  rw [h.2.1] at huppercase
  contradiction

theorem IsPlainCharacter.avoids (h : IsPlainCharacter character) :
    Avoids ['|', '#', '→', '\n'] [character] := by
  intro other hother hreserved
  obtain rfl := List.mem_singleton.mp hother
  obtain ⟨hvisible, _, hallowed⟩ := h
  simp only [List.mem_cons, List.not_mem_nil, or_false, not_or]
    at hreserved hallowed
  rcases hreserved with heq | heq | heq | heq
  · exact hallowed.2.1 heq
  · exact hallowed.1 heq
  · exact hallowed.2.2.1 heq
  · rw [heq] at hvisible
    contradiction

theorem printedText_of_plain (hlength : production.terminal.length = 1)
    (hterminal : ∀ character ∈ production.terminal.toList,
      IsPlainCharacter character)
    (htarget : ∀ target, production.target = some target →
      IsPlainName target) :
    PrintedText production production.text.toList := by
  obtain ⟨terminal, target⟩ := production
  rw [← String.length_toList, List.length_eq_one_iff] at hlength
  obtain ⟨character, hcharacter⟩ := hlength
  have hplain := hterminal character (by simp [hcharacter])
  obtain rfl : terminal = String.singleton character :=
    String.toList_injective (by rw [hcharacter, String.toList_singleton])
  cases target with
  | none =>
      have htext := PrintedText.final hplain
      simpa [Production.text] using htext
  | some target =>
      obtain ⟨letter, suffix, rfl, hletter, hsuffix⟩ :=
        (htarget target rfl).exists_capital
      have htext := PrintedText.onward hplain hletter hsuffix
      simpa [Production.text] using htext

theorem IsPlainName.isNonterminal (h : IsPlainName symbol) :
    (Token.plain symbol).isNonterminal = true := by
  obtain ⟨letter, suffix, rfl, hletter, hsuffix⟩ := h.exists_capital
  simp [Token.isNonterminal, Token.isUppercase_of_isCapital hletter]

theorem isNonterminal_of_plain
    (h : ∀ character ∈ symbol.toList, IsPlainCharacter character) :
    (Token.plain symbol).isNonterminal = false := by
  rw [Token.isNonterminal]
  cases hsymbol : symbol.toList with
  | nil => rfl
  | cons character later =>
      exact (h character (hsymbol ▸ List.mem_cons_self)).2.1

/-- A bracket is a symbol by itself where none is closed after it. -/
theorem read_unclosed (hcapital : Token.isCapital first = false)
    (hclosed : '>' ∉ rest) :
    Token.read first rest = (.plain (String.singleton first), rest) := by
  refine Token.read_unopened hcapital fun _ => ?_
  rintro ⟨name, later, -, -, rfl⟩
  exact hclosed (List.mem_append_right _ List.mem_cons_self)

namespace PrintedText

theorem ne_nil (h : PrintedText production text) : text ≠ [] := by
  cases h with
  | final hcharacter => exact List.cons_ne_nil _ _
  | onward hcharacter hletter hsuffix => exact List.cons_ne_nil _ _

theorem isTrimmed (h : PrintedText production text) : IsTrimmed text := by
  apply isTrimmed_of_forall
  cases h with
  | final hcharacter => exact List.forall_mem_singleton.mpr hcharacter.1
  | onward hcharacter hletter hsuffix =>
      refine List.forall_mem_cons.mpr ⟨hcharacter.1, List.forall_mem_cons.mpr
        ⟨isBlank_of_isCapital hletter, ?_⟩⟩
      exact fun other hother => isBlank_of_isSuffix (hsuffix other hother)

theorem avoids (h : PrintedText production text) :
    Avoids ['|', '#', '→', '\n'] text := by
  cases h with
  | final hcharacter => exact hcharacter.avoids
  | @onward character letter suffix hcharacter hletter hsuffix =>
      rw [← List.singleton_append]
      exact avoids_append.mpr ⟨hcharacter.avoids,
        (Symbol.name (.capital letter suffix hletter hsuffix)).avoids⟩

/-- Colons come to stand side by side only if one follows the text. -/
theorem passes_definition (h : PrintedText production text)
    (hrest : rest.head? ≠ some ':') : Passes "::=".toList text rest := by
  have hdefinition : "::=".toList = [':', ':', '='] := rfl
  rw [hdefinition]
  cases h with
  | final hcharacter =>
      refine passes_singleton.mpr fun hprefix => ?_
      obtain ⟨after, hafter⟩ := (List.cons_prefix_cons.mp hprefix).2
      exact hrest (congrArg List.head? hafter.symm)
  | @onward character letter suffix hcharacter hletter hsuffix =>
      refine ⟨fun hprefix => ?_, ?_⟩
      · obtain ⟨rfl, _⟩ :=
          List.cons_prefix_cons.mp (List.cons_prefix_cons.mp hprefix).2
        contradiction
      · exact passes_of_not_mem (not_mem_capital hletter hsuffix rfl rfl) _ _

theorem tokens (h : PrintedText production text) (htrail : IsGap trail) :
    Grammar.tokens (text ++ trail) = production.symbols.map .plain := by
  cases h with
  | final hcharacter =>
      rw [List.singleton_append, tokens_cons hcharacter.1,
        read_unclosed hcharacter.not_capital (htrail.not_mem rfl),
        htrail.tokens]
      rfl
  | @onward character letter suffix hcharacter hletter hsuffix =>
      -- A terminal that is a bracket is closed neither in the name nor after it.
      have hclosed : '>' ∉ letter :: suffix ++ trail := by
        rw [List.mem_append, not_or]
        exact ⟨not_mem_capital hletter hsuffix rfl rfl, htrail.not_mem rfl⟩
      have hname := (Symbol.name (.capital letter suffix hletter hsuffix)
        ).tokens_written htrail.boundary
      rw [htrail.tokens] at hname
      rw [List.cons_append, tokens_cons hcharacter.1,
        read_unclosed hcharacter.not_capital hclosed]
      exact congrArg _ hname

theorem readProduction (h : PrintedText production text) (left : String) :
    readProduction left (production.symbols.map .plain) = .ok production := by
  cases h with
  | final hcharacter =>
      have hkind := hcharacter.2.1
      simp [Production.symbols, Document.readProduction, Token.isNonterminal,
        hkind, Token.symbol]
  | onward hcharacter hletter hsuffix =>
      have hkind := hcharacter.2.1
      have huppercase := Token.isUppercase_of_isCapital hletter
      simp [Production.symbols, Document.readProduction, Token.isNonterminal,
        hkind, huppercase, Token.symbol]

end PrintedText

end Symbols

/-- The text that is printed for alternatives of plain symbols. -/
inductive PrintedRight : List Production → List Char → Prop
  | single {production : Production} {text : List Char}
      (htext : PrintedText production text) : PrintedRight [production] text
  | cons {production : Production} {productions : List Production}
      {text later : List Char} (htext : PrintedText production text)
      (hlater : PrintedRight productions later) :
      PrintedRight (production :: productions)
        (text ++ ([' '] ++ '|' :: ([' '] ++ later)))

namespace PrintedRight

variable {productions : List Production} {text lead : List Char}

theorem ne_nil (h : PrintedRight productions text) : text ≠ [] := by
  cases h with
  | single htext => exact htext.ne_nil
  | cons htext hlater => exact List.append_ne_nil_of_left_ne_nil htext.ne_nil _

theorem isTrimmed (h : PrintedRight productions text) : IsTrimmed text := by
  induction h with
  | single htext => exact htext.isTrimmed
  | cons htext hlater ih =>
      exact htext.isTrimmed.append htext.ne_nil ih hlater.ne_nil [' ', '|', ' ']

theorem avoids (h : PrintedRight productions text) :
    Avoids ['#', '→', '\n'] text := by
  induction h with
  | single htext => exact htext.avoids.mono (List.subset_cons_self _ _)
  | cons htext hlater ih =>
      have hspace := isGap_space.avoids.mono (List.subset_cons_self _ _)
      exact avoids_append.mpr ⟨htext.avoids.mono (List.subset_cons_self _ _),
        avoids_append.mpr ⟨hspace, avoids_cons.mpr ⟨by decide,
          avoids_append.mpr ⟨hspace, ih⟩⟩⟩⟩

theorem passes_definition (h : PrintedRight productions text) :
    Passes "::=".toList text [] := by
  induction h with
  | single htext => exact htext.passes_definition (fun hnone => nomatch hnone)
  | cons htext hlater ih =>
      refine passes_append.mpr ⟨htext.passes_definition (by simp), ?_⟩
      refine passes_append.mpr ⟨isGap_space.passes rfl _ _, ?_⟩
      refine (passes_cons_of_ne (by decide)).mpr ?_
      exact passes_append.mpr ⟨isGap_space.passes rfl _ _, ih⟩

theorem map_tokens (h : PrintedRight productions text) (hlead : IsGap lead) :
    (splitWhere (· == '|') (lead ++ text)).map tokens =
      productions.map fun production => production.symbols.map .plain := by
  induction h generalizing lead with
  | single htext =>
      have htokens := htext.tokens isGap_nil
      rw [List.append_nil] at htokens
      rw [map_tokens_last hlead htext.avoids, htokens]
      rfl
  | cons htext hlater ih =>
      rw [map_tokens_bar hlead htext.avoids isGap_space, ih isGap_space,
        htext.tokens isGap_space]
      rfl

end PrintedRight

/-- The text that is printed for a left-hand side with its productions. -/
def printedLine (left : String) (productions : List Production) : String :=
  left ++ " -> " ++ " | ".intercalate (productions.map Production.text)

/-- A left-hand side with productions that is printed without brackets. -/
structure IsPlainRule (left : String) (productions : List Production) :
    Prop where
  left : IsPlainName left
  ne_nil : productions ≠ []
  printed : ∀ production ∈ productions,
    PrintedText production production.text.toList

/-- A rule with the tokens that are read from its line. -/
def tokenRule (left : String) (productions : List Production) :
    Document.Rule where
  left := [.plain left]
  alternatives := productions.map fun production =>
    production.symbols.map .plain

section Lines

variable {left : String} {productions : List Production} {lead : List Char}

theorem printedRight_of_forall (hne : productions ≠ [])
    (hproductions : ∀ production ∈ productions,
      PrintedText production production.text.toList) :
    PrintedRight productions
      (" | ".intercalate (productions.map Production.text)).toList := by
  rw [String.toList_intercalate, List.map_map]
  induction productions with
  | nil => exact absurd rfl hne
  | cons production productions ih =>
      obtain ⟨htext, hlater⟩ := List.forall_mem_cons.mp hproductions
      cases productions with
      | nil =>
          rw [List.map_singleton, List.intercalate_singleton]
          exact .single htext
      | cons next later =>
          have hall := PrintedRight.cons htext
            (ih (List.cons_ne_nil next later) hlater)
          rw [List.map_cons, List.map_cons, List.intercalate_cons_cons,
            List.append_assoc]
          exact hall

theorem IsPlainName.exists_symbol (h : IsPlainName left) :
    ∃ symbol : Symbol, symbol.written = left.toList ∧
      symbol.token = .plain left ∧ symbol.EndsPlain := by
  obtain ⟨letter, suffix, rfl, hletter, hsuffix⟩ := h.exists_capital
  refine ⟨.name (.capital letter suffix hletter hsuffix), ?_, rfl, ?_⟩
  · rw [String.toList_ofList]
    rfl
  · exact fun label heq => nomatch heq

/-- The two sides of a printed line, with the arrow between blanks. -/
theorem IsPlainRule.exists_sides (h : IsPlainRule left productions) :
    ∃ (symbol : Symbol) (right : List Char), symbol.token = .plain left ∧
      symbol.EndsPlain ∧ PrintedRight productions right ∧
        (printedLine left productions).toList =
          symbol.written ++ [' '] ++ "->".toList ++ ([' '] ++ right) := by
  obtain ⟨symbol, hwritten, htoken, hplain⟩ := h.left.exists_symbol
  refine ⟨symbol, _, htoken, hplain, printedRight_of_forall h.ne_nil h.printed,
    ?_⟩
  rw [printedLine, String.toList_append, String.toList_append, hwritten,
    List.append_assoc, List.append_assoc, List.append_assoc]
  rfl

theorem readRule_printed {symbol : Symbol} {right : List Char}
    (htoken : symbol.token = .plain left) (hplain : symbol.EndsPlain)
    (hright : PrintedRight productions right) :
    readRule (withPlainArrows
        (symbol.written ++ [' '] ++ "->".toList ++ ([' '] ++ right))) =
      .ok (tokenRule left productions) := by
  have hfrontSymbol : '→' ∉ symbol.written ++ [' '] :=
    (avoids_append.mpr ⟨symbol.avoids, isGap_space.avoids⟩).not_mem (by decide)
  have hbackSymbol : '→' ∉ [' '] ++ right :=
    (avoids_append.mpr ⟨isGap_space.avoids.mono (List.subset_cons_self _ _),
      hright.avoids⟩).not_mem (by decide)
  have hfront : ∀ {arrow : List Char}, IsArrow arrow →
      Passes "::=".toList (symbol.written ++ [' '])
        (arrow ++ ([' '] ++ right)) :=
    fun _ => passes_append.mpr
      ⟨symbol.passes_definition (Boundary.blank rfl _).not_definition,
        isGap_space.passes rfl _ _⟩
  have hback : Passes "::=".toList ([' '] ++ right) [] :=
    passes_append.mpr ⟨isGap_space.passes rfl _ _, hright.passes_definition⟩
  have hcut : Passes "->".toList (symbol.written ++ [' '])
      ("->".toList ++ ([' '] ++ right)) :=
    passes_append.mpr ⟨symbol.passes_arrow hplain (.blank rfl _),
      isGap_space.passes rfl _ _⟩
  have htokens : tokens (symbol.written ++ [' ']) = [.plain left] := by
    rw [symbol.tokens_written isGap_space.boundary, isGap_space.tokens, htoken]
  rw [withPlainArrows_append .plain hfrontSymbol hbackSymbol hfront hback]
  exact readRule_of_sides hcut htokens (List.cons_ne_nil _ _)
    (hright.map_tokens isGap_space)

theorem IsPlainRule.not_mem_newline (h : IsPlainRule left productions) :
    '\n' ∉ (printedLine left productions).toList := by
  obtain ⟨symbol, right, -, -, hright, heq⟩ := h.exists_sides
  have hsymbol : '\n' ∉ symbol.written := symbol.avoids.not_mem (by decide)
  have hlater : '\n' ∉ right := hright.avoids.not_mem (by decide)
  rw [heq]
  simp [hsymbol, hlater]

/-- A printed line is read as it was meant, with blanks before it. -/
theorem IsPlainRule.readLine (h : IsPlainRule left productions)
    (hlead : IsGap lead) :
    readLine (lead ++ (printedLine left productions).toList) =
      .ok (.rule (tokenRule left productions)) := by
  obtain ⟨symbol, right, htoken, hplain, hright, heq⟩ := h.exists_sides
  rw [heq]
  have htrimmed : IsTrimmed
      (symbol.written ++ [' '] ++ "->".toList ++ ([' '] ++ right)) := by
    have hall := symbol.isTrimmed_written.append symbol.written_ne_nil
      hright.isTrimmed hright.ne_nil [' ', '-', '>', ' ']
    simpa using hall
  have hcomment :
      '#' ∉ symbol.written ++ [' '] ++ "->".toList ++ ([' '] ++ right) := by
    have hsymbol : '#' ∉ symbol.written := symbol.avoids.not_mem (by decide)
    have hlater : '#' ∉ right := hright.avoids.not_mem (by decide)
    simp [hsymbol, hlater]
  have htrim := (padded_lead hlead _).trim htrimmed hcomment
  rw [readLine_of_not_heading htrim, readRule_printed htoken hplain hright]
  · rfl
  · simp
  · intro first second heading hfirst hsecond
    rw [List.append_assoc, List.append_assoc]
    exact symbol.not_heading hfirst hsecond (.blank rfl _)

theorem IsPlainName.not_mem_newline (h : IsPlainName left) :
    '\n' ∉ left.toList := by
  obtain ⟨symbol, hwritten, -, -⟩ := h.exists_symbol
  rw [← hwritten]
  exact symbol.avoids.not_mem (by decide)

theorem IsPlainName.readLine_start (h : IsPlainName left) :
    readLine ("START: " ++ left).toList = .ok (.start left) := by
  obtain ⟨letter, suffix, rfl, hletter, hsuffix⟩ := h.exists_capital
  have htrimmed := (Symbol.name (.capital letter suffix hletter hsuffix)
    ).isTrimmed_written
  have hcore := @StartText.bare (.capital letter suffix hletter hsuffix) [' ']
    isGap_space htrimmed
  have hread := Format.readLine_start hcore (padded_self _)
  rw [String.toList_append, String.toList_ofList (l := letter :: suffix)]
  exact hread

theorem tokens_tokenRule (left : String) (productions : List Production) :
    (tokenRule left productions).tokens =
      (left :: productions.flatMap Production.symbols).map .plain := by
  rw [Rule.tokens, tokenRule, List.map_cons, List.map_flatMap,
    List.flatMap_def]
  rfl

theorem leftText_tokenRule (left : String) (productions : List Production) :
    (tokenRule left productions).leftText = left := by
  simp [Document.Rule.leftText, tokenRule, Token.symbol]

theorem IsPlainRule.readProductions (h : IsPlainRule left productions) :
    readProductions (tokenRule left productions) =
      .ok (left, productions) := by
  have hall : (tokenRule left productions).alternatives.mapM
      (readProduction left) = .ok productions := by
    rw [tokenRule, List.mapM_map, mapM_eq_ok_iff, List.forall₂_same]
    exact fun production hproduction =>
      (h.printed production hproduction).readProduction left
  rw [Document.readProductions, leftText_tokenRule, hall]
  rfl

end Lines

end RightLinear.Grammar

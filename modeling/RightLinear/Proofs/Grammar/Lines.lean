import RightLinear.Proofs.Grammar.Scanning

/-! Reading a written line back.  Blanks and a comment around it are taken off,
the arrow that was written is the first that is found, and on both sides of it
the symbols are read one by one. -/

namespace RightLinear.Grammar.Format

open Text Document

variable {symbols : List Symbol} {alternative : Alternative}
  {alternatives : List Alternative} {rule : Rule} {text rest : List Char}

section Gaps

variable {gap : List Char}

theorem isGap_nil : IsGap [] := List.forall_mem_nil _

theorem isGap_spaces (count : Nat) : IsGap (List.replicate count ' ') := by
  intro character hcharacter
  rw [List.eq_of_mem_replicate hcharacter]
  exact ⟨rfl, by decide⟩

theorem isGap_space : IsGap [' '] := isGap_spaces 1

theorem IsGap.blank (hgap : IsGap gap) :
    ∀ character ∈ gap, isBlank character = true :=
  fun character h => (hgap character h).1

theorem IsGap.not_mem (hgap : IsGap gap) {character : Char}
    (hcharacter : isBlank character = false) : character ∉ gap :=
  not_mem_of_blank hcharacter hgap.blank

theorem IsGap.avoids (hgap : IsGap gap) :
    Avoids ['|', '#', '→', '\n'] gap := by
  intro character hcharacter hreserved
  simp only [List.mem_cons, List.not_mem_nil, or_false] at hreserved
  rcases hreserved with rfl | rfl | rfl | rfl
  · exact hgap.not_mem rfl hcharacter
  · exact hgap.not_mem rfl hcharacter
  · exact hgap.not_mem rfl hcharacter
  · exact (hgap _ hcharacter).2 rfl

/-- No mark that begins with a visible character begins among blanks. -/
theorem IsGap.passes (hgap : IsGap gap) {lead : Char}
    (hlead : isBlank lead = false) (mark rest : List Char) :
    Passes (lead :: mark) gap rest :=
  passes_of_not_mem (hgap.not_mem hlead) mark rest

theorem IsGap.tokens (hgap : IsGap gap) : tokens gap = [] := by
  have hall := tokens_append hgap.blank []
  rwa [List.append_nil, tokens_nil] at hall

theorem IsGap.boundary (hgap : IsGap gap) : Boundary gap := by
  have hall := Boundary.nil.gap hgap
  rwa [List.append_nil] at hall

theorem Boundary.of_gap (hgap : IsGap gap) (hne : gap ≠ [])
    (rest : List Char) : Boundary (gap ++ rest) := by
  obtain ⟨character, gap, rfl⟩ := List.exists_cons_of_ne_nil hne
  exact .blank (hgap character List.mem_cons_self).1 (gap ++ rest)

end Gaps

namespace LeftText

theorem ne_nil (h : LeftText symbols text) : text ≠ [] := by
  cases h with
  | single symbol => exact symbol.written_ne_nil
  | cons hgap hne hlater =>
      exact List.append_ne_nil_of_left_ne_nil (Symbol.written_ne_nil _) _

theorem avoids (h : LeftText symbols text) :
    Avoids ['|', '#', '→', '\n'] text := by
  induction h with
  | single symbol => exact symbol.avoids
  | cons hgap hne hlater ih =>
      exact avoids_append.mpr
        ⟨Symbol.avoids _, avoids_append.mpr ⟨hgap.avoids, ih⟩⟩

theorem isTrimmed (h : LeftText symbols text) : IsTrimmed text := by
  induction h with
  | single symbol => exact symbol.isTrimmed_written
  | cons hgap hne hlater ih =>
      exact (Symbol.isTrimmed_written _).append (Symbol.written_ne_nil _) ih
        hlater.ne_nil _

theorem tokens_append (h : LeftText symbols text) (hrest : Boundary rest) :
    tokens (text ++ rest) = symbols.map Symbol.token ++ tokens rest := by
  induction h with
  | single symbol => exact symbol.tokens_written hrest
  | @cons symbol symbols gap text hgap hne hlater ih =>
      rw [List.append_assoc, List.append_assoc,
        symbol.tokens_written (.of_gap hgap hne _),
        Grammar.tokens_append hgap.blank, ih]
      rfl

theorem passes_definition (h : LeftText symbols text) (hrest : Boundary rest) :
    Passes "::=".toList text rest := by
  induction h with
  | single symbol => exact symbol.passes_definition hrest.not_definition
  | @cons symbol symbols gap text hgap hne hlater ih =>
      have hnext := Boundary.of_gap hgap hne (text ++ rest)
      rw [← List.append_assoc] at hnext
      exact passes_append.mpr ⟨symbol.passes_definition hnext.not_definition,
        passes_append.mpr ⟨hgap.passes rfl _ _, ih⟩⟩

theorem passes_arrow (h : LeftText symbols text)
    (hplain : ∀ symbol ∈ symbols, symbol.EndsPlain) (hrest : Boundary rest) :
    Passes "->".toList text rest := by
  induction h with
  | single symbol =>
      exact symbol.passes_arrow (hplain symbol List.mem_cons_self) hrest
  | @cons symbol symbols gap text hgap hne hlater ih =>
      have hparts := List.forall_mem_cons.mp hplain
      have hnext := Boundary.of_gap hgap hne (text ++ rest)
      rw [← List.append_assoc] at hnext
      exact passes_append.mpr ⟨symbol.passes_arrow hparts.1 hnext,
        passes_append.mpr
          ⟨hgap.passes rfl _ _, ih hparts.2⟩⟩

theorem not_heading {first second : Char} {heading : List Char}
    (h : LeftText symbols text) (hfirst : Token.isCapital first = true)
    (hsecond : Token.isCapital second = true) (hrest : Boundary rest) :
    ¬ first :: second :: heading <+: text ++ rest := by
  cases h with
  | single symbol => exact symbol.not_heading hfirst hsecond hrest
  | @cons symbol symbols gap text hgap hne hlater =>
      rw [List.append_assoc, List.append_assoc]
      exact symbol.not_heading hfirst hsecond (.of_gap hgap hne _)

end LeftText

namespace AlternativeText

theorem ne_nil (h : AlternativeText alternative text) : text ≠ [] := by
  cases h with
  | final terminal => exact List.cons_ne_nil _ _
  | onward terminal target hgap => exact List.cons_ne_nil _ _

theorem avoids (h : AlternativeText alternative text) :
    Avoids ['|', '#', '→', '\n'] text := by
  cases h with
  | final terminal => exact (Symbol.terminal terminal).avoids
  | onward terminal target hgap =>
      rw [← List.singleton_append]
      exact avoids_append.mpr ⟨(Symbol.terminal terminal).avoids,
        avoids_append.mpr ⟨hgap.avoids, (Symbol.name target).avoids⟩⟩

theorem isTrimmed (h : AlternativeText alternative text) : IsTrimmed text := by
  cases h with
  | final terminal => exact (Symbol.terminal terminal).isTrimmed_written
  | onward terminal target hgap =>
      exact (Symbol.terminal terminal).isTrimmed_written.append
        (List.cons_ne_nil _ _) (Symbol.name target).isTrimmed_written
        (Symbol.name target).written_ne_nil _

theorem tokens_append (h : AlternativeText alternative text)
    (hrest : Boundary rest) :
    tokens (text ++ rest) =
      alternative.symbols.map Symbol.token ++ tokens rest := by
  cases h with
  | final terminal => exact Symbol.tokens_terminal terminal rest
  | onward terminal target hgap =>
      rw [List.cons_append, List.append_assoc, Symbol.tokens_terminal,
        Grammar.tokens_append hgap.blank]
      exact congrArg _ ((Symbol.name target).tokens_written hrest)

theorem passes_definition (h : AlternativeText alternative text)
    (hrest : Boundary rest) : Passes "::=".toList text rest := by
  cases h with
  | final terminal =>
      exact (Symbol.terminal terminal).passes_definition hrest.not_definition
  | @onward terminal target gap hgap =>
      have hnext := Symbol.not_definition_of_name target hgap rest
      rw [← List.append_assoc] at hnext
      rw [← List.singleton_append]
      refine passes_append.mpr
        ⟨(Symbol.terminal terminal).passes_definition hnext, ?_⟩
      exact passes_append.mpr ⟨hgap.passes rfl _ _,
        (Symbol.name target).passes_definition hrest.not_definition⟩

end AlternativeText

/-! The bars cut the alternatives apart before any symbol is read. -/

section Bars

variable {lead piece gap : List Char}

theorem not_bar_of_avoids (h : Avoids ['|', '#', '→', '\n'] piece) :
    ∀ character ∈ piece, (character == '|') = false :=
  beq_eq_false_of_not_mem (h.not_mem List.mem_cons_self)

theorem map_tokens_last (hlead : IsGap lead)
    (hpiece : Avoids ['|', '#', '→', '\n'] piece) :
    (splitWhere (· == '|') (lead ++ piece)).map tokens = [tokens piece] := by
  have hall := avoids_append.mpr ⟨hlead.avoids, hpiece⟩
  rw [splitWhere_piece (not_bar_of_avoids hall), List.map_singleton,
    Grammar.tokens_append hlead.blank]

theorem map_tokens_bar (hlead : IsGap lead)
    (hpiece : Avoids ['|', '#', '→', '\n'] piece) (hgap : IsGap gap)
    (later : List Char) :
    (splitWhere (· == '|') (lead ++ (piece ++ (gap ++ '|' :: later)))).map
        tokens =
      tokens (piece ++ gap) :: (splitWhere (· == '|') later).map tokens := by
  have hall := avoids_append.mpr ⟨hlead.avoids,
    avoids_append.mpr ⟨hpiece, hgap.avoids⟩⟩
  have heq : lead ++ (piece ++ (gap ++ '|' :: later)) =
      (lead ++ (piece ++ gap)) ++ '|' :: later := by simp
  rw [heq, splitWhere_append (not_bar_of_avoids hall) rfl, List.map_cons,
    Grammar.tokens_append hlead.blank]

end Bars

namespace RightText

theorem ne_nil (h : RightText alternatives text) : text ≠ [] := by
  cases h with
  | single htext => exact htext.ne_nil
  | cons htext hbefore hafter hlater =>
      exact List.append_ne_nil_of_left_ne_nil htext.ne_nil _

theorem avoids (h : RightText alternatives text) :
    Avoids ['#', '→', '\n'] text := by
  induction h with
  | single htext => exact htext.avoids.mono (List.subset_cons_self _ _)
  | cons htext hbefore hafter hlater ih =>
      exact avoids_append.mpr ⟨htext.avoids.mono (List.subset_cons_self _ _),
        avoids_append.mpr ⟨hbefore.avoids.mono (List.subset_cons_self _ _),
          avoids_cons.mpr ⟨by decide, avoids_append.mpr
            ⟨hafter.avoids.mono (List.subset_cons_self _ _), ih⟩⟩⟩⟩

theorem isTrimmed (h : RightText alternatives text) : IsTrimmed text := by
  induction h with
  | single htext => exact htext.isTrimmed
  | @cons alternative alternatives text before after later htext hbefore hafter
      hlater ih =>
      have htrimmed := htext.isTrimmed.append htext.ne_nil ih hlater.ne_nil
        (before ++ '|' :: after)
      rwa [List.append_assoc, List.cons_append] at htrimmed

theorem passes_definition (h : RightText alternatives text) :
    Passes "::=".toList text [] := by
  induction h with
  | single htext => exact htext.passes_definition .nil
  | @cons alternative alternatives text before after later htext hbefore hafter
      hlater ih =>
      refine passes_append.mpr ⟨htext.passes_definition ?_, ?_⟩
      · rw [List.append_nil]
        exact .gap hbefore (.bar _)
      · refine passes_append.mpr ⟨hbefore.passes rfl _ _, ?_⟩
        refine (passes_cons_of_ne (by decide)).mpr ?_
        exact passes_append.mpr ⟨hafter.passes rfl _ _, ih⟩

/-- The bars are the only characters that separate alternatives. -/
theorem map_tokens (h : RightText alternatives text) {lead : List Char}
    (hlead : IsGap lead) :
    (splitWhere (· == '|') (lead ++ text)).map tokens =
      alternatives.map fun alternative =>
        alternative.symbols.map Symbol.token := by
  induction h generalizing lead with
  | @single alternative text htext =>
      have htokens := htext.tokens_append .nil
      rw [List.append_nil, tokens_nil, List.append_nil] at htokens
      rw [map_tokens_last hlead htext.avoids, htokens]
      rfl
  | cons htext hbefore hafter hlater ih =>
      rw [map_tokens_bar hlead htext.avoids hbefore, ih hafter,
        htext.tokens_append hbefore.boundary, hbefore.tokens, List.append_nil]
      rfl

end RightText

section Arrows

variable {front back : List Char}

private theorem symbol_arrow_eq : "→".toList = ['→'] := rfl

/-- Whichever arrow was written, the plain one takes its place. -/
theorem withPlainArrows_append {arrow : List Char} (harrow : IsArrow arrow)
    (hfrontSymbol : '→' ∉ front) (hbackSymbol : '→' ∉ back)
    (hfront : ∀ {other}, IsArrow other →
      Passes "::=".toList front (other ++ back))
    (hback : Passes "::=".toList back []) :
    withPlainArrows (front ++ arrow ++ back) =
      front ++ "->".toList ++ back := by
  have hplain : Passes "::=".toList (front ++ "->".toList ++ back) [] := by
    refine passes_append.mpr ⟨passes_append.mpr ⟨?_, ?_⟩, hback⟩
    · rw [List.append_nil]
      exact hfront .plain
    · exact passes_of_not_mem (by decide) _ _
  have hunchanged : ∀ {other : List Char}, '→' ∉ other →
      replace "→".toList "->".toList (front ++ other ++ back) =
        front ++ other ++ back := by
    intro other hother
    rw [symbol_arrow_eq]
    refine replace_of_passes (passes_of_not_mem ?_ _ _) _
    simp [hfrontSymbol, hbackSymbol, hother]
  rw [withPlainArrows]
  cases harrow with
  | plain => rw [hunchanged (by decide), replace_of_passes hplain]
  | symbol =>
      rw [symbol_arrow_eq, replace_append (List.cons_ne_nil _ _)
        (passes_of_not_mem hfrontSymbol _ _)
        (passes_of_not_mem hbackSymbol _ _), replace_of_passes hplain]
  | definition =>
      rw [hunchanged (by decide), replace_append (by decide)
        (hfront .definition) hback]

end Arrows

namespace Rule

def document (rule : Rule) : Document.Rule where
  left := rule.left.map Symbol.token
  alternatives := rule.alternatives.map fun alternative =>
    alternative.symbols.map Symbol.token

end Rule

/-- Whichever arrow was written, a plain one stands between the two sides when
the rule is cut. -/
theorem RuleText.exists_sides (h : RuleText rule text) :
    ∃ left before after right, LeftText rule.left left ∧ IsGap before ∧
      IsGap after ∧ RightText rule.alternatives right ∧
        withPlainArrows text =
          left ++ before ++ "->".toList ++ (after ++ right) := by
  cases h with
  | @rule left before arrow after right hleft hbefore harrow hafter hright =>
      have hfrontSymbol : '→' ∉ left ++ before :=
        (avoids_append.mpr ⟨hleft.avoids, hbefore.avoids⟩).not_mem (by decide)
      have hbackSymbol : '→' ∉ after ++ right :=
        (avoids_append.mpr ⟨hafter.avoids.mono (List.subset_cons_self _ _),
          hright.avoids⟩).not_mem (by decide)
      have hfront : ∀ {other : List Char}, IsArrow other →
          Passes "::=".toList (left ++ before) (other ++ (after ++ right)) :=
        fun hother => passes_append.mpr
          ⟨hleft.passes_definition ((Boundary.arrow hother _).gap hbefore),
            hbefore.passes rfl _ _⟩
      have hback : Passes "::=".toList (after ++ right) [] :=
        passes_append.mpr
          ⟨hafter.passes rfl _ _, hright.passes_definition⟩
      have heq : left ++ (before ++ (arrow ++ (after ++ right))) =
          (left ++ before) ++ arrow ++ (after ++ right) := by simp
      refine ⟨left, before, after, right, hleft, hbefore, hafter, hright, ?_⟩
      rw [heq]
      exact withPlainArrows_append harrow hfrontSymbol hbackSymbol hfront hback

/-- A line is cut at its first arrow and both sides are read. -/
theorem readRule_of_sides {left right : List Char} {found : Document.Rule}
    (hcut : Passes "->".toList left ("->".toList ++ right))
    (hleft : tokens left = found.left) (hne : found.left ≠ [])
    (hright : (splitWhere (· == '|') right).map tokens = found.alternatives) :
    Document.readRule (left ++ "->".toList ++ right) = .ok found := by
  have hnonempty : found.left.isEmpty = false :=
    List.isEmpty_eq_false_iff.mpr hne
  rw [Document.readRule, cut?_eq_some (by decide) hcut]
  simp only [hleft, hnonempty, hright]
  rfl

theorem RuleText.readRule (h : RuleText rule text) (hplain : rule.EndsPlain) :
    readRule (withPlainArrows text) = .ok rule.document := by
  obtain ⟨left, before, after, right, hleft, hbefore, hafter, hright, heq⟩ :=
    h.exists_sides
  have hnext : Boundary (before ++ ("->".toList ++ (after ++ right))) :=
    (Boundary.arrow .plain _).gap hbefore
  have hcut : Passes "->".toList (left ++ before)
      ("->".toList ++ (after ++ right)) :=
    passes_append.mpr ⟨hleft.passes_arrow hplain hnext, hbefore.passes rfl _ _⟩
  have htokens : tokens (left ++ before) = rule.left.map Symbol.token := by
    rw [hleft.tokens_append hbefore.boundary, hbefore.tokens, List.append_nil]
  have hne : rule.left.map Symbol.token ≠ [] := by
    obtain ⟨name, hname⟩ := rule.exists_name
    exact List.ne_nil_of_mem (List.mem_map_of_mem hname)
  rw [heq]
  exact readRule_of_sides hcut htokens hne (hright.map_tokens hafter)

theorem RuleText.ne_nil (h : RuleText rule text) : text ≠ [] := by
  cases h with
  | rule hleft hbefore harrow hafter hright =>
      exact List.append_ne_nil_of_left_ne_nil hleft.ne_nil _

theorem RuleText.isTrimmed (h : RuleText rule text) : IsTrimmed text := by
  cases h with
  | @rule left before arrow after right hleft hbefore harrow hafter hright =>
      have htrimmed := hleft.isTrimmed.append hleft.ne_nil hright.isTrimmed
        hright.ne_nil (before ++ (arrow ++ after))
      rwa [List.append_assoc, List.append_assoc] at htrimmed

theorem IsArrow.avoids {arrow : List Char} (h : IsArrow arrow) :
    Avoids ['#', '\n'] arrow := by
  cases h <;> simp [Avoids]

theorem RuleText.avoids (h : RuleText rule text) : Avoids ['#', '\n'] text := by
  have hright : ['#', '\n'] ⊆ ['#', '→', '\n'] :=
    List.Sublist.subset (by decide)
  have hleft : ['#', '\n'] ⊆ ['|', '#', '→', '\n'] :=
    List.subset_cons_of_subset _ hright
  cases h with
  | rule hleftText hbefore harrow hafter hrightText =>
      exact avoids_append.mpr ⟨hleftText.avoids.mono hleft,
        avoids_append.mpr ⟨hbefore.avoids.mono hleft,
          avoids_append.mpr ⟨harrow.avoids, avoids_append.mpr
            ⟨hafter.avoids.mono hleft, hrightText.avoids.mono hright⟩⟩⟩⟩

theorem RuleText.not_heading {first second : Char} {heading : List Char}
    (h : RuleText rule text) (hfirst : Token.isCapital first = true)
    (hsecond : Token.isCapital second = true) :
    ¬ first :: second :: heading <+: text := by
  cases h with
  | rule hleft hbefore harrow hafter hright =>
      exact hleft.not_heading hfirst hsecond
        ((Boundary.arrow harrow _).gap hbefore)

section Reading

variable {core line : List Char} {name : Name}

theorem padded_lead {lead : List Char} (hlead : IsGap lead)
    (core : List Char) : Padded core (lead ++ core) := by
  have hline := @Padded.padded core lead [] [] hlead isGap_nil .absent
  rwa [List.append_nil, List.append_nil] at hline

theorem padded_self (core : List Char) : Padded core core :=
  padded_lead isGap_nil core

theorem Padded.trim (h : Padded core line) (htrimmed : IsTrimmed core)
    (hcore : '#' ∉ core) : trim (withoutComment line) = core := by
  cases h with
  | @padded lead trail comment hlead htrail hcomment =>
      have hinside : ∀ character ∈ lead ++ core ++ trail,
          (character != '#') = true := by
        intro character hcharacter
        rw [bne_iff_ne]
        rintro rfl
        simp only [List.mem_append] at hcharacter
        rcases hcharacter with (h | h) | h
        · exact hlead.not_mem rfl h
        · exact hcore h
        · exact htrail.not_mem rfl h
      have hnone : comment.takeWhile (· != '#') = [] := by
        cases hcomment with
        | absent => rfl
        | present hline => rfl
      have heq : lead ++ (core ++ (trail ++ comment)) =
          (lead ++ core ++ trail) ++ comment := by simp
      rw [heq, withoutComment, List.takeWhile_append_of_pos hinside, hnone,
        List.append_nil, trim_append hlead.blank htrimmed htrail.blank]

theorem Padded.not_mem_newline (h : Padded core line) (hcore : '\n' ∉ core) :
    '\n' ∉ line := by
  cases h with
  | @padded lead trail comment hlead htrail hcomment =>
      have hcommentLine : '\n' ∉ comment := by
        cases hcomment with
        | absent => exact List.not_mem_nil
        | present hline => simpa using hline
      have hgap : ∀ {gap : List Char}, IsGap gap → '\n' ∉ gap :=
        fun hgap h => (hgap _ h).2 rfl
      simp [hgap hlead, hgap htrail, hcore, hcommentLine]

theorem readLine_empty (hline : Padded [] line) :
    readLine line = .ok .blank := by
  have htrim := hline.trim (isTrimmed_of_all rfl) List.not_mem_nil
  rw [readLine, htrim]
  rfl

theorem readLine_heading (hline : Padded "PRODUCTIONS:".toList line) :
    readLine line = .ok .blank := by
  have htrim := hline.trim (isTrimmed_of_all rfl) (by decide)
  rw [readLine, htrim]
  rfl

theorem StartText.isTrimmed (h : StartText name text) : IsTrimmed text := by
  have hlead : IsTrimmed "START:".toList := isTrimmed_of_all rfl
  cases h with
  | @bracketed gap hgap =>
      exact hlead.append (by decide) (Symbol.isTrimmed_angled name.text)
        (List.cons_ne_nil _ _) gap
  | @bare gap hgap htrimmed =>
      exact hlead.append (by decide) htrimmed name.text_ne_nil gap

theorem StartText.avoids (h : StartText name text) :
    Avoids ['#', '\n'] text := by
  have hgapAvoids : ∀ {gap : List Char}, IsGap gap → Avoids ['#', '\n'] gap :=
    fun hgap => hgap.avoids.mono (List.Sublist.subset (by decide))
  have hname : Avoids ['#', '\n'] name.text :=
    name.avoids.mono (List.Sublist.subset (by decide))
  have hlead : Avoids ['#', '\n'] "START:".toList := by simp [Avoids]
  have hclose : Avoids ['#', '\n'] ['>'] := by simp [Avoids]
  cases h with
  | bracketed hgap =>
      exact avoids_append.mpr ⟨hlead, avoids_append.mpr ⟨hgapAvoids hgap,
        avoids_cons.mpr ⟨by decide, avoids_append.mpr ⟨hname, hclose⟩⟩⟩⟩
  | bare hgap htrimmed =>
      exact avoids_append.mpr
        ⟨hlead, avoids_append.mpr ⟨hgapAvoids hgap, hname⟩⟩

theorem unbracketed_angled (text : List Char) :
    unbracketed ('<' :: (text ++ ['>'])) = text := by
  have hlast : ('<' :: (text ++ ['>'])).getLast? = some '>' := by
    rw [← List.cons_append]
    exact List.getLast?_concat
  rw [unbracketed, if_pos (by simp [hlast])]
  exact List.dropLast_concat

theorem unbracketed_of_not_mem (h : '<' ∉ text) : unbracketed text = text := by
  rw [unbracketed, if_neg]
  cases text with
  | nil => simp
  | cons first text =>
      have hfirst : first ≠ '<' := fun heq => h (heq ▸ List.mem_cons_self)
      simp [hfirst]

/-- What stands after `START:` is the name, in brackets or bare. -/
theorem StartText.exists_rest (h : StartText name text) :
    ∃ rest, text = "START:".toList ++ rest ∧
      unbracketed (trim rest) = name.text := by
  cases h with
  | @bracketed gap hgap =>
      refine ⟨_, rfl, ?_⟩
      rw [trim_lead hgap.blank (Symbol.isTrimmed_angled name.text),
        unbracketed_angled]
  | @bare gap hgap htrimmed =>
      refine ⟨_, rfl, ?_⟩
      rw [trim_lead hgap.blank htrimmed,
        unbracketed_of_not_mem (name.avoids.not_mem (by decide))]

theorem readLine_start (hcore : StartText name core)
    (hline : Padded core line) : readLine line = .ok (.start name.symbol) := by
  have htrim := hline.trim hcore.isTrimmed (hcore.avoids.not_mem (by decide))
  obtain ⟨rest, rfl, hrest⟩ := hcore.exists_rest
  have hnonempty : ("START:".toList ++ rest).isEmpty = false := rfl
  rw [readLine, htrim]
  simp only [hnonempty, after?_append, hrest]
  rfl

/-- A line that does not begin with two capitals is neither empty nor a
heading. -/
theorem readLine_of_not_heading (htrim : trim (withoutComment line) = core)
    (hne : core ≠ [])
    (hheading : ∀ {first second : Char} {heading : List Char},
      Token.isCapital first = true → Token.isCapital second = true →
        ¬ first :: second :: heading <+: core) :
    readLine line = (readRule (withPlainArrows core)).map .rule := by
  have hnonempty : core.isEmpty = false := List.isEmpty_eq_false_iff.mpr hne
  have hstart : after? "START:".toList core = none :=
    after?_eq_none (hheading rfl rfl)
  have hproductions : core ≠ "PRODUCTIONS:".toList := by
    intro heq
    have hprefix : "PRODUCTIONS:".toList <+: core := heq ▸ List.prefix_rfl
    exact hheading (by decide) (by decide) hprefix
  rw [readLine, htrim]
  simp only [hnonempty, hstart, if_neg hproductions]
  rfl

theorem readLine_core (hcore : RuleText rule core) (hline : Padded core line) :
    readLine line = (readRule (withPlainArrows core)).map .rule :=
  readLine_of_not_heading
    (hline.trim hcore.isTrimmed (hcore.avoids.not_mem (by decide)))
    hcore.ne_nil hcore.not_heading

theorem readLine_rule (hcore : RuleText rule core) (hplain : rule.EndsPlain)
    (hline : Padded core line) : readLine line = .ok (.rule rule.document) := by
  rw [readLine_core hcore hline, hcore.readRule hplain]
  rfl

end Reading

end RightLinear.Grammar.Format

import RightLinear.Proofs.Grammar.Document

/-! Which written texts are read.  The arrow is looked for before there are
symbols, so a name in brackets that ends in a hyphen makes an arrow together
with the bracket.  On the left of a rule that arrow comes first, and what is
left over for the right is too long for a production. -/

namespace RightLinear.Grammar.Format

open Text Document

section Arrow

variable {symbols : List Symbol} {rule : Rule} {text : List Char}

theorem Symbol.exists_arrow {symbol : Symbol} (h : ¬ symbol.EndsPlain) :
    ∃ front, symbol.written = front ++ "->".toList ∧
      ∀ rest, Passes "->".toList front ("->".toList ++ rest) := by
  simp only [Symbol.EndsPlain, not_forall, not_not] at h
  obtain ⟨label, rfl, hlast⟩ := h
  obtain ⟨front, hfront⟩ := List.getLast?_eq_some_iff.mp hlast
  have hangle : '>' ∉ front := by
    have hlabel : '>' ∉ label.text := label.avoids.not_mem (by decide)
    rw [hfront] at hlabel
    exact fun hin => hlabel (List.mem_append_left _ hin)
  refine ⟨'<' :: front, ?_, ?_⟩
  · rw [Symbol.written, Name.written, hfront, List.append_assoc]
    rfl
  · intro rest
    refine (passes_cons_of_ne (by decide)).mpr ?_
    exact Symbol.passes_arrow_of_label hangle fun _ => by simp

/-- The first name that ends in a hyphen cuts the left-hand side in two. -/
theorem LeftText.exists_arrow (h : LeftText symbols text)
    (hhyphen : ¬ ∀ symbol ∈ symbols, symbol.EndsPlain) :
    ∃ front back, text = front ++ "->".toList ++ back ∧
      (∀ rest, Passes "->".toList front ("->".toList ++ rest)) ∧
        ∃ found, ∀ rest, Boundary rest →
          tokens (back ++ rest) = found ++ tokens rest := by
  induction h with
  | single symbol =>
      have hsymbol : ¬ symbol.EndsPlain := by
        rwa [List.forall_mem_singleton] at hhyphen
      obtain ⟨front, hwritten, hpasses⟩ := Symbol.exists_arrow hsymbol
      refine ⟨front, [], ?_, hpasses, [], fun rest _ => rfl⟩
      rw [List.append_nil, hwritten]
  | @cons symbol symbols gap text hgap hne hlater ih =>
      by_cases hsymbol : symbol.EndsPlain
      · have hsymbols : ¬ ∀ symbol ∈ symbols, symbol.EndsPlain :=
          fun hall => hhyphen (List.forall_mem_cons.mpr ⟨hsymbol, hall⟩)
        obtain ⟨front, back, htext, hpasses, hfound⟩ := ih hsymbols
        refine ⟨symbol.written ++ (gap ++ front), back, ?_, ?_, hfound⟩
        · rw [htext]
          simp only [List.append_assoc]
        · intro rest
          refine passes_append.mpr ⟨?_, passes_append.mpr
            ⟨hgap.passes rfl _ _, hpasses rest⟩⟩
          rw [List.append_assoc]
          exact symbol.passes_arrow hsymbol (.of_gap hgap hne _)
      · obtain ⟨front, hwritten, hpasses⟩ := Symbol.exists_arrow hsymbol
        refine ⟨front, gap ++ text, by rw [hwritten], hpasses,
          symbols.map Symbol.token, ?_⟩
        intro rest hrest
        rw [List.append_assoc, Grammar.tokens_append hgap.blank,
          hlater.tokens_append hrest]

/-- An arrow that is not cut out is taken for two terminals. -/
theorem tokens_plainArrow (rest : List Char) :
    tokens ("->".toList ++ rest) = .plain "-" :: .plain ">" :: tokens rest := by
  have hhyphen : Token.read '-' ('>' :: rest) = (.plain "-", '>' :: rest) :=
    Token.read_single (by decide) rfl _
  have hangle : Token.read '>' rest = (.plain ">", rest) :=
    Token.read_single (by decide) rfl _
  have heq : "->".toList ++ rest = '-' :: '>' :: rest := rfl
  rw [heq, tokens_cons rfl, hhyphen, tokens_cons rfl, hangle]

theorem RuleText.exists_long (h : RuleText rule text)
    (hhyphen : ¬ rule.EndsPlain) {found : Document.Rule}
    (hfound : Document.readRule (withPlainArrows text) = .ok found) :
    ∃ right ∈ found.alternatives, 2 < right.length := by
  obtain ⟨left, before, after, right, hleft, hbefore, hafter, hright, heq⟩ :=
    h.exists_sides
  have hleftAvoids := hleft.avoids
  obtain ⟨front, back, rfl, hpasses, symbols, hsymbols⟩ :=
    hleft.exists_arrow hhyphen
  obtain ⟨first, pieces, hpieces⟩ :=
    List.exists_cons_of_ne_nil (splitWhere_ne_nil (· == '|') (after ++ right))
  have hfirst : tokens first ≠ [] := by
    have hmap := hright.map_tokens hafter
    obtain ⟨alternative, alternatives, halternatives⟩ :=
      List.exists_cons_of_ne_nil rule.alternatives_ne_nil
    rw [hpieces, halternatives] at hmap
    rw [(List.cons.inj hmap).1]
    exact List.cons_ne_nil _ _
  have htokens : tokens (back ++ before ++ "->".toList ++ first) =
      symbols ++ (.plain "-" :: .plain ">" :: tokens first) := by
    rw [List.append_assoc, List.append_assoc,
      hsymbols _ ((Boundary.arrow .plain _).gap hbefore),
      tokens_append hbefore.blank, tokens_plainArrow]
  have hlead : '|' ∉ back ++ before ++ "->".toList := by
    have hback := (avoids_append.mp hleftAvoids).2.not_mem List.mem_cons_self
    have hbefore := hbefore.avoids.not_mem List.mem_cons_self
    simp [hback, hbefore]
  have hsplit := splitWhere_lead (beq_eq_false_of_not_mem hlead) hpieces
  have hall : front ++ "->".toList ++ back ++ before ++ "->".toList ++
      (after ++ right) = front ++ "->".toList ++
        (back ++ before ++ "->".toList ++ (after ++ right)) := by
    simp only [List.append_assoc]
  rw [heq, hall, Document.readRule,
    cut?_eq_some (by decide) (hpasses _)] at hfound
  simp only [hsplit, List.map_cons, htokens] at hfound
  split at hfound
  · contradiction
  · cases hfound
    refine ⟨_, List.mem_cons_self, ?_⟩
    have hlength := List.length_pos_of_ne_nil hfirst
    simp only [List.length_append, List.length_cons]
    omega

end Arrow

section Whole

variable {rules written : List Rule} {starts : List Name}
  {lines : List (List Char)} {rule : Rule}

theorem length_le_of_readProduction {left : String} {right : List Token}
    {production : Production}
    (h : readProduction left right = .ok production) : right.length ≤ 2 := by
  unfold readProduction at h
  split at h
  · exact Nat.le_succ 1
  · exact Nat.le_refl 2
  · contradiction

theorem length_le_of_readProductions {found : Document.Rule}
    {entry : String × List Production}
    (h : readProductions found = .ok entry) :
    ∀ right ∈ found.alternatives, right.length ≤ 2 := by
  intro right hright
  rw [readProductions] at h
  cases hread : found.alternatives.mapM (readProduction found.leftText) with
  | error failure =>
      rw [hread] at h
      contradiction
  | ok productions =>
      obtain ⟨production, _, hproduction⟩ := exists_of_mapM hread right hright
      exact length_le_of_readProduction hproduction

/-- What is read has rules whose alternatives could all be read. -/
theorem exists_of_read {text : String} {grammar : Grammar}
    (h : read text = .ok grammar) :
    ∃ found productions, (Text.lines text.toList).mapM readLine = .ok found ∧
      (found.filterMap Line.rule?).mapM readProductions = .ok productions := by
  rw [read] at h
  cases hlines : (Text.lines text.toList).mapM readLine with
  | error failure =>
      rw [hlines] at h
      contradiction
  | ok found =>
      cases hrules : (found.filterMap Line.rule?).mapM readProductions with
      | error failure =>
          rw [hlines] at h
          simp only [bind, Except.bind, hrules] at h
          split at h
          · contradiction
          · split at h
            · contradiction
            · contradiction
      | ok productions => exact ⟨found, productions, rfl, hrules⟩

theorem Lines.exists_line (h : Lines rules starts lines) (hrule : rule ∈ rules) :
    ∃ line ∈ lines, ∃ core, RuleText rule core ∧ Padded core line := by
  induction h with
  | nil => contradiction
  | empty hline hlater ih =>
      obtain ⟨line, hmem, hcore⟩ := ih hrule
      exact ⟨line, List.mem_cons_of_mem _ hmem, hcore⟩
  | heading hline hlater ih =>
      obtain ⟨line, hmem, hcore⟩ := ih hrule
      exact ⟨line, List.mem_cons_of_mem _ hmem, hcore⟩
  | start hstart hline hlater ih =>
      obtain ⟨line, hmem, hcore⟩ := ih hrule
      exact ⟨line, List.mem_cons_of_mem _ hmem, hcore⟩
  | rule hcore hline hlater ih =>
      rcases List.mem_cons.mp hrule with rfl | hlaterRule
      · exact ⟨_, List.mem_cons_self, _, hcore, hline⟩
      · obtain ⟨line, hmem, hcore⟩ := ih hlaterRule
        exact ⟨line, List.mem_cons_of_mem _ hmem, hcore⟩

theorem Lines.endsPlain_of_read (h : Lines rules starts lines)
    {grammar : Grammar}
    (hread : read (String.ofList (['\n'].intercalate lines)) = .ok grammar) :
    ∀ rule ∈ rules, rule.EndsPlain := by
  intro rule hrule
  by_contra hhyphen
  obtain ⟨line, hline, core, hcore, hpadded⟩ := h.exists_line hrule
  obtain ⟨found, productions, hlines, hproductions⟩ := exists_of_read hread
  rw [String.toList_ofList, lines_intercalate (List.ne_nil_of_mem hline)
    h.not_mem_newline] at hlines
  obtain ⟨result, hresult, hreadLine⟩ := exists_of_mapM hlines line hline
  rw [readLine_core hcore hpadded] at hreadLine
  cases hreadRule : readRule (withPlainArrows core) with
  | error failure =>
      rw [hreadRule] at hreadLine
      contradiction
  | ok document =>
      rw [hreadRule] at hreadLine
      cases hreadLine
      obtain ⟨right, hright, hlong⟩ := hcore.exists_long hhyphen hreadRule
      have hdocument : document ∈ found.filterMap Line.rule? :=
        List.mem_filterMap.mpr ⟨_, hresult, rfl⟩
      obtain ⟨entry, _, hentry⟩ := exists_of_mapM hproductions _ hdocument
      exact Nat.not_le_of_gt hlong
        (length_le_of_readProductions hentry right hright)

/-- Only texts are read in which no name on the left ends in a hyphen. -/
theorem endsPlain_of_read {text : String} {grammar : Grammar}
    (htext : IsText rules starts text) (hread : read text = .ok grammar) :
    ∀ rule ∈ rules, rule.EndsPlain := by
  obtain ⟨written, lines, hspread, hlines, rfl⟩ := htext
  exact hspread.endsPlain.mp (hlines.endsPlain_of_read hread)

/-- A text is read exactly if no name on the left makes an arrow, and what is
read is what was meant. -/
theorem read_iff_endsPlain {text : String} (hne : rules ≠ [])
    (htext : IsText rules starts text) :
    ((∃ grammar, read text = .ok grammar) ↔ ∀ rule ∈ rules, rule.EndsPlain) ∧
      ∀ grammar, read text = .ok grammar → Describes rules starts grammar := by
  have hright : (∀ rule ∈ rules, rule.EndsPlain) →
      ∃ grammar, read text = .ok grammar ∧ Describes rules starts grammar :=
    fun hplain => read_of_isText hne hplain htext
  constructor
  · constructor
    · rintro ⟨grammar, hread⟩
      exact endsPlain_of_read htext hread
    · intro hplain
      obtain ⟨grammar, hread, _⟩ := hright hplain
      exact ⟨grammar, hread⟩
  · intro grammar hread
    obtain ⟨meant, hmeant, hdescribes⟩ :=
      hright (endsPlain_of_read htext hread)
    rw [hread] at hmeant
    cases hmeant
    exact hdescribes

end Whole

section Hyphens

/-- A name that makes an arrow together with the bracket after it. -/
def hyphenName : Name :=
  .bracketed ⟨['a', '-'], by decide, by simp [Avoids], by decide⟩

def letterName : Name := .capital 'S' [] rfl (List.forall_mem_nil _)

def smallLetter : Terminal := ⟨'b', rfl, by decide +kernel, by decide⟩

/-- The hyphen stands on the right, where the arrow has been found already. -/
def harmlessRule : Rule where
  left := [.name letterName]
  alternatives := [⟨smallLetter, some hyphenName⟩, ⟨smallLetter, none⟩]
  exists_name := ⟨letterName, List.mem_singleton_self _⟩
  alternatives_ne_nil := List.cons_ne_nil _ _

def hyphenRule : Rule where
  left := [.name hyphenName]
  alternatives := [⟨smallLetter, none⟩]
  exists_name := ⟨hyphenName, List.mem_singleton_self _⟩
  alternatives_ne_nil := List.cons_ne_nil _ _

theorem harmlessRule_isText :
    IsText [harmlessRule] [hyphenName] "S -> b<a-> | b\nSTART: a-" := by
  have hfirst : AlternativeText ⟨smallLetter, some hyphenName⟩ "b<a->".toList :=
    .onward smallLetter hyphenName isGap_nil
  have hright : RightText harmlessRule.alternatives "b<a-> | b".toList :=
    .cons hfirst isGap_space isGap_space (.single (.final smallLetter))
  have hrule : RuleText harmlessRule "S -> b<a-> | b".toList :=
    .rule (.single (.name letterName)) isGap_space .plain isGap_space hright
  have hstart : StartText hyphenName "START: a-".toList :=
    .bare isGap_space (isTrimmed_of_all rfl)
  have hlines : Lines [harmlessRule] [hyphenName]
      ["S -> b<a-> | b".toList, "START: a-".toList] :=
    .rule hrule (padded_self _) (.start hstart (padded_self _) .nil)
  exact ⟨_, _, .whole .nil, hlines, rfl⟩

theorem harmlessRule_read :
    ∃ grammar, read "S -> b<a-> | b\nSTART: a-" = .ok grammar ∧
      grammar.start = "a-" ∧
        grammar.productionsOf "S" = [⟨"b", some "a-"⟩, ⟨"b", none⟩] := by
  have hplain : ∀ rule ∈ [harmlessRule], rule.EndsPlain := by
    rw [List.forall_mem_singleton]
    intro symbol hsymbol label hlabel
    rw [hlabel] at hsymbol
    obtain ⟨⟩ := List.mem_singleton.mp hsymbol
  obtain ⟨hsucceeds, hdescribes⟩ :=
    read_iff_endsPlain (List.cons_ne_nil _ _) harmlessRule_isText
  obtain ⟨grammar, hread⟩ := hsucceeds.mpr hplain
  refine ⟨grammar, hread, ?_, ?_⟩
  · exact (hdescribes grammar hread).start_given hyphenName rfl
  · exact ((hdescribes grammar hread).productionsOf "S").trans rfl

theorem hyphenRule_isText : IsText [hyphenRule] [] "<a-> -> b" := by
  have hright : RightText hyphenRule.alternatives "b".toList :=
    .single (.final smallLetter)
  have hrule : RuleText hyphenRule "<a-> -> b".toList :=
    @RuleText.rule hyphenRule "<a->".toList [' '] "->".toList [' '] "b".toList
      (.single (.name hyphenName)) isGap_space .plain isGap_space hright
  have hlines : Lines [hyphenRule] [] ["<a-> -> b".toList] :=
    .rule hrule (padded_self _) .nil
  exact ⟨_, _, .whole .nil, hlines, rfl⟩

theorem hyphenRule_refused :
    IsText [hyphenRule] [] "<a-> -> b" ∧
      ∀ grammar, read "<a-> -> b" ≠ .ok grammar := by
  refine ⟨hyphenRule_isText, fun grammar hread => ?_⟩
  have hplain := endsPlain_of_read hyphenRule_isText hread hyphenRule
    List.mem_cons_self
  exact hplain _ List.mem_cons_self _ rfl rfl

end Hyphens

end RightLinear.Grammar.Format

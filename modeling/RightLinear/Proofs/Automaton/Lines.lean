import RightLinear.Proofs.Automaton.Blocks
import RightLinear.Proofs.Automaton.Format
import RightLinear.Proofs.Grammar.Lines

/-! Reading a written line back.  Keywords are looked for before arrows and
arrows before blanks, so what is written between blanks must not be taken for
any of them; across a blank nothing can come together. -/

namespace RightLinear.Automaton.Format

open Text Document
open Grammar.Format (IsGap)

variable {mark word gap text rest : List Char} {parts : List (List Char)}

section Words

/-- What blanks keep apart. -/
structure IsWord (word : List Char) : Prop where
  ne_nil : word ≠ []
  visible : ∀ character ∈ word, isBlank character = false

theorem IsWord.isTrimmed (h : IsWord word) : IsTrimmed word :=
  isTrimmed_of_forall h.visible

theorem IsWord.not_mem (h : IsWord word) {character : Char}
    (hblank : isBlank character = true) : character ∉ word :=
  not_mem_of_visible hblank h.visible

/-- A value that no line takes for anything else, whether state or symbol. -/
structure IsPlain (value : String) : Prop where
  isWord : IsWord value.toList
  no_arrow : ¬ "->".toList <:+: value.toList
  no_separator : ¬ "---".toList <:+: value.toList

theorem IsLabel.isPlain {label : String} (h : IsLabel label) : IsPlain label :=
  ⟨⟨h.ne_nil, h.visible⟩, h.no_arrow, h.no_separator⟩

/-- A symbol is too short for a mark of several characters. -/
theorem isPlain_symbol {symbol : String} (hlength : symbol.length = 1)
    (hvisible : ∀ character ∈ symbol.toList, isBlank character = false) :
    IsPlain symbol := by
  rw [← String.length_toList] at hlength
  have hshort : ∀ mark, 1 < mark.length → ¬ mark <:+: symbol.toList := by
    intro mark hlong hoccurs
    have hle := hoccurs.length_le
    omega
  refine ⟨⟨?_, hvisible⟩, hshort _ (by decide), hshort _ (by decide)⟩
  exact List.length_pos_iff.mp (hlength ▸ Nat.one_pos)

end Words

namespace Spaced

theorem ne_nil (h : Spaced parts text) (hparts : ∀ part ∈ parts, IsWord part) :
    text ≠ [] := by
  cases h with
  | single => exact (hparts _ List.mem_cons_self).ne_nil
  | cons word hgap hne hlater =>
      exact List.append_ne_nil_of_left_ne_nil
        (hparts word List.mem_cons_self).ne_nil _

theorem eq_of_single (h : Spaced [word] text) : text = word := by
  cases h with
  | single => rfl
  | cons _ hgap hne hlater => cases hlater

theorem exists_cons {next : List Char}
    (h : Spaced (word :: next :: parts) text) :
    ∃ gap rest, IsGap gap ∧ gap ≠ [] ∧ Spaced (next :: parts) rest ∧
      text = word ++ (gap ++ rest) := by
  cases h with
  | cons _ hgap hne hlater => exact ⟨_, _, hgap, hne, hlater, rfl⟩

theorem words_eq (h : Spaced parts text)
    (hparts : ∀ part ∈ parts, IsWord part) : words text = parts := by
  induction h with
  | single word =>
      have hword := hparts word List.mem_cons_self
      exact words_single hword.ne_nil hword.visible
  | cons word hgap hne hlater ih =>
      obtain ⟨hword, hrest⟩ := List.forall_mem_cons.mp hparts
      rw [words_append hword.ne_nil hword.visible hne hgap.blank, ih hrest]

theorem isTrimmed (h : Spaced parts text)
    (hparts : ∀ part ∈ parts, IsWord part) : IsTrimmed text := by
  induction h with
  | single word => exact (hparts word List.mem_cons_self).isTrimmed
  | cons word hgap hne hlater ih =>
      obtain ⟨hword, hrest⟩ := List.forall_mem_cons.mp hparts
      exact hword.isTrimmed.append hword.ne_nil (ih hrest) (hlater.ne_nil hrest) _

theorem not_mem_newline (h : Spaced parts text)
    (hparts : ∀ part ∈ parts, IsWord part) : '\n' ∉ text := by
  induction h with
  | single word => exact (hparts word List.mem_cons_self).not_mem rfl
  | cons word hgap hne hlater ih =>
      obtain ⟨hword, hrest⟩ := List.forall_mem_cons.mp hparts
      simp only [List.mem_append, not_or]
      exact ⟨hword.not_mem rfl, hgap.avoids.not_mem (by simp), ih hrest⟩

end Spaced

section Gaps

variable (hmark : IsWord mark)
include hmark

theorem passes_gap (hgap : IsGap gap) (rest : List Char) :
    Passes mark gap rest :=
  passes_of_avoids hmark.ne_nil (avoids_of_blank hmark.visible hgap.blank) rest

/-- No mark begins in a word and ends after the gap. -/
theorem passes_word (hword : ¬ mark <:+: word) (hgap : IsGap gap)
    (hne : gap ≠ []) (rest : List Char) :
    Passes mark word (gap ++ rest) := by
  obtain ⟨blank, gap, rfl⟩ := List.exists_cons_of_ne_nil hne
  exact passes_of_not_isInfix hword
    (hmark.not_mem (hgap.blank blank List.mem_cons_self)) (gap ++ rest)

theorem Spaced.passes (h : Spaced parts text)
    (hparts : ∀ part ∈ parts, ¬ mark <:+: part) : Passes mark text [] := by
  induction h with
  | single word => exact passes_nil (hparts word List.mem_cons_self)
  | cons word hgap hne hlater ih =>
      obtain ⟨hword, hrest⟩ := List.forall_mem_cons.mp hparts
      refine passes_append.mpr ⟨?_, passes_append.mpr ⟨?_, ih hrest⟩⟩
      · rw [List.append_nil]
        exact passes_word hmark hword hgap hne _
      · exact passes_gap hmark hgap _

theorem Spaced.not_prefix (h : Spaced (word :: parts) text)
    (hword : ¬ mark <+: word) : ¬ mark <+: text := by
  cases h with
  | single => exact hword
  | @cons word words gap later hgap hne hlater =>
      obtain ⟨blank, gap, rfl⟩ := List.exists_cons_of_ne_nil hne
      intro hbegins
      exact hword (prefix_of_prefix_append_cons
        (hmark.not_mem (hgap.blank blank List.mem_cons_self)) hbegins)

/-- A mark after a word and a gap ends the piece that the word stands in. -/
theorem splitOn_word {lead : List Char} (hlead : IsGap lead)
    (hword : ¬ mark <:+: word) (hgap : IsGap gap) (hne : gap ≠ [])
    (rest : List Char) :
    splitOn mark (lead ++ (word ++ (gap ++ (mark ++ rest)))) =
      (lead ++ word ++ gap) :: splitOn mark rest := by
  have hpasses : Passes mark (lead ++ word ++ gap) (mark ++ rest) :=
    passes_append.mpr ⟨passes_append.mpr
      ⟨passes_gap hmark hlead _, passes_word hmark hword hgap hne _⟩,
        passes_gap hmark hgap _⟩
  have hall := splitOn_append hmark.ne_nil hpasses
  simpa only [List.append_assoc] using hall

end Gaps

section Transitions

theorem isWord_arrow : IsWord "->".toList :=
  ⟨by decide, visible_of_all rfl⟩

theorem trim_word {lead trail : List Char} (hlead : IsGap lead)
    (hword : IsWord word) (htrail : IsGap trail) :
    trim (lead ++ word ++ trail) = word :=
  trim_append hlead.blank hword.isTrimmed htrail.blank

variable {source symbol target : List Char}

theorem readTransition_of_parts
    (hparts : (if contains "->".toList text then
        (splitOn "->".toList text).map trim
      else words text) = [source, symbol, target])
    (hwords : ∀ part ∈ [source, symbol, target], IsWord part) :
    readTransition text = .ok (.transition ⟨String.ofList source,
      String.ofList symbol, String.ofList target⟩) := by
  have hne : ∀ part ∈ [source, symbol, target], part ≠ [] :=
    fun part hpart => (hwords part hpart).ne_nil
  simp only [readTransition, hparts]
  rw [if_neg]
  simpa [and_assoc] using hne

theorem readTransition_plain (h : Spaced [source, symbol, target] text)
    (hwords : ∀ part ∈ [source, symbol, target], IsWord part)
    (harrow : ∀ part ∈ [source, symbol, target], ¬ "->".toList <:+: part) :
    readTransition text = .ok (.transition ⟨String.ofList source,
      String.ofList symbol, String.ofList target⟩) := by
  have hnone : contains "->".toList text = false := by
    rw [contains, cut?_eq_none (h.passes isWord_arrow harrow)]
    rfl
  refine readTransition_of_parts ?_ hwords
  rw [hnone, h.words_eq hwords]
  rfl

theorem readTransition_arrows
    (h : Spaced [source, "->".toList, symbol, "->".toList, target] text)
    (hwords : ∀ part ∈ [source, symbol, target], IsWord part)
    (harrow : ∀ part ∈ [source, symbol, target], ¬ "->".toList <:+: part) :
    readTransition text = .ok (.transition ⟨String.ofList source,
      String.ofList symbol, String.ofList target⟩) := by
  obtain ⟨before₁, after₁, hbefore₁, hne₁, h₁, rfl⟩ := h.exists_cons
  obtain ⟨before₂, after₂, hbefore₂, hne₂, h₂, rfl⟩ := h₁.exists_cons
  obtain ⟨before₃, after₃, hbefore₃, hne₃, h₃, rfl⟩ := h₂.exists_cons
  obtain ⟨before₄, after₄, hbefore₄, hne₄, h₄, rfl⟩ := h₃.exists_cons
  obtain rfl := h₄.eq_of_single.symm
  have hempty := Grammar.Format.isGap_nil
  have hfirst := splitOn_word isWord_arrow hempty (harrow source (by simp))
    hbefore₁ hne₁ (before₂ ++ (symbol ++ (before₃ ++
      ("->".toList ++ (before₄ ++ target)))))
  have hsecond := splitOn_word isWord_arrow hbefore₂ (harrow symbol (by simp))
    hbefore₃ hne₃ (before₄ ++ target)
  have hthird := splitOn_of_passes (passes_append.mpr
    ⟨passes_gap isWord_arrow hbefore₄ _, passes_nil (harrow target (by simp))⟩)
  rw [List.nil_append] at hfirst
  refine readTransition_of_parts ?_ hwords
  rw [if_pos, hfirst, hsecond, hthird]
  · have htarget := trim_word hbefore₄ (hwords target (by simp)) hempty
    rw [List.append_nil] at htarget
    simp only [List.map_cons, List.map_nil, htarget,
      trim_word hempty (hwords source (by simp)) hbefore₁,
      trim_word hbefore₂ (hwords symbol (by simp)) hbefore₃]
  · rw [contains_iff_isInfix isWord_arrow.ne_nil, ← List.append_assoc]
    exact List.infix_append' _ _ _

theorem readTransition_of_transitionText {edge : Transition}
    (h : TransitionText edge text) (hedge : ∀ part ∈ edge.row, IsPlain part) :
    readTransition text = .ok (.transition edge) := by
  have hwords : ∀ part ∈ edge.row.map String.toList, IsWord part :=
    List.forall_mem_map.mpr fun part hpart => (hedge part hpart).isWord
  have harrow : ∀ part ∈ edge.row.map String.toList,
      ¬ "->".toList <:+: part :=
    List.forall_mem_map.mpr fun part hpart => (hedge part hpart).no_arrow
  have hread : readTransition text = .ok (.transition
      ⟨String.ofList edge.source.toList, String.ofList edge.symbol.toList,
        String.ofList edge.target.toList⟩) := by
    cases h with
    | plain htext => exact readTransition_plain htext hwords harrow
    | arrows htext => exact readTransition_arrows htext hwords harrow
  simpa only [String.ofList_toList] using hread

end Transitions

section Keywords

variable {keyword : List Char} {values : List String}

theorem isWord_keyword (h : keyword ∈ keywords) : IsWord keyword := by
  have hall : ∀ keyword ∈ keywords, keyword ≠ [] ∧
      keyword.all (!isBlank ·) = true := by decide
  exact ⟨(hall keyword h).1, visible_of_all (hall keyword h).2⟩

namespace ListText

theorem isTrimmed (h : ListText keyword values text)
    (hkeyword : IsWord keyword)
    (hvalues : ∀ value ∈ values, IsWord value.toList) : IsTrimmed text := by
  cases h with
  | nothing => exact hkeyword.isTrimmed
  | values hgap htext =>
      have hwords := List.forall_mem_map.mpr hvalues
      exact hkeyword.isTrimmed.append hkeyword.ne_nil
        (htext.isTrimmed hwords) (htext.ne_nil hwords) _

theorem exists_labels (h : ListText keyword values text)
    (hvalues : ∀ value ∈ values, IsWord value.toList) :
    ∃ rest, text = keyword ++ rest ∧ labels rest = values := by
  cases h with
  | nothing => exact ⟨[], (List.append_nil _).symm, rfl⟩
  | @values _ gap text hgap htext =>
      refine ⟨gap ++ text, rfl, ?_⟩
      rw [labels, words_lead hgap.blank,
        htext.words_eq (List.forall_mem_map.mpr hvalues), List.map_map]
      simp only [Function.comp_def, String.ofList_toList, List.map_id']

end ListText

/-- No keyword begins another one. -/
theorem after?_keyword {other : List Char} (hkeyword : keyword ∈ keywords)
    (hother : other ∈ keywords) (hne : other ≠ keyword) (rest : List Char) :
    after? other (keyword ++ rest) = none := by
  have hall : ∀ keyword ∈ keywords, ∀ other ∈ keywords, other ≠ keyword →
      ¬ other <+: keyword := by decide
  apply after?_eq_none
  intro hbegins
  rcases List.prefix_or_prefix_of_prefix hbegins
    (List.prefix_append keyword rest) with hshort | hlong
  · exact hall keyword hkeyword other hother hne hshort
  · exact hall other hother keyword hkeyword hne.symm hlong

theorem readLine_alphabet (h : ListText "alphabet:".toList values text)
    (hvalues : ∀ value ∈ values, IsWord value.toList) :
    readLine text = .ok (.alphabet values) := by
  have htrimmed := h.isTrimmed (isWord_keyword (by decide)) hvalues
  obtain ⟨rest, rfl, rfl⟩ := h.exists_labels hvalues
  rw [readLine, trim_of_isTrimmed htrimmed, after?_append]
  rfl

theorem readLine_states (h : ListText "states:".toList values text)
    (hvalues : ∀ value ∈ values, IsWord value.toList) :
    readLine text = .ok (.states values) := by
  have htrimmed := h.isTrimmed (isWord_keyword (by decide)) hvalues
  obtain ⟨rest, rfl, rfl⟩ := h.exists_labels hvalues
  rw [readLine, trim_of_isTrimmed htrimmed,
    after?_keyword (by decide) (by decide) (by decide), after?_append]
  rfl

theorem readLine_accept (h : ListText "accept:".toList values text)
    (hvalues : ∀ value ∈ values, IsWord value.toList) :
    readLine text = .ok (.accept values) := by
  have htrimmed := h.isTrimmed (isWord_keyword (by decide)) hvalues
  obtain ⟨rest, rfl, rfl⟩ := h.exists_labels hvalues
  rw [readLine, trim_of_isTrimmed htrimmed,
    after?_keyword (by decide) (by decide) (by decide),
    after?_keyword (by decide) (by decide) (by decide),
    after?_keyword (by decide) (by decide) (by decide), after?_append]
  rfl

theorem readLine_of_after?
    (h : after? "start:".toList (trim text) = some rest) :
    readLine text = .ok (.start (String.ofList (trim rest))) := by
  obtain ⟨tail, htail⟩ := prefix_of_after? h
  rw [← htail, after?_append] at h
  obtain rfl := Option.some.inj h
  rw [readLine, ← htail, after?_keyword (by decide) (by decide) (by decide),
    after?_keyword (by decide) (by decide) (by decide), after?_append]
  rfl

theorem readLine_start {label : String} (hlabel : IsWord label.toList)
    (hgap : IsGap gap) :
    readLine ("start:".toList ++ (gap ++ label.toList)) =
      .ok (.start label) := by
  have hkeyword : IsWord "start:".toList := isWord_keyword (by decide)
  have htrimmed := hkeyword.isTrimmed.append hkeyword.ne_nil hlabel.isTrimmed
    hlabel.ne_nil gap
  have hafter : after? "start:".toList
      (trim ("start:".toList ++ (gap ++ label.toList))) =
        some (gap ++ label.toList) := by
    rw [trim_of_isTrimmed htrimmed, after?_append]
  rw [readLine_of_after? hafter, trim_lead hgap.blank hlabel.isTrimmed,
    String.ofList_toList]

end Keywords

section Lines

variable {automaton : Automaton} {line : Line}

/-- The states and symbols that a line mentions. -/
def mentioned : Line → List String
  | .blank => []
  | .alphabet symbols => symbols
  | .states labels => labels
  | .start label => [label]
  | .accept labels => labels
  | .transition edge => edge.row

theorem isPlain_of_holds (hwritable : Writable automaton)
    (hholds : Holds automaton line) :
    ∀ value ∈ mentioned line, IsPlain value := by
  have hstate : ∀ state ∈ automaton.states, IsPlain state :=
    fun state hstate => (hwritable.label state hstate).isPlain
  have hsymbol : ∀ symbol ∈ automaton.alphabet, IsPlain symbol :=
    fun symbol hsymbol => isPlain_symbol
      (automaton.length_symbol symbol hsymbol) (hwritable.symbol symbol hsymbol)
  cases line with
  | blank => exact List.forall_mem_nil _
  | alphabet symbols => exact fun symbol h => hsymbol symbol (hholds symbol h)
  | states labels => exact fun label h => hstate label (hholds label h)
  | start label =>
      obtain rfl : label = automaton.start := hholds
      exact List.forall_mem_singleton.mpr (hstate _ automaton.start_mem)
  | accept labels =>
      exact fun label h =>
        hstate label (automaton.accepting_mem label (hholds label h))
  | transition edge =>
      have hsource := hstate _ (automaton.source_mem edge hholds)
      have htarget := hstate _ (automaton.target_mem edge hholds)
      have hmiddle := hsymbol _ (automaton.symbol_mem edge hholds)
      simp [mentioned, Transition.row, hsource, hmiddle, htarget]

theorem readLine_of_not_keyword (htrimmed : IsTrimmed text) (hne : text ≠ [])
    (hcomment : ¬ "#".toList <+: text)
    (hkeyword : ∀ keyword ∈ keywords, ¬ keyword <+: text) :
    readLine text = readTransition text := by
  have hnone : ∀ keyword ∈ keywords, after? keyword text = none :=
    fun keyword h => after?_eq_none (hkeyword keyword h)
  have hhead : text.head? ≠ some '#' := by
    intro hhead
    obtain ⟨rest, rfl⟩ := List.head?_eq_some_iff.mp hhead
    exact hcomment (List.prefix_append _ rest)
  rw [readLine, trim_of_isTrimmed htrimmed, hnone "alphabet:".toList (by decide),
    hnone "states:".toList (by decide), hnone "start:".toList (by decide),
    hnone "accept:".toList (by decide)]
  exact if_neg (by simp [hne, hhead])

theorem TransitionText.exists_spaced {edge : Transition}
    (h : TransitionText edge text) :
    ∃ parts, Spaced (edge.source.toList :: parts) text ∧
      ∀ part ∈ edge.source.toList :: parts,
        part = "->".toList ∨ ∃ value ∈ edge.row, value.toList = part := by
  cases h with
  | plain htext => exact ⟨_, htext, by simp [Transition.row]⟩
  | arrows htext => exact ⟨_, htext, by simp [Transition.row]⟩

theorem readLine_transition {edge : Transition} (h : TransitionText edge text)
    (hsource : IsLabel edge.source)
    (hedge : ∀ part ∈ edge.row, IsPlain part) :
    readLine text = .ok (.transition edge) := by
  obtain ⟨parts, hspaced, hparts⟩ := h.exists_spaced
  have hwords : ∀ part ∈ edge.source.toList :: parts, IsWord part := by
    intro part hpart
    rcases hparts part hpart with rfl | ⟨value, hvalue, rfl⟩
    · exact isWord_arrow
    · exact (hedge value hvalue).isWord
  rw [readLine_of_not_keyword (hspaced.isTrimmed hwords) (hspaced.ne_nil hwords),
    readTransition_of_transitionText h hedge]
  · exact hspaced.not_prefix ⟨by decide, visible_of_all rfl⟩ hsource.no_comment
  · intro keyword hkeyword
    exact hspaced.not_prefix (isWord_keyword hkeyword)
      (hsource.no_keyword keyword hkeyword)

theorem readLine_of_coreText (hwritable : Writable automaton)
    (hholds : Holds automaton line) (h : CoreText line text) :
    readLine text = .ok line := by
  have hplain := isPlain_of_holds hwritable hholds
  have hwords : ∀ value ∈ mentioned line, IsWord value.toList :=
    fun value hvalue => (hplain value hvalue).isWord
  cases h with
  | blank => rfl
  | alphabet htext => exact readLine_alphabet htext hwords
  | states htext => exact readLine_states htext hwords
  | start label hgap =>
      exact readLine_start (hwords label List.mem_cons_self) hgap
  | accept htext => exact readLine_accept htext hwords
  | transition htext =>
      have hsource := hwritable.label _ (automaton.source_mem _ hholds)
      exact readLine_transition htext hsource hplain

/-- Blanks around a line do not matter to its reader. -/
theorem readLine_of_lineText (hwritable : Writable automaton)
    (hholds : Holds automaton line) (h : LineText line text) :
    readLine text = .ok line := by
  cases h with
  | indented hlead hcore htrail =>
      rw [← readLine_trim, trim_surrounded hlead.blank htrail.blank,
        readLine_trim]
      exact readLine_of_coreText hwritable hholds hcore

end Lines

section Separators

variable {line : Line}

theorem isWord_separator : IsWord "---".toList :=
  ⟨by decide, visible_of_all rfl⟩

theorem passes_keyword {keyword : List Char} (h : keyword ∈ keywords)
    (rest : List Char) : Passes "---".toList keyword rest := by
  have hall : ∀ keyword ∈ keywords, '-' ∉ keyword := by decide
  exact passes_of_not_mem (hall keyword h) "--".toList rest

theorem ListText.passes_separator {keyword : List Char} {values : List String}
    (h : ListText keyword values text) (hkeyword : keyword ∈ keywords)
    (hvalues : ∀ value ∈ values, IsPlain value) :
    Passes "---".toList text [] := by
  cases h with
  | nothing => exact passes_keyword hkeyword []
  | values hgap htext =>
      have hparts : ∀ part ∈ values.map String.toList,
          ¬ "---".toList <:+: part := List.forall_mem_map.mpr
        fun value hvalue => (hvalues value hvalue).no_separator
      exact passes_append.mpr ⟨passes_keyword hkeyword _, passes_append.mpr
        ⟨passes_gap isWord_separator hgap _,
          htext.passes isWord_separator hparts⟩⟩

theorem CoreText.passes_separator (h : CoreText line text)
    (hplain : ∀ value ∈ mentioned line, IsPlain value) :
    Passes "---".toList text [] := by
  cases h with
  | blank => trivial
  | alphabet htext => exact htext.passes_separator (by decide) hplain
  | states htext => exact htext.passes_separator (by decide) hplain
  | start label hgap =>
      have hlabel := (hplain label List.mem_cons_self).no_separator
      exact passes_append.mpr ⟨passes_keyword (by decide) _, passes_append.mpr
        ⟨passes_gap isWord_separator hgap _, passes_nil hlabel⟩⟩
  | accept htext => exact htext.passes_separator (by decide) hplain
  | transition htext =>
      obtain ⟨parts, hspaced, hparts⟩ := htext.exists_spaced
      refine hspaced.passes isWord_separator fun part hpart => ?_
      rcases hparts part hpart with rfl | ⟨value, hvalue, rfl⟩
      · decide
      · exact (hplain value hvalue).no_separator

/-- No separator stands in a line, not even with the help of the blanks around
it. -/
theorem LineText.no_separator (h : LineText line text)
    (hplain : ∀ value ∈ mentioned line, IsPlain value) :
    ¬ "---".toList <:+: text := by
  cases h with
  | indented hlead hcore htrail =>
      have hcut := cut?_eq_none (hcore.passes_separator hplain)
      have hinside := not_isInfix_of_cut? isWord_separator.ne_nil hcut
      rw [← contains_eq_false_iff isWord_separator.ne_nil] at hinside ⊢
      rw [contains_surrounded isWord_separator.ne_nil
        (avoids_of_blank isWord_separator.visible hlead.blank)
        (avoids_of_blank isWord_separator.visible htrail.blank), hinside]

theorem ListText.not_mem_newline {keyword : List Char} {values : List String}
    (h : ListText keyword values text) (hkeyword : IsWord keyword)
    (hvalues : ∀ value ∈ values, IsPlain value) : '\n' ∉ text := by
  cases h with
  | nothing => exact hkeyword.not_mem rfl
  | values hgap htext =>
      have hparts : ∀ part ∈ values.map String.toList, IsWord part :=
        List.forall_mem_map.mpr fun value hvalue =>
          (hvalues value hvalue).isWord
      simp only [List.mem_append, not_or]
      exact ⟨hkeyword.not_mem rfl, hgap.avoids.not_mem (by simp),
        htext.not_mem_newline hparts⟩

theorem CoreText.not_mem_newline (h : CoreText line text)
    (hplain : ∀ value ∈ mentioned line, IsPlain value) : '\n' ∉ text := by
  have hkeyword : ∀ keyword ∈ keywords, IsWord keyword :=
    fun keyword => isWord_keyword
  cases h with
  | blank => exact List.not_mem_nil
  | alphabet htext => exact htext.not_mem_newline (hkeyword _ (by decide)) hplain
  | states htext => exact htext.not_mem_newline (hkeyword _ (by decide)) hplain
  | start label hgap =>
      have hlabel := (hplain label List.mem_cons_self).isWord
      simp only [List.mem_append, not_or]
      exact ⟨(hkeyword "start:".toList (by decide)).not_mem rfl,
        hgap.avoids.not_mem (by simp), hlabel.not_mem rfl⟩
  | accept htext => exact htext.not_mem_newline (hkeyword _ (by decide)) hplain
  | transition htext =>
      obtain ⟨parts, hspaced, hparts⟩ := htext.exists_spaced
      refine hspaced.not_mem_newline fun part hpart => ?_
      rcases hparts part hpart with rfl | ⟨value, hvalue, rfl⟩
      · exact isWord_arrow
      · exact (hplain value hvalue).isWord

theorem LineText.not_mem_newline (h : LineText line text)
    (hplain : ∀ value ∈ mentioned line, IsPlain value) : '\n' ∉ text := by
  cases h with
  | indented hlead hcore htrail =>
      simp only [List.mem_append, not_or]
      exact ⟨⟨hlead.avoids.not_mem (by simp), hcore.not_mem_newline hplain⟩,
        htrail.avoids.not_mem (by simp)⟩

end Separators

end RightLinear.Automaton.Format

import RightLinear.Proofs.Grammar.Arrows

/-! What a text looks like from which given tokens are read, exactly.  Nothing
but blanks is left out between the tokens, a capital takes all digits and primes
after it, and an opening bracket is a token by itself only where no name is
closed after it.  So every text has one list of tokens, and a token that is no
non-terminal is one character. -/

namespace RightLinear.Grammar

open Text Document

namespace Token

/-- After an opening bracket comes a name and the bracket that closes it. -/
def ClosesName (rest : List Char) : Prop :=
  ∃ name later, name ≠ [] ∧
    (∀ character ∈ name, character ≠ '<' ∧ character ≠ '>') ∧
      rest = name ++ '>' :: later

/-- What a token can be where `rest` follows it. -/
inductive Stands : Token → List Char → Prop
  | bracketed {name : List Char} (hne : name ≠ [])
      (hname : ∀ character ∈ name, character ≠ '<' ∧ character ≠ '>')
      (rest : List Char) : Stands (.bracketed (String.ofList name)) rest
  | capital {letter : Char} {suffix rest : List Char}
      (hletter : isCapital letter = true)
      (hsuffix : ∀ character ∈ suffix, isSuffix character = true)
      (hrest : ∀ next, rest.head? = some next → isSuffix next = false) :
      Stands (.plain (String.ofList (letter :: suffix))) rest
  | single {character : Char} {rest : List Char}
      (hvisible : isBlank character = false)
      (hcapital : isCapital character = false)
      (hangle : character = '<' → ¬ ClosesName rest) :
      Stands (.plain (String.singleton character)) rest

section Reading

variable {token : Token} {first : Char} {rest : List Char}

theorem bracketed?_eq_none_iff :
    bracketed? rest = none ↔ ¬ ClosesName rest := by
  constructor
  · rintro hnone ⟨name, later, hne, hname, rfl⟩
    rw [bracketed?_append hne hname] at hnone
    contradiction
  · intro hopen
    cases hfound : bracketed? rest with
    | none => rfl
    | some found =>
        obtain ⟨htext, hne, hname⟩ := bracketed?_eq_some hfound
        exact absurd ⟨_, _, hne, hname, htext⟩ hopen

theorem read_unopened (hcapital : isCapital first = false)
    (hangle : first = '<' → ¬ ClosesName rest) :
    read first rest = (plain (String.singleton first), rest) := by
  by_cases hfirst : first = '<'
  · rw [read, if_pos hfirst, bracketed?_eq_none_iff.mpr (hangle hfirst)]
  · exact read_single hfirst hcapital rest

theorem stands_read (hfirst : isBlank first = false) (rest : List Char) :
    (read first rest).1.Stands (read first rest).2 := by
  cases hcapital : isCapital first with
  | true =>
      -- The suffix is as long as can be, so what follows does not go on with it.
      have hrest : ∀ next, (rest.dropWhile isSuffix).head? = some next →
          isSuffix next = false := by
        intro next hnext
        have hdropped := List.head?_dropWhile_not isSuffix rest
        rw [hnext] at hdropped
        simpa using hdropped
      have hread := @read_capital first (rest.takeWhile isSuffix)
        (rest.dropWhile isSuffix) hcapital
          (List.all_eq_true.mp List.all_takeWhile) hrest
      rw [List.takeWhile_append_dropWhile] at hread
      rw [hread]
      exact .capital hcapital (List.all_eq_true.mp List.all_takeWhile) hrest
  | false =>
      by_cases hname : first = '<' ∧ ClosesName rest
      · obtain ⟨rfl, name, later, hne, hname, rfl⟩ := hname
        rw [read_bracketed hne hname]
        exact .bracketed hne hname later
      · have hangle : first = '<' → ¬ ClosesName rest := not_and.mp hname
        rw [read_unopened hcapital hangle]
        exact .single hfirst hcapital hangle

/-- Only the token itself can be read from its text. -/
theorem Stands.exists_read (h : token.Stands rest) :
    ∃ first later, token.written.toList ++ rest = first :: later ∧
      isBlank first = false ∧ read first later = (token, rest) := by
  cases h with
  | @bracketed name hne hname rest =>
      refine ⟨'<', name ++ '>' :: rest, ?_, rfl, read_bracketed hne hname rest⟩
      simp [written]
  | @capital letter suffix rest hletter hsuffix hrest =>
      refine ⟨letter, suffix ++ rest, ?_, Format.isBlank_of_isCapital hletter,
        read_capital hletter hsuffix hrest⟩
      rw [written, String.toList_ofList]
      rfl
  | @single character rest hvisible hcapital hangle =>
      refine ⟨character, rest, ?_, hvisible, read_unopened hcapital hangle⟩
      rw [written, String.toList_singleton]
      rfl

/-- Names and capitals are non-terminals, so nothing else is longer than one
character. -/
theorem Stands.eq_singleton (h : token.Stands rest)
    (hterminal : token.isNonterminal = false) :
    ∃ character, isBlank character = false ∧
      token = .plain (String.singleton character) := by
  cases h with
  | bracketed hne hname => contradiction
  | capital hletter hsuffix hrest =>
      simp [isNonterminal, isUppercase_of_isCapital hletter] at hterminal
  | single hvisible hcapital hangle => exact ⟨_, hvisible, rfl⟩

end Reading

end Token

/-- The tokens as they are written, one after the other, with nothing but blanks
around them. -/
inductive Tokenized : List Token → List Char → Prop
  | nil {gap : List Char}
      (hgap : ∀ character ∈ gap, isBlank character = true) : Tokenized [] gap
  | cons {token : Token} {found : List Token} {gap rest : List Char}
      (hgap : ∀ character ∈ gap, isBlank character = true)
      (htoken : token.Stands rest) (hlater : Tokenized found rest) :
      Tokenized (token :: found) (gap ++ (token.written.toList ++ rest))

section Texts

variable {found : List Token} {text gap : List Char}

theorem Tokenized.lead (hlead : ∀ character ∈ gap, isBlank character = true)
    (h : Tokenized found text) : Tokenized found (gap ++ text) := by
  cases h with
  | nil hgap => exact .nil (List.forall_mem_append.mpr ⟨hlead, hgap⟩)
  | cons hgap htoken hlater =>
      rw [← List.append_assoc]
      exact .cons (List.forall_mem_append.mpr ⟨hlead, hgap⟩) htoken hlater

theorem tokenized_tokens (text : List Char) : Tokenized (tokens text) text := by
  fun_induction tokens text with
  | case1 => exact .nil (List.forall_mem_nil _)
  | case2 first rest hblank ih =>
      exact ih.lead (List.forall_mem_singleton.mpr hblank)
  | case3 first rest hvisible ih =>
      have hstands := Token.stands_read (Bool.eq_false_iff.mpr hvisible) rest
      have hall := Tokenized.cons (List.forall_mem_nil _) hstands ih
      rwa [Token.written_read, List.nil_append] at hall

theorem Tokenized.tokens_eq (h : Tokenized found text) : tokens text = found := by
  induction h with
  | nil hgap =>
      have hall := tokens_append hgap []
      rwa [List.append_nil, tokens_nil] at hall
  | cons hgap htoken hlater ih =>
      obtain ⟨first, later, htext, hfirst, hread⟩ := htoken.exists_read
      rw [tokens_append hgap, htext, tokens_cons hfirst, hread, ih]

/-- A text has exactly one list of tokens. -/
theorem tokens_eq_iff : tokens text = found ↔ Tokenized found text := by
  constructor
  · rintro rfl
    exact tokenized_tokens text
  · exact Tokenized.tokens_eq

theorem Tokenized.exists_stands (h : Tokenized found text) :
    ∀ token ∈ found, ∃ rest, token.Stands rest := by
  induction h with
  | nil hgap => exact List.forall_mem_nil _
  | cons hgap htoken hlater ih =>
      exact List.forall_mem_cons.mpr ⟨⟨_, htoken⟩, ih⟩

/-- No character that can be seen is left out or put in. -/
theorem Tokenized.visible_eq (h : Tokenized found text) :
    (found.flatMap (·.written.toList)).filter (!isBlank ·) =
      text.filter (!isBlank ·) := by
  induction h with
  | nil hgap =>
      rw [List.flatMap_nil, List.filter_nil, eq_comm, List.filter_eq_nil_iff]
      exact fun character hcharacter => by simp [hgap character hcharacter]
  | @cons token found gap rest hgap htoken hlater ih =>
      have hnone : gap.filter (!isBlank ·) = [] :=
        List.filter_eq_nil_iff.mpr fun character hcharacter => by
          simp [hgap character hcharacter]
      rw [List.flatMap_cons, List.filter_append, ih, List.filter_append, hnone,
        List.nil_append, List.filter_append]

end Texts

/-- The tokens of a rule stand in its two sides. -/
theorem Document.exists_stands_of_readRule {text : List Char} {rule : Rule}
    (h : readRule text = .ok rule) :
    ∀ token ∈ rule.tokens, ∃ rest, token.Stands rest := by
  have hside : ∀ side, ∀ token ∈ tokens side, ∃ rest, token.Stands rest :=
    fun side => (tokenized_tokens side).exists_stands
  rw [readRule] at h
  split at h
  · contradiction
  · next left right hcut =>
      split at h
      · contradiction
      · obtain rfl := Except.ok.inj h
        refine List.forall_mem_append.mpr ⟨hside left, ?_⟩
        intro token htoken
        obtain ⟨alternative, halternative, hmem⟩ := List.mem_flatten.mp htoken
        obtain ⟨piece, -, rfl⟩ := List.mem_map.mp halternative
        exact hside piece token hmem

end RightLinear.Grammar

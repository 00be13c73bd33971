import RightLinear.Proofs.Grammar.Format

/-! Written symbols in a longer text.  What stands around a symbol decides
whether it is read as it was written, so every fact is about a symbol together
with the text after it. -/

namespace RightLinear.Grammar.Format

open Text

namespace Symbol

def token : Symbol → Token
  | .terminal value => .plain value.symbol
  | .name (.capital letter suffix _ _) =>
      .plain (String.ofList (letter :: suffix))
  | .name (.bracketed label) => .bracketed (String.ofList label.text)

@[simp] theorem symbol_token (symbol : Symbol) :
    symbol.token.symbol = symbol.text := by
  cases symbol with
  | terminal value => rfl
  | name value =>
      cases value with
      | capital letter suffix hletter hsuffix => rfl
      | bracketed label => rfl

@[simp] theorem isNonterminal_terminal (value : Terminal) :
    (Symbol.terminal value).token.isNonterminal = false := by
  simp [token, Token.isNonterminal, Terminal.symbol, value.not_uppercase]

@[simp] theorem isNonterminal_name (value : Name) :
    (Symbol.name value).token.isNonterminal = true := by
  cases value with
  | capital letter suffix hletter hsuffix =>
      simp [token, Token.isNonterminal, Token.isUppercase_of_isCapital hletter]
  | bracketed label => rfl

end Symbol

section Characters

variable {character : Char}

theorem isBlank_of_isCapital (h : Token.isCapital character = true) :
    isBlank character = false := by
  have hrange := Token.isCapital_iff.mp h
  exact isBlank_eq_false (by omega) (by omega)

theorem isBlank_of_isSuffix (h : Token.isSuffix character = true) :
    isBlank character = false := by
  have hrange := Token.isSuffix_iff.mp h
  exact isBlank_eq_false (by omega) (by omega)

/-- The characters of a name that stands without brackets. -/
theorem isCapital_or_isSuffix {letter : Char} {suffix : List Char}
    (hletter : Token.isCapital letter = true)
    (hsuffix : ∀ character ∈ suffix, Token.isSuffix character = true) :
    ∀ character ∈ letter :: suffix, Token.isCapital character = true ∨
      Token.isSuffix character = true :=
  List.forall_mem_cons.mpr
    ⟨.inl hletter, fun character h => .inr (hsuffix character h)⟩

theorem not_mem_capital {letter : Char} {suffix : List Char}
    (hletter : Token.isCapital letter = true)
    (hsuffix : ∀ character ∈ suffix, Token.isSuffix character = true)
    (hcapital : Token.isCapital character = false)
    (hother : Token.isSuffix character = false) :
    character ∉ letter :: suffix := by
  intro hin
  have hrange := isCapital_or_isSuffix hletter hsuffix character hin
  rw [hcapital, hother] at hrange
  exact hrange.elim Bool.false_ne_true Bool.false_ne_true

theorem Terminal.not_capital (terminal : Terminal) :
    Token.isCapital terminal.character = false := by
  rw [Bool.eq_false_iff]
  intro hcapital
  have huppercase := Token.isUppercase_of_isCapital hcapital
  rw [terminal.not_uppercase] at huppercase
  contradiction

theorem Name.text_ne_nil (name : Name) : name.text ≠ [] := by
  cases name with
  | capital letter suffix hletter hsuffix => exact List.cons_ne_nil _ _
  | bracketed label => exact label.ne_nil

theorem Name.avoids (name : Name) :
    Avoids ['<', '>', '|', '#', '→', '\n'] name.text := by
  cases name with
  | capital letter suffix hletter hsuffix =>
      intro character hcharacter hreserved
      revert hcharacter
      simp only [List.mem_cons, List.not_mem_nil, or_false] at hreserved
      rcases hreserved with rfl | rfl | rfl | rfl | rfl | rfl
      all_goals exact not_mem_capital hletter hsuffix rfl rfl
  | bracketed label => exact label.avoids

end Characters

section Boundaries

/-- What may follow a symbol, so that the symbol ends there and takes no part
in an arrow that begins inside it. -/
structure Boundary (rest : List Char) : Prop where
  not_suffix : ∀ next, rest.head? = some next → Token.isSuffix next = false
  not_capital : ∀ next, rest.head? = some next → Token.isCapital next = false
  not_angle : rest.head? ≠ some '>'
  not_definition : ¬ ":=".toList <+: rest

variable {rest : List Char}

theorem Boundary.nil : Boundary [] where
  not_suffix := fun _ h => nomatch h
  not_capital := fun _ h => nomatch h
  not_angle := fun h => nomatch h
  not_definition := by decide

theorem Boundary.blank {character : Char} (h : isBlank character = true)
    (rest : List Char) : Boundary (character :: rest) where
  not_suffix := by
    rintro next ⟨⟩
    rw [Bool.eq_false_iff]
    intro hsuffix
    rw [isBlank_of_isSuffix hsuffix] at h
    contradiction
  not_capital := by
    rintro next ⟨⟩
    rw [Bool.eq_false_iff]
    intro hcapital
    rw [isBlank_of_isCapital hcapital] at h
    contradiction
  not_angle := by
    rintro ⟨⟩
    contradiction
  not_definition := by
    intro hprefix
    obtain ⟨rfl, _⟩ := List.cons_prefix_cons.mp hprefix
    contradiction

theorem Boundary.bar (rest : List Char) : Boundary ('|' :: rest) where
  not_suffix := by
    rintro next ⟨⟩
    decide
  not_capital := by
    rintro next ⟨⟩
    decide
  not_angle := by simp
  not_definition := fun hprefix =>
    absurd (List.cons_prefix_cons.mp hprefix).1 (by decide)

theorem Boundary.arrow {arrow : List Char} (h : IsArrow arrow)
    (rest : List Char) : Boundary (arrow ++ rest) where
  not_suffix := by
    cases h <;> (rintro next ⟨⟩; decide)
  not_capital := by
    cases h <;> (rintro next ⟨⟩; decide)
  not_angle := by
    cases h <;> simp
  not_definition := by
    cases h <;> simp

theorem Boundary.gap {gap : List Char} (hgap : IsGap gap)
    (hrest : Boundary rest) : Boundary (gap ++ rest) := by
  cases gap with
  | nil => exact hrest
  | cons character gap =>
      exact .blank (hgap character List.mem_cons_self).1 (gap ++ rest)

end Boundaries

namespace Symbol

variable {rest : List Char}

theorem written_ne_nil (symbol : Symbol) : symbol.written ≠ [] := by
  cases symbol with
  | terminal value => exact List.cons_ne_nil _ _
  | name value =>
      cases value with
      | capital letter suffix hletter hsuffix => exact List.cons_ne_nil _ _
      | bracketed label => exact List.cons_ne_nil _ _

theorem avoids (symbol : Symbol) :
    Avoids ['|', '#', '→', '\n'] symbol.written := by
  have hname : ∀ value : Name, Avoids ['|', '#', '→', '\n'] value.text :=
    fun value => value.avoids.mono (List.Sublist.subset (by decide))
  cases symbol with
  | terminal value =>
      intro character hcharacter hreserved
      obtain rfl := List.mem_singleton.mp hcharacter
      have hallowed := value.allowed
      have hblank := value.not_blank
      simp only [List.mem_cons, List.not_mem_nil, or_false] at hreserved hallowed
      rcases hreserved with h | h | h | h
      · exact hallowed (.inl h)
      · exact hallowed (.inr (.inl h))
      · exact hallowed (.inr (.inr (.inl h)))
      · rw [h] at hblank
        contradiction
  | name value =>
      cases value with
      | capital letter suffix hletter hsuffix =>
          exact hname (.capital letter suffix hletter hsuffix)
      | bracketed label =>
          have hclose : Avoids ['|', '#', '→', '\n'] ['>'] := by simp [Avoids]
          exact avoids_cons.mpr ⟨by decide,
            avoids_append.mpr ⟨hname (.bracketed label), hclose⟩⟩

theorem isTrimmed_angled (text : List Char) :
    IsTrimmed ('<' :: (text ++ ['>'])) := by
  have hopen : IsTrimmed ['<'] := isTrimmed_of_all rfl
  have hclose : IsTrimmed ['>'] := isTrimmed_of_all rfl
  exact hopen.append (List.cons_ne_nil _ _) hclose (List.cons_ne_nil _ _) text

theorem isTrimmed_written (symbol : Symbol) : IsTrimmed symbol.written := by
  cases symbol with
  | terminal value =>
      exact isTrimmed_of_forall (List.forall_mem_singleton.mpr value.not_blank)
  | name value =>
      cases value with
      | capital letter suffix hletter hsuffix =>
          apply isTrimmed_of_forall
          intro character hcharacter
          rcases isCapital_or_isSuffix hletter hsuffix character hcharacter
            with hcapital | hother
          · exact isBlank_of_isCapital hcapital
          · exact isBlank_of_isSuffix hother
      | bracketed label => exact isTrimmed_angled label.text

/-- A terminal ends where it began, whatever follows. -/
theorem tokens_terminal (value : Terminal) (rest : List Char) :
    tokens (value.character :: rest) =
      (Symbol.terminal value).token :: tokens rest := by
  have hangle : value.character ≠ '<' := by
    intro heq
    exact value.allowed (by simp [heq])
  rw [tokens_cons value.not_blank, Token.read_single hangle value.not_capital]
  rfl

theorem tokens_written (symbol : Symbol) (hrest : Boundary rest) :
    tokens (symbol.written ++ rest) = symbol.token :: tokens rest := by
  cases symbol with
  | terminal value => exact tokens_terminal value rest
  | name value =>
      cases value with
      | capital letter suffix hletter hsuffix =>
          rw [written, Name.written, List.cons_append,
            tokens_cons (isBlank_of_isCapital hletter),
            Token.read_capital hletter hsuffix hrest.not_suffix]
          rfl
      | bracketed label =>
          have hangles : ∀ character ∈ label.text,
              character ≠ '<' ∧ character ≠ '>' := by
            intro character hcharacter
            have hallowed := label.avoids character hcharacter
            simp only [List.mem_cons, not_or] at hallowed
            exact ⟨hallowed.1, hallowed.2.1⟩
          rw [written, Name.written, List.cons_append, List.append_assoc,
            List.singleton_append, tokens_cons rfl,
            Token.read_bracketed label.ne_nil hangles]
          rfl

theorem not_definition_of_name (value : Name) {gap : List Char}
    (hgap : IsGap gap) (rest : List Char) :
    ¬ ":=".toList <+: gap ++ (value.written ++ rest) := by
  cases gap with
  | nil =>
      intro hprefix
      cases value with
      | capital letter suffix hletter hsuffix =>
          obtain ⟨rfl, _⟩ := List.cons_prefix_cons.mp hprefix
          contradiction
      | bracketed label =>
          exact absurd (List.cons_prefix_cons.mp hprefix).1 (by decide)
  | cons character gap =>
      exact (Boundary.blank (hgap character List.mem_cons_self).1
        (gap ++ (value.written ++ rest))).not_definition

private theorem arrow_eq : "->".toList = ['-', '>'] := rfl

private theorem definition_eq : "::=".toList = [':', ':', '='] := rfl

theorem passes_definition (symbol : Symbol) (hrest : ¬ ":=".toList <+: rest) :
    Passes "::=".toList symbol.written rest := by
  cases symbol with
  | terminal value =>
      refine passes_singleton.mpr fun hprefix => ?_
      exact hrest (List.cons_prefix_cons.mp hprefix).2
  | name value =>
      cases value with
      | capital letter suffix hletter hsuffix =>
          rw [definition_eq]
          exact passes_of_not_mem
            (not_mem_capital hletter hsuffix rfl rfl) _ _
      | bracketed label =>
          have hlabel : Passes "::=".toList label.text ('>' :: rest) :=
            passes_of_not_isInfix label.no_arrow (by decide) rest
          rw [definition_eq] at hlabel ⊢
          refine (passes_cons_of_ne (by decide)).mpr
            (passes_append.mpr ⟨hlabel, ?_⟩)
          exact passes_of_not_mem (by decide) _ _

theorem passes_arrow_of_label {text : List Char} (hangle : '>' ∉ text)
    (hend : text.getLast? = some '-' → rest.head? ≠ some '>') :
    Passes ['-', '>'] text rest := by
  induction text with
  | nil => trivial
  | cons character text ih =>
      rw [List.mem_cons, not_or] at hangle
      refine ⟨?_, ih hangle.2 ?_⟩
      · intro hprefix
        obtain ⟨rfl, hafter⟩ := List.cons_prefix_cons.mp hprefix
        cases text with
        | nil =>
            obtain ⟨after, hafter⟩ := hafter
            exact hend rfl (congrArg List.head? hafter.symm)
        | cons next text =>
            obtain ⟨rfl, _⟩ := List.cons_prefix_cons.mp hafter
            exact hangle.2 List.mem_cons_self
      · cases text with
        | nil => exact fun hnone => nomatch hnone
        | cons next text => exact hend

theorem passes_arrow (symbol : Symbol) (hplain : symbol.EndsPlain)
    (hrest : Boundary rest) : Passes "->".toList symbol.written rest := by
  rw [arrow_eq]
  cases symbol with
  | terminal value =>
      refine passes_singleton.mpr fun hprefix => ?_
      obtain ⟨after, hafter⟩ := (List.cons_prefix_cons.mp hprefix).2
      exact hrest.not_angle (congrArg List.head? hafter.symm)
  | name value =>
      cases value with
      | capital letter suffix hletter hsuffix =>
          exact passes_of_not_mem
            (not_mem_capital hletter hsuffix rfl rfl) _ _
      | bracketed label =>
          refine (passes_cons_of_ne (by decide)).mpr (passes_append.mpr ⟨?_, ?_⟩)
          · exact passes_arrow_of_label (label.avoids.not_mem (by decide))
              fun hlast => absurd hlast (hplain label rfl)
          · exact passes_of_not_mem (by decide) _ _

/-- No symbol begins like a heading, which has two capitals side by side. -/
theorem not_heading {first second : Char} {heading : List Char}
    (symbol : Symbol) (hfirst : Token.isCapital first = true)
    (hsecond : Token.isCapital second = true) (hrest : Boundary rest) :
    ¬ first :: second :: heading <+: symbol.written ++ rest := by
  intro hprefix
  cases symbol with
  | terminal value =>
      obtain ⟨rfl, _⟩ := List.cons_prefix_cons.mp hprefix
      rw [value.not_capital] at hfirst
      contradiction
  | name value =>
      cases value with
      | capital letter suffix hletter hsuffix =>
          obtain ⟨_, hafter⟩ := List.cons_prefix_cons.mp hprefix
          cases suffix with
          | nil =>
              obtain ⟨after, hafter⟩ := hafter
              have hnext := hrest.not_capital second
                (congrArg List.head? hafter.symm)
              rw [hnext] at hsecond
              contradiction
          | cons next suffix =>
              obtain ⟨rfl, _⟩ := List.cons_prefix_cons.mp hafter
              have hdigit := Token.isSuffix_iff.mp
                (hsuffix _ List.mem_cons_self)
              have hcapital := Token.isCapital_iff.mp hsecond
              omega
      | bracketed label =>
          obtain ⟨rfl, _⟩ := List.cons_prefix_cons.mp hprefix
          contradiction

end Symbol

end RightLinear.Grammar.Format

import RightLinear.Text.Blank
import RightLinear.Text.Uppercase

/-! The symbols in the text form of a production: a name in angle brackets, an
ASCII capital with the digits and primes after it, or any other single
character.  Blanks outside the brackets only separate. -/

namespace RightLinear.Grammar

open Text

inductive Token where
  | bracketed (name : String)
  | plain (text : String)
  deriving DecidableEq

namespace Token

/-- Bracketed names and symbols that begin with a capital. -/
def isNonterminal : Token → Bool
  | bracketed _ => true
  | plain text => text.toList.head?.any isUppercase

def symbol : Token → String
  | bracketed name => name
  | plain text => text

def written : Token → String
  | bracketed name => "<" ++ name ++ ">"
  | plain text => text

def isCapital (character : Char) : Bool :=
  'A' ≤ character && character ≤ 'Z'

def isSuffix (character : Char) : Bool :=
  character.isDigit || character == '\x27'

theorem isCapital_iff {character : Char} : isCapital character = true ↔
    0x41 ≤ character.toNat ∧ character.toNat ≤ 0x5A := by
  simp only [isCapital, Bool.and_eq_true, decide_eq_true_eq, Char.le_def,
    UInt32.le_iff_toNat_le]
  exact Iff.rfl

theorem isSuffix_iff {character : Char} : isSuffix character = true ↔
    0x30 ≤ character.toNat ∧ character.toNat ≤ 0x39 ∨
      character.toNat = 0x27 := by
  simp only [isSuffix, Char.isDigit, Bool.or_eq_true, Bool.and_eq_true,
    decide_eq_true_eq, ge_iff_le, UInt32.le_iff_toNat_le, beq_iff_eq,
    ← Char.toNat_inj]
  exact Iff.rfl

theorem isUppercase_of_isCapital {character : Char}
    (h : isCapital character = true) : isUppercase character = true := by
  have hrange := isCapital_iff.mp h
  refine List.any_eq_true.mpr ⟨⟨0x41, 0x5A, 1⟩, List.mem_cons_self, ?_⟩
  simp [SteppedRange.contains, hrange, Nat.mod_one]

private def isBracket (character : Char) : Bool :=
  character == '<' || character == '>'

/-- The name before the next bracket, if there is one and `>` follows it. -/
def bracketed? (text : List Char) : Option (String × List Char) :=
  match text.takeWhile (!isBracket ·), text.dropWhile (!isBracket ·) with
  | first :: name, '>' :: rest => some (String.ofList (first :: name), rest)
  | _, _ => none

theorem bracketed?_append {name : List Char} (hne : name ≠ [])
    (hname : ∀ character ∈ name, character ≠ '<' ∧ character ≠ '>')
    (rest : List Char) :
    bracketed? (name ++ '>' :: rest) = some (String.ofList name, rest) := by
  have hinside : ∀ character ∈ name, (!isBracket character) = true := by
    intro character hcharacter
    simp [isBracket, hname character hcharacter]
  have hend : (!isBracket '>') = false := rfl
  obtain ⟨first, name, rfl⟩ := List.exists_cons_of_ne_nil hne
  rw [bracketed?, List.takeWhile_append_of_pos hinside,
    List.dropWhile_append_of_pos hinside, List.takeWhile_cons, hend,
    List.dropWhile_cons, hend]
  simp

theorem bracketed?_eq_some {text rest : List Char} {name : String}
    (h : bracketed? text = some (name, rest)) :
    text = name.toList ++ '>' :: rest ∧ name.toList ≠ [] ∧
      ∀ character ∈ name.toList, character ≠ '<' ∧ character ≠ '>' := by
  unfold bracketed? at h
  split at h
  · next first inside remainder htake hdrop =>
      obtain ⟨rfl, rfl⟩ := Prod.mk.inj (Option.some.inj h)
      rw [String.toList_ofList, ← htake]
      refine ⟨?_, by simp [htake], fun character hcharacter => ?_⟩
      · rw [← hdrop, List.takeWhile_append_dropWhile]
      · have hinside := List.all_eq_true.mp List.all_takeWhile character hcharacter
        simpa [isBracket] using hinside
  · contradiction

/-- The token that begins with `first`, and the text after it. -/
def read (first : Char) (rest : List Char) : Token × List Char :=
  if first = '<' then
    match bracketed? rest with
    | some (name, rest) => (bracketed name, rest)
    | none => (plain (String.singleton first), rest)
  else if isCapital first then
    (plain (String.ofList (first :: rest.takeWhile isSuffix)),
      rest.dropWhile isSuffix)
  else (plain (String.singleton first), rest)

theorem read_bracketed {name : List Char} (hne : name ≠ [])
    (hname : ∀ character ∈ name, character ≠ '<' ∧ character ≠ '>')
    (rest : List Char) :
    read '<' (name ++ '>' :: rest) = (bracketed (String.ofList name), rest) := by
  rw [read, if_pos rfl, bracketed?_append hne hname]

theorem read_capital {first : Char} {suffix rest : List Char}
    (hfirst : isCapital first = true)
    (hsuffix : ∀ character ∈ suffix, isSuffix character = true)
    (hrest : ∀ next, rest.head? = some next → isSuffix next = false) :
    read first (suffix ++ rest) =
      (plain (String.ofList (first :: suffix)), rest) := by
  have hangle : first ≠ '<' := by
    rintro rfl
    contradiction
  have htake : rest.takeWhile isSuffix = [] := by
    cases rest with
    | nil => rfl
    | cons next rest => simp [hrest next rfl]
  have hdrop : rest.dropWhile isSuffix = rest := by
    cases rest with
    | nil => rfl
    | cons next rest => simp [hrest next rfl]
  rw [read, if_neg hangle, if_pos hfirst,
    List.takeWhile_append_of_pos hsuffix, htake, List.append_nil,
    List.dropWhile_append_of_pos hsuffix, hdrop]

theorem read_single {first : Char} (hangle : first ≠ '<')
    (hcapital : isCapital first = false) (rest : List Char) :
    read first rest = (plain (String.singleton first), rest) := by
  rw [read, if_neg hangle, if_neg (by simp [hcapital])]

private theorem length_dropWhile_le (skip : Char → Bool) (text : List Char) :
    (text.dropWhile skip).length ≤ text.length :=
  (List.dropWhile_sublist skip).length_le

theorem length_read_le (first : Char) (rest : List Char) :
    (read first rest).2.length ≤ rest.length := by
  unfold read
  split
  · split
    · next name remainder hbracketed =>
        unfold bracketed? at hbracketed
        split at hbracketed
        · next hdrop =>
            have hle := length_dropWhile_le (!isBracket ·) rest
            rw [hdrop] at hle
            cases hbracketed
            exact Nat.le_trans (Nat.le_succ _) hle
        · contradiction
    · exact Nat.le_refl _
  · split
    · exact length_dropWhile_le _ _
    · exact Nat.le_refl _

end Token

def tokens : List Char → List Token
  | [] => []
  | first :: rest =>
      if isBlank first then tokens rest
      else (Token.read first rest).1 :: tokens (Token.read first rest).2
termination_by text => text.length
decreasing_by
  · simp
  · have := Token.length_read_le first rest
    simp
    omega

@[simp] theorem tokens_nil : tokens [] = [] := by
  rw [tokens]

theorem tokens_cons {first : Char} (hfirst : isBlank first = false)
    (rest : List Char) :
    tokens (first :: rest) =
      (Token.read first rest).1 :: tokens (Token.read first rest).2 := by
  rw [tokens, if_neg (by simp [hfirst])]

theorem tokens_append {blanks : List Char}
    (hblanks : ∀ character ∈ blanks, isBlank character = true)
    (rest : List Char) : tokens (blanks ++ rest) = tokens rest := by
  induction blanks with
  | nil => rfl
  | cons blank blanks ih =>
      have hparts := List.forall_mem_cons.mp hblanks
      rw [List.cons_append, tokens, if_pos hparts.1]
      exact ih hparts.2

end RightLinear.Grammar

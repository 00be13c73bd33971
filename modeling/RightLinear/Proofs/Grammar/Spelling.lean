import RightLinear.Proofs.Grammar.Scanning
import RightLinear.Proofs.Text.Arrows

/-! What a text looks like from which given symbols are read: every symbol as it
is written, with nothing but blanks around it.  The only symbols with an arrow
in them are names in brackets that end in a hyphen. -/

namespace RightLinear.Grammar

open Text

namespace Token

/-- The symbols that a text can hold. -/
inductive IsRead : Token → Prop
  | bracketed {name : List Char} (hne : name ≠ [])
      (hname : ∀ character ∈ name, character ≠ '<' ∧ character ≠ '>') :
      IsRead (.bracketed (String.ofList name))
  | capital {letter : Char} {suffix : List Char}
      (hletter : isCapital letter = true)
      (hsuffix : ∀ character ∈ suffix, isSuffix character = true) :
      IsRead (.plain (String.ofList (letter :: suffix)))
  | single (character : Char) :
      IsRead (.plain (String.singleton character))

theorem isRead_read (first : Char) (rest : List Char) :
    (read first rest).1.IsRead := by
  unfold read
  split
  · split
    · next name remainder hbracketed =>
        obtain ⟨-, hne, hname⟩ := bracketed?_eq_some hbracketed
        have hread := IsRead.bracketed hne hname
        rwa [String.ofList_toList] at hread
    · exact .single first
  · split
    · next hcapital =>
        exact .capital hcapital (List.all_eq_true.mp List.all_takeWhile)
    · exact .single first

theorem written_read (first : Char) (rest : List Char) :
    (read first rest).1.written.toList ++ (read first rest).2 =
      first :: rest := by
  unfold read
  split
  · next hangle =>
      split
      · next name remainder hbracketed =>
          obtain ⟨htext, -, -⟩ := bracketed?_eq_some hbracketed
          simp [written, hangle, htext]
      · simp [written]
  · split
    · simp [written, List.takeWhile_append_dropWhile]
    · simp [written]

/-- A name that makes an arrow together with its bracket. -/
def endsInHyphen : Token → Bool
  | bracketed name => name.toList.getLast? == some '-'
  | plain _ => false

end Token

/-- Symbols as they are written, with blanks around them. -/
inductive Spelled : List Token → List Char → Prop
  | nil {gap : List Char}
      (hgap : ∀ character ∈ gap, isBlank character = true) : Spelled [] gap
  | cons {token : Token} {found : List Token} {gap text : List Char}
      (hgap : ∀ character ∈ gap, isBlank character = true)
      (htoken : token.IsRead) (hlater : Spelled found text) :
      Spelled (token :: found) (gap ++ (token.written.toList ++ text))

theorem Spelled.lead {found : List Token} {lead text : List Char}
    (hlead : ∀ character ∈ lead, isBlank character = true)
    (h : Spelled found text) : Spelled found (lead ++ text) := by
  cases h with
  | nil hgap => exact .nil (List.forall_mem_append.mpr ⟨hlead, hgap⟩)
  | cons hgap htoken hlater =>
      rw [← List.append_assoc]
      exact .cons (List.forall_mem_append.mpr ⟨hlead, hgap⟩) htoken hlater

theorem spelled_tokens (text : List Char) : Spelled (tokens text) text := by
  fun_induction tokens text with
  | case1 => exact .nil (List.forall_mem_nil _)
  | case2 first rest hblank ih =>
      exact ih.lead (List.forall_mem_singleton.mpr hblank)
  | case3 first rest hvisible ih =>
      have hall := Spelled.cons (List.forall_mem_nil _)
        (Token.isRead_read first rest) ih
      rwa [Token.written_read, List.nil_append] at hall

section Arrows

variable {token : Token} {found : List Token} {text rest : List Char}

theorem Token.IsRead.head_written (h : token.IsRead)
    (hangle : token ≠ .plain ">") :
    ∃ first later, token.written.toList = first :: later ∧ first ≠ '>' := by
  cases h with
  | @bracketed name hne hname =>
      exact ⟨'<', name ++ ['>'], by simp [written], by decide⟩
  | @capital letter suffix hletter hsuffix =>
      refine ⟨letter, suffix, by simp [written], ?_⟩
      rintro rfl
      contradiction
  | single character =>
      refine ⟨character, [], by simp [written], ?_⟩
      rintro rfl
      exact hangle rfl

theorem arrowCount_bracketed {name : List Char} (hangle : '>' ∉ name)
    (hsymbol : '→' ∉ name) :
    arrowCount (name ++ ['>']) =
      if name.getLast? == some '-' then 1 else 0 := by
  have hname := arrowCount_eq_zero (by decide : '>' ∈ _) hangle hsymbol
  split
  · next hlast =>
      obtain ⟨front, rfl⟩ :=
        List.getLast?_eq_some_iff.mp (beq_iff_eq.mp hlast)
      rw [arrowCount_append (.inr (by decide))] at hname
      rw [List.append_assoc, arrowCount_append (.inr (by decide)),
        (Nat.add_eq_zero_iff.mp hname).1]
      rfl
  · next hlast =>
      rw [beq_iff_eq] at hlast
      rw [arrowCount_append (.inl hlast), hname]
      rfl

theorem Token.IsRead.arrowCount_written (h : token.IsRead)
    (hsymbol : '→' ∉ token.written.toList) :
    arrowCount token.written.toList = [token].countP endsInHyphen := by
  cases h with
  | @bracketed name hne hname =>
      have hwritten : (Token.bracketed (String.ofList name)).written.toList =
          '<' :: (name ++ ['>']) := by simp [written]
      rw [hwritten] at hsymbol ⊢
      rw [arrowCount_cons (by decide) (by simp),
        arrowCount_bracketed (fun hin => (hname '>' hin).2 rfl)
          fun hin => hsymbol (by simp [hin]),
        List.countP_singleton, endsInHyphen, String.toList_ofList]
  | capital hletter hsuffix =>
      rw [written, String.toList_ofList] at hsymbol ⊢
      exact arrowCount_eq_zero (by decide : '-' ∈ _)
        (Format.not_mem_capital hletter hsuffix rfl rfl) hsymbol
  | single character =>
      rw [written, String.toList_singleton] at hsymbol ⊢
      exact arrowCount_cons (by simpa [eq_comm] using hsymbol) (by simp)

theorem Spelled.head (h : Spelled found text)
    (hangle : ∀ token ∈ found, token ≠ .plain ">") :
    text.head? ≠ some '>' := by
  cases h with
  | nil hgap =>
      exact fun hhead =>
        not_mem_of_blank rfl hgap (List.mem_of_mem_head? hhead)
  | @cons token found gap text hgap htoken hlater =>
      obtain ⟨first, later, hwritten, hfirst⟩ :=
        htoken.head_written (hangle token List.mem_cons_self)
      cases gap with
      | nil => simpa [hwritten] using hfirst
      | cons blank gap =>
          rintro ⟨⟩
          exact not_mem_of_blank rfl hgap List.mem_cons_self

/-- A name with a hyphen at its end makes an arrow, and nothing else does if no
symbol but the first can complete one. -/
theorem Spelled.arrowCount_eq (h : Spelled found text) (hsymbol : '→' ∉ text)
    (hangle : ∀ token ∈ found.tail, token ≠ .plain ">") :
    arrowCount text = found.countP Token.endsInHyphen := by
  induction h with
  | nil hblank => exact arrowCount_blank hblank
  | @cons token found gap text hblank htoken hlater ih =>
      simp only [List.mem_append, not_or] at hsymbol
      have hrest := ih hsymbol.2.2 fun token htoken =>
        hangle token (List.mem_of_mem_tail htoken)
      rw [arrowCount_lead hblank,
        arrowCount_append (.inr (hlater.head hangle)),
        htoken.arrowCount_written hsymbol.2.1, hrest, ← List.countP_append]
      rfl

end Arrows

end RightLinear.Grammar

import RightLinear.Text.Split

/-! Cutting a text where it was put together.  A text is cut at a mark exactly
where the mark was written, if no occurrence of it begins in the text before;
what follows the text has to be looked at as well, for an occurrence may run
from one into the other. -/

namespace RightLinear.Text

section Avoiding

/-- None of the characters in `marks` stands in `text`. -/
def Avoids (marks text : List Char) : Prop :=
  ∀ character ∈ text, character ∉ marks

variable {marks first second text : List Char} {mark character : Char}

theorem Avoids.not_mem (h : Avoids marks text) (hmark : mark ∈ marks) :
    mark ∉ text :=
  fun hin => h mark hin hmark

theorem beq_eq_false_of_not_mem (h : mark ∉ text) :
    ∀ character ∈ text, (character == mark) = false := by
  intro character hcharacter
  rw [beq_eq_false_iff_ne]
  rintro rfl
  exact h hcharacter

theorem Avoids.mono {fewer : List Char} (h : Avoids marks text)
    (hfewer : fewer ⊆ marks) : Avoids fewer text :=
  fun character hcharacter hin => h character hcharacter (hfewer hin)

theorem avoids_append :
    Avoids marks (first ++ second) ↔ Avoids marks first ∧ Avoids marks second :=
  List.forall_mem_append

theorem avoids_cons :
    Avoids marks (character :: text) ↔ character ∉ marks ∧ Avoids marks text :=
  List.forall_mem_cons

end Avoiding

section Pieces

variable {separates : Char → Bool} {piece rest : List Char} {separator : Char}

theorem splitWhere_ne_nil (separates : Char → Bool) (text : List Char) :
    splitWhere separates text ≠ [] := by
  cases text with
  | nil => exact List.cons_ne_nil _ _
  | cons character rest =>
      rw [splitWhere]
      split
      · exact List.cons_ne_nil _ _
      · split
        · exact List.cons_ne_nil _ _
        · exact List.cons_ne_nil _ _

theorem splitWhere_separator (hseparator : separates separator = true)
    (rest : List Char) :
    splitWhere separates (separator :: rest) =
      [] :: splitWhere separates rest := by
  rw [splitWhere, if_pos hseparator]

/-- A text without separators goes to the first piece. -/
theorem splitWhere_lead {text first : List Char} {pieces : List (List Char)}
    (hpiece : ∀ character ∈ piece, separates character = false)
    (h : splitWhere separates text = first :: pieces) :
    splitWhere separates (piece ++ text) = (piece ++ first) :: pieces := by
  induction piece with
  | nil => exact h
  | cons character piece ih =>
      have hrest := ih fun other hother =>
        hpiece other (List.mem_cons_of_mem _ hother)
      rw [List.cons_append, splitWhere, if_neg (by simp [hpiece]), hrest]
      rfl

theorem splitWhere_piece (hpiece : ∀ character ∈ piece,
    separates character = false) :
    splitWhere separates piece = [piece] := by
  have hall := @splitWhere_lead separates piece [] [] [] hpiece rfl
  rwa [List.append_nil] at hall

theorem splitWhere_append (hpiece : ∀ character ∈ piece,
    separates character = false) (hseparator : separates separator = true)
    (rest : List Char) :
    splitWhere separates (piece ++ separator :: rest) =
      piece :: splitWhere separates rest := by
  have hall := splitWhere_lead hpiece (splitWhere_separator hseparator rest)
  rwa [List.append_nil] at hall

theorem lines_intercalate {texts : List (List Char)} (hne : texts ≠ [])
    (htexts : ∀ text ∈ texts, '\n' ∉ text) :
    lines (['\n'].intercalate texts) = texts := by
  induction texts with
  | nil => contradiction
  | cons text texts ih =>
      have htext : ∀ character ∈ text, (character == '\n') = false :=
        beq_eq_false_of_not_mem (htexts text List.mem_cons_self)
      cases texts with
      | nil =>
          rw [List.intercalate_singleton]
          exact splitWhere_piece htext
      | cons next texts =>
          have hrest := ih (List.cons_ne_nil _ _) fun other hother =>
            htexts other (List.mem_cons_of_mem _ hother)
          rw [List.intercalate_cons_cons, List.append_assoc,
            List.singleton_append, lines, splitWhere_append htext rfl]
          exact congrArg (text :: ·) hrest

end Pieces

section Marks

variable {mark : List Char}

/-- No occurrence of `mark` begins in `text` when `rest` follows it. -/
def Passes (mark : List Char) : (text rest : List Char) → Prop
  | [], _ => True
  | character :: text, rest =>
      ¬ mark <+: character :: (text ++ rest) ∧ Passes mark text rest

theorem passes_append {first second rest : List Char} :
    Passes mark (first ++ second) rest ↔
      Passes mark first (second ++ rest) ∧ Passes mark second rest := by
  induction first with
  | nil => simp [Passes]
  | cons character first ih =>
      simp only [List.cons_append, Passes, ih, List.append_assoc, and_assoc]

theorem passes_singleton {character : Char} {rest : List Char} :
    Passes mark [character] rest ↔ ¬ mark <+: character :: rest :=
  and_iff_left trivial

theorem passes_cons_of_ne {lead character : Char} {text rest : List Char}
    (h : lead ≠ character) :
    Passes (lead :: mark) (character :: text) rest ↔
      Passes (lead :: mark) text rest := by
  rw [Passes]
  apply and_iff_right
  intro hbegins
  exact h (List.cons_prefix_cons.mp hbegins).1

/-- A text without the first character of a mark passes whatever follows. -/
theorem passes_of_not_mem {lead : Char} {text : List Char}
    (h : lead ∉ text) (mark rest : List Char) :
    Passes (lead :: mark) text rest := by
  induction text with
  | nil => trivial
  | cons character text ih =>
      rw [List.mem_cons, not_or] at h
      exact (passes_cons_of_ne h.1).mpr (ih h.2)

/-- A mark at the front of a text does not reach a character that it does not
have. -/
theorem prefix_of_prefix_append_cons {text rest : List Char} {next : Char}
    (hnext : next ∉ mark) (h : mark <+: text ++ next :: rest) :
    mark <+: text := by
  obtain ⟨later, hlater⟩ := h
  rcases List.append_eq_append_iff.mp hlater with
    ⟨inside, hinside, _⟩ | ⟨outside, houtside, hnextOutside⟩
  · exact ⟨inside, hinside.symm⟩
  · cases outside with
    | nil => exact ⟨[], by simp [houtside]⟩
    | cons first outside =>
        have hfirst : next = first := (List.cons.inj hnextOutside).1
        exact absurd (by simp [houtside, hfirst]) hnext

/-- A text that does not contain the mark passes if the next character is none
of the mark's. -/
theorem passes_of_not_isInfix {text : List Char} {next : Char}
    (htext : ¬ mark <:+: text) (hnext : next ∉ mark) (rest : List Char) :
    Passes mark text (next :: rest) := by
  induction text with
  | nil => trivial
  | cons character text ih =>
      refine ⟨?_, ih fun hoccurs => htext (List.infix_cons hoccurs)⟩
      intro hbegins
      rw [← List.cons_append] at hbegins
      exact htext (prefix_of_prefix_append_cons hnext hbegins).isInfix

theorem cut?_append {text rest : List Char} (h : Passes mark text rest) :
    cut? mark (text ++ rest) =
      (cut? mark rest).map fun (before, after) => (text ++ before, after) := by
  induction text with
  | nil => simp
  | cons character text ih =>
      rw [List.cons_append, cut?, if_neg, ih h.2, Option.map_map]
      · rfl
      · rw [List.isPrefixOf_iff_prefix]
        exact h.1

theorem cut?_mark (hmark : mark ≠ []) (rest : List Char) :
    cut? mark (mark ++ rest) = some ([], rest) := by
  cases mark with
  | nil => contradiction
  | cons lead mark =>
      rw [List.cons_append, cut?, if_pos]
      · simp
      · rw [List.isPrefixOf_iff_prefix]
        exact List.prefix_append (lead :: mark) rest

theorem cut?_eq_some {before after : List Char} (hmark : mark ≠ [])
    (h : Passes mark before (mark ++ after)) :
    cut? mark (before ++ mark ++ after) = some (before, after) := by
  rw [List.append_assoc, cut?_append h, cut?_mark hmark]
  simp

theorem cut?_eq_none {text : List Char} (h : Passes mark text []) :
    cut? mark text = none := by
  rw [← List.append_nil text, cut?_append h]
  rfl

theorem splitOn_of_passes {text : List Char} (h : Passes mark text []) :
    splitOn mark text = [text] := by
  rw [splitOn]
  split
  · rfl
  · split
    · rfl
    · next hcut =>
        rw [cut?_eq_none h] at hcut
        contradiction

theorem splitOn_append {before after : List Char} (hmark : mark ≠ [])
    (h : Passes mark before (mark ++ after)) :
    splitOn mark (before ++ mark ++ after) = before :: splitOn mark after := by
  have hfound := cut?_eq_some hmark h
  rw [splitOn, dif_neg hmark]
  split
  · next hcut =>
      rw [hfound] at hcut
      contradiction
  · next hcut =>
      rw [hfound] at hcut
      cases hcut
      rfl

theorem replace_of_passes {text : List Char} (h : Passes mark text [])
    (substitute : List Char) : replace mark substitute text = text := by
  rw [replace, splitOn_of_passes h, List.intercalate_singleton]

theorem replace_append {before after : List Char} (hmark : mark ≠ [])
    (hbefore : Passes mark before (mark ++ after)) (hafter : Passes mark after [])
    (substitute : List Char) :
    replace mark substitute (before ++ mark ++ after) =
      before ++ substitute ++ after := by
  rw [replace, splitOn_append hmark hbefore, splitOn_of_passes hafter,
    List.intercalate_cons_cons, List.intercalate_singleton]

theorem after?_append (lead rest : List Char) :
    after? lead (lead ++ rest) = some rest := by
  rw [after?, if_pos, List.drop_left]
  rw [List.isPrefixOf_iff_prefix]
  exact List.prefix_append lead rest

theorem after?_eq_none {lead text : List Char} (h : ¬ lead <+: text) :
    after? lead text = none := by
  rw [after?, if_neg]
  rwa [List.isPrefixOf_iff_prefix]

end Marks

section Trimming

/-- Neither the first nor the last character is blank. -/
structure IsTrimmed (text : List Char) : Prop where
  head : ∀ character, text.head? = some character → isBlank character = false
  last : ∀ character, text.getLast? = some character → isBlank character = false

variable {lead text trail : List Char}

theorem isTrimmed_of_forall (h : ∀ character ∈ text,
    isBlank character = false) : IsTrimmed text where
  head := fun character hhead => h character (List.mem_of_mem_head? hhead)
  last := fun character hlast => h character (List.mem_of_getLast? hlast)

theorem visible_of_all (h : text.all (!isBlank ·) = true) :
    ∀ character ∈ text, isBlank character = false := by
  simpa using h

theorem not_mem_of_blank {character : Char}
    (hvisible : isBlank character = false)
    (htext : ∀ character ∈ text, isBlank character = true) :
    character ∉ text := by
  intro hin
  have hblank := htext character hin
  rw [hvisible] at hblank
  contradiction

theorem not_mem_of_visible {character : Char}
    (hblank : isBlank character = true)
    (htext : ∀ character ∈ text, isBlank character = false) :
    character ∉ text := by
  intro hin
  have hvisible := htext character hin
  rw [hblank] at hvisible
  contradiction

theorem isTrimmed_of_all (h : text.all (!isBlank ·) = true) :
    IsTrimmed text :=
  isTrimmed_of_forall (visible_of_all h)

theorem IsTrimmed.append {first last : List Char} (hfirst : IsTrimmed first)
    (hfirstNe : first ≠ []) (hlast : IsTrimmed last) (hlastNe : last ≠ [])
    (middle : List Char) : IsTrimmed (first ++ (middle ++ last)) where
  head := by
    obtain ⟨character, rest, rfl⟩ := List.exists_cons_of_ne_nil hfirstNe
    exact hfirst.head
  last := by
    have hsome := List.getLast?_eq_some_getLast hlastNe
    rw [← List.append_assoc, List.getLast?_append, hsome, Option.some_or,
      ← hsome]
    exact hlast.last

theorem trimStart_append (hlead : ∀ character ∈ lead, isBlank character = true)
    (text : List Char) : trimStart (lead ++ text) = trimStart text :=
  List.dropWhile_append_of_pos hlead

theorem trimStart_of_head (h : ∀ character, text.head? = some character →
    isBlank character = false) : trimStart text = text := by
  cases text with
  | nil => rfl
  | cons first text =>
      rw [trimStart, List.dropWhile_cons_of_neg]
      simp [h first rfl]

theorem trimEnd_append (text : List Char)
    (htrail : ∀ character ∈ trail, isBlank character = true) :
    trimEnd (text ++ trail) = trimEnd text := by
  rw [trimEnd, List.reverse_append, List.dropWhile_append_of_pos]
  · rfl
  · intro character hcharacter
    exact htrail character (List.mem_reverse.mp hcharacter)

theorem trimEnd_of_last (h : ∀ character, text.getLast? = some character →
    isBlank character = false) : trimEnd text = text := by
  have hreverse : trimStart text.reverse = text.reverse := by
    apply trimStart_of_head
    intro character hcharacter
    rw [List.head?_reverse] at hcharacter
    exact h character hcharacter
  rw [trimEnd]
  exact (congrArg List.reverse hreverse).trans (List.reverse_reverse text)

theorem trim_append (hlead : ∀ character ∈ lead, isBlank character = true)
    (htext : IsTrimmed text)
    (htrail : ∀ character ∈ trail, isBlank character = true) :
    trim (lead ++ text ++ trail) = text := by
  rw [List.append_assoc, trim, trimStart_append hlead]
  cases text with
  | nil =>
      have hnone : trimStart trail = [] := by
        rw [← List.append_nil trail, trimStart_append htrail]
        rfl
      rw [List.nil_append, hnone]
      rfl
  | cons first text =>
      rw [trimStart_of_head (by simpa using htext.head),
        trimEnd_append _ htrail, trimEnd_of_last htext.last]

theorem trim_lead (hlead : ∀ character ∈ lead, isBlank character = true)
    (htext : IsTrimmed text) : trim (lead ++ text) = text := by
  have hall := trim_append hlead htext (List.forall_mem_nil _)
  rwa [List.append_nil] at hall

end Trimming

end RightLinear.Text

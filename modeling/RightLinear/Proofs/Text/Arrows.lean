import RightLinear.Proofs.Text.Replace

/-! Counting arrows.  An arrow is the sign `->` or the symbol that stands for
it.  A text that is put together has the arrows of its parts, unless a sign
reaches from one part into the next. -/

namespace RightLinear.Text

/-- No two signs share a character. -/
def arrowCount : List Char → Nat
  | [] => 0
  | '→' :: text => arrowCount text + 1
  | '-' :: '>' :: text => arrowCount text + 1
  | _ :: text => arrowCount text

variable {character : Char} {first second text : List Char}

theorem arrow_prefix_iff :
    "->".toList <+: character :: text ↔
      character = '-' ∧ text.head? = some '>' := by
  have hsign : "->".toList = ['-', '>'] := rfl
  rw [hsign, List.cons_prefix_cons, eq_comm]
  cases text with
  | nil => simp
  | cons next text => simp [List.cons_prefix_cons, eq_comm]

/-- An arrow symbol becomes a sign with its hyphen in front. -/
theorem head_of_head_replace
    (h : (replace ['→'] "->".toList text).head? = some '>') :
    text.head? = some '>' := by
  cases text with
  | nil =>
      rw [replace_nil] at h
      contradiction
  | cons first text =>
      by_cases hfirst : first = '→'
      · rw [hfirst, replace_mark] at h
        exact absurd (Option.some.inj h) (by decide)
      · rwa [replace_cons_of_ne hfirst] at h

theorem arrowCount_cons (hsymbol : character ≠ '→')
    (hsign : ¬ "->".toList <+: character :: text) :
    arrowCount (character :: text) = arrowCount text := by
  rw [arrowCount]
  · exact hsymbol
  · rintro rest rfl rfl
    exact hsign (arrow_prefix_iff.mpr ⟨rfl, rfl⟩)

/-- What ends in no hyphen does not begin a sign that the rest ends. -/
theorem arrowCount_append
    (h : first.getLast? ≠ some '-' ∨ second.head? ≠ some '>') :
    arrowCount (first ++ second) = arrowCount first + arrowCount second := by
  have hlater : ∀ {lead : Char} {text : List Char},
      ((lead :: text).getLast? ≠ some '-' ∨ second.head? ≠ some '>') →
        (text.getLast? ≠ some '-' ∨ second.head? ≠ some '>') := by
    intro lead text hends
    refine hends.imp_left fun hne hlast => hne ?_
    rw [List.getLast?_cons, hlast]
    rfl
  fun_induction arrowCount first with
  | case1 => exact (Nat.zero_add _).symm
  | case2 text ih =>
      rw [List.cons_append, arrowCount, ih (hlater h), Nat.add_right_comm]
  | case3 text ih =>
      rw [List.cons_append, List.cons_append, arrowCount,
        ih (hlater (hlater h)), Nat.add_right_comm]
  | case4 character text hsymbol hsign ih =>
      rw [List.cons_append, arrowCount_cons hsymbol, ih (hlater h)]
      rw [arrow_prefix_iff]
      rintro ⟨rfl, hhead⟩
      cases text with
      | nil => exact h.elim (fun hends => hends rfl) fun hne => hne hhead
      | cons next text =>
          obtain rfl := Option.some.inj hhead
          exact hsign text rfl rfl

theorem arrowCount_eq_zero_iff :
    arrowCount text = 0 ↔ ¬ "->".toList <:+: text ∧ '→' ∉ text := by
  fun_induction arrowCount text with
  | case1 => simp
  | case2 text ih => simp
  | case3 text ih =>
      refine iff_of_false (Nat.succ_ne_zero _) fun hnone => hnone.1 ?_
      exact (arrow_prefix_iff.mpr ⟨rfl, rfl⟩).isInfix
  | case4 character text hsymbol hsign ih =>
      have hnot : ¬ "->".toList <+: character :: text := by
        rw [arrow_prefix_iff]
        rintro ⟨rfl, hhead⟩
        obtain ⟨rest, rfl⟩ := List.head?_eq_some_iff.mp hhead
        exact hsign rest rfl rfl
      rw [ih, List.infix_cons_iff, or_iff_right hnot, List.mem_cons,
        or_iff_right (Ne.symm hsymbol)]

theorem arrowCount_eq_zero {sign : Char} (hsign : sign ∈ "->".toList)
    (htext : sign ∉ text) (hsymbol : '→' ∉ text) : arrowCount text = 0 :=
  arrowCount_eq_zero_iff.mpr
    ⟨fun hoccurs => htext (hoccurs.subset hsign), hsymbol⟩

theorem arrowCount_blank
    (hblank : ∀ character ∈ text, isBlank character = true) :
    arrowCount text = 0 :=
  arrowCount_eq_zero (by decide : '-' ∈ _) (not_mem_of_blank rfl hblank)
    (not_mem_of_blank rfl hblank)

theorem arrowCount_lead
    (hblank : ∀ character ∈ first, isBlank character = true)
    (second : List Char) :
    arrowCount (first ++ second) = arrowCount second := by
  have hends : first.getLast? ≠ some '-' := fun hlast =>
    not_mem_of_blank rfl hblank (List.mem_of_getLast? hlast)
  rw [arrowCount_append (.inl hends), arrowCount_blank hblank, Nat.zero_add]

theorem arrowCount_trim (text : List Char) :
    arrowCount (trim text) = arrowCount text := by
  obtain ⟨lead, trail, hlead, htrail, heq⟩ := exists_trim text
  have hbegins : trail.head? ≠ some '>' := fun hhead =>
    not_mem_of_blank rfl htrail (List.mem_of_mem_head? hhead)
  have hall := congrArg arrowCount heq
  rwa [List.append_assoc, arrowCount_lead hlead,
    arrowCount_append (.inr hbegins), arrowCount_blank htrail, Nat.add_zero,
    eq_comm] at hall

theorem length_splitOn_cons {mark : List Char} (hmark : mark ≠ [])
    (h : ¬ mark <+: character :: text) :
    (splitOn mark (character :: text)).length = (splitOn mark text).length := by
  obtain ⟨piece, pieces, htext⟩ :=
    List.exists_cons_of_ne_nil (splitOn_ne_nil mark text)
  have hlead := splitOn_lead hmark (passes_singleton.mpr h) htext
  rw [List.singleton_append] at hlead
  rw [hlead, htext, List.length_cons, List.length_cons]

/-- There is always one piece more than arrows. -/
theorem length_splitOn_replace (text : List Char) :
    (splitOn "->".toList (replace ['→'] "->".toList text)).length =
      arrowCount text + 1 := by
  have hsign : ∀ rest, (splitOn "->".toList ("->".toList ++ rest)).length =
      (splitOn "->".toList rest).length + 1 := by
    intro rest
    have hall := @splitOn_append "->".toList [] rest (by decide) trivial
    rw [List.nil_append] at hall
    rw [hall, List.length_cons]
  fun_induction arrowCount text with
  | case1 => rw [replace_nil, splitOn_of_cut?_none rfl]; rfl
  | case2 text ih => rw [replace_mark, hsign, ih]
  | case3 text ih =>
      rw [replace_cons_of_ne (by decide), replace_cons_of_ne (by decide)]
      exact (hsign _).trans (congrArg (· + 1) ih)
  | case4 character text hsymbol hsign ih =>
      rw [replace_cons_of_ne hsymbol, length_splitOn_cons (by decide), ih]
      rw [arrow_prefix_iff]
      rintro ⟨rfl, hhead⟩
      obtain ⟨rest, rfl⟩ :=
        List.head?_eq_some_iff.mp (head_of_head_replace hhead)
      exact hsign rest rfl rfl

theorem arrowCount_replace (text : List Char) :
    arrowCount (replace ['→'] "->".toList text) = arrowCount text := by
  have hplain := length_splitOn_replace (replace ['→'] "->".toList text)
  rw [replace_of_not_mem (not_mem_replace (by decide) text),
    length_splitOn_replace] at hplain
  omega

end RightLinear.Text

import RightLinear.Proofs.Grammar.Meaning

/-! Reading a written text back.  Every line is read on its own, and the rules
that were written come out with the start symbol that was given last. -/

namespace RightLinear.Grammar.Format

open Text Document

section Whole

variable {rules written : List Rule} {starts : List Name}
  {lines : List (List Char)}

theorem Lines.not_mem_newline (h : Lines rules starts lines) :
    ∀ line ∈ lines, '\n' ∉ line := by
  induction h with
  | nil => exact List.forall_mem_nil _
  | empty hline hlater ih =>
      exact List.forall_mem_cons.mpr
        ⟨hline.not_mem_newline List.not_mem_nil, ih⟩
  | heading hline hlater ih =>
      exact List.forall_mem_cons.mpr ⟨hline.not_mem_newline (by decide), ih⟩
  | start hcore hline hlater ih =>
      exact List.forall_mem_cons.mpr
        ⟨hline.not_mem_newline (hcore.avoids.not_mem (by decide)), ih⟩
  | rule hcore hline hlater ih =>
      exact List.forall_mem_cons.mpr
        ⟨hline.not_mem_newline (hcore.avoids.not_mem (by decide)), ih⟩

theorem Lines.exists_read (h : Lines rules starts lines)
    (hplain : ∀ rule ∈ rules, rule.EndsPlain) :
    ∃ read, lines.mapM readLine = .ok read ∧
      read.filterMap Line.rule? = rules.map Rule.document ∧
        read.filterMap Line.start? = starts.map Name.symbol := by
  induction h with
  | nil => exact ⟨[], rfl, rfl, rfl⟩
  | empty hline hlater ih =>
      obtain ⟨read, hread, hrules, hstarts⟩ := ih hplain
      refine ⟨.blank :: read, ?_, hrules, hstarts⟩
      rw [List.mapM_cons, readLine_empty hline, hread]
      rfl
  | heading hline hlater ih =>
      obtain ⟨read, hread, hrules, hstarts⟩ := ih hplain
      refine ⟨.blank :: read, ?_, hrules, hstarts⟩
      rw [List.mapM_cons, readLine_heading hline, hread]
      rfl
  | @start rules starts name core line lines hcore hline hlater ih =>
      obtain ⟨read, hread, hrules, hstarts⟩ := ih hplain
      refine ⟨.start name.symbol :: read, ?_, hrules,
        congrArg (name.symbol :: ·) hstarts⟩
      rw [List.mapM_cons, readLine_start hcore hline, hread]
      rfl
  | @rule rules starts rule core line lines hcore hline hlater ih =>
      have hparts := List.forall_mem_cons.mp hplain
      obtain ⟨read, hread, hrules, hstarts⟩ := ih hparts.2
      refine ⟨.rule rule.document :: read, ?_,
        congrArg (rule.document :: ·) hrules, hstarts⟩
      rw [List.mapM_cons, readLine_rule hcore hparts.1 hline, hread]
      rfl

theorem Lines.ne_nil (h : Lines rules starts lines) (hne : rules ≠ []) :
    lines ≠ [] := by
  cases h with
  | nil => exact absurd rfl hne
  | empty hline hlater => exact List.cons_ne_nil _ _
  | heading hline hlater => exact List.cons_ne_nil _ _
  | start hcore hline hlater => exact List.cons_ne_nil _ _
  | rule hcore hline hlater => exact List.cons_ne_nil _ _

theorem givenStart?_eq {read : List Line}
    (h : read.filterMap Line.start? = starts.map Name.symbol) :
    givenStart? read = starts.getLast?.map Name.symbol := by
  rw [givenStart?, h, List.getLast?_map]
  cases starts.getLast? with
  | none => rfl
  | some name => simp [Option.filter, name.symbol_ne_empty]

theorem Lines.read_eq (h : Lines rules starts lines) (hne : rules ≠ [])
    (hplain : ∀ rule ∈ rules, rule.EndsPlain) :
    read (String.ofList (['\n'].intercalate lines)) =
      .ok (grammarOf rules hne starts) := by
  obtain ⟨found, hfound, hrules, hstarts⟩ := h.exists_read hplain
  have hproductions : (rules.map Rule.document).mapM readProductions =
      .ok (rules.map fun rule => (rule.leftText, rule.productions)) := by
    rw [List.mapM_map]
    exact mapM_eq_ok fun rule _ => readProductions_document rule
  have hnonempty : (rules.map Rule.document).isEmpty = false := by
    rw [List.isEmpty_map]
    exact List.isEmpty_eq_false_iff.mpr hne
  have hgrammar := ofDescription_eq_ok
    (description_wellFormed (start_mem hne (starts.getLast?.map Name.symbol)))
  rw [read, String.toList_ofList,
    lines_intercalate (h.ne_nil hne) h.not_mem_newline, hfound]
  simp only [bind, Except.bind, hrules, hnonempty, givenStart?_eq hstarts,
    if_neg epsilon_not_mem_declaredTerminals, hproductions]
  rw [if_neg Bool.false_ne_true]
  exact congrArg (Except.mapError DocumentError.fault) hgrammar

/-- However rules are written down, reading gives the grammar that they mean,
as long as no name on the left makes an arrow. -/
theorem read_of_isText {text : String} (hne : rules ≠ [])
    (hplain : ∀ rule ∈ rules, rule.EndsPlain) (htext : IsText rules starts text) :
    ∃ grammar, read text = .ok grammar ∧ Describes rules starts grammar := by
  obtain ⟨written, lines, hspread, hlines, rfl⟩ := htext
  have hwritten := hspread.ne_nil hne
  exact ⟨_, hlines.read_eq hwritten (hspread.endsPlain.mpr hplain),
    hspread.describes (describes_grammarOf hwritten starts)⟩

end Whole

end RightLinear.Grammar.Format

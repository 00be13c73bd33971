import RightLinear.Proofs.Subset.Powerset

/-! The deterministic automaton accepts the same words.  Its paths follow the
sets of states that the words lead to, and break off where a set is empty. -/

namespace RightLinear.Automaton

variable {automaton determinized : Automaton}
  {label : SortedSet String → String}

/-- A path of the deterministic automaton ends in the name of the set that the
word leads to; there is one unless that set is empty. -/
theorem IsTrimmedPowerset.path_iff
    (h : IsTrimmedPowerset automaton determinized label)
    {subset : SortedSet String} (hreachable : automaton.IsReachable subset)
    {word : List String} {state : String} :
    determinized.Path (label subset) word state ↔
      (∃ member, member ∈ automaton.run subset word) ∧
        label (automaton.run subset word) = state := by
  induction word generalizing subset with
  | nil => simp [path_nil_iff, hreachable.nonempty]
  | cons symbol word ih =>
      rw [path_cons_iff, run_cons]
      constructor
      · intro hpath
        obtain ⟨middle, hfirst, hrest⟩ := hpath
        obtain ⟨source, next, hsource, hsuccessor, hlabel, rfl⟩ :=
          (h.mem_transitions _ _ _).mp hfirst
        obtain rfl := h.label_injective hsource hreachable hlabel
        have hnext := hsource.successor hsuccessor
        rw [(isSuccessor_iff.mp hsuccessor).2]
        exact (ih hnext).mp hrest
      · intro hrun
        obtain ⟨hnonempty, hlabel⟩ := hrun
        have hsuccessor := isSuccessor_step hnonempty
        refine ⟨label (automaton.step subset symbol), ?_, ?_⟩
        · exact (h.mem_transitions _ _ _).mpr
            ⟨subset, _, hreachable, hsuccessor, rfl, rfl⟩
        · exact (ih (hreachable.successor hsuccessor)).mpr
            ⟨hnonempty, hlabel⟩

theorem IsTrimmedPowerset.accepts_iff
    (h : IsTrimmedPowerset automaton determinized label)
    {word : List String} :
    determinized.accepts word = true ↔ automaton.accepts word = true := by
  rw [Automaton.accepts_iff, accepts_iff_run, h.start]
  constructor
  · intro haccepted
    obtain ⟨target, htarget, hpath⟩ := haccepted
    obtain ⟨subset, hsubset, hmeets, rfl⟩ := (h.mem_accepting target).mp htarget
    obtain ⟨hnonempty, hlabel⟩ := (h.path_iff isReachable_start).mp hpath
    rw [h.label_injective (isReachable_start.run hnonempty) hsubset hlabel]
    exact hmeets
  · intro hmeets
    obtain ⟨state, hstate, haccepting⟩ := hmeets
    have hnonempty : ∃ member, member ∈ automaton.run
        (SortedSet.singleton automaton.start) word := ⟨state, hstate⟩
    refine ⟨label (automaton.run (SortedSet.singleton automaton.start) word),
      ?_, ?_⟩
    · exact (h.mem_accepting _).mpr ⟨_, isReachable_start.run hnonempty,
        ⟨state, hstate, haccepting⟩, rfl⟩
    · exact (h.path_iff isReachable_start).mpr ⟨hnonempty, rfl⟩

theorem accepts_determinized (automaton : Automaton) (word : List String) :
    automaton.determinized.accepts word = automaton.accepts word := by
  rw [Bool.eq_iff_iff]
  exact automaton.isTrimmedPowerset_determinized.accepts_iff

/-- Building the deterministic automaton succeeds and keeps the language, also
for words with symbols that no automaton knows. -/
theorem determinize_keeps_language (automaton : Automaton) :
    ∃ determinized, automaton.determinize = .ok determinized ∧
      ∀ word, determinized.accepts word = automaton.accepts word :=
  ⟨automaton.determinized, automaton.determinize_eq_ok,
    automaton.accepts_determinized⟩

end RightLinear.Automaton

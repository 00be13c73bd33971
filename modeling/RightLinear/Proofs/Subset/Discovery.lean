import Mathlib.Data.List.Induction
import Mathlib.Data.List.Shortlex
import RightLinear.Proofs.Subset.Exploration

/-! The order of discovery.  Words are ordered by their length, and words of one
length symbol by symbol; the sets of states are discovered in the order of the
first words that lead to them.  This is what breadth first, symbols in order,
comes to, without mention of what is done and what is pending. -/

namespace RightLinear

/-- Shorter words come first, and words of one length in the order of their
symbols. -/
abbrev WordBefore : List String → List String → Prop :=
  List.Shortlex (· < ·)

section Words

variable {first second third : List String}

theorem WordBefore.irrefl (word : List String) : ¬ WordBefore word word := by
  intro h
  rcases List.shortlex_def.mp h with hshorter | ⟨_, hlex⟩
  · exact Nat.lt_irrefl _ hshorter
  · exact List.lt_irrefl word hlex

theorem WordBefore.trans (hfirst : WordBefore first second)
    (hsecond : WordBefore second third) : WordBefore first third := by
  rcases List.shortlex_def.mp hfirst with hshorter | ⟨hlength, hlex⟩
  · rcases List.shortlex_def.mp hsecond with hmore | ⟨hmore, _⟩
    · exact .of_length_lt (Nat.lt_trans hshorter hmore)
    · exact .of_length_lt (hmore ▸ hshorter)
  · rcases List.shortlex_def.mp hsecond with hmore | ⟨hmore, hlater⟩
    · exact .of_length_lt (hlength ▸ hmore)
    · exact .of_lex (hlength.trans hmore) (List.lt_trans hlex hlater)

theorem lex_append_of_length_eq (hlex : List.Lex (· < ·) first second)
    (hlength : first.length = second.length) (later other : List String) :
    List.Lex (· < ·) (first ++ later) (second ++ other) := by
  induction hlex with
  | nil => contradiction
  | cons _ ih => exact .cons (ih (Nat.succ.inj hlength))
  | rel hless => exact .rel hless

/-- Which of two words comes first is not changed by one more symbol in each. -/
theorem WordBefore.concat (h : WordBefore first second) (symbol other : String) :
    WordBefore (first ++ [symbol]) (second ++ [other]) := by
  rcases List.shortlex_def.mp h with hshorter | ⟨hlength, hlex⟩
  · refine .of_length_lt ?_
    rw [List.length_append, List.length_append]
    exact Nat.add_lt_add_right hshorter 1
  · refine .of_lex ?_ (lex_append_of_length_eq hlex hlength _ _)
    rw [List.length_append, List.length_append, hlength]
    rfl

theorem wordBefore_concat_self (word : List String) (symbol : String) :
    WordBefore word (word ++ [symbol]) := by
  refine .of_length_lt ?_
  rw [List.length_append]
  exact Nat.lt_succ_self _

theorem wordBefore_concat_concat {symbol other : String} (h : symbol < other)
    (word : List String) :
    WordBefore (word ++ [symbol]) (word ++ [other]) :=
  List.Shortlex.append_left ((List.shortlex_singleton_iff symbol other).mpr h) word

end Words

/-- Of the elements with one value the first is kept where repeated values are
dropped. -/
theorem exists_firsts {α β : Type} [LT α] [BEq β] [LawfulBEq β]
    (value : α → β) : {list : List α} → list.Pairwise (· < ·) →
      ∃ firsts : List α, firsts.Sublist list ∧
        firsts.map value = (list.map value).eraseDups ∧
          ∀ element ∈ firsts, ∀ other ∈ list, value other = value element →
            other = element ∨ element < other
  | [], _ => ⟨[], .slnil, by simp, by simp⟩
  | head :: tail, hsorted => by
      rw [List.pairwise_cons] at hsorted
      have hshorter : (tail.filter fun other => !value other == value head).length <
          (head :: tail).length :=
        Nat.lt_succ_of_le (List.length_filter_le _ tail)
      obtain ⟨firsts, hsublist, hmap, hfirst⟩ := exists_firsts value
        (hsorted.2.filter fun other => !value other == value head)
      refine ⟨head :: firsts,
        (hsublist.trans List.filter_sublist).cons_cons head, ?_, ?_⟩
      · rw [List.map_cons, List.map_cons, List.eraseDups_cons, List.filter_map,
          hmap]
        rfl
      · intro element helement other hother heq
        rcases List.mem_cons.mp helement with rfl | hlater
        · rcases List.mem_cons.mp hother with rfl | htail
          · exact .inl rfl
          · exact .inr (hsorted.1 other htail)
        · have hkept := (List.mem_filter.mp (hsublist.subset hlater)).2
          rw [← heq] at hkept
          rcases List.mem_cons.mp hother with rfl | htail
          · simp at hkept
          · exact hfirst element hlater other
              (List.mem_filter.mpr ⟨htail, hkept⟩) heq
termination_by list => list.length
decreasing_by exact hshorter

namespace Automaton

/-- The states that a word leads to from the start. -/
def statesAfter (automaton : Automaton) (word : List String) : SortedSet String :=
  automaton.run (SortedSet.singleton automaton.start) word

/-- No word before `word` leads to the same states. -/
def IsFirstWord (automaton : Automaton) (word : List String) : Prop :=
  ∀ other, automaton.statesAfter other = automaton.statesAfter word →
    other = word ∨ WordBefore word other

/-- A word leads to `first` before any word leads to `second`. -/
def IsBefore (automaton : Automaton) (first second : SortedSet String) : Prop :=
  ∃ word, automaton.statesAfter word = first ∧
    ∀ other, automaton.statesAfter other = second → WordBefore word other

variable {automaton : Automaton} {first second : SortedSet String}

theorem IsBefore.asymm (h : automaton.IsBefore first second) :
    ¬ automaton.IsBefore second first := by
  intro hback
  obtain ⟨other, hother, hback⟩ := hback
  obtain ⟨word, hword, hbefore⟩ := h
  exact WordBefore.irrefl word ((hbefore other hother).trans (hback word hword))

theorem statesAfter_concat (automaton : Automaton) (word : List String)
    (symbol : String) :
    automaton.statesAfter (word ++ [symbol]) =
      automaton.step (automaton.statesAfter word) symbol :=
  run_concat automaton _ word symbol

theorem isSuccessor_statesAfter {word : List String} {symbol : String}
    (h : ∃ state, state ∈ automaton.statesAfter (word ++ [symbol])) :
    automaton.IsSuccessor (automaton.statesAfter word) symbol
      (automaton.statesAfter (word ++ [symbol])) := by
  rw [statesAfter_concat] at h ⊢
  exact ⟨h, fun target => mem_step⟩

/-- First words of the sets that are done and of those that are pending. -/
structure FirstWords (automaton : Automaton) (done pending : List (List String)) :
    Prop where
  sorted : (done ++ pending).Pairwise WordBefore
  first : ∀ word ∈ done ++ pending, automaton.IsFirstWord word
  prolongs : ∀ word ∈ pending, word = [] ∨
    ∃ earlier ∈ done, ∃ symbol, word = earlier ++ [symbol]

theorem FirstWords.start (automaton : Automaton) :
    automaton.FirstWords [] [[]] where
  sorted := List.pairwise_singleton _ _
  first := by
    intro word hword other _
    rw [List.nil_append, List.mem_singleton] at hword
    rw [hword]
    exact (List.shortlex_nil_or_eq_nil other).symm
  prolongs := fun word hword => .inl (List.mem_singleton.mp hword)

section Step

variable {done pending : List (List String)} {word : List String}

theorem FirstWords.eq_or_before_of_mem
    (h : automaton.FirstWords done (word :: pending)) {other : List String}
    (hpending : automaton.statesAfter other ∈
      (word :: pending).map automaton.statesAfter) :
    other = word ∨ WordBefore word other := by
  obtain ⟨earliest, hmem, hsame⟩ := List.mem_map.mp hpending
  have hsorted := (List.pairwise_append.mp h.sorted).2.1
  rw [List.pairwise_cons] at hsorted
  rcases h.first earliest (List.mem_append_right _ hmem) other hsame.symm with
    rfl | hother
  · rcases List.mem_cons.mp hmem with rfl | hlater
    · exact .inl rfl
    · exact .inr (hsorted.1 _ hlater)
  · rcases List.mem_cons.mp hmem with rfl | hlater
    · exact .inr hother
    · exact .inr ((hsorted.1 _ hlater).trans hother)

/-- By induction on the other word from its end: it leads to a pending set, or its
last symbol leads on from a set that is not done either. -/
theorem FirstWords.eq_or_before (h : automaton.FirstWords done (word :: pending))
    (hexplored : automaton.Explored (done.map automaton.statesAfter)
      ((word :: pending).map automaton.statesAfter))
    (other : List String)
    (hnonempty : ∃ state, state ∈ automaton.statesAfter other)
    (hopen : automaton.statesAfter other ∉ done.map automaton.statesAfter) :
    other = word ∨ WordBefore word other := by
  induction other using List.reverseRecOn with
  | nil =>
      rcases List.mem_append.mp hexplored.start_mem with hdone | hpending
      · exact absurd hdone hopen
      · exact h.eq_or_before_of_mem hpending
  | append_singleton other symbol ih =>
      by_cases hpending : automaton.statesAfter (other ++ [symbol]) ∈
          (word :: pending).map automaton.statesAfter
      · exact h.eq_or_before_of_mem hpending
      have hsuccessor := isSuccessor_statesAfter hnonempty
      have hearlier : automaton.statesAfter other ∉
          done.map automaton.statesAfter := by
        intro hdone
        rcases List.mem_append.mp
          (hexplored.closed _ hdone symbol _ hsuccessor) with hclosed | hclosed
        · exact hopen hclosed
        · exact hpending hclosed
      obtain ⟨target, htarget⟩ := hsuccessor.nonempty
      obtain ⟨source, hsource, _⟩ := (hsuccessor.mem_iff target).mp htarget
      rcases ih ⟨source, hsource⟩ hearlier with rfl | hbefore
      · exact .inr (wordBefore_concat_self other symbol)
      · exact .inr (hbefore.trans (wordBefore_concat_self other symbol))

/-- What `symbol` leads to from the first pending set is not seen before, and no
earlier symbol leads there. -/
structure Discovers (automaton : Automaton) (seen : List (SortedSet String))
    (word : List String) (symbol : String) : Prop where
  nonempty : ∃ state, state ∈ automaton.statesAfter (word ++ [symbol])
  unseen : automaton.statesAfter (word ++ [symbol]) ∉ seen
  first : ∀ other ∈ automaton.alphabet,
    automaton.statesAfter (word ++ [other]) =
      automaton.statesAfter (word ++ [symbol]) → other = symbol ∨ symbol < other

theorem exists_discovers (table : automaton.Table)
    (seen : List (SortedSet String)) (word : List String) :
    ∃ symbols : List String, symbols.Pairwise (· < ·) ∧
      (symbols.map fun symbol => automaton.statesAfter (word ++ [symbol])) =
        table.newSuccessors seen (automaton.statesAfter word) ∧
        ∀ symbol ∈ symbols, automaton.Discovers seen word symbol := by
  simp only [statesAfter_concat]
  obtain ⟨symbols, hsublist, hmap, hfirst⟩ :=
    exists_firsts (automaton.step (automaton.statesAfter word))
      (automaton.alphabet.sorted.filter
        ((fun next => !next.isEmpty && !seen.contains next) ∘
          automaton.step (automaton.statesAfter word)))
  rw [← List.filter_map] at hmap
  have hnext : symbols.map (automaton.step (automaton.statesAfter word)) =
      table.newSuccessors seen (automaton.statesAfter word) := by
    rw [Table.newSuccessors, table.step_eq]
    exact hmap
  refine ⟨symbols, (automaton.alphabet.sorted.filter _).sublist hsublist, hnext,
    ?_⟩
  intro symbol hsymbol
  have hkept := List.mem_filter.mp (hsublist.subset hsymbol)
  have hnew := List.mem_map_of_mem hsymbol
    (f := automaton.step (automaton.statesAfter word))
  rw [hnext] at hnew
  obtain ⟨⟨_, hsuccessor⟩, hunseen⟩ := Table.mem_newSuccessors_iff.mp hnew
  constructor
  · rw [statesAfter_concat]
    exact hsuccessor.nonempty
  · rwa [statesAfter_concat]
  · intro other hother hsame
    rw [statesAfter_concat, statesAfter_concat] at hsame
    refine hfirst symbol hsymbol other (List.mem_filter.mpr ⟨hother, ?_⟩) hsame
    rw [Function.comp_apply, hsame]
    exact hkept.2

theorem FirstWords.isFirstWord (h : automaton.FirstWords done (word :: pending))
    (hexplored : automaton.Explored (done.map automaton.statesAfter)
      ((word :: pending).map automaton.statesAfter)) {symbol : String}
    (hdiscovers : automaton.Discovers
      ((done ++ word :: pending).map automaton.statesAfter) word symbol) :
    automaton.IsFirstWord (word ++ [symbol]) := by
  intro other hsame
  have hunseen := hdiscovers.unseen
  rw [← hsame, List.map_append] at hunseen
  cases other using List.reverseRecOn with
  | nil => exact absurd hexplored.start_mem hunseen
  | append_singleton other last =>
      have hnonempty := hdiscovers.nonempty
      rw [← hsame] at hnonempty
      have hsuccessor := isSuccessor_statesAfter hnonempty
      have hopen : automaton.statesAfter other ∉
          done.map automaton.statesAfter :=
        fun hdone => hunseen (hexplored.closed _ hdone last _ hsuccessor)
      obtain ⟨target, htarget⟩ := hsuccessor.nonempty
      obtain ⟨source, hsource, _⟩ := (hsuccessor.mem_iff target).mp htarget
      rcases h.eq_or_before hexplored other ⟨source, hsource⟩ hopen with
        rfl | hbefore
      · rcases hdiscovers.first last hsuccessor.symbol_mem hsame with rfl | hless
        · exact .inl rfl
        · exact .inr (wordBefore_concat_concat hless other)
      · exact .inr (hbefore.concat symbol last)

theorem FirstWords.before_concat (h : automaton.FirstWords done (word :: pending))
    {earlier : List String} (hearlier : earlier ∈ done ++ word :: pending)
    (symbol : String) : WordBefore earlier (word ++ [symbol]) := by
  have hsorted := List.pairwise_append.mp h.sorted
  have hdone : ∀ other ∈ done, WordBefore other word :=
    fun other hother => hsorted.2.2 other hother word List.mem_cons_self
  rcases List.mem_append.mp hearlier with hin | hin
  · exact (hdone earlier hin).trans (wordBefore_concat_self word symbol)
  · rcases h.prolongs earlier hin with rfl | ⟨shorter, hshorter, last, rfl⟩
    · exact .of_length_lt (by simp)
    · exact (hdone shorter hshorter).concat last symbol

/-- One step of the exploration. -/
theorem FirstWords.step (table : automaton.Table)
    (h : automaton.FirstWords done (word :: pending))
    (hexplored : automaton.Explored (done.map automaton.statesAfter)
      ((word :: pending).map automaton.statesAfter)) :
    ∃ later : List (List String),
      later.map automaton.statesAfter =
        table.newSuccessors
          ((done ++ word :: pending).map automaton.statesAfter)
          (automaton.statesAfter word) ∧
        automaton.FirstWords (done ++ [word]) (pending ++ later) := by
  obtain ⟨symbols, hsorted, hmap, hdiscovers⟩ := exists_discovers table
    ((done ++ word :: pending).map automaton.statesAfter) word
  have hwords : done ++ [word] ++
      (pending ++ symbols.map fun symbol => word ++ [symbol]) =
        (done ++ word :: pending) ++ symbols.map fun symbol => word ++ [symbol] := by
    simp
  refine ⟨symbols.map fun symbol => word ++ [symbol], ?_, ?_, ?_, ?_⟩
  · rw [List.map_map, ← hmap]
    rfl
  · rw [hwords, List.pairwise_append]
    refine ⟨h.sorted, ?_, ?_⟩
    · exact List.pairwise_map.mpr
        (hsorted.imp fun hless => wordBefore_concat_concat hless word)
    · intro earlier hearlier other hother
      obtain ⟨symbol, _, rfl⟩ := List.mem_map.mp hother
      exact h.before_concat hearlier symbol
  · rw [hwords, List.forall_mem_append]
    refine ⟨h.first, ?_⟩
    rw [List.forall_mem_map]
    exact fun symbol hsymbol => h.isFirstWord hexplored (hdiscovers symbol hsymbol)
  · rw [List.forall_mem_append, List.forall_mem_map]
    constructor
    · intro other hother
      rcases h.prolongs other (List.mem_cons_of_mem _ hother) with
        hnil | ⟨earlier, hearlier, symbol, heq⟩
      · exact .inl hnil
      · exact .inr ⟨earlier, List.mem_append_left _ hearlier, symbol, heq⟩
    · intro symbol _
      exact .inr ⟨word, List.mem_append_right _ (List.mem_singleton_self word),
        symbol, rfl⟩

theorem FirstWords.explore (table : automaton.Table)
    (h : automaton.FirstWords done pending)
    (hexplored : automaton.Explored (done.map automaton.statesAfter)
      (pending.map automaton.statesAfter)) :
    ∃ words : List (List String),
      words.map automaton.statesAfter =
        table.explore (done.map automaton.statesAfter)
          (pending.map automaton.statesAfter) ∧
        automaton.FirstWords words [] := by
  generalize hdoneSets : done.map automaton.statesAfter = doneSets at *
  generalize hpendingSets : pending.map automaton.statesAfter = pendingSets at *
  induction doneSets, pendingSets using Table.explore.induct table
    generalizing done pending with
  | case1 doneSets =>
      obtain rfl := List.map_eq_nil_iff.mp hpendingSets
      rw [Table.explore]
      exact ⟨done, hdoneSets, h⟩
  | case2 doneSets current pendingSets ih =>
      obtain ⟨word, rest, rfl, rfl, rfl⟩ := List.map_eq_cons_iff.mp hpendingSets
      subst hdoneSets
      obtain ⟨later, hlater, hnext⟩ := h.step table hexplored
      rw [List.map_append, List.map_cons] at hlater
      rw [Table.explore]
      refine ih hnext ?_ ?_ (hexplored.step table)
      · rw [List.map_append, List.map_singleton]
      · rw [List.map_append, hlater]

end Step

/-- The sets are discovered in the order of the first words that lead to them. -/
theorem pairwise_isBefore_reachableSubsets (automaton : Automaton) :
    automaton.reachableSubsets.Pairwise automaton.IsBefore := by
  obtain ⟨words, hwords, hfirst⟩ :=
    (FirstWords.start automaton).explore automaton.table (Explored.start automaton)
  have hsorted := hfirst.sorted
  rw [List.append_nil] at hsorted
  have heq : automaton.reachableSubsets = words.map automaton.statesAfter :=
    hwords.symm
  rw [heq, List.pairwise_map]
  refine hsorted.imp_of_mem ?_
  intro word later _ hlater hbefore
  refine ⟨word, rfl, fun other hother => ?_⟩
  rcases hfirst.first later (List.mem_append_left _ hlater) other hother with
    rfl | hafter
  · exact hbefore
  · exact hbefore.trans hafter

end Automaton

end RightLinear

import Mathlib.Data.List.Nodup
import Mathlib.Data.List.Pairwise
import RightLinear.Proofs.Collection.Stored

/-! Automata that are lost.  The blocks of a section are told apart by numbers
after its name, but nothing keeps such a name apart from the names of other
sections: the second block of `a` and a section `a1` are stored in one place,
and the earlier of them is gone without a report. -/

namespace RightLinear.Collection

section Clashes

/-- A block of one section is stored under the name of a block of another. -/
def Clash (first second : Section) : Prop :=
  first.name ≠ second.name ∧
    ∃ index < (automataOf first).length,
      ∃ other < (automataOf second).length,
        numberedName first.name index = numberedName second.name other

instance (first second : Section) : Decidable (Clash first second) :=
  inferInstanceAs (Decidable (_ ∧ _))

variable {first second definition : Section} {definitions : List Section}

theorem Clash.symm (h : Clash first second) : Clash second first := by
  obtain ⟨hne, index, hindex, other, hother, hname⟩ := h
  exact ⟨hne.symm, other, hother, index, hindex, hname.symm⟩

theorem mem_names_numbered {name stored : String} {automata : List Automaton} :
    stored ∈ (numbered name automata).map Prod.fst ↔
      ∃ index < automata.length, numberedName name index = stored := by
  have hnames : (numbered name automata).map Prod.fst =
      (List.range' 0 automata.length).map (numberedName name) := by
    rw [← List.zipIdx_map_snd, numbered, List.map_map, List.map_map]
    rfl
  rw [hnames, List.mem_map]
  simp only [List.mem_range'_1, Nat.zero_le, true_and, Nat.zero_add]

/-- Only a name that goes on with digits where another one ends can clash. -/
theorem Clash.exists_digits (h : Clash first second) :
    ∃ digits : List Char, digits ≠ [] ∧
      (∀ digit ∈ digits, digit.isDigit = true) ∧
        (second.name.toList = first.name.toList ++ digits ∨
          first.name.toList = second.name.toList ++ digits) := by
  obtain ⟨hne, index, _, other, _, hname⟩ := h
  obtain ⟨ending, hending, hfirst⟩ := Collection.exists_digits first.name index
  obtain ⟨tail, htail, hsecond⟩ := Collection.exists_digits second.name other
  have hsame := congrArg String.toList hname
  rw [hfirst, hsecond] at hsame
  have hproper : ∀ {short long : String} {digits : List Char},
      short ≠ long → long.toList = short.toList ++ digits → digits ≠ [] := by
    rintro short long digits hnames hlong rfl
    rw [List.append_nil] at hlong
    exact hnames (String.toList_injective hlong.symm)
  rcases List.append_eq_append_iff.mp hsame with
    ⟨digits, hlonger, hsplit⟩ | ⟨digits, hlonger, hsplit⟩
  · refine ⟨digits, hproper hne hlonger, ?_, .inl hlonger⟩
    exact fun digit hdigit => hending digit
      (hsplit ▸ List.mem_append_left _ hdigit)
  · refine ⟨digits, hproper hne.symm hlonger, ?_, .inr hlonger⟩
    exact fun digit hdigit => htail digit
      (hsplit ▸ List.mem_append_left _ hdigit)

theorem disjoint_iff_not_clash (hne : first.name ≠ second.name) :
    List.Disjoint ((automatonEntries first).map Prod.fst)
        ((automatonEntries second).map Prod.fst) ↔ ¬ Clash first second := by
  simp only [List.Disjoint, automatonEntries, mem_names_numbered]
  constructor
  · rintro hdisjoint ⟨_, index, hindex, other, hother, hname⟩
    exact hdisjoint ⟨index, hindex, rfl⟩ ⟨other, hother, hname.symm⟩
  · rintro hclash stored ⟨index, hindex, rfl⟩ ⟨other, hother, hname⟩
    exact hclash ⟨hne, index, hindex, other, hother, hname.symm⟩

theorem nodup_entries_iff
    (hdistinct : (definitions.map Section.name).Nodup) :
    ((definitions.flatMap automatonEntries).map Prod.fst).Nodup ↔
      ∀ first ∈ definitions, ∀ second ∈ definitions, ¬ Clash first second := by
  have hnames : definitions.Pairwise fun first second =>
      first.name ≠ second.name := List.pairwise_map.mp hdistinct
  rw [List.map_flatMap, List.nodup_flatMap]
  constructor
  · rintro ⟨_, hdisjoint⟩
    have hpairwise : definitions.Pairwise fun first second =>
        ¬ Clash first second :=
      (hnames.and hdisjoint).imp fun h => (disjoint_iff_not_clash h.1).mp h.2
    have hsymm : Std.Symm fun first second => ¬ Clash first second :=
      ⟨fun _ _ hclash hother => hclash hother.symm⟩
    exact hpairwise.forall_of_forall fun definition _ h => h.1 rfl
  · intro hclash
    refine ⟨fun definition _ => nodup_numbered _ _, ?_⟩
    refine hnames.imp_of_mem fun hfirst hsecond hne => ?_
    exact (disjoint_iff_not_clash hne).mpr (hclash _ hfirst _ hsecond)

end Clashes

section Loading

variable {text name : String}

theorem nodup_definitions
    (hdistinct : ((sections text.toList).map Section.name).Nodup) :
    ((definitions text.toList name).map Section.name).Nodup := by
  refine List.Nodup.sublist (List.filter_sublist.map Section.name) ?_
  split
  · exact List.nodup_singleton _
  · exact hdistinct

theorem length_automatonEntries (definitions : List Section) :
    (definitions.flatMap automatonEntries).length =
      (definitions.flatMap automataOf).length := by
  rw [List.length_flatMap, List.length_flatMap]
  congr 1
  apply List.map_congr_left
  intro definition _
  rw [automatonEntries, numbered, List.length_map, List.length_zipIdx]

/-- Of sections with distinct names every automaton is kept, unless two of them
clash, which takes a name that is another one with digits after it. -/
theorem load_keeps_automata
    (hdistinct : ((sections text.toList).map Section.name).Nodup)
    (name : String) :
    ((load text name).collection.automata.size =
        ((definitions text.toList name).flatMap automataOf).length ↔
      ∀ first ∈ definitions text.toList name,
        ∀ second ∈ definitions text.toList name, ¬ Clash first second) ∧
    ((∀ first ∈ definitions text.toList name,
        ∀ second ∈ definitions text.toList name, ¬ Clash first second) →
      (load text name).collection.automata.entries =
        (definitions text.toList name).flatMap automatonEntries) ∧
    ∀ first second, Clash first second →
      ∃ digits : List Char, digits ≠ [] ∧
        (∀ digit ∈ digits, digit.isDigit = true) ∧
          (second.name.toList = first.name.toList ++ digits ∨
            first.name.toList = second.name.toList ++ digits) := by
  have hiff := nodup_entries_iff (@nodup_definitions text name hdistinct)
  have hsize : (∅ : Registry Automaton).size = 0 := rfl
  have hnone : (∅ : Registry Automaton).names = [] := rfl
  refine ⟨?_, ?_, fun first second => Clash.exists_digits⟩
  · rw [automata_load, ← length_automatonEntries, ← hiff]
    have hall := @Registry.size_insertAll_eq_iff _ ∅
      ((definitions text.toList name).flatMap automatonEntries)
    rwa [hsize, Nat.zero_add, hnone, List.nil_append] at hall
  · intro hclash
    rw [automata_load, Registry.entries_insertAll (hiff.mpr hclash)]

/-- Two blocks in one section, and a name with a digit that clashes with
neither. -/
def apartText : String := "a:\nstart: p\n---\nstart: q\nb1:\nstart: r"

theorem definitions_apartText :
    sections apartText.toList = definitions apartText.toList "main" ∧
      definitions apartText.toList "main" =
        [⟨"a", "start: p\n---\nstart: q".toList⟩, ⟨"b1", "start: r".toList⟩] := by
  decide +kernel

theorem apartText_keeps_automata :
    ((sections apartText.toList).map Section.name).Nodup ∧
      (load apartText "main").collection.automata.names = ["a", "a1", "b1"] ∧
        (load apartText "main").collection.automata.size = 3 := by
  obtain ⟨hsections, hdefinitions⟩ := definitions_apartText
  have hdistinct : ((sections apartText.toList).map Section.name).Nodup := by
    rw [hsections, hdefinitions]
    decide
  obtain ⟨hsize, hentries, -⟩ := load_keeps_automata hdistinct "main"
  rw [hdefinitions] at hsize hentries
  refine ⟨hdistinct, ?_, ?_⟩
  · rw [Registry.names, hentries (by decide +kernel)]
    decide +kernel
  · rw [hsize.mpr (by decide +kernel)]
    decide +kernel

/-- The second block of `a` is named as the other section is. -/
def clashingText : String := "a:\nstart: p\n---\nstart: q\na1:\nstart: r"

theorem clashingText_loses_automaton :
    ((sections clashingText.toList).map Section.name).Nodup ∧
      ((definitions clashingText.toList "main").flatMap automataOf).length = 3 ∧
      (load clashingText "main").collection.automata.size = 2 ∧
        (load clashingText "main").refusals = [] := by
  decide +kernel

end Loading

end RightLinear.Collection

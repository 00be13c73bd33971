import Mathlib.Data.List.Induction
import Mathlib.Data.List.Nodup
import RightLinear.Proofs.Conversion.ToGrammar

/-! The order in which the grammar of an automaton lists the productions of a
state.  The transitions are read in order and each adds its own production at
the end, so what has been listed after some of them is described by those that
were read. -/

namespace RightLinear

/-- The terminal and the target of a production that does not end. -/
def Production.onward? (production : Production) : Option (String × String) :=
  production.target.map fun target => (production.terminal, target)

namespace Automaton

/-- Every transition from `source` has a production, in the order of symbols and
then of targets.  A symbol that leads into an accepting state has one ending
production, which follows that of the least such state. -/
structure ListsTransitions (automaton : Automaton) (source : String)
    (productions : List Production) : Prop where
  nodup : productions.Nodup
  sorted : (productions.filterMap Production.onward?).Pairwise
    (Prod.Lex (· < ·) (· < ·))
  continuing_mem_iff : ∀ symbol target, ⟨symbol, some target⟩ ∈ productions ↔
    ⟨source, symbol, target⟩ ∈ automaton.transitions
  ending_mem_iff : ∀ symbol, ⟨symbol, none⟩ ∈ productions ↔
    ∃ target ∈ automaton.accepting,
      ⟨source, symbol, target⟩ ∈ automaton.transitions
  ending_once : ∀ symbol, ⟨symbol, none⟩ ∈ productions →
    productions.count ⟨symbol, none⟩ = 1
  ending_follows_least : ∀ symbol, ∀ target ∈ automaton.accepting,
    ⟨source, symbol, target⟩ ∈ automaton.transitions →
      (∀ other ∈ automaton.accepting,
        ⟨source, symbol, other⟩ ∈ automaton.transitions → ¬ other < target) →
        [⟨symbol, some target⟩, ⟨symbol, none⟩] <:+: productions

/-- What has been listed when the transitions in `done` have been read, all of
them from one state and in order. -/
structure Listed (automaton : Automaton) (done : List Transition)
    (productions : List Production) : Prop where
  nodup : productions.Nodup
  onward : productions.filterMap Production.onward? =
    done.map fun transition => (transition.symbol, transition.target)
  ending_mem_iff : ∀ symbol, ⟨symbol, none⟩ ∈ productions ↔
    ∃ transition ∈ done, transition.symbol = symbol ∧
      transition.target ∈ automaton.accepting
  ending_follows_least : ∀ transition ∈ done,
    transition.target ∈ automaton.accepting →
      (∀ other ∈ done, other.symbol = transition.symbol →
        other.target ∈ automaton.accepting →
          ¬ other.target < transition.target) →
        [continuing transition, ending transition] <:+: productions

/-- Of two transitions from one state, the first has the lower symbol, or the
lower target under the same symbol. -/
def Precedes (first second : Transition) : Prop :=
  Prod.Lex (· < ·) (· < ·) (first.symbol, first.target)
    (second.symbol, second.target)

variable {automaton : Automaton} {source : String} {done : List Transition}
  {productions : List Production} {transition : Transition}

theorem precedes_of_lt {first second : Transition} (hlt : first < second)
    (hsource : first.source = second.source) : Precedes first second := by
  have hrows : first.row < second.row := hlt
  rw [Transition.row, Transition.row, List.cons_lt_cons_iff] at hrows
  have htails := (hrows.resolve_left
    (fun hsources => String.lt_irrefl _ (hsource ▸ hsources))).2
  rw [List.cons_lt_cons_iff, List.cons_lt_cons_iff] at htails
  rcases htails with hsymbol | ⟨hsymbol, htarget | ⟨_, hnone⟩⟩
  · exact Prod.lex_def.mpr (.inl hsymbol)
  · exact Prod.lex_def.mpr (.inr ⟨hsymbol, htarget⟩)
  · exact absurd hnone (List.not_lt_nil [])

theorem Precedes.target_lt {first second : Transition}
    (h : Precedes first second) (hsymbol : first.symbol = second.symbol) :
    first.target < second.target := by
  rcases Prod.lex_def.mp h with hlower | ⟨_, htarget⟩
  · exact absurd (hsymbol ▸ hlower) (String.lt_irrefl _)
  · exact htarget

theorem Precedes.irrefl (transition : Transition) :
    ¬ Precedes transition transition :=
  fun h => String.lt_irrefl _ (h.target_lt rfl)

namespace Listed

theorem nil : automaton.Listed [] [] where
  nodup := List.nodup_nil
  onward := rfl
  ending_mem_iff := by simp
  ending_follows_least := fun _ hnone => absurd hnone List.not_mem_nil

theorem continuing_mem_iff (h : automaton.Listed done productions)
    {symbol target : String} :
    ⟨symbol, some target⟩ ∈ productions ↔
      ∃ transition ∈ done, transition.symbol = symbol ∧
        transition.target = target := by
  have hmem : (symbol, target) ∈ productions.filterMap Production.onward? ↔
      ⟨symbol, some target⟩ ∈ productions := by
    rw [List.mem_filterMap]
    constructor
    · intro hfound
      obtain ⟨⟨terminal, next⟩, hproduction, honward⟩ := hfound
      cases next with
      | none => cases honward
      | some next =>
          cases honward
          exact hproduction
    · exact fun hproduction => ⟨_, hproduction, rfl⟩
  rw [← hmem, h.onward, List.mem_map]
  simp only [Prod.mk.injEq]

/-- The step: one more transition, after all that were read. -/
theorem concat (h : automaton.Listed done productions)
    (hbelow : ∀ earlier ∈ done, Precedes earlier transition) :
    automaton.Listed (done ++ [transition])
      (automaton.addProductions productions transition) where
  nodup := by
    have hnew : continuing transition ∉ productions := by
      intro hlisted
      obtain ⟨earlier, hearlier, hsymbol, htarget⟩ :=
        h.continuing_mem_iff.mp hlisted
      have hlt := (hbelow earlier hearlier).target_lt hsymbol
      rw [htarget] at hlt
      exact String.lt_irrefl _ hlt
    unfold addProductions
    split
    · next hadded =>
        have hboth : [continuing transition, ending transition].Nodup := by
          simp [continuing, ending]
        refine h.nodup.append hboth ?_
        intro production hproduction hlast
        rcases List.mem_cons.mp hlast with rfl | hending
        · exact hnew hproduction
        · rw [List.mem_singleton.mp hending] at hproduction
          exact hadded.2 hproduction
    · exact h.nodup.append (List.nodup_singleton _)
        (List.disjoint_singleton.mpr hnew)
  onward := by
    rw [List.map_append, ← h.onward]
    unfold addProductions
    split
    · rw [List.filterMap_append]
      rfl
    · rw [List.filterMap_append]
      rfl
  ending_mem_iff := by
    intro symbol
    rw [mem_addProductions, h.ending_mem_iff]
    simp only [List.mem_append, List.mem_singleton, or_and_right, exists_or,
      exists_eq_left]
    apply or_congr_right
    constructor
    · intro hproduction
      rcases hproduction with hcontinuing | ⟨haccepting, hending⟩
      · cases hcontinuing
      · cases hending
        exact ⟨rfl, haccepting⟩
    · intro hlast
      exact .inr ⟨hlast.2, by rw [ending, hlast.1]⟩
  ending_follows_least := by
    intro least hmem haccepting hleast
    rcases List.mem_append.mp hmem with hearlier | hlast
    · have hlisted := h.ending_follows_least least hearlier haccepting
        fun other hother => hleast other (List.mem_append_left _ hother)
      refine hlisted.trans ?_
      unfold addProductions
      split
      · exact (List.prefix_append _ _).isInfix
      · exact (List.prefix_append _ _).isInfix
    · obtain rfl := List.mem_singleton.mp hlast
      -- an earlier one into an accepting state would have a lower target
      have hnew : ending least ∉ productions := by
        intro hending
        obtain ⟨other, hother, hsymbol, hotherAccepting⟩ :=
          (h.ending_mem_iff least.symbol).mp hending
        exact hleast other (List.mem_append_left _ hother) hsymbol
          hotherAccepting ((hbelow other hother).target_lt hsymbol)
      rw [addProductions, if_pos ⟨haccepting, hnew⟩]
      exact (List.suffix_append _ _).isInfix

/-- The run: all transitions, read in order. -/
theorem foldl {transitions : List Transition}
    (hordered : transitions.Pairwise Precedes) :
    automaton.Listed transitions
      (transitions.foldl automaton.addProductions []) := by
  induction transitions using List.reverseRecOn with
  | nil => exact .nil
  | append_singleton transitions transition ih =>
      rw [List.pairwise_append] at hordered
      rw [List.foldl_append]
      exact (ih hordered.1).concat fun earlier hearlier =>
        hordered.2.2 earlier hearlier transition List.mem_cons_self

end Listed

theorem pairwise_precedes (automaton : Automaton) (source : String) :
    (automaton.transitions.toList.filter (·.source == source)).Pairwise
      Precedes := by
  refine List.Pairwise.imp_of_mem ?_ (automaton.transitions.sorted.filter _)
  intro first second hfirst hsecond hlt
  have hsource := beq_iff_eq.mp (List.mem_filter.mp hfirst).2
  have hother := beq_iff_eq.mp (List.mem_filter.mp hsecond).2
  exact precedes_of_lt hlt (hsource.trans hother.symm)

theorem listed_productionsFrom (automaton : Automaton) (source : String) :
    automaton.Listed (automaton.transitions.toList.filter (·.source == source))
      (automaton.productionsFrom source) :=
  .foldl (automaton.pairwise_precedes source)

theorem listsTransitions_productionsFrom (automaton : Automaton)
    (source : String) :
    automaton.ListsTransitions source (automaton.productionsFrom source) where
  nodup := (automaton.listed_productionsFrom source).nodup
  sorted := by
    rw [(automaton.listed_productionsFrom source).onward, List.pairwise_map]
    exact automaton.pairwise_precedes source
  continuing_mem_iff := fun _ _ => continuing_mem_productionsFrom
  ending_mem_iff := fun _ => ending_mem_productionsFrom
  ending_once := fun _ hending =>
    List.count_eq_one_of_mem (automaton.listed_productionsFrom source).nodup
      hending
  ending_follows_least := by
    intro symbol target haccepting htransition hleast
    have hread : ∀ {other : Transition},
        other ∈ automaton.transitions.toList.filter (·.source == source) ↔
          other ∈ automaton.transitions ∧ other.source = source := by
      intro other
      rw [List.mem_filter, beq_iff_eq, SortedSet.mem_toList]
    refine (automaton.listed_productionsFrom source).ending_follows_least
      ⟨source, symbol, target⟩ (hread.mpr ⟨htransition, rfl⟩) haccepting ?_
    intro other hother hsymbol hotherAccepting
    obtain ⟨hmem, rfl⟩ := hread.mp hother
    obtain rfl : other.symbol = symbol := hsymbol
    exact hleast other.target hotherAccepting hmem

theorem productionsOf_grammar (hsource : source ∈ automaton.states) :
    automaton.grammar.productionsOf source = automaton.productionsFrom source := by
  have hget : automaton.grammar.rules.get? source =
      some (automaton.productionsFrom source) :=
    Registry.get?_eq_some_iff.mpr (mem_entries_grammarRules.mpr ⟨hsource, rfl⟩)
  rw [Grammar.productionsOf, hget, Option.getD_some]

theorem names_grammar (automaton : Automaton) :
    automaton.grammar.rules.names = automaton.states.toList := by
  change (automaton.states.toList.map _).map Prod.fst = _
  rw [List.map_map]
  exact List.map_id _

theorem nonterminals_grammar (automaton : Automaton) :
    automaton.grammar.nonterminals = automaton.states := by
  ext state
  exact SortedSet.mem_ofList

theorem terminals_grammar (automaton : Automaton) :
    automaton.grammar.terminals = automaton.alphabet := by
  ext symbol
  exact SortedSet.mem_ofList

/-- The grammar of an automaton has one rule for each state, in order, which
lists what the transitions from the state allow. -/
theorem toGrammar_lists_transitions (automaton : Automaton) :
    ∃ grammar, automaton.toGrammar = .ok grammar ∧
      grammar.rules.names.Pairwise (· < ·) ∧
        (∀ state, state ∈ grammar.rules.names ↔ state ∈ automaton.states) ∧
          ∀ state ∈ automaton.states,
            automaton.ListsTransitions state (grammar.productionsOf state) := by
  refine ⟨automaton.grammar, automaton.toGrammar_eq_ok, ?_, ?_, ?_⟩
  · rw [names_grammar]
    exact automaton.states.sorted
  · intro state
    rw [names_grammar, SortedSet.mem_toList]
  · intro state hstate
    rw [productionsOf_grammar hstate]
    exact automaton.listsTransitions_productionsFrom state

end Automaton

end RightLinear

import Mathlib.Data.Finset.Card
import Mathlib.Order.Bounds.Basic
import RightLinear.Automaton.Name

/-! Priming ends.  A run puts one prime on for every name that it finds taken,
and names with different numbers of primes are different, so that no run puts on
more primes than there are taken names.  It ends with the least number of primes
that leaves the name free. -/

namespace RightLinear

theorem primed_succ (name : String) (count : Nat) :
    primed name (count + 1) = primed (name.push '\x27') count := by
  apply String.toList_injective
  simp [List.replicate_succ]

theorem primed_injective (name : String) :
    Function.Injective (primed name) := by
  intro first second h
  have htext := congrArg String.toList h
  simp only [toList_primed, List.append_cancel_left_eq] at htext
  simpa using congrArg List.length htext

/-- A run from a name: it puts a prime on while it finds the name taken, which
makes one turn, and ends at the name that it finds free. -/
inductive Priming (taken : List String) : String → Nat → String → Prop
  | free {name : String} (hfree : name ∉ taken) : Priming taken name 0 name
  | prime {name result : String} {turns : Nat} (htaken : name ∈ taken)
      (hrest : Priming taken (name.push '\x27') turns result) :
      Priming taken name (turns + 1) result

theorem exists_priming (preferred : String) (taken : List String) :
    ∃ turns, Priming taken preferred turns (freshName preferred taken) := by
  induction preferred using freshName.induct taken with
  | case1 name htaken ih =>
      obtain ⟨turns, hrest⟩ := ih
      rw [freshName, if_pos htaken]
      exact ⟨turns + 1, .prime htaken hrest⟩
  | case2 name hfree =>
      rw [freshName, if_neg hfree]
      exact ⟨0, .free hfree⟩

namespace Priming

variable {taken : List String} {name result : String} {turns : Nat}

theorem result_eq (h : Priming taken name turns result) :
    result = primed name turns := by
  induction h with
  | free _ => rw [primed_zero]
  | prime _ _ ih => rw [ih, primed_succ]

theorem not_mem (h : Priming taken name turns result) : result ∉ taken := by
  induction h with
  | free hfree => exact hfree
  | prime _ _ ih => exact ih

theorem mem_of_lt (h : Priming taken name turns result) {fewer : Nat}
    (hfewer : fewer < turns) : primed name fewer ∈ taken := by
  induction h generalizing fewer with
  | free _ => exact absurd hfewer (Nat.not_lt_zero fewer)
  | prime htaken _ ih =>
      cases fewer with
      | zero => simpa using htaken
      | succ fewer =>
          rw [primed_succ]
          exact ih (Nat.lt_of_succ_lt_succ hfewer)

theorem isLeast (h : Priming taken name turns result) :
    IsLeast {count | primed name count ∉ taken} turns := by
  have hfree : primed name turns ∉ taken := h.result_eq ▸ h.not_mem
  refine ⟨hfree, ?_⟩
  intro count hcount
  exact Nat.le_of_not_lt fun hfewer => hcount (h.mem_of_lt hfewer)

theorem turns_le (h : Priming taken name turns result) :
    turns ≤ taken.toFinset.card := by
  -- every turn left behind a taken name of its own
  have hsubset :
      (Finset.range turns).image (primed name) ⊆ taken.toFinset := by
    intro candidate hcandidate
    obtain ⟨fewer, hfewer, rfl⟩ := Finset.mem_image.mp hcandidate
    exact List.mem_toFinset.mpr (h.mem_of_lt (Finset.mem_range.mp hfewer))
  calc turns = ((Finset.range turns).image (primed name)).card := by
        rw [Finset.card_image_of_injective _ (primed_injective name),
          Finset.card_range]
    _ ≤ taken.toFinset.card := Finset.card_le_card hsubset

theorem unique (h : Priming taken name turns result) {others : Nat}
    {other : String} (hother : Priming taken name others other) :
    others = turns ∧ other = result := by
  obtain rfl := hother.isLeast.unique h.isLeast
  exact ⟨rfl, hother.result_eq.trans h.result_eq.symm⟩

end Priming

theorem freshName_not_mem (preferred : String) (taken : List String) :
    freshName preferred taken ∉ taken := by
  obtain ⟨_, hrun⟩ := exists_priming preferred taken
  exact hrun.not_mem

/-- Where the names taken are those with fewer than `bound` primes, the fresh name
has `bound` primes. -/
theorem freshName_eq_primed {preferred : String} {taken : List String}
    {bound : Nat} (h : ∀ count, primed preferred count ∈ taken ↔ count < bound) :
    freshName preferred taken = primed preferred bound := by
  obtain ⟨turns, hrun⟩ := exists_priming preferred taken
  have hbound : IsLeast {count | primed preferred count ∉ taken} bound := by
    simp only [h, Nat.not_lt]
    exact isLeast_Ici
  rw [hrun.result_eq, hrun.isLeast.unique hbound]

/-- From every preferred name and whatever names are taken, the run ends, and in
one way only: at the preferred name with the least number of primes that makes it
free, which is at most the number of taken names. -/
theorem freshName_primed_least (preferred : String) (taken : List String) :
    ∃ count ≤ taken.toFinset.card,
      (∀ turns result, Priming taken preferred turns result ↔
        turns = count ∧ result = freshName preferred taken) ∧
      freshName preferred taken = primed preferred count ∧
      IsLeast {primes | primed preferred primes ∉ taken} count := by
  obtain ⟨count, hrun⟩ := exists_priming preferred taken
  refine ⟨count, hrun.turns_le, ?_, hrun.result_eq, hrun.isLeast⟩
  intro turns result
  constructor
  · exact fun hother => hrun.unique hother
  · intro hsame
    obtain ⟨rfl, rfl⟩ := hsame
    exact hrun

example : freshName "X" ["X\x27\x27", "X"] = "X\x27" := by decide +kernel

end RightLinear

import RightLinear.Selection

/-! Names of states: a set of states is named by its members, and a name that
is already taken is primed. -/

namespace RightLinear

def subsetName (labels : List String) : String :=
  "\x7b" ++ ",".intercalate labels.mergeSort ++ "\x7d"

def primed (name : String) (count : Nat) : String :=
  name ++ String.ofList (List.replicate count '\x27')

@[simp] theorem toList_primed (name : String) (count : Nat) :
    (primed name count).toList =
      name.toList ++ List.replicate count '\x27' := by
  simp [primed]

@[simp] theorem primed_zero (name : String) : primed name 0 = name := by
  simp [primed]

/-- How many taken names priming can still meet: it never meets a shorter one. -/
private def noShorter (name : String) (taken : List String) : Nat :=
  taken.countP fun other => decide (name.length ≤ other.length)

private theorem noShorter_lt {name : String} {taken : List String}
    (h : name ∈ taken) :
    noShorter (name.push '\x27') taken < noShorter name taken := by
  refine countP_lt_countP ?_ h (by simp) (by simp)
  intro other _ hlonger
  simp only [String.length_push, decide_eq_true_iff] at hlonger ⊢
  omega

/-- The preferred name, with primes put on it until it is not taken. -/
def freshName (preferred : String) (taken : List String) : String :=
  if preferred ∈ taken then freshName (preferred.push '\x27') taken
  else preferred
termination_by noShorter preferred taken
decreasing_by exact noShorter_lt ‹preferred ∈ taken›

end RightLinear

import RightLinear.Grammar.Basic
import RightLinear.Random

/-! Random sentences.  A walk from the start symbol chooses one production after
another.  Long walks lean toward productions that end them, and a walk that is
still going on at the step limit is given up. -/

namespace RightLinear.Grammar

variable {σ : Type} [RandomSource σ]

def stepLimit : Nat := 60

/-- The number of steps after which a walk leans toward its end. -/
def leaningThreshold : Nat := 20

/-- How likely a leaning walk is to be sent to its end. -/
def endingBias : Float := 0.65

/-- `taken` is the number of steps before this one. -/
def chooseProduction (taken : Nat) (first : Production)
    (rest : List Production) (source : σ) : Production × σ :=
  if taken < leaningThreshold then choose first rest source
  else
    match (first :: rest).filter Production.ends with
    | [] => choose first rest source
    | ending :: endings =>
        let (drawn, source) := RandomSource.unit source
        if drawn < endingBias then choose ending endings source
        else choose first rest source

/-- The productions chosen on a walk of at most `remaining` steps. -/
def walkFrom (grammar : Grammar) :
    (remaining taken : Nat) → String → σ → List Production × σ
  | 0, _, _, source => ([], source)
  | remaining + 1, taken, current, source =>
      match grammar.productionsOf current with
      | [] => ([], source)
      | first :: rest =>
          let (chosen, source) := chooseProduction taken first rest source
          match chosen.target with
          | none => ([chosen], source)
          | some next =>
              let (later, source) :=
                grammar.walkFrom remaining (taken + 1) next source
              (chosen :: later, source)

def walk (grammar : Grammar) (source : σ) : List Production × σ :=
  grammar.walkFrom stepLimit 0 grammar.start source

/-- A walk gives a sentence if its last production ends it. -/
def sentenceOf? (walk : List Production) : Option String :=
  if walk.getLast?.any Production.ends then
    some (String.join (walk.map Production.terminal))
  else none

def generate (grammar : Grammar) (source : σ) : Option String × σ :=
  let (walk, source) := grammar.walk source
  (sentenceOf? walk, source)

/-- Walks until `count` distinct sentences are found, at most `attempts`
times. -/
def collect (grammar : Grammar) (count : Int) :
    (attempts : Nat) → (found : List String) → σ → List String × σ
  | 0, found, source => (found, source)
  | attempts + 1, found, source =>
      if count ≤ found.length then (found, source)
      else
        match grammar.generate source with
        | (some sentence, source) =>
            if sentence ∈ found then grammar.collect count attempts found source
            else grammar.collect count attempts (found ++ [sentence]) source
        | (none, source) => grammar.collect count attempts found source

/-- Fewer sentences were found than were asked for. -/
structure Shortfall where
  found : Nat
  count : Int
  attempts : Int
  deriving DecidableEq

def Shortfall.message (shortfall : Shortfall) : String :=
  "Only " ++ toString shortfall.found ++ " of " ++ toString shortfall.count ++
    " sentences generated after " ++ toString shortfall.attempts ++
    " attempts"

structure Batch where
  sentences : List String
  shortfall : Option Shortfall
  deriving DecidableEq

def generateMany (grammar : Grammar) (count attempts : Int) (source : σ) :
    Batch × σ :=
  let (sentences, source) := grammar.collect count attempts.toNat [] source
  let shortfall :=
    if (sentences.length : Int) < count then
      some ⟨sentences.length, count, attempts⟩
    else none
  (⟨sentences, shortfall⟩, source)

/-- The number of attempts where none is given. -/
def usualAttempts : Int := 1000

end RightLinear.Grammar

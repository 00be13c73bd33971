/-! Sources of random choices.  Whatever draws from a source gives back the
source as the draw has left it, so a run can be repeated and compared. -/

namespace RightLinear

class RandomSource (σ : Type) where
  /-- A number of the unit interval. -/
  unit : σ → Float × σ
  /-- One of `others + 1` positions. -/
  index : (others : Nat) → σ → Fin (others + 1) × σ

def choose {σ α : Type} [RandomSource σ] (first : α) (rest : List α)
    (source : σ) : α × σ :=
  let (position, source) := RandomSource.index rest.length source
  ((first :: rest)[position], source)

theorem choose_mem {σ α : Type} [RandomSource σ] (first : α) (rest : List α)
    (source : σ) : (choose first rest source).1 ∈ first :: rest :=
  List.getElem_mem _

/-- A linear congruential generator modulo `2 ^ 64`, of which the upper 31 bits
are used. -/
structure Congruential where
  state : UInt64
  deriving DecidableEq

namespace Congruential

def ofSeed (seed : Int) : Congruential := ⟨UInt64.ofInt seed⟩

def next (generator : Congruential) : Nat × Congruential :=
  let state := generator.state * 6364136223846793005 + 1442695040888963407
  ((state >>> 33).toNat, ⟨state⟩)

instance : RandomSource Congruential where
  unit generator :=
    let (drawn, generator) := generator.next
    (Float.ofNat drawn / Float.ofNat 2147483648, generator)
  index others generator :=
    let (drawn, generator) := generator.next
    (Fin.ofNat (others + 1) drawn, generator)

end Congruential

/-- Draws listed beforehand, each list taken round and round. -/
structure Script where
  units : List Float
  positions : List Nat
  unitCount : Nat := 0
  positionCount : Nat := 0

namespace Script

private def cyclic {α : Type} (draws : List α) (count : Nat) (fallback : α) :
    α :=
  (draws[count % draws.length]?).getD fallback

instance : RandomSource Script where
  unit script :=
    (cyclic script.units script.unitCount 0.0,
      { script with unitCount := script.unitCount + 1 })
  index others script :=
    (Fin.ofNat (others + 1) (cyclic script.positions script.positionCount 0),
      { script with positionCount := script.positionCount + 1 })

theorem unit_eq {script : Script} {drawn : Float}
    (h : script.units = [drawn]) :
    RandomSource.unit script =
      (drawn, { script with unitCount := script.unitCount + 1 }) := by
  simp [RandomSource.unit, cyclic, h, Nat.mod_one]

theorem index_eq {script : Script} {others : Nat} {position : Fin (others + 1)}
    (h : script.positions[script.positionCount]? = some position.val) :
    RandomSource.index others script =
      (position, { script with positionCount := script.positionCount + 1 }) := by
  obtain ⟨hbound, _⟩ := List.getElem?_eq_some_iff.mp h
  simp [RandomSource.index, cyclic, Nat.mod_eq_of_lt hbound, h]

end Script

/-! Either of two sources is a source. -/

instance {σ τ : Type} [RandomSource σ] [RandomSource τ] :
    RandomSource (σ ⊕ τ) where
  unit
    | .inl source =>
        let (drawn, source) := RandomSource.unit source
        (drawn, .inl source)
    | .inr source =>
        let (drawn, source) := RandomSource.unit source
        (drawn, .inr source)
  index others
    | .inl source =>
        let (position, source) := RandomSource.index others source
        (position, .inl source)
    | .inr source =>
        let (position, source) := RandomSource.index others source
        (position, .inr source)

/-- A source that counts the draws made from it. -/
structure Tally (σ : Type) where
  source : σ
  units : Nat := 0
  indices : Nat := 0

instance {σ : Type} [RandomSource σ] : RandomSource (Tally σ) where
  unit tally :=
    let (drawn, source) := RandomSource.unit tally.source
    (drawn, { tally with source := source, units := tally.units + 1 })
  index others tally :=
    let (position, source) := RandomSource.index others tally.source
    (position, { tally with source := source, indices := tally.indices + 1 })

end RightLinear

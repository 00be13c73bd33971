import RightLinear.Session.Transcript

/-! What a session finds around it: files to load, and something that draws its
diagrams and may fail to. -/

namespace RightLinear

class Surroundings (φ : Type) (ε : outParam Type) where
  files : φ → FileSystem
  draw : φ → Rendering → Except ε Unit

/-- Files alone, where the transcript is all that is kept of a diagram. -/
instance : Surroundings FileSystem Empty where
  files := id
  draw _ _ := .ok ()

end RightLinear

/-! Sets of labels and truth values as summaries show them. -/

namespace RightLinear.Text

def listing (labels : List String) : String :=
  "\x7b" ++ ", ".intercalate labels ++ "\x7d"

def truth (value : Bool) : String :=
  if value then "True" else "False"

end RightLinear.Text

/-
# Joined texts

Key definitions: `joined`.
-/
namespace ShapeCodec

/-- Texts side by side with a separator between each two. -/
def joined (separator : String) : List String → String
  | [] => ""
  | [t] => t
  | t :: rest => t ++ separator ++ joined separator rest

end ShapeCodec

import DocShape.Editor.Settings

/-!
# Hovers

What an editor shows over a key: a fenced line with the documentation path and the labels of what is
expected, and below it the documentation, if there is any.
-/

namespace DocShape.Settings

/-- The labels in the signature of a hover. -/
def signature (labels : List String) : String :=
  if labels.isEmpty then "unknown" else String.intercalate " | " labels

/-- The hover over a key. -/
def hover (s : Settings) (path : String) (labels : List String) (text : Option String) : String :=
  "```" ++ s.hoverLanguage ++ "\n" ++ path ++ ": " ++ signature labels ++ "\n```"
    ++ text.elim "" fun text => "\n" ++ s.hoverSeparator ++ "\n" ++ text

end DocShape.Settings

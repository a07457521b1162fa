/-!
# Inputs that cannot be taken

A `Problem` is a fault of what is fed to the library, such as a schema that declares a key twice. It
is not a finding about a document.
-/

namespace DocShape

/-- Why an input cannot be taken. -/
inductive Problem where
  /-- The text is no regular expression. -/
  | invalidPattern (text : String)
  /-- A record that allows every key once is given this one again. -/
  | duplicateProperty (key : String)
  /-- The text is no phrasebook. -/
  | invalidPhrasebook
  /-- The text holds no settings. -/
  | invalidSettings
  /-- The value does not describe what is asked for. -/
  | undecodable
  deriving DecidableEq, Repr

/-- What is said about a problem. -/
def Problem.message : Problem → String
  | .invalidPattern text => "invalid pattern '" ++ text ++ "'"
  | .duplicateProperty key => "property '" ++ key ++ "' is declared twice in the same record"
  | .invalidPhrasebook => "invalid message catalog"
  | .invalidSettings => "invalid checker configuration"
  | .undecodable => ""

end DocShape

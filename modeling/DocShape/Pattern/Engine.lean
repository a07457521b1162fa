import DocShape.Pattern.Machine
import DocShape.Pattern.Syntax.Expression
import DocShape.Problem
import DocShape.Schema.Pattern

/-!
# Reading patterns

The pattern of a text accepts what the machine of the regular expression finds. Schemas that are read
in get their patterns here.
-/

namespace DocShape

/-- The pattern written by a text. -/
def Pattern.read (source : String) : Except Problem Pattern :=
  match Regex.read? source with
  | some regex =>
    let machine := Machine.ofRegex regex
    .ok ⟨source, machine.finds⟩
  | none => .error (.invalidPattern source)

end DocShape

/-!
# Patterns

A `Pattern` is a regular expression as a schema has it: the text it was written as, which messages
show, and the texts that it accepts. A check needs no more, so it may be any such predicate. The one
that belongs to a written expression is found by an engine (`Pattern.read`), of which nothing else
knows.
-/

namespace DocShape

/-- A regular expression, by what it accepts. -/
structure Pattern where
  /-- The text as written. -/
  source : String
  /-- Whether the expression matches somewhere in a text. -/
  accepts : String → Bool

end DocShape

import DocShape.Schema.Parts
import DocShape.Check.Leaf
import DocShape.Check.Container
import DocShape.Check.Union
import DocShape.Check.Choice

/-!
# Checking with fuel

`Check.step` is the check of one schema, given the check of everything further inside, and `check`
ties the knot. Schemas refer to each other by name, and a name may lead back to itself, so `check`
takes fuel and spends one unit on every schema that it enters. A check that runs out leaves its node
alone and says so in the log. `Environment.budget` is fuel enough wherever every circle of names
passes an object or an array.
-/

namespace DocShape

variable {ε : Type}

/-- One schema, given the check of everything further inside. -/
def Check.step [CustomCheck ε] (env : Environment ε) (run : Run ε) : Run ε
  | .anything, _, t => ⟨t.expecting [.any], {}⟩
  | .scalar scalar, _, t => checkScalar scalar t
  | .oneOf pool, _, t => checkPool pool t
  | .matching pattern, _, t => checkPattern pattern t
  | .object shape, sc, t => checkObject env run shape sc t
  | .array item, sc, t => checkArray env run item sc t
  | .union alternatives, sc, t => checkUnion run alternatives sc t
  | .named name, sc, t => checkNamed env run name sc t
  | .documented path schema, sc, t => run schema (sc.withPath path) t
  | .switch key selector, sc, t => checkSwitch run key selector sc t
  | .select selector, sc, t => checkSelected run selector none sc t
  | .custom custom parts, sc, t => CustomCheck.run custom env.settings (parts.map run) sc t

/-- Checks a node against a schema with some fuel. -/
def check [CustomCheck ε] (env : Environment ε) : Nat → Run ε
  | 0 => fun _ sc t => ⟨t, { deepest := sc.depth, finished := false }⟩
  | fuel + 1 => fun s sc t =>
    (Check.step env (check env fuel) s sc t).after { deepest := sc.depth }

/-- Without fuel nothing is checked. -/
theorem check_zero [CustomCheck ε] (env : Environment ε) (s : Schema ε) (sc : Scope) (t : Node) :
    check env 0 s sc t = ⟨t, { deepest := sc.depth, finished := false }⟩ := rfl

/-- One unit of fuel pays for one schema. -/
theorem check_succ [CustomCheck ε] (env : Environment ε) (fuel : Nat) (s : Schema ε) (sc : Scope)
    (t : Node) :
    check env (fuel + 1) s sc t =
      (Check.step env (check env fuel) s sc t).after { deepest := sc.depth } := rfl

/-- Fuel enough for a check. Entering an object or an array goes down the tree or into a
description, which can happen only so often; in between, a check goes down a schema, and passes each
name at most once on the node and once on the null node that stands for it in a description. -/
def Environment.budget (env : Environment ε) (s : Schema ε) (sc : Scope) (t : Node) : Nat :=
  let reach := t.height + (env.settings.expectationDepth + 1 - sc.depth).toNat
  let names := 2 * env.schemas.size + 2
  let levels := 2 * ((env.schemas.entries.map (·.2.height)).foldr max s.height) + 2
  (reach + 1) * names * levels

end DocShape

import DocShape.Proofs.Visit
import DocShape.Proofs.Termination

/-!
# What remains after alternatives

A union runs many checks on one node: the trials, each on what the one before has left, then the
winner, and then descriptions of what was not tried. Only one of these runs stays. Below the node, and
over every key, a union leaves what the winner leaves when it is checked alone on the node with its
slots emptied (`remains_of_union`). Only the slot of the node itself is put together from all
alternatives, and to write it changes nothing else (`Node.find?_expecting`).

It is enough to follow one union: where the winner is made of alternatives itself, the same holds of
it.
-/

namespace DocShape

namespace Node

variable {t : Node} {expected : List Expectation} {path : Path}

/-- The slot of a node makes no difference to what stands below. -/
theorem find?_expecting (h : path ≠ []) : (t.expecting expected).find? path = t.find? path := by
  cases path with
  | nil => exact absurd rfl h
  | cons step path => cases step <;> rfl

/-- The slot of a node makes no difference to keys, its own ones included. -/
theorem memberKey?_find?_expecting (path : Path) (i : Nat) :
    ((t.expecting expected).find? path).bind (·.memberKey? i) =
      (t.find? path).bind (·.memberKey? i) := by
  by_cases h : path = []
  · subst h
    rfl
  · rw [find?_expecting h]

end Node

variable {ε : Type} [CustomCheck ε] [Picking ε] {env : Environment ε}
  {alternatives : List (Schema ε)} {sc : Scope} {t : Node} {o : Outcome}

/-- At most one alternative wins. -/
theorem Environment.Wins.unique {i j : Nat} (hi : env.Wins alternatives sc t i)
    (hj : env.Wins alternatives sc t j) : i = j := by
  obtain ⟨fuel, hfinished, hindex⟩ := hi
  have hindex' := (Check.wins_iff hfinished).mp hj
  exact Option.some.inj (hindex.symm.trans hindex')

/-- A union that comes to its end has a winner, which comes to its end alone on the node with its
slots emptied. The node is left as the winner leaves it, but for the slot of the node itself. -/
theorem Environment.Ends.winner_of_union (hne : alternatives ≠ [])
    (h : env.Ends (.union alternatives) sc t o) :
    ∃ index best alone expected, alternatives[index]? = some best ∧
      env.Wins alternatives sc t index ∧ env.Ends best sc t.clear alone ∧
      o.node = alone.node.expecting expected := by
  obtain ⟨fuel, index, best, hbest, hindex, htried, hchosen, -, hnode, -⟩ := h.of_union hne
  have hwins : env.Wins alternatives sc t index := (Check.wins_iff htried).mpr hindex
  rw [Check.node_chosen (Check.check_keeps env fuel) hbest hindex] at hnode
  exact ⟨index, best, _, _, hbest, hwins, ⟨fuel, rfl, hchosen⟩, hnode⟩

/-- **What remains after alternatives**: when a union has come to its end, every node below and every
key is what the winner alone leaves of it on the node with its slots emptied, so that nothing stays of
a trial that was lost, of a description or of an earlier check. There is exactly one winner. Where no
name leads back to itself on one node, the union comes to its end. -/
theorem remains_of_union (u : Setup Picker) {alternatives : List (Schema Picker)}
    (hne : alternatives ≠ []) (sc : Scope) (t : Node) :
    (∀ o, u.Ends (.union alternatives) sc t o →
      ∃ index best alone, alternatives[index]? = some best ∧
        (∀ i, u.Wins alternatives sc t i ↔ i = index) ∧ u.Ends best sc t.clear alone ∧
        (∀ path ≠ [], o.node.find? path = alone.node.find? path) ∧
        ∀ path i, (o.node.find? path).bind (·.memberKey? i) =
          (alone.node.find? path).bind (·.memberKey? i)) ∧
    (Guarded u.schemas →
      u.Ends (.union alternatives) sc t (u.check (.union alternatives) sc t)) := by
  refine ⟨?_, fun hguard => ⟨_, rfl, finished_check hguard _ sc t _ (Nat.le_refl _)⟩⟩
  intro o h
  obtain ⟨index, best, alone, expected, hbest, hwins, halone, hnode⟩ := h.winner_of_union hne
  have hunique : ∀ i, u.Wins alternatives sc t i ↔ i = index :=
    fun i => ⟨fun hi => hi.unique hwins, fun hi => hi ▸ hwins⟩
  rw [hnode]
  exact ⟨index, best, alone, hbest, hunique, halone, fun path => Node.find?_expecting,
    Node.memberKey?_find?_expecting⟩

/-- Records with a text or with a truth value, the latter beside a list, or anything; the alternative
in the middle is made of alternatives itself. -/
def textTruthOrAny : List (Schema Picker) :=
  [.record (.ofList [("a", ⟨.scalar .string, none⟩)]),
    .union [.array .anything, .record (.ofList [("a", ⟨.scalar .boolean, none⟩)])],
    .anything]

/-- An object with a truth value, and something in every slot. -/
def staleTruth : Node :=
  ⟨⟨0, 11⟩, some [.null], .object [⟨some ⟨"a", ⟨1, 4⟩, some "old"⟩,
    some ⟨⟨6, 10⟩, some [.null, .any], .boolean true⟩⟩]⟩

/-- The text is tried first and leaves its marks, the truth value wins, and the last alternative is
only described. What remains is from the truth value. -/
theorem remains_staleTruth :
    textTruthOrAny ≠ [] ∧ Guarded ({} : Setup Picker).schemas ∧
    ({} : Setup Picker).Ends (.union textTruthOrAny) {} staleTruth
      (({} : Setup Picker).check (.union textTruthOrAny) {} staleTruth) ∧
    ∃ o value key, ({} : Setup Picker).Ends (.union textTruthOrAny) {} staleTruth o ∧
      ({} : Setup Picker).Wins textTruthOrAny {} staleTruth 1 ∧
      o.node.find? [.key "a"] = some value ∧ value.labels = ["Boolean"] ∧
      o.node.memberKey? 0 = some key ∧
      key.hover = some (({} : Settings).hover "a" ["Boolean"] none) := by
  have hne : textTruthOrAny ≠ [] := List.cons_ne_nil _ _
  have hguard : Guarded ({} : Setup Picker).schemas := guarded_nil
  obtain ⟨hremains, hends⟩ := remains_of_union {} hne {} staleTruth
  have ho := hends hguard
  obtain ⟨index, best, alone, hbest, hwins, halone, hbelow, hkeys⟩ := hremains _ ho
  have hone : ({} : Setup Picker).Wins textTruthOrAny {} staleTruth 1 := ⟨4, by decide, rfl⟩
  obtain rfl := (hwins 1).mp hone
  obtain ⟨o, value, key, hends', hvalue, hlabels, hkey, hhover⟩ :
      ∃ o value key, ({} : Setup Picker).Ends best {} staleTruth.clear o ∧
        o.node.find? [.key "a"] = some value ∧ value.labels = ["Boolean"] ∧
        o.node.memberKey? 0 = some key ∧
        key.hover = some (({} : Settings).hover "a" ["Boolean"] none) := by
    cases hbest
    exact ⟨_, _, _, ⟨4, rfl, rfl⟩, rfl, rfl, rfl, rfl⟩
  obtain rfl := halone.unique hends'
  refine ⟨hne, hguard, ho, _, value, key, ho, hone, ?_, hlabels, ?_, hhover⟩
  · rw [hbelow _ (List.cons_ne_nil _ _), hvalue]
  · exact (hkeys [] 0).trans hkey

end DocShape

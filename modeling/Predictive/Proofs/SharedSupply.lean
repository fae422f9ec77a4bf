import Predictive.Proofs.FactoredForm
import Predictive.Proofs.Introductions

/-! One supply for a chain of transformations, or a new one for each. A supply that starts with exactly the
names of a grammar has exactly the names of the result when a transformation is done, which is what a new
supply for the result would start with. So both ways lead to the same names. -/

namespace Predictive

namespace NameSupply

variable {supply supply' : NameSupply} {g : Grammar}

theorem Alike.reserveAll (alike : supply.Alike supply') (names : List String) :
    (supply.reserveAll names).Alike (supply'.reserveAll names) := by
  intro name
  rw [mem_reserveAll, mem_reserveAll, alike name]

theorem exact_ofGrammar (g : Grammar) : (ofGrammar g).Exact g := by
  intro name
  rw [ofGrammar, reserveGrammar, mem_reserveAll, or_iff_left]
  exact List.not_mem_nil

/-- What is reserved is taken already. -/
theorem Exact.reserveGrammar (exact : supply.Exact g) : (supply.reserveGrammar g).Exact g := by
  intro name
  rw [NameSupply.reserveGrammar, mem_reserveAll, exact name, or_self]

theorem Exact.alike (first : supply.Exact g) (second : supply'.Exact g) : supply.Alike supply' :=
  fun name => (first name).trans (second name).symm

end NameSupply

namespace Grammar

variable {g h : Grammar} {supply supply' : NameSupply}

/-- After a successful elimination the supply is exact for the result. -/
theorem exact_eliminateLeftRecursionWith (exact : supply.Exact g)
    (eliminated : (g.eliminateLeftRecursionWith supply).result = .ok h) :
    (g.eliminateLeftRecursionWith supply).supply.Exact h := by
  obtain ⟨_, named, _⟩ := outcome_of_eliminateLeftRecursion eliminated
  rw [(introduced_of_eliminateLeftRecursion eliminated).1, named]
  exact exact_introduce exact.reserveGrammar

/-- Factoring asks the supply for names and nothing else. -/
theorem factorWith_alike (alike : supply.Alike supply') :
    (g.factorWith supply).result = (g.factorWith supply').result :=
  congrArg (fun named : Grammar => { named with rules := (Factoring.factorRules g.size g.rules).1 })
    (introduce_alike (alike.reserveAll g.knownNames))

/-- Whether factoring goes on with the supply that elimination was given, or with one of its own. -/
theorem factorWith_shared (exact : supply.Exact g)
    (eliminated : (g.eliminateLeftRecursionWith supply).result = .ok h) :
    (h.factorWith (g.eliminateLeftRecursionWith supply).supply).result = h.factor.result :=
  factorWith_alike ((exact_eliminateLeftRecursionWith exact eliminated).alike (NameSupply.exact_ofGrammar h))

end Grammar

namespace Registry
open Grammar

/-- Elimination and factoring with one supply for both, opened for the grammar, come to the same as with a
new one for each: the same error, or a result that is the same in every part. -/
theorem factored_shared {g : Grammar} (reachable : Grammar.Reachable g) :
    let shared := g.eliminateLeftRecursionWith (.ofGrammar g)
    let stored := g.registry.eliminateLeftRecursionWith g.registry.ownSupply
    shared.result.map (fun h => (h.factorWith shared.supply).result) =
        g.eliminateLeftRecursion.result.map (fun h => h.factor.result) ∧
      stored.1.map (fun r => (r.factorWith stored.2).1) =
        g.registry.eliminateLeftRecursion.map Registry.factor := by
  have valid := reachable.wellFormed
  have stored : g.registry.eliminateLeftRecursionWith g.registry.ownSupply =
      ((g.eliminateLeftRecursionWith (.ofGrammar g)).result.map Grammar.registry,
        (g.eliminateLeftRecursionWith (.ofGrammar g)).supply) := by
    rw [ownSupply_registry, eliminateLeftRecursionWith_registry valid]
  dsimp only
  rw [Registry.eliminateLeftRecursion, stored, Grammar.eliminateLeftRecursion]
  cases eliminated : (g.eliminateLeftRecursionWith (.ofGrammar g)).result with
  | error cause => exact ⟨rfl, rfl⟩
  | ok h =>
    have valid' := (Reachable.eliminated reachable eliminated).wellFormed
    have same := factorWith_shared (NameSupply.exact_ofGrammar g) eliminated
    have factored : (h.registry.factorWith (g.eliminateLeftRecursionWith (.ofGrammar g)).supply).1 =
        h.registry.factor := by
      rw [Registry.factor, ownSupply_registry, factorWith_registry valid', factorWith_registry valid']
      exact congrArg Grammar.registry same
    exact ⟨congrArg Except.ok same, congrArg Except.ok factored⟩

/-- The name with one prime belongs to another nonterminal, and both transformations give out names for
the same one. -/
def contended : Registry :=
  ⟨[.emptyWord, .endMark, .nonterminal 2 "E" [[2, 5, 3], [2, 5, 4], [3]], .nonterminal 3 "T" [[6]],
      .nonterminal 4 "E\x27" [[7]], .terminal "+", .terminal "x", .terminal "y"],
    reserved ++ [("E", 2), ("T", 3), ("E\x27", 4), ("+", 5), ("x", 6), ("y", 7)], [2, 3, 4], some 2⟩

def contendedFactored : Registry :=
  ⟨[.emptyWord, .endMark, .nonterminal 2 "E" [[3, 8]], .nonterminal 3 "T" [[6]],
      .nonterminal 4 "E\x27" [[7]], .terminal "+", .terminal "x", .terminal "y",
      .nonterminal 8 "E\x27\x27" [[5, 9], [0]],
      .nonterminal 9 "E\x27\x27\x27" [[3, 8], [4, 8]]],
    contended.names ++ [("E\x27\x27", 8), ("E\x27\x27\x27", 9)], [2, 8, 9, 3, 4], some 2⟩

theorem contended_shared :
    let shared := contended.eliminateLeftRecursionWith contended.ownSupply
    shared.1.map (fun r => (r.factorWith shared.2).1) = .ok contendedFactored ∧
      contended.eliminateLeftRecursion.map Registry.factor = .ok contendedFactored := by
  have shared : (contended.eliminateLeftRecursionWith contended.ownSupply).1.map
      (fun r => (r.factorWith (contended.eliminateLeftRecursionWith contended.ownSupply).2).1) =
        .ok contendedFactored := by cbv
  have built : ofEntries [⟨"E", [["E", "+", "T"], ["E", "+", "E\x27"], ["T"]]⟩, ⟨"T", [["x"]]⟩,
    ⟨"E\x27", [["y"]]⟩] = .ok contended := by cbv
  obtain ⟨_, reachable, stored⟩ := valid_of_obtained (.entries built)
  have same := (factored_shared reachable).2
  rw [stored] at same
  exact ⟨shared, same.symm.trans shared⟩

end Registry
end Predictive

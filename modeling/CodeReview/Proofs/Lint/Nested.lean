import CodeReview.Lint.Source
import CodeReview.Proofs.Python.Position
import Mathlib.Data.List.Flatten

/-!
What is told about the functions of a module follows how they are nested. A function has all branches of the
functions inside it, so one that is reported for its branches is inside reported ones only, and a higher limit
takes reports back and does nothing else.
-/

namespace CodeReview

open Python

section Facts

variable {code : String} {trees : List Tree}

theorem module_callables (trees : List Tree) :
    callablesOf trees = (moduleTree trees).functions.map fun a =>
      ⟨a.definition, opensWithText a.body, (moduleTree trees).branchesBelow a.position⟩ := by
  have listed : callablesOf trees = (moduleTree trees).functions.map Tree.callable := by
    rw [← Tree.callables_listed, moduleTree, Tree.callables]
    rintro d ⟨⟩
  rw [listed]
  apply List.map_congr_left
  intro a member
  rw [Tree.callable, Tree.function_branches member]

theorem module_branches (trees : List Tree) :
    branchesOf trees = (moduleTree trees).branchesBelow [] := by
  rw [Tree.branches_below (t := moduleTree trees) rfl, moduleTree, Tree.branches]
  simp [Label.isBranch]

end Facts

namespace Lint

section Limits

variable {limit limit' : Nat} (filename : String) (c : Callable)

theorem findings_fewer (higher : limit ≤ limit') :
    (callableFindings limit' filename c).Sublist (callableFindings limit filename c) := by
  unfold callableFindings
  refine List.Sublist.append (List.Sublist.refl _) ?_
  by_cases reported : limit' < c.complexity
  · rw [if_pos reported, if_pos (Nat.lt_of_le_of_lt higher reported)]
  · rw [if_neg reported]
    exact List.nil_sublist _

/-- Of one callable no limit decides more than whether its branches are reported. -/
theorem findings_kept (limit limit' : Nat) :
    (callableFindings limit' filename c).filter (·.severity == .info) =
      (callableFindings limit filename c).filter (·.severity == .info) := by
  have branches (limit : Nat) : (if limit < c.complexity then
      [Finding.lint filename c.definition.line .warning (branchMessage c.definition.name c.complexity)]
      else []).filter (·.severity == .info) = [] := by
    split <;> rfl
  rw [callableFindings, callableFindings, List.filter_append, List.filter_append, branches, branches]

theorem callables_fewer (higher : limit ≤ limit') (source : String) :
    (callables limit' filename source).Sublist (callables limit filename source) :=
  List.Sublist.flatMap_right _ fun c _ => findings_fewer filename c higher

theorem callables_kept (limit limit' : Nat) (source : String) :
    (callables limit' filename source).filter (·.severity == .info) =
      (callables limit filename source).filter (·.severity == .info) := by
  rw [callables, callables, List.filter_flatMap, List.filter_flatMap]
  exact List.flatMap_congr fun c _ => findings_kept filename c limit limit'

end Limits

def undocumented (filename : String) (d : Definition) : Finding :=
  .lint filename d.line .info (docstringMessage d.name)

def branched (filename : String) (d : Definition) (branches : Nat) : Finding :=
  .lint filename d.line .warning (branchMessage d.name branches)

/-- The functions of a module are told in the order in which they stand, each with the number of branches at
or below it, and each is reported in its turn: without a docstring unless its first statement opens with a
string literal, then for its branches. What is inside a function counts for it, what is apart counts once, and
a higher limit only takes reports of branches back. -/
theorem structure_nested (code filename : String) (trees : List Tree)
    (parsed : readModule code.toList = some trees) :
    let root := moduleTree trees
    let count := fun a : Tree.Standing => root.branchesBelow a.position
    ((root.nodes.Pairwise fun a b => a.1 < b.1) ∧ ∀ p u, (p, u) ∈ root.nodes ↔ root.at? p = some u) ∧
    ((root.functions.Pairwise fun a b => a.position < b.position) ∧
      ∀ a, a ∈ root.functions ↔ root.at? a.position = some (.node (.function a.definition) a.body)) ∧
    ((analyze code).parsed = true ∧
      (analyze code).signatures = root.functions.map (fun a => a.definition.signature) ∧
      (analyze code).complexity = root.branchesBelow [] ∧
      Python.callables code =
        root.functions.map fun a => ⟨a.definition, opensWithText a.body, count a⟩) ∧
    (∀ a ∈ root.functions, ∀ b ∈ root.functions, a.position <+: b.position → count b ≤ count a) ∧
    (∀ chosen : List Tree.Standing, (∀ a ∈ chosen, a ∈ root.functions) →
      (chosen.Pairwise fun a b => Tree.Apart a.position b.position) →
      (chosen.map count).sum ≤ (analyze code).complexity) ∧
    (∀ limit, callables limit filename code =
      root.functions.flatMap fun a =>
        (if opensWithText a.body then [] else [undocumented filename a.definition]) ++
          if limit < count a then [branched filename a.definition (count a)] else []) ∧
    (∀ limit, ∀ a ∈ root.functions, ∀ b ∈ root.functions, a.position <+: b.position →
      limit < count b → branched filename a.definition (count a) ∈ callables limit filename code) ∧
    ∀ limit limit', limit ≤ limit' →
      (callables limit' filename code).Sublist (callables limit filename code) ∧
      (callables limit' filename code).filter (·.severity == .info) =
        (callables limit filename code).filter (·.severity == .info) ∧
      (source limit' filename code).Sublist (source limit filename code) := by
  intro root count
  have listed : Python.callables code =
      root.functions.map fun a => ⟨a.definition, opensWithText a.body, count a⟩ := by
    rw [Python.callables, parsed]
    exact module_callables trees
  have counted : (analyze code).complexity = root.branchesBelow [] := by
    rw [analyze, parsed]
    exact module_branches trees
  have reported (limit : Nat) : callables limit filename code =
      root.functions.flatMap fun a =>
        (if opensWithText a.body then [] else [undocumented filename a.definition]) ++
          if limit < count a then [branched filename a.definition (count a)] else [] := by
    rw [callables, listed, List.flatMap_map]
    rfl
  have inside {a b : Tree.Standing} (above : a.position <+: b.position) : count b ≤ count a :=
    root.branches_below_above above
  refine ⟨⟨root.nodes_ascending, root.nodes_iff⟩, ⟨root.functions_ascending, root.functions_iff⟩,
    ⟨?_, ?_, counted, listed⟩, fun a _ b _ above => inside above, ?_, reported, ?_, ?_⟩
  · rw [analyze, parsed]
  · rw [Python.callables, parsed] at listed
    rw [analyze, parsed]
    simp only [listed, List.map_map]
    rfl
  · intro chosen among apart
    have sums := root.branches_apart (chosen.map (·.position)) (List.pairwise_map.mpr apart)
    rw [List.map_map, ← Tree.branches_below (t := root) (p := []) rfl] at sums
    rw [counted]
    exact sums
  · intro limit a here b _ above exceeded
    rw [reported limit]
    refine List.mem_flatMap.mpr ⟨a, here, List.mem_append_right _ ?_⟩
    rw [if_pos (Nat.lt_of_lt_of_le exceeded (inside above))]
    exact List.mem_singleton_self _
  · intro limit limit' higher
    have fewer := callables_fewer filename higher code
    exact ⟨fewer, callables_kept filename limit limit' code, (List.Sublist.refl _).append fewer⟩

/-- The method opens with a tuple and holds two branches, one of them in the function inside it. -/
def nestedCode : String :=
  "class A:\n def f(a):\n  'a', 1\n  if a:\n   def g():\n    for i in a: pass\n"

theorem structure_nested_tuple :
    ∃ trees, readModule nestedCode.toList = some trees ∧
      (moduleTree trees).functions.map (fun a => (a.position, a.definition.name)) =
        [([0, 0], "f"), ([0, 0, 1, 0], "g")] ∧
      callables 0 "a.py" nestedCode =
        [.lint "a.py" 2 .warning (branchMessage "f" 2), .lint "a.py" 5 .info (docstringMessage "g"),
          .lint "a.py" 5 .warning (branchMessage "g" 1)] := by
  have read : readModule nestedCode.toList = some ((readModule nestedCode.toList).get (by decide +kernel)) :=
    (Option.some_get _).symm
  obtain ⟨-, -, -, -, -, reported, -⟩ := structure_nested nestedCode "a.py" _ read
  refine ⟨_, read, by decide +kernel, ?_⟩
  rw [reported]
  decide +kernel

end Lint

end CodeReview

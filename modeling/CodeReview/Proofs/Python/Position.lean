import CodeReview.Python.Analysis
import Mathlib.Algebra.GroupWithZero.Nat
import Mathlib.Data.List.Basic
import Mathlib.Data.List.Perm.Basic

/-!
Where the nodes of a tree stand. The position of a node is the way down to it, and the order of positions is
the order of a walk that sees each node before those inside it. Callables and branches are found by walks of
their own; both are told here from the positions of the nodes alone.
-/

namespace CodeReview.Python

/-- The way down to a node: the number of a child on each level. -/
abbrev Position := List Nat

def moduleTree (trees : List Tree) : Tree := .node .simple trees

namespace Tree

def at? (t : Tree) : Position → Option Tree
  | [] => some t
  | i :: rest => t.children[i]?.bind (·.at? rest)

mutual

/-- The nodes of a tree with their positions, each before those inside it. -/
def nodes : Tree → List (Position × Tree)
  | .node label children => ([], .node label children) :: nodesFrom 0 children

def nodesFrom (i : Nat) : List Tree → List (Position × Tree)
  | [] => []
  | t :: more => (nodes t).map (fun n => (i :: n.1, n.2)) ++ nodesFrom (i + 1) more

end

theorem inside_induction {P : Tree → Prop}
    (node : ∀ label children, (∀ t ∈ children, P t) → P (.node label children)) (t : Tree) : P t :=
  Tree.rec (motive_1 := P) (motive_2 := fun trees => ∀ t ∈ trees, P t)
    (fun label children each => node label children each)
    (fun _ member => absurd member List.not_mem_nil)
    (fun _ _ first rest t member => (List.mem_cons.mp member).elim (· ▸ first) (rest t)) t

section Listing

variable {i : Nat} {p q : Position} {t u : Tree} {label : Label} {children : List Tree}

theorem at_append (t : Tree) (p q : Position) : t.at? (p ++ q) = (t.at? p).bind (·.at? q) := by
  induction p generalizing t with
  | nil => rfl
  | cons i p ih =>
      rw [List.cons_append, at?, at?, Option.bind_assoc]
      exact congrArg (Option.bind _) (funext ih)

theorem nodes_from_iff (each : ∀ t ∈ children, ∀ p u, (p, u) ∈ t.nodes ↔ t.at? p = some u) :
    (p, u) ∈ nodesFrom i children ↔
      ∃ j rest, p = (i + j) :: rest ∧ children[j]?.bind (·.at? rest) = some u := by
  induction children generalizing i with
  | nil => simp [nodesFrom]
  | cons t more ih =>
      have later := ih (i := i + 1) fun u member => each u (List.mem_cons_of_mem t member)
      rw [nodesFrom, List.mem_append, later, List.mem_map]
      constructor
      · rintro (⟨⟨rest, v⟩, here, same⟩ | ⟨j, rest, rfl, found⟩)
        · cases same
          exact ⟨0, rest, rfl, (each t List.mem_cons_self rest v).mp here⟩
        · exact ⟨j + 1, rest, by rw [Nat.add_right_comm, Nat.add_assoc], found⟩
      · rintro ⟨j, rest, rfl, found⟩
        cases j with
        | zero => exact .inl ⟨(rest, u), (each t List.mem_cons_self rest u).mpr found, rfl⟩
        | succ j => exact .inr ⟨j, rest, by rw [Nat.add_right_comm, Nat.add_assoc], found⟩

/-- The listed nodes are those that the positions lead to. -/
theorem nodes_iff (t : Tree) (p : Position) (u : Tree) : (p, u) ∈ t.nodes ↔ t.at? p = some u := by
  induction t using inside_induction generalizing p u with
  | node label children each =>
      rw [nodes, List.mem_cons, nodes_from_iff each]
      cases p with
      | nil => simp [at?, eq_comm]
      | cons j rest => simp [at?, Tree.children]

theorem nodes_from_ascending (each : ∀ t ∈ children, t.nodes.Pairwise fun a b => a.1 < b.1) :
    (nodesFrom i children).Pairwise (fun a b => a.1 < b.1) ∧
      ∀ n ∈ nodesFrom i children, ∃ j rest, n.1 = j :: rest ∧ i ≤ j := by
  induction children generalizing i with
  | nil => exact ⟨List.Pairwise.nil, fun n member => absurd member List.not_mem_nil⟩
  | cons t more ih =>
      obtain ⟨ascending, numbered⟩ := ih (i := i + 1) fun u member => each u (List.mem_cons_of_mem t member)
      rw [nodesFrom]
      constructor
      · refine List.pairwise_append.mpr ⟨?_, ascending, ?_⟩
        · rw [List.pairwise_map]
          exact (each t List.mem_cons_self).imp fun before => List.cons_lt_cons_iff.mpr (.inr ⟨rfl, before⟩)
        · intro a here b behind
          obtain ⟨n, -, rfl⟩ := List.mem_map.mp here
          obtain ⟨j, rest, same, above⟩ := numbered b behind
          rw [same]
          exact List.cons_lt_cons_iff.mpr (.inl above)
      · intro n member
        rcases List.mem_append.mp member with here | behind
        · obtain ⟨m, -, rfl⟩ := List.mem_map.mp here
          exact ⟨i, m.1, rfl, Nat.le_refl i⟩
        · obtain ⟨j, rest, same, above⟩ := numbered n behind
          exact ⟨j, rest, same, by omega⟩

theorem nodes_ascending (t : Tree) : t.nodes.Pairwise fun a b => a.1 < b.1 := by
  induction t using inside_induction with
  | node label children each =>
      obtain ⟨ascending, numbered⟩ := nodes_from_ascending (i := 0) each
      rw [nodes]
      refine List.pairwise_cons.mpr ⟨?_, ascending⟩
      intro n member
      obtain ⟨j, rest, same, -⟩ := numbered n member
      rw [same]
      exact List.nil_lt_cons j rest

/-- Lists of nodes in the order of their positions are the same when they have the same nodes. -/
theorem listed_same {xs ys : List (Position × Tree)} (first : xs.Pairwise fun a b => a.1 < b.1)
    (second : ys.Pairwise fun a b => a.1 < b.1) (same : ∀ n, n ∈ xs ↔ n ∈ ys) : xs = ys := by
  have distinct {l : List (Position × Tree)} (ascending : l.Pairwise fun a b => a.1 < b.1) : l.Nodup :=
    ascending.imp fun before equal => by
      rw [equal] at before
      exact List.lt_irrefl _ before
  refine List.Perm.eq_of_pairwise ?_ first second
    ((List.perm_ext_iff_of_nodup (distinct first) (distinct second)).mpr same)
  intro a b _ _ before after
  exact absurd after (List.lt_asymm before)

theorem nodes_below (found : t.at? p = some u) :
    t.nodes.filter (fun n => p.isPrefixOf n.1) = u.nodes.map fun n => (p ++ n.1, n.2) := by
  -- Both lists are ascending, so that it is enough to compare their members.
  apply listed_same
  · exact t.nodes_ascending.filter _
  · rw [List.pairwise_map]
    exact u.nodes_ascending.imp fun before => List.append_left_lt before
  · rintro ⟨q, v⟩
    rw [List.mem_filter, nodes_iff, List.isPrefixOf_iff_prefix, List.mem_map]
    constructor
    · rintro ⟨there, rest, rfl⟩
      rw [at_append, found] at there
      exact ⟨(rest, v), (nodes_iff u rest v).mpr there, rfl⟩
    · rintro ⟨⟨rest, w⟩, member, same⟩
      cases same
      rw [at_append, found]
      exact ⟨(nodes_iff u rest w).mp member, List.prefix_append p rest⟩

end Listing

section Branches

def isBranch (t : Tree) : Bool := t.label.isBranch

def branchesBelow (t : Tree) (p : Position) : Nat :=
  t.nodes.countP fun n => p.isPrefixOf n.1 && n.2.isBranch

variable {i : Nat} {p q : Position} {t u : Tree} {label : Label} {children : List Tree}

theorem branches_from (each : ∀ t ∈ children, t.nodes.countP (·.2.isBranch) = t.branches) :
    (nodesFrom i children).countP (·.2.isBranch) = branchesOf children := by
  induction children generalizing i with
  | nil => rfl
  | cons t more ih =>
      have later := ih (i := i + 1) fun u member => each u (List.mem_cons_of_mem t member)
      rw [nodesFrom, List.countP_append, List.countP_map, later, branchesOf,
        ← each t List.mem_cons_self]
      rfl

/-- The walk that counts branches counts each node of the tree once. -/
theorem branches_counted (t : Tree) : t.nodes.countP (·.2.isBranch) = t.branches := by
  induction t using inside_induction with
  | node label children each =>
      rw [nodes, List.countP_cons, branches_from each, branches, Nat.add_comm]
      rfl

theorem branches_below (found : t.at? p = some u) : t.branchesBelow p = u.branches := by
  have split : t.branchesBelow p =
      (t.nodes.filter fun n => p.isPrefixOf n.1).countP (·.2.isBranch) := by
    rw [List.countP_filter, branchesBelow]
    exact List.countP_congr fun n _ => by rw [Bool.and_comm]
  rw [split, nodes_below found, List.countP_map, ← branches_counted]
  rfl

/-- Of two positions on one way down, the upper one has at least the branches of the lower one. -/
theorem branches_below_above (t : Tree) (above : p <+: q) : t.branchesBelow q ≤ t.branchesBelow p := by
  apply List.countP_mono_left
  intro n _ counted
  obtain ⟨below, branch⟩ := Bool.and_eq_true_iff.mp counted
  have way := above.trans (List.isPrefixOf_iff_prefix.mp below)
  exact Bool.and_eq_true_iff.mpr ⟨List.isPrefixOf_iff_prefix.mpr way, branch⟩

def Apart (p q : Position) : Prop := ¬ p <+: q ∧ ¬ q <+: p

/-- A node is below one at most of some positions that are apart. -/
theorem apart_once (q : Position) (chosen : List Position) (apart : chosen.Pairwise Apart) :
    chosen.countP (fun p => p.isPrefixOf q) ≤ 1 := by
  induction chosen with
  | nil => exact Nat.zero_le 1
  | cons p chosen ih =>
      obtain ⟨first, rest⟩ := List.pairwise_cons.mp apart
      rw [List.countP_cons]
      split
      · next below =>
          have way := List.isPrefixOf_iff_prefix.mp below
          have none : chosen.countP (fun p => p.isPrefixOf q) = 0 := by
            rw [List.countP_eq_zero]
            intro p' member below'
            have way' := List.isPrefixOf_iff_prefix.mp below'
            rcases List.prefix_or_prefix_of_prefix way way' with above | above
            · exact (first p' member).1 above
            · exact (first p' member).2 above
          omega
      · exact ih rest

theorem sums_one_more (chosen : List Position) (sum : Position → Nat) (below : Position → Bool)
    (branch : Bool) :
    (chosen.map fun p => sum p + if below p && branch then 1 else 0).sum =
      (chosen.map sum).sum + if branch then chosen.countP below else 0 := by
  induction chosen with
  | nil => cases branch <;> rfl
  | cons p chosen ih =>
      rw [List.map_cons, List.sum_cons, ih, List.map_cons, List.sum_cons, List.countP_cons]
      cases branch <;> cases below p <;> simp <;> omega

-- Along the nodes: each of them adds to one of the sums at most.
theorem branches_apart (t : Tree) (chosen : List Position) (apart : chosen.Pairwise Apart) :
    (chosen.map t.branchesBelow).sum ≤ t.branches := by
  rw [← branches_counted]
  unfold branchesBelow
  induction t.nodes with
  | nil => simp
  | cons n nodes ih =>
      have once := apart_once n.1 chosen apart
      simp only [List.countP_cons]
      rw [sums_one_more]
      split <;> omega

end Branches

section Functions

structure Standing where
  position : Position
  definition : Definition
  body : List Tree

def standing? : Position × Tree → Option Standing
  | (p, .node (.function d) body) => some ⟨p, d, body⟩
  | _ => none

def functions (t : Tree) : List Standing := t.nodes.filterMap standing?

variable {i : Nat} {p : Position} {t u : Tree} {label : Label} {children : List Tree}

theorem standing_iff (n : Position × Tree) (a : Standing) :
    standing? n = some a ↔ n = (a.position, .node (.function a.definition) a.body) := by
  constructor
  · intro found
    unfold standing? at found
    split at found
    · cases found
      rfl
    · cases found
  · rintro rfl
    rfl

/-- The functions are the nodes that define one. -/
theorem functions_iff (t : Tree) (a : Standing) :
    a ∈ t.functions ↔ t.at? a.position = some (.node (.function a.definition) a.body) := by
  rw [functions, List.mem_filterMap, ← nodes_iff]
  simp only [standing_iff]
  constructor
  · rintro ⟨n, member, rfl⟩
    exact member
  · intro member
    exact ⟨_, member, rfl⟩

theorem functions_ascending (t : Tree) : t.functions.Pairwise fun a b => a.position < b.position := by
  rw [functions, List.pairwise_filterMap]
  refine t.nodes_ascending.imp ?_
  intro n m before a first b second
  rw [standing_iff] at first second
  subst first second
  exact before

def callable (a : Standing) : Callable := ⟨a.definition, opensWithText a.body, branchesOf a.body⟩

theorem callables_from (each : ∀ t ∈ children, t.callables = t.functions.map callable) :
    callablesOf children = ((nodesFrom i children).filterMap standing?).map callable := by
  induction children generalizing i with
  | nil => rfl
  | cons t more ih =>
      have later := ih (i := i + 1) fun u member => each u (List.mem_cons_of_mem t member)
      have moved : ((t.nodes.map fun n => (i :: n.1, n.2)).filterMap standing?).map callable =
          t.functions.map callable := by
        rw [functions, List.filterMap_map, List.map_filterMap, List.map_filterMap]
        apply List.filterMap_congr
        rintro ⟨p, u⟩ _
        rcases u with ⟨label, body⟩
        cases label <;> rfl
      rw [callablesOf, each t List.mem_cons_self, later, nodesFrom, List.filterMap_append,
        List.map_append, moved]

/-- The walk that collects callables takes each function once, and each before those inside it. -/
theorem callables_listed (t : Tree) : t.callables = t.functions.map callable := by
  induction t using inside_induction with
  | node label children each =>
      have inside := callables_from (i := 0) each
      cases label with
      | function d =>
          rw [callables, functions, nodes]
          exact congrArg _ inside
      | _ =>
          rw [callables, functions, nodes]
          · exact inside
          · rintro d ⟨⟩

theorem function_branches {a : Standing} (member : a ∈ t.functions) :
    branchesOf a.body = t.branchesBelow a.position := by
  rw [branches_below ((functions_iff t a).mp member), branches]
  simp [Label.isBranch]

end Functions

end Tree

end CodeReview.Python

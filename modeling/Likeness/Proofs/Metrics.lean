import Likeness.Metrics
import Mathlib.Data.List.Basic

/-!
# Which trees count as recursive

The walk that looks for a self-call takes the name of the function around a node down with it.  A
path from the root of a tree down to one of its nodes shows where that name comes from: it is that
of the nearest function definition above the node, and if this one has no name then there is none,
whatever stands further up.

**Main statements.**
* `Metrics.findsSelfCall_iff`: what a walk finds, for any trees that wait on its stack.
* `Metrics.isRecursive_iff`: which trees count as recursive.
-/

namespace Likeness

/-- A node of a tree, with the nodes above it, the nearest one first. -/
inductive Tree.Path : Tree → List Tree → Tree → Prop
  | root (tree : Tree) : Path tree [] tree
  | child {tree child node : Tree} {above : List Tree} (mem : child ∈ tree.children)
      (path : Path child above node) : Path tree (above ++ [tree]) node

namespace Metrics

section Enclosing

/-- The nearest function definition among the nodes above a node. -/
def enclosingFunction? (above : List Tree) : Option Tree :=
  above.find? (fun node => node.kind == "function_definition")

/-- The name that counts below some nodes, if `outer?` counts around them. -/
def enclosingName (above : List Tree) (outer? : Option String) : Option String :=
  (enclosingFunction? above).elim outer? Equivalence.name?

/-- A node that stands above all others comes before what stands around it. -/
theorem enclosingName_append (above : List Tree) (node : Tree) (outer? : Option String) :
    enclosingName (above ++ [node]) outer? =
      enclosingName above (enclosingBelow node outer?) := by
  rw [enclosingName, enclosingFunction?, List.find?_append]
  cases nearest : above.find? (fun node => node.kind == "function_definition") with
  | some function => simp [enclosingName, enclosingFunction?, nearest]
  | none =>
      rw [Option.none_or, enclosingName, enclosingFunction?, nearest, enclosingBelow]
      by_cases kind : node.kind == "function_definition"
      · rw [if_pos kind, List.find?_singleton, if_pos kind]
        rfl
      · rw [if_neg kind, List.find?_singleton, if_neg kind]

end Enclosing

section Walking

/-- Some node of a tree is a self-call, if a name counts around the tree. -/
def HasSelfCall (tree : Tree) (outer? : Option String) : Prop :=
  ∃ above node, tree.Path above node ∧ isSelfCall node (enclosingName above outer?) = true

theorem hasSelfCall_iff {tree : Tree} {outer? : Option String} :
    HasSelfCall tree outer? ↔
      isSelfCall tree outer? = true ∨
        ∃ child ∈ tree.children, HasSelfCall child (enclosingBelow tree outer?) := by
  constructor
  · rintro ⟨_, _, path, call⟩
    cases path with
    | root => exact Or.inl call
    | child mem path =>
        rw [enclosingName_append] at call
        exact Or.inr ⟨_, mem, _, _, path, call⟩
  · rintro (call | ⟨child, mem, above, node, path, call⟩)
    · exact ⟨[], tree, .root tree, call⟩
    · rw [← enclosingName_append] at call
      exact ⟨above ++ [tree], node, .child mem path, call⟩

/-- The order in which the children wait does not matter. -/
theorem exists_mem_reverse_tagged_iff {p : Tree × Option String → Prop} {name? : Option String}
    {children : List Tree} :
    (∃ item ∈ (Walk.tagged name? children).reverse, p item) ↔
      ∃ child ∈ children, p (child, name?) := by
  simp [Walk.tagged]

/-- By induction along the walk. -/
theorem findsSelfCall_iff (stack : List (Tree × Option String)) :
    findsSelfCall stack = true ↔ ∃ item ∈ stack, HasSelfCall item.1 item.2 := by
  fun_induction findsSelfCall stack with
  | case1 => simp
  | case2 node outer? rest call =>
      have found : HasSelfCall node outer? := hasSelfCall_iff.2 (Or.inl call)
      simpa using Or.inl found
  | case3 node outer? rest call ih =>
      have root : HasSelfCall node outer? ↔
          ∃ child ∈ node.children, HasSelfCall child (enclosingBelow node outer?) := by
        rw [hasSelfCall_iff, or_iff_right call]
      rw [ih, List.exists_mem_cons_iff, root]
      simp only [List.mem_append, or_and_right, exists_or, exists_mem_reverse_tagged_iff]

end Walking

section Names

theorem isSelfCall_iff {node : Tree} {enclosing? : Option String} :
    isSelfCall node enclosing? = true ↔
      node.kind = "call" ∧ ∃ name, enclosing? = some name ∧ Equivalence.name? node = some name := by
  cases enclosing? with
  | none => simp [isSelfCall]
  | some name => simp [isSelfCall]

theorem enclosingName_eq_some_iff {above : List Tree} {name : String} :
    enclosingName above none = some name ↔
      ∃ function, enclosingFunction? above = some function ∧
        Equivalence.name? function = some name := by
  rw [enclosingName]
  cases enclosingFunction? above with
  | none => simp
  | some function => simp

theorem name?_eq_some_iff {node : Tree} {name : String} :
    Equivalence.name? node = some name ↔
      ∃ child, node.childOfKind? "identifier" = some child ∧ child.text = name := by
  rw [Equivalence.name?, Option.map_eq_some_iff]

end Names

/-- A tree counts as recursive if and only if some call in it has a function definition above it, the
nearest of these has an identifier among its children, and the text of its first one is that of the
first identifier among the children of the call. -/
theorem isRecursive_iff (tree : Tree) :
    isRecursive tree = true ↔
      ∃ above call function name called, tree.Path above call ∧ call.kind = "call" ∧
        above.find? (fun node => node.kind == "function_definition") = some function ∧
        function.childOfKind? "identifier" = some name ∧
        call.childOfKind? "identifier" = some called ∧ called.text = name.text := by
  have found : isRecursive tree = true ↔ HasSelfCall tree none := by
    rw [isRecursive, findsSelfCall_iff]
    simp
  rw [found]
  constructor
  · rintro ⟨above, call, path, selfCall⟩
    obtain ⟨kind, text, outer, inner⟩ := isSelfCall_iff.1 selfCall
    obtain ⟨function, nearest, named⟩ := enclosingName_eq_some_iff.1 outer
    obtain ⟨name, first, rfl⟩ := name?_eq_some_iff.1 named
    obtain ⟨called, first', same⟩ := name?_eq_some_iff.1 inner
    exact ⟨above, call, function, name, called, path, kind, nearest, first, first', same⟩
  · rintro ⟨above, call, function, name, called, path, kind, nearest, first, first', same⟩
    have outer : enclosingName above none = some name.text :=
      enclosingName_eq_some_iff.2 ⟨function, nearest, name?_eq_some_iff.2 ⟨name, first, rfl⟩⟩
    have inner : Equivalence.name? call = some name.text :=
      name?_eq_some_iff.2 ⟨called, first', same⟩
    exact ⟨above, call, path, isSelfCall_iff.2 ⟨kind, name.text, outer, inner⟩⟩

end Metrics
end Likeness

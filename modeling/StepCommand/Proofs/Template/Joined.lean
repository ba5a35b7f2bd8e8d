import StepCommand.Proofs.Template.Part

namespace StepCommand.Template

-- The nodes that a template has come to, backwards, and the text that is still to go on.
structure Gathered where
  text : List Char := []
  done : List Node := []

def Gathered.nodes (g : Gathered) : List Node :=
  if g.text.isEmpty then g.done else .text (.ofList g.text) :: g.done

mutual

def Node.gather : Node → Gathered → Gathered
  | .text s, g => ⟨g.text ++ s.toList, g.done⟩
  | .print argument, g => ⟨[], .print argument :: g.nodes⟩
  | .call helper arguments, g => ⟨[], .call helper arguments :: g.nodes⟩
  | .ifTrue condition body, g => ⟨[], .ifTrue condition (gatherAll body {}).nodes.reverse :: g.nodes⟩
  | .ifFalse condition body, g =>
      ⟨[], .ifFalse condition (gatherAll body {}).nodes.reverse :: g.nodes⟩
  | .each items body, g => ⟨[], .each items (gatherAll body {}).nodes.reverse :: g.nodes⟩
  | .within value body, g => ⟨[], .within value (gatherAll body {}).nodes.reverse :: g.nodes⟩

def gatherAll : List Node → Gathered → Gathered
  | [], g => g
  | node :: rest, g => gatherAll rest (node.gather g)

end

def joined (template : Template) : Template := (gatherAll template {}).nodes.reverse

variable {table : Table} {scope : Scope} {g : Gathered} {node : Node}

theorem fillAll_nodes (table : Table) (scope : Scope) (g : Gathered) :
    fillAll table g.nodes.reverse scope =
      fillAll table g.done.reverse scope >>= fun s => .ok (s ++ .ofList g.text) := by
  by_cases h : g.text.isEmpty
  · have htext : g.text = [] := List.isEmpty_iff.mp h
    simp only [Gathered.nodes, htext, List.isEmpty_nil, if_true, String.ofList_nil,
      String.append_empty]
    exact (bind_pure _).symm
  · simp [Gathered.nodes, h, fillAll_append, fillAll_cons, Except.ok_bind]

theorem fillAll_node (table : Table) (scope : Scope) (g : Gathered) (node : Node) :
    fillAll table (Gathered.nodes ⟨[], node :: g.nodes⟩).reverse scope =
      fillAll table g.nodes.reverse scope >>= fun s =>
        node.fill table scope >>= fun t => .ok (s ++ t) := by
  simp [Gathered.nodes, fillAll_append, fillAll_cons, Except.ok_bind, bind_assoc]

theorem fillAll_of_gatherAll {body : List Node}
    (h : ∀ (g : Gathered) scope, fillAll table (gatherAll body g).nodes.reverse scope =
      fillAll table g.nodes.reverse scope >>= fun s =>
        fillAll table body scope >>= fun t => .ok (s ++ t)) :
    fillAll table (gatherAll body {}).nodes.reverse = fillAll table body := by
  funext scope
  rw [h]
  simp only [Gathered.nodes, List.isEmpty_nil, if_true, List.reverse_nil, fillAll_nil,
    Except.ok_bind, String.empty_append]
  exact bind_pure _

mutual

theorem fill_gather (table : Table) : (node : Node) → (g : Gathered) → (scope : Scope) →
    fillAll table (node.gather g).nodes.reverse scope =
      fillAll table g.nodes.reverse scope >>= fun s =>
        node.fill table scope >>= fun t => .ok (s ++ t)
  | .text s, g, scope => by
      simp [Node.gather, fillAll_nodes, Except.ok_bind, bind_assoc, String.append_assoc]
  | .print _, g, scope => fillAll_node table scope g _
  | .call _ _, g, scope => fillAll_node table scope g _
  | .ifTrue _ body, g, scope => by
      rw [Node.gather, fillAll_node]
      simp only [Node.fill, fillAll_of_gatherAll (fillAll_gatherAll table body)]
  | .ifFalse _ body, g, scope => by
      rw [Node.gather, fillAll_node]
      simp only [Node.fill, fillAll_of_gatherAll (fillAll_gatherAll table body)]
  | .each _ body, g, scope => by
      rw [Node.gather, fillAll_node]
      simp only [Node.fill, fillAll_of_gatherAll (fillAll_gatherAll table body)]
  | .within _ body, g, scope => by
      rw [Node.gather, fillAll_node]
      simp only [Node.fill, fillAll_of_gatherAll (fillAll_gatherAll table body)]

theorem fillAll_gatherAll (table : Table) : (template : List Node) → (g : Gathered) →
    (scope : Scope) →
    fillAll table (gatherAll template g).nodes.reverse scope =
      fillAll table g.nodes.reverse scope >>= fun s =>
        fillAll table template scope >>= fun t => .ok (s ++ t)
  | [], g, scope => by
      simp only [gatherAll, fillAll_nil, Except.ok_bind, String.append_empty]
      exact (bind_pure _).symm
  | node :: rest, g, scope => by
      rw [gatherAll, fillAll_gatherAll table rest, fill_gather table node]
      simp [fillAll_cons, bind_assoc, Except.ok_bind, String.append_assoc]

end

-- Joining leaves what a template is filled to as it is.
theorem fillAll_joined (table : Table) (template : Template) :
    fillAll table (joined template) = fillAll table template :=
  fillAll_of_gatherAll (fillAll_gatherAll table template)

end StepCommand.Template

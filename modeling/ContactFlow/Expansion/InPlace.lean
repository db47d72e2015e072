import ContactFlow.Builder.Workspace
import ContactFlow.Expansion.Retry
import ContactFlow.Expansion.Stage
import ContactFlow.Registry

/-!
Resolution and expansion of a flow that is still under construction. The edges that an expansion
writes anew are out of reach for the builders: they no longer wait for a target.
-/

namespace ContactFlow

namespace Staging

/-- Whether an open edge is still the one that a builder knows. -/
def keeps (s : Staging) : Slot → Bool
  | .next _ => true
  | .condition node _ => !s.renewed.contains node
  | .error node _ => !s.splits.any (·.serial == node)

end Staging

namespace Workspace

def withGraph (w : Workspace) (g : Graph) : Workspace := w.replaceGraph g fun _ => true

/-- Expands the inputs of the graph, as far as they can be. -/
def expandInputs (w : Workspace) : Staging × Workspace :=
  let staging := ContactFlow.expandInputs w.graph
  (staging, w.replaceGraph staging.graph staging.keeps)

def expandRetries (w : Workspace) : Looping × Workspace :=
  let looping := ContactFlow.expandRetries w.graph
  (looping, w.withGraph looping.graph)

def resolveReferences (w : Workspace) (r : Registry) :
    Except UsageError (List Unresolved × Workspace) :=
  (r.resolve w.graph).map fun (g, unresolved) => (unresolved, w.withGraph g)

end Workspace

end ContactFlow

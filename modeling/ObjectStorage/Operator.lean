import ObjectStorage.Layer

/-!
# Operators

An operator is a service with a stack of layers.  It is built by adding layers one by one, and is
finished by the layer that tells operation, service and path in every error; more layers may
follow outside.

* `LayerConfig` — a layer that is still to be added;
* `Operator` — the service and its layers;
* `Operator.add`, `Operator.finish` — more layers;
* `Operator.call`, `Operator.info` — a call and a question through all layers.
-/

namespace ObjectStorage

/-- A layer that is still to be added. -/
inductive LayerConfig
  | retry (backoff : Backoff)
  | limit (permits : Nat)
  | index (paths : Index)
  | logging
  | metrics

/-- A service with its layers, the outermost first. -/
structure Operator (σ ρ π : Type) where
  service : Service σ ρ π
  layers : List Layer := []

namespace Operator

variable {σ ρ π : Type}

/-- A call of the service through all layers, with the path as it is. -/
def call (op : Operator σ ρ π) (form : Form) (path : String) (action : Action) :
    Run σ (Reply (Reader ρ) (Pager π) action) :=
  Stack.call op.service op.layers form path action

/-- What the service is, as the layers let it appear. -/
def info (op : Operator σ ρ π) : Run σ ServiceInfo := Stack.info op.service op.layers

/-- How many directories a layer adds at most. -/
def dirsOf : Layer → Nat
  | .index index => index.dirsAtMost
  | _ => 0

/-- How many directories can be listed at most before a listing fails or one is listed twice. -/
def dirsAtMost (op : Operator σ ρ π) (s : σ) : Nat :=
  op.layers.foldl (fun n layer => n + dirsOf layer) (op.service.dirsAtMost s + 1)

/-- The operator with a layer around it. -/
def around (op : Operator σ ρ π) (layer : Layer) : Operator σ ρ π :=
  { op with layers := layer :: op.layers }

/-- Add a layer.  A limit gets its permits; layers that name the service in what they tell ask
for it first. -/
def add (op : Operator σ ρ π) : LayerConfig → Run σ (Operator σ ρ π)
  | .retry backoff => pure (op.around (.retry backoff))
  | .limit permits => do pure (op.around (.limit (← Limit.add permits)))
  | .index paths => pure (op.around (.index paths))
  | .logging => do
    let _ ← op.info
    pure (op.around .logging)
  | .metrics => do
    let _ ← op.info
    pure (op.around .metrics)

/-- Add layers, the innermost first. -/
def addAll (op : Operator σ ρ π) (configs : List LayerConfig) : Run σ (Operator σ ρ π) :=
  configs.foldlM add op

/-- Finish an operator: its errors tell operation, service and path. -/
def finish (op : Operator σ ρ π) : Run σ (Operator σ ρ π) := do
  let _ ← op.info
  pure (op.around .context)

end Operator

end ObjectStorage

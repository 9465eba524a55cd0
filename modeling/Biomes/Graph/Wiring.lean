import Biomes.Graph.Basic

/-!
# Wiring a graph

`Graph.connect` attaches one node to an output of another.  It refuses in this order: an unknown
target, an unknown source, a leaf as the source, an output that the source does not have.  A
refused connection changes nothing.
-/

namespace Biomes

/-- Why two nodes cannot be connected. -/
inductive WiringError where
  | unknownNode (node : NodeId)
  | noSuchOutput (node : NodeId) (output : Nat)
  | leafOutput (node : NodeId)
  deriving DecidableEq, Repr

/-- How a node's number is shown in wiring errors. -/
def NodeId.text (n : NodeId) : String := s!"NodeId({n.number})"

/-- The wording of a refused connection. -/
def WiringError.message : WiringError → String
  | .unknownNode n => s!"unknown node {n.text}"
  | .noSuchOutput n output => s!"node {n.text} has no output {output}"
  | .leafOutput n => s!"leaf node {n.text} has no outputs"

/-- The number of outputs of a switch. -/
def Switch.outputs : Switch → Nat
  | .shore _ _ => 2
  | .ranges _ parts => parts.size

namespace Switch

/-- Attaches a node to an output, after those that are attached already. -/
def attach (s : Switch) (output : Nat) (target : NodeId) : Switch :=
  match s with
  | .shore dry wet =>
    match output with
    | 0 => .shore (dry.push target) wet
    | 1 => .shore dry (wet.push target)
    | _ => .shore dry wet
  | .ranges axis parts =>
    .ranges axis (parts.modify output fun p => { p with attached := p.attached.push target })

end Switch

/-- Attaches a node to an output of a switch, or to the targets of a relay, whatever the output. -/
def Node.attach (v : Node) (output : Nat) (target : NodeId) : Node :=
  match v with
  | .switch s => .switch (s.attach output target)
  | .leaf b => .leaf b
  | .relay targets => .relay (targets.push target)

namespace Graph

/-- Why a connection is refused, if it is. -/
def wiringError? (g : Graph) (source : NodeId) (output : Nat) (target : NodeId) :
    Option WiringError :=
  match g.node? target with
  | none => some (.unknownNode target)
  | some _ =>
    match g.node? source with
    | none => some (.unknownNode source)
    | some (.leaf _) => some (.leafOutput source)
    | some (.relay _) => none
    | some (.switch s) => if output < s.outputs then none else some (.noSuchOutput source output)

/-- Attaches `target` to an output of `source`. -/
def connect (g : Graph) (source : NodeId) (output : Nat) (target : NodeId) :
    Graph × Except WiringError Unit :=
  match g.wiringError? source output target with
  | some e => (g, .error e)
  | none => (⟨g.nodes.modify source.index (·.attach output target)⟩, .ok ())

end Graph

end Biomes

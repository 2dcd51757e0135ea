import NodeHeap.Policy
import NodeHeap.Text.Path

/-!
# Configurations

A configuration is built from settings, the last one of a kind wins, and is valid when it names a
node tree and does not ask for a default node in two ways (`Config.validate`).
-/

namespace NodeHeap

/-- Where the node tree of the running system lies. -/
def systemRoot : String := "/sys/devices/system/node"

/-- What an allocator is made with. -/
structure Config where
  policy : Policy := .default
  defaultNode : Option NodeId := none
  /-- Whether the caller's node becomes the default node on first use. -/
  localDefault : Bool := false
  /-- Whether usage accounting is serialized from the start. -/
  threadSafe : Bool := false
  /-- Where the node tree lies. -/
  sysfsRoot : String := systemRoot
  deriving DecidableEq, Repr

/-- One choice made while a configuration is put together. -/
inductive Setting where
  | policy (policy : Policy)
  | defaultNode (node : NodeId)
  | localDefault (on : Bool)
  | threadSafe (on : Bool)
  | sysfsRoot (root : String)
  deriving DecidableEq, Repr

namespace Config

/-- The configuration with one choice made. -/
def apply (config : Config) : Setting → Config
  | .policy policy => { config with policy }
  | .defaultNode node => { config with defaultNode := some node }
  | .localDefault localDefault => { config with localDefault }
  | .threadSafe threadSafe => { config with threadSafe }
  | .sysfsRoot sysfsRoot => { config with sysfsRoot }

/-- The configuration itself if it is valid. Of two faults the doubled default node is reported. -/
def validate (config : Config) : Except AllocError Config :=
  if config.defaultNode.isSome ∧ config.localDefault then
    .error (.invalidConfig .exclusiveDefaults)
  else if config.sysfsRoot = "" then .error (.invalidConfig .emptyRoot)
  else .ok config

/-- The valid configuration that a list of settings makes out of `config`. -/
def build (config : Config) (settings : List Setting) : Except AllocError Config :=
  (settings.foldl apply config).validate

/-- Whether the configuration is the one without settings. The root is compared as a path. -/
def isDefault (config : Config) : Bool :=
  config.policy = .default ∧ config.defaultNode = none ∧ config.localDefault = false ∧
    config.threadSafe = false ∧ Text.Path.ofString config.sysfsRoot = Text.Path.ofString systemRoot

end Config

end NodeHeap

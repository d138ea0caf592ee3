import SigilLookup.Key

/-!
# Events

The log is a list of events. Each event has a level, a message and fields; a field is a text or
a count.
-/

namespace SigilLookup

inductive Level where
  | trace
  | debug
  | info
  | warn
deriving DecidableEq

def Level.label : Level → String
  | .trace => "TRACE"
  | .debug => "DEBUG"
  | .info => "INFO"
  | .warn => "WARN"

inductive FieldValue where
  | text (value : String)
  | count (value : Nat)
deriving DecidableEq

/-- What happened. -/
inductive Event where
  | settingRuntimeValue (key : String)
  | resolvingKey (kind : Kind) (name : String)
  /-- A computed provider took the empty slot. -/
  | registeredComputed (computations : Nat)
  /-- A computed provider was merged into the registered one. -/
  | mergedComputed (added total : Nat)
  /-- A batch of computed providers took the empty slot. -/
  | registeredComputedBatch (providers total : Nat)
  /-- A batch of computed providers was merged into the registered one. -/
  | mergedComputedBatch (providers total : Nat)
  /-- A constants provider took the empty slot. -/
  | registeredConstants (constants fileConstants : Nat)
  /-- Constants were merged into one provider. -/
  | mergedConstants (constants fileConstants : Nat)
  | loadedConstantsFile (path : String) (count : Nat)
  | loadedFileConstants (dir : String) (count : Nat)
  | skippedDirectory (dir : String)
  | registeredConfigured (sources constants fileConstants : Nat)
deriving DecidableEq

namespace Event

def level : Event → Level
  | .settingRuntimeValue _ => .trace
  | .resolvingKey .. => .trace
  | .skippedDirectory _ => .warn
  | .registeredConfigured .. => .info
  | _ => .debug

def message : Event → String
  | .settingRuntimeValue _ => "setting runtime value"
  | .resolvingKey .. => "resolving key"
  | .registeredComputed _ => "registered computed provider"
  | .mergedComputed .. => "merged computed provider"
  | .registeredComputedBatch .. => "registered computed provider batch"
  | .mergedComputedBatch .. => "merged computed provider batch"
  | .registeredConstants .. => "registered constants provider"
  | .mergedConstants .. => "merged constants provider"
  | .loadedConstantsFile .. => "loaded constants file"
  | .loadedFileConstants .. => "loaded file constants"
  | .skippedDirectory _ => "file constants path is not a directory, skipping"
  | .registeredConfigured .. => "registered configured constants"

def fields : Event → List (String × FieldValue)
  | .settingRuntimeValue key => [("key", .text key)]
  | .resolvingKey kind name => [("kind", .text kind.label), ("name", .text name)]
  | .registeredComputed computations => [("computations", .count computations)]
  | .mergedComputed added total => [("added", .count added), ("total", .count total)]
  | .registeredComputedBatch providers total =>
    [("providers", .count providers), ("total", .count total)]
  | .mergedComputedBatch providers total =>
    [("providers", .count providers), ("total", .count total)]
  | .registeredConstants constants fileConstants =>
    [("constants", .count constants), ("file_constants", .count fileConstants)]
  | .mergedConstants constants fileConstants =>
    [("constants", .count constants), ("file_constants", .count fileConstants)]
  | .loadedConstantsFile path count => [("path", .text path), ("count", .count count)]
  | .loadedFileConstants dir count => [("dir", .text dir), ("count", .count count)]
  | .skippedDirectory dir => [("dir", .text dir)]
  | .registeredConfigured sources constants fileConstants =>
    [("sources", .count sources), ("constants", .count constants),
      ("file_constants", .count fileConstants)]

end Event

end SigilLookup

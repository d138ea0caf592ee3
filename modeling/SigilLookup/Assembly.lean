import SigilLookup.Loader
import SigilLookup.Resolver.Session
import SigilLookup.Settings.Setting

/-!
# Assembling a resolver

A resolver is assembled from settings: one provider for each constants document and then one for
each directory of file constants, in the order of the settings, registered as one batch. A
configured path that is not a directory is passed over with a warning, unless the settings call
that an error. The first source that cannot be loaded is the outcome.

The log is kept also when the assembly fails: it tells of what was loaded before.
-/

namespace SigilLookup

/-- Why a resolver cannot be assembled. -/
inductive AssemblyError where
  | loader (error : LoaderError)
  | registration (error : EmptyBatch)
deriving DecidableEq

def AssemblyError.message : AssemblyError → String
  | .loader error => error.message
  | .registration error => error.message

/-- A source of constants in the settings. -/
inductive Source where
  | file (path : Path)
  | dir (path : Path)
deriving DecidableEq

namespace Assembly

/-- The sources of the settings, in the order in which they are loaded. -/
def sources (settings : Settings) : List Source :=
  settings.constantsFiles.map .file ++ settings.fileConstantsDirs.map .dir

def isSkipped (settings : Settings) (fs : FileSystem) : Source → Bool
  | .file _ => false
  | .dir path => !settings.failOnMissingDir && !fs.isDir path

def load (fs : FileSystem) : Source → Except LoaderError (ConstantsProvider × Event)
  | .file path => Loader.constantsProvider fs path
  | .dir path => Loader.fileConstantsProvider fs path

def warning : Source → Event
  | .file path => .skippedDirectory path.display
  | .dir path => .skippedDirectory path.display

/-- Loads sources in order up to the first that cannot be loaded; the events of what was done come
with the outcome either way. -/
def loadAll (settings : Settings) (fs : FileSystem) :
    List Source → Except LoaderError (List ConstantsProvider) × List Event
  | [] => (.ok [], [])
  | source :: rest =>
    if isSkipped settings fs source then
      let (outcome, events) := loadAll settings fs rest
      (outcome, warning source :: events)
    else
      match load fs source with
      | .error error => (.error error, [])
      | .ok (provider, event) =>
        let (outcome, events) := loadAll settings fs rest
        (outcome.map (provider :: ·), event :: events)

/-- Registers the providers of the sources, if there are any. -/
def register (resolver : Resolver) (providers : List ConstantsProvider) :
    Except EmptyBatch (Resolver × List Event) :=
  if providers.isEmpty then .ok (resolver, [])
  else
    (resolver.registerConstantsBatch providers).map fun (resolver, event) =>
      (resolver, [event, .registeredConfigured providers.length resolver.constantNames.length
        resolver.fileConstantNames.length])

def build (settings : Settings) (fs : FileSystem) :
    Except AssemblyError Resolver × List Event :=
  let (outcome, events) := loadAll settings fs (sources settings)
  match outcome with
  | .error error => (.error (.loader error), events)
  | .ok providers =>
    match register (.withGrammar settings.grammar) providers with
    | .error error => (.error (.registration error), events)
    | .ok (resolver, more) => (.ok resolver, events ++ more)

end Assembly

end SigilLookup

import PeSignals.Config.Configuration

/-!
# Cached configurations

A cache keeps the configuration that was loaded through it last. It loads a file when it is asked for
one by path, or when it is still empty. A load that fails leaves it as it was.
-/
namespace PeSignals

/-- The configuration loaded last, if any. -/
structure ConfigurationCache where
  current? : Option Configuration := none

namespace ConfigurationCache

/-- What a request to a cache gives. -/
structure Served where
  configuration : Configuration
  /-- Whether it was loaded for this request. -/
  fresh : Bool

def reload (cache : ConfigurationCache) (t : Files.FileTree) (path : Option String)
    (own : Option ByteArray := none) : ConfigurationCache × Except Configuration.Fault Served :=
  match Configuration.load t path own with
  | .ok loaded => (⟨some loaded⟩, .ok ⟨loaded, true⟩)
  | .error fault => (cache, .error fault)

/-- The configuration at a path, or without a path the cached one. -/
def get (cache : ConfigurationCache) (t : Files.FileTree) (path : Option String)
    (own : Option ByteArray := none) : ConfigurationCache × Except Configuration.Fault Served :=
  match cache.current?, path with
  | some current, none => (cache, .ok ⟨current, false⟩)
  | _, path => cache.reload t path own

end ConfigurationCache

end PeSignals

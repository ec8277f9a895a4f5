import SqlBuild.Options.Cache

/-!
# A store in memory

Artifacts of option sets without files. It counts what is saved, and can be broken.
-/

namespace SqlBuild

namespace Rehearsal

structure MemoryStore where
  /-- The artifacts, the latest of a key first. -/
  kept : List (CacheKey × Artifact) := []
  saves : Nat := 0
  isBroken : Bool := false

namespace MemoryStore

def load? (store : MemoryStore) (key : CacheKey) : Option Artifact := store.kept.lookup key

def put (store : MemoryStore) (key : CacheKey) (artifact : Artifact) : MemoryStore :=
  { store with kept := (key, artifact) :: store.kept }

def store : OptionStore MemoryStore where
  load memory key := if memory.isBroken then .error .broken else .ok (memory.load? key)
  save memory key artifact :=
    if memory.isBroken then .error .broken
    else .ok { memory.put key artifact with saves := memory.saves + 1 }

end MemoryStore

end Rehearsal

end SqlBuild

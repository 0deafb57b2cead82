import FlagHost.Configuration

/-!
# The store

The store holds the latest configuration, if there is one. Who reads it gets a whole configuration,
which later changes of the store do not touch.
-/

namespace FlagHost

structure Store where
  snapshot : Option Configuration := none

namespace Store

def publish (_ : Store) (configuration : Configuration) : Store := ⟨some configuration⟩

def clear (_ : Store) : Store := {}

@[simp] theorem snapshot_publish (store : Store) (configuration : Configuration) :
    (store.publish configuration).snapshot = some configuration := rfl

@[simp] theorem snapshot_clear (store : Store) : store.clear.snapshot = none := rfl

end Store

end FlagHost

import FlagHost.Client.Value
import FlagHost.Target

/-!
# Clients

A client answers what values flags have for targets. It may not be initialized, and after it has
been destroyed it is not, as a rule; it then answers with the value that the caller gives.
-/

namespace FlagHost

class FlagClient (γ : Type) where
  /-- Whether the client has what it needs to evaluate flags. -/
  isInitialized : γ → Bool
  /-- Whether the client turned out to be initialized when its start was waited for. -/
  becameReady : γ → Bool
  /-- The client after it has given up what it holds. -/
  destroy : γ → γ
  /-- The value of a flag for a target, or else the value given. -/
  value : γ → (kind : Flag.Kind) → (key : String) → Target → kind.Value → kind.Value

end FlagHost

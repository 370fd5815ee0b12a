import Giro.Config
import Giro.Token.Key

/-!
# The running service

What the service keeps besides the store: its signing key, how long tokens live and how long a
request may take.
-/

namespace Giro

structure Service where
  key : Key
  accessDuration : Span
  refreshDuration : Span
  timeoutSeconds : UInt64

/-- Why a service does not start. -/
inductive StartError where
  | token (why : TokenError)
  | overflow (why : TimeOverflow)

def Service.start (c : Config) : Except StartError Service := do
  let key ← (Key.ofText? c.tokenKey).mapError .token
  let accessDuration ← c.accessDuration.mapError .overflow
  let refreshDuration ← c.refreshDuration.mapError .overflow
  return { key, accessDuration, refreshDuration, timeoutSeconds := c.requestTimeoutSeconds }

end Giro

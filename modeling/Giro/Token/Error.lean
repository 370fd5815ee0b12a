/-!
# Why a token is not accepted or made
-/

namespace Giro

inductive TokenError where
  | keyTooShort
  | expired
  | invalid
  | signing (reason : String)
  deriving DecidableEq

def TokenError.message : TokenError → String
  | .keyTooShort => "invalid key size: must be at least 32 characters"
  | .expired => "token has expired"
  | .invalid => "token is invalid"
  | .signing reason => "failed to sign token: " ++ reason

end Giro

import Giro.Currency

/-!
# Why a request is invalid

Every reason for which a request is refused on its own terms, before or without asking whether the
caller may make it.
-/

namespace Giro

inductive Invalid where
  | idsNotPositive
  | amountNotPositive
  | sameAccount
  | unsupportedCurrency (code : String)
  | currencyMismatch (account : Int) (held wanted : Currency)
  | accountIdNotPositive
  | pageId
  | pageSize
  | pageRange
  | username
  | password
  | fullName
  | email
  | stated (reason : String)

def Invalid.message : Invalid → String
  | .idsNotPositive => "account ids must be positive"
  | .amountNotPositive => "amount must be positive"
  | .sameAccount => "cannot transfer to the same account"
  | .unsupportedCurrency code => "unsupported currency: " ++ code
  | .currencyMismatch account held wanted =>
    s!"account [{account}] currency mismatch: " ++ held.code ++ " vs " ++ wanted.code
  | .accountIdNotPositive => "account id must be positive"
  | .pageId => "page_id must be at least 1"
  | .pageSize => "page_size must be between 5 and 10"
  | .pageRange => "page_id out of range"
  | .username => "username must be non-empty and alphanumeric"
  | .password => "password must be at least 6 characters"
  | .fullName => "full_name is required"
  | .email => "email is invalid"
  | .stated reason => reason

end Giro

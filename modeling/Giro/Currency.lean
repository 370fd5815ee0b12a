/-!
# Currencies

The closed set of currencies that an account can hold, and their three-letter codes.
-/

namespace Giro

inductive Currency where
  | usd
  | eur
  | inr
  deriving DecidableEq

namespace Currency

def all : List Currency := [.usd, .eur, .inr]

def code : Currency → String
  | .usd => "USD"
  | .eur => "EUR"
  | .inr => "INR"

def ofCode? (s : String) : Option Currency := all.find? fun c => c.code == s

/-- What a document with another text in the place of a code is told. -/
def unknownCode (s : String) : String :=
  "unknown variant `" ++ s ++ "`, expected one of " ++
    ", ".intercalate (all.map fun c => "`" ++ c.code ++ "`")

@[simp] theorem ofCode?_code (c : Currency) : ofCode? c.code = some c := by cases c <;> rfl

theorem code_of_ofCode? {s : String} {c : Currency} (h : ofCode? s = some c) : c.code = s := by
  have := List.find?_some h
  simpa using this

end Currency
end Giro

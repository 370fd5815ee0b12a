import Giro.Http.Request

/-!
# Media types

`type/subtype` with parameters behind semicolons. The last plus sign of a subtype parts it from its
suffix, unless it comes first. JSON is the subtype or the suffix `json` of `application`, in either
case. What is not a well-formed media type is no JSON.
-/

namespace Giro.Http.MediaType

open Text

def isTokenChar (c : Char) : Bool :=
  c.isAlphanum ||
    ['!', '#', '$', '%', '&', '*', '+', '-', '.', '^', '_', '|', '~', Char.ofNat 39,
      Char.ofNat 96].contains c

/-- What follows a quoted value. -/
def afterQuoted : List Char → Option (List Char)
  | [] => some []
  | ' ' :: rest => afterQuoted rest
  | ';' :: rest => some rest
  | _ => none

def isQuotable (c : Char) : Bool := 32 ≤ c.toNat && c.toNat != 127

/-- Takes a quoted value. It has a first character, which may be a quote, and ends at the next quote
after that. -/
def takeQuoted : List Char → Option (List Char)
  | [] => none
  | first :: cs =>
    match cut? '"' cs with
    | some (value, rest) =>
      if isQuotable first && value.all isQuotable then afterQuoted rest else none
    | none => none

/-- Takes a parameter's value; an unquoted one may be empty only at the end. -/
def takeValue (cs : List Char) : Option (List Char) :=
  match cs with
  | '"' :: rest => takeQuoted rest
  | _ =>
    let value := cs.takeWhile isTokenChar
    match cs.dropWhile isTokenChar with
    | [] => some []
    | ';' :: rest => if value.isEmpty then none else some rest
    | _ => none

/-- Whether the rest is parameters. Each takes a character, so the length bounds their number. -/
def areParameters : Nat → List Char → Bool
  | 0, cs => cs.isEmpty
  | fuel + 1, cs =>
    match cs.dropWhile (· == ' ') with
    | [] => true
    | cs =>
      let name := cs.takeWhile isTokenChar
      match cs.dropWhile isTokenChar with
      | '=' :: rest =>
        !name.isEmpty &&
          match takeValue rest with
          | some rest => areParameters fuel rest
          | none => false
      | _ => false

/-- Whether a subtype or its suffix is JSON. -/
def isJsonSubtype (subtype : List Char) : Bool :=
  match cutLast? '+' subtype with
  | some (before, suffix) =>
    !before.isEmpty && (before == "json".toList || suffix == "json".toList)
  | none => subtype == "json".toList

def isJson (value : String) : Bool :=
  match cut? '/' value.toList with
  | none => false
  | some (type, rest) =>
    let subtype := rest.takeWhile isTokenChar
    let wellFormed :=
      match rest.dropWhile isTokenChar with
      | [] => true
      | ';' :: parameters => !subtype.isEmpty && areParameters (parameters.length + 1) parameters
      | _ => false
    wellFormed && type.map Char.toLower == "application".toList &&
      isJsonSubtype (subtype.map Char.toLower)

end Giro.Http.MediaType

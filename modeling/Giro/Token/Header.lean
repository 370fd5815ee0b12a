import Giro.Token.Claims

/-!
# The header of a token

A header names the signing method, which must be `HS256`. Other registered fields may be there, once
each and of their own type; unknown members are passed over. A header may also be the list of all
ten registered fields in their order. A public key must be readable in all its parts, those that
nobody asks for included.
-/

namespace Giro.Token

open Json

def writeHeader : List UInt8 := Json.write (.object [("typ", .text "JWT"), ("alg", .text "HS256")])

namespace Header

/-! ## Public keys -/

namespace PublicKey

/-- The values of all members with this name. -/
def valuesOf (name : String) (members : List (String × Tree)) : List Tree :=
  (members.filter fun m => m.1 == name).map Prod.snd

def orNull (test : Tree → Bool) : Tree → Bool
  | .null => true
  | v => test v

/-- A name out of a choice with nothing beside it. -/
def isChoice (names : List String) (v : Tree) : Bool :=
  match v.choice? with
  | some (name, .null) => names.contains name
  | _ => false

/-- A name out of a choice with nothing beside it, or with an empty object. -/
def isLooseChoice (names : List String) (v : Tree) : Bool :=
  match v.choice? with
  | some (name, .null) | some (name, .object []) => names.contains name
  | _ => false

def algorithms : List String :=
  ["HS256", "HS384", "HS512", "ES256", "ES384", "RS256", "RS384", "RS512", "PS256", "PS384",
    "PS512", "EdDSA", "RSA1_5", "RSA-OAEP", "RSA-OAEP-256"]

def curves : List String := ["P-256", "P-384", "P-521", "Ed25519"]

/-- The fields that each type of key must have. -/
def shapes : List (List (String × (Tree → Bool))) := [
  [("kty", isChoice ["EC"]), ("crv", isChoice curves), ("x", Tree.isText), ("y", Tree.isText)],
  [("kty", isChoice ["RSA"]), ("n", Tree.isText), ("e", Tree.isText)],
  [("kty", isChoice ["oct"]), ("k", Tree.isText)],
  [("kty", isChoice ["OKP"]), ("crv", isChoice curves), ("x", Tree.isText)]]

/-- The fields that any key may have. -/
def commonFields : List (String × (Tree → Bool)) := [
  ("use", orNull Tree.isText), ("key_ops", orNull Tree.isTextList),
  ("alg", orNull (isLooseChoice algorithms)),
  ("kid", orNull Tree.isText), ("x5u", orNull Tree.isText), ("x5c", orNull Tree.isTextList),
  ("x5t", orNull Tree.isText), ("x5t#S256", orNull Tree.isText)]

/-- Every field once and of its type. -/
def hasAll (fields : List (String × (Tree → Bool))) (members : List (String × Tree)) : Bool :=
  fields.all fun (name, test) =>
    match valuesOf name members with
    | [v] => test v
    | _ => false

/-- Every field at most once and of its type. -/
def allowsAll (fields : List (String × (Tree → Bool))) (members : List (String × Tree)) : Bool :=
  fields.all fun (name, test) =>
    match valuesOf name members with
    | [] => true
    | [v] => test v
    | _ => false

def accepts : Tree → Bool
  | .object members =>
    allowsAll commonFields members && shapes.any fun shape => hasAll shape members
  | _ => false

end PublicKey

/-! ## Headers -/

def isText (s : Slot) : Bool := s.value.text?.isSome

def isTextList (s : Slot) : Bool :=
  match s.value with
  | .list inside => (Value.items? inside).any fun items => items.all fun v => v.text?.isSome
  | _ => false

def orNull (test : Slot → Bool) (s : Slot) : Bool :=
  match s.value with
  | .null => true
  | _ => test s

def isPublicKey (s : Slot) : Bool :=
  match Tree.read s.input with
  | .ok (key, _) => PublicKey.accepts key
  | .error _ => false

def isMethod (s : Slot) : Bool := s.value.choice? == some "HS256"

/-- The registered fields in their order. -/
def fields : List (String × (Slot → Bool)) := [
  ("typ", orNull isText), ("alg", isMethod), ("cty", orNull isText), ("jku", orNull isText),
  ("jwk", orNull isPublicKey), ("kid", orNull isText), ("x5u", orNull isText),
  ("x5c", orNull isTextList), ("x5t", orNull isText), ("x5t#S256", orNull isText)]

/-- Every field at most once and of its type, and a method. -/
def acceptsMembers (members : List Member) : Bool :=
  (Member.only? "alg" members).isSome &&
    fields.all fun (name, test) =>
      match Member.slotsOf name members with
      | [] => true
      | [s] => test s
      | _ => false

/-- Whether a header is well formed and names the one method. -/
def accepts (input : List UInt8) : Bool :=
  match Outline.read input with
  | .object members (.closed rest) => (skipBlanks rest).isEmpty && acceptsMembers members
  | .list items (.closed rest) =>
    (skipBlanks rest).isEmpty && items.length == fields.length &&
      (fields.zip items).all fun ((_, test), item) => test item
  | _ => false

end Header
end Giro.Token

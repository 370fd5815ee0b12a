import Giro.Json.Outline
import Giro.Json.Tree
import Giro.Json.Value
import Giro.Time
import Giro.Uuid

/-!
# The claims of a token

A token says who it is for, what kind it is, and when it was issued and expires. Written claims have
a fixed order. Read claims are an object with the five claims once each, among others that are
passed over. Three further claims have a registered meaning: they may not repeat either, and an
audience is remembered because nobody here is one. One of the three that cannot be read is passed
over too, if its reader stops where the value ends.
-/

namespace Giro

inductive TokenKind where
  | access
  | refresh
  deriving DecidableEq

def TokenKind.name : TokenKind → String
  | .access => "access"
  | .refresh => "refresh"

def TokenKind.ofName? (s : String) : Option TokenKind :=
  [TokenKind.access, .refresh].find? fun k => k.name == s

structure Claims where
  id : Uuid
  subject : String
  kind : TokenKind
  issuedAt : Int
  expiresAt : Int
  hasAudience : Bool := false
  deriving DecidableEq

namespace Json

/-- The members of a document that is one object. -/
def members? (input : List UInt8) : Option (List Member) :=
  match Outline.read input with
  | .object members (.closed rest) => if (skipBlanks rest).isEmpty then some members else none
  | _ => none

namespace Member

def slot? (m : Member) : Option Slot := m.slot.toOption

/-- What starts with the values of all members of this name. -/
def slotsOf (name : String) (members : List Member) : List Slot :=
  (members.filter fun m => m.key == name).filterMap slot?

/-- The value of the only member with this name. -/
def only? (name : String) (members : List Member) : Option Value :=
  match slotsOf name members with
  | [s] => some s.value
  | _ => none

end Member

namespace Value

/-- The items of a list, given as what follows its bracket. -/
def items? (inside : List UInt8) : Option (List Value) :=
  match readItems (inside.length + 1) true inside with
  | (items, .closed _) => some (items.map Slot.value)
  | _ => none

/-- The members of an object, given as what follows its brace. -/
def innerMembers? (inside : List UInt8) : Option (List Member) :=
  match readMembers (inside.length + 1) true inside with
  | (members, .closed _) => some members
  | _ => none

/-- A name out of a choice, written as a text or as an object with that single member, which is
null. -/
def choice? : Value → Option String
  | .text (.ok s) => some s
  | .object inside =>
    match innerMembers? inside with
    | some [⟨name, .ok slot⟩] => if slot.value.isNull then some name else none
    | _ => none
  | _ => none

end Value
end Json

namespace Claims

open Json

def write (c : Claims) : List UInt8 :=
  Json.write (.object [("jti", .text c.id.text), ("sub", .text c.subject),
    ("typ", .text c.kind.name), ("iat", .number c.issuedAt), ("exp", .number c.expiresAt)])

/-- Whether a reader stops where the value ends, whatever it makes of the value. -/
def stopsAtEnd {α : Type} (reader : List UInt8 → Except Stop (α × List UInt8)) (s : Slot) : Bool :=
  match skipValue s.input.length s.input with
  | .ok rest => (standing (reader s.input)).length == rest.length
  | .error _ => false

/-- At most one claim of the name, and that one does not stop the reading of others. -/
def isTolerable {α : Type} (reader : List UInt8 → Except Stop (α × List UInt8)) (name : String)
    (members : List Member) : Bool :=
  match Member.slotsOf name members with
  | [] => true
  | [s] => stopsAtEnd reader s
  | _ => false

/-- Whether the claim names somebody: a text, or a list of texts. -/
def isAudience (s : Slot) : Bool :=
  match Tree.read s.input with
  | .ok (audience, _) => audience.isText || audience.isTextList
  | .error _ => false

def read (input : List UInt8) : Option Claims := do
  let members ← members? input
  let id ← Uuid.ofText? (← (← Member.only? "jti" members).text?)
  let subject ← (← Member.only? "sub" members).text?
  let kind ← TokenKind.ofName? (← (← Member.only? "typ" members).choice?)
  let issuedAt ← (← Member.only? "iat" members).integer?
  let expiresAt ← (← Member.only? "exp" members).integer?
  guard (isTolerable Tree.readFlat "nbf" members)
  guard (isTolerable Tree.read "iss" members)
  guard (isTolerable Tree.read "aud" members)
  return {
    id, subject, kind, issuedAt, expiresAt
    hasAudience := (Member.slotsOf "aud" members).any isAudience }

end Claims
end Giro

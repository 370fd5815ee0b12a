import Giro.Http.Response
import Giro.Proofs.Dates

/-!
# What clients read

A client takes the body of a response apart by the names of its members. The items of a listing tell
the entries that are listed, to the last field: `Response.entries?_ofJson`. The body of a refusal
tells its code: `Response.code?_ofNotice`.
-/

namespace Giro

namespace Json

/-- The first member of an object with this name. -/
def member? (name : String) : Json → Option Json
  | .object members => (members.find? fun m => m.1 == name).map Prod.snd
  | _ => none

def integer? : Json → Option Int
  | .number n => some n
  | _ => none

def text? : Json → Option String
  | .text s => some s
  | _ => none

end Json

/-- The amount of a number, unless it is none of 64 bits. -/
def Amount.ofInt? (n : Int) : Option Amount :=
  if InRange n then some (Int64.ofInt n) else none

theorem Amount.ofInt?_toInt (a : Amount) : ofInt? a.toInt = some a := by
  rw [ofInt?, if_pos (inRange_toInt a), Int64.ofInt_toInt]

namespace Entry

/-- The entry that an item shows. -/
def ofJson? (item : Json) : Option Entry := do
  let id ← (← item.member? "id").integer?
  let account ← (← item.member? "account_id").integer?
  let amount ← Amount.ofInt? (← (← item.member? "amount").integer?)
  let createdAt ← Timestamp.ofText? (← (← item.member? "created_at").text?)
  return { id, account, amount, createdAt }

theorem ofJson?_json (e : Entry) : ofJson? e.json = some e := by
  have id : e.json.member? "id" = some (.number e.id) := rfl
  have account : e.json.member? "account_id" = some (.number e.account) := rfl
  have amount : e.json.member? "amount" = some (.number e.amount.toInt) := rfl
  have createdAt : e.json.member? "created_at" = some (.text e.createdAt.text) := rfl
  simp only [ofJson?, id, account, amount, createdAt, Json.integer?, Json.text?,
    Option.bind_eq_bind, Option.bind_some, Amount.ofInt?_toInt, Timestamp.ofText?_text]
  rfl

end Entry

namespace Http.Response

/-- The entries that are listed in a successful answer. -/
def entries? (response : Response) : Option (List Entry) :=
  match response.status, response.contentType, response.body with
  | 200, some "application/json", .json (.array items) => items.mapM Entry.ofJson?
  | _, _, _ => none

theorem entries?_ofJson (es : List Entry) :
    (ofJson 200 (.array (es.map Entry.json))).entries? = some es := by
  change (es.map Entry.json).mapM Entry.ofJson? = some es
  induction es with
  | nil => rfl
  | cons e es ih =>
    rw [List.map_cons, List.mapM_cons, Entry.ofJson?_json, ih]
    rfl

/-- The code in the body of a response to a refusal. -/
def code? (response : Response) : Option String :=
  match response.body with
  | .json (.object [("error", .object [("code", .text code), ("message", _)])]) => some code
  | _ => none

theorem code?_ofNotice (n : Notice) : (ofNotice n).code? = some n.code := rfl

end Http.Response
end Giro

import Giro.Overflow
import Giro.Store.Call

/-!
# Programs

A program is what a caller of the store does: it asks one call at a time and goes on with the
answer, until it is done or until arithmetic overflows. Programs say nothing about the store that
answers, so the same program is run alone, interleaved with others, cut off half way, or against a
store that fails.
-/

namespace Giro

inductive Program (α : Type) where
  | done (a : α)
  | overflow (why : Overflow)
  | ask (c : Call) (next : Except StoreError c.Reply → Program α)

namespace Program

variable {α β : Type}

def bind : Program α → (α → Program β) → Program β
  | .done a, f => f a
  | .overflow why, _ => .overflow why
  | .ask c next, f => .ask c fun answer => (next answer).bind f

instance : Monad Program where
  pure := .done
  bind := .bind

@[simp] theorem pure_eq (a : α) : (pure a : Program α) = .done a := rfl

@[simp] theorem bind_overflow (why : Overflow) (f : α → Program β) :
    (Program.overflow why >>= f) = .overflow why := rfl

@[simp] theorem bind_ask (c : Call) (next : Except StoreError c.Reply → Program α)
    (f : α → Program β) : (Program.ask c next >>= f) = .ask c fun answer => next answer >>= f :=
  rfl

theorem bind_pure_done (p : Program α) : p.bind .done = p := by
  induction p with
  | done | overflow => rfl
  | ask c next ih => simp [Program.bind, ih]

theorem bind_assoc {γ : Type} (p : Program α) (f : α → Program β) (g : β → Program γ) :
    (p.bind f).bind g = p.bind fun a => (f a).bind g := by
  induction p with
  | done | overflow => rfl
  | ask c next ih => simp [Program.bind, ih]

instance : LawfulMonad Program := .mk' Program bind_pure_done (fun _ _ => rfl) bind_assoc

/-- Goes on with what arithmetic gives, unless it overflows. -/
def compute : Except Overflow α → Program α
  | .ok a => .done a
  | .error why => .overflow why

end Program

/-- A program whose result may be an error. -/
abbrev Attempt (ε : Type) := ExceptT ε Program

namespace Attempt

/-- Asks one call and stops at its error. -/
def call (c : Call) : Attempt StoreError c.Reply := ExceptT.mk (.ask c .done)

/-- Gives errors another type. -/
def mapError {ε δ α : Type} (f : ε → δ) (a : Attempt ε α) : Attempt δ α :=
  ExceptT.mk (a.run.bind fun r => .done (r.mapError f))

/-- Goes on with the value, or stops at the error. -/
def demand {ε α : Type} (r : Except ε α) : Attempt ε α := ExceptT.mk (.done r)

def compute {ε α : Type} (r : Except Overflow α) : Attempt ε α := ExceptT.lift (Program.compute r)

/-- Does date arithmetic. -/
def ofTime {ε α : Type} (r : Except TimeOverflow α) : Attempt ε α := compute (r.mapError .time)

end Attempt
end Giro

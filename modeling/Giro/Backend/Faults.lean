import Giro.Backend

/-!
# Planned failures

A backend around another one that fails chosen calls and keeps a log of what is done to
transactions. A fault names a kind of call, how many such calls it lets pass, and the error of the
next one, which is then not made. Only the oldest fault for a kind counts. A commit or rollback that
fails this way ends its transaction without a trace.
-/

namespace Giro

open Store (Status)

/-- The kinds of call. -/
inductive CallKind where
  | ping | createUser | getUser | createSession | getSession | createAccount | getAccount
  | listAccounts | deleteAccount | getEntry | listEntries | getTransfer | listTransfers
  | begin | stageTransfer | stageEntry | addBalance | commit | rollback
  deriving DecidableEq

def Call.kind : Call → CallKind
  | .ping => .ping
  | .createUser _ => .createUser
  | .getUser _ => .getUser
  | .createSession _ => .createSession
  | .getSession _ => .getSession
  | .createAccount _ => .createAccount
  | .getAccount _ => .getAccount
  | .listAccounts _ _ => .listAccounts
  | .deleteAccount _ => .deleteAccount
  | .getEntry _ => .getEntry
  | .listEntries _ _ => .listEntries
  | .getTransfer _ => .getTransfer
  | .listTransfers _ _ _ => .listTransfers
  | .begin => .begin
  | .stageTransfer _ _ _ _ => .stageTransfer
  | .stageEntry _ _ _ => .stageEntry
  | .addBalance _ _ _ => .addBalance
  | .commit _ => .commit
  | .rollback _ => .rollback

structure Fault where
  kind : CallKind
  skip : Nat
  error : StoreError

/-- A step of a transaction, as it is logged. -/
inductive LogLine where
  | begin
  | stageTransfer (source target : Int) (amount : Amount)
  | stageEntry (account : Int) (amount : Amount)
  | addBalance (account : Int) (amount : Amount)
  | commit
  | rollback

def Call.logLine? : Call → Option LogLine
  | .begin => some .begin
  | .stageTransfer _ source target amount => some (.stageTransfer source target amount)
  | .stageEntry _ account amount => some (.stageEntry account amount)
  | .addBalance _ account amount => some (.addBalance account amount)
  | .commit _ => some .commit
  | .rollback _ => some .rollback
  | _ => none

/-- The transaction that a failure of this call ends. -/
def Call.ends? : Call → Option Nat
  | .commit ticket | .rollback ticket => some ticket
  | _ => none

/-- Counts a call against the oldest fault of its kind, which fires when nothing is left to skip. -/
def Fault.strike (kind : CallKind) : List Fault → Option StoreError × List Fault
  | [] => (none, [])
  | f :: faults =>
    if f.kind = kind then
      if f.skip = 0 then (some f.error, faults) else (none, { f with skip := f.skip - 1 } :: faults)
    else
      let (error, faults) := strike kind faults
      (error, f :: faults)

structure Observed (σ : Type) where
  inner : σ
  faults : List Fault := []
  log : List LogLine := []

namespace Backend

variable {σ : Type}

def observed (b : Backend σ) : Backend (Observed σ) where
  perform now c s :=
    let log := s.log ++ c.logLine?.toList
    match Fault.strike c.kind s.faults with
    | (some e, faults) =>
      let inner := match c.ends? with
        | some ticket => b.discard ticket s.inner
        | none => s.inner
      (⟨inner, faults, log⟩, .answered (.error e))
    | (none, faults) =>
      let (inner, status) := b.perform now c s.inner
      (⟨inner, faults, log⟩, status)
  resume now r c s :=
    let (inner, status) := b.resume now r c s.inner
    ({ s with inner }, status)
  withdraw r s := { s with inner := b.withdraw r s.inner }
  discard ticket s := { s with inner := b.discard ticket s.inner }

end Backend
end Giro

import Giro.Store.Error

/-!
# Failures of a database

What a database client can report, and which store error each report is. Three states mean that a
transaction lost a race; so does the loss of the connection. Whatever else the database says is a
broken constraint of the kind it names.
-/

namespace Giro

/-- The kind of constraint that a database names in its report. -/
inductive ReportedKind where
  | unique
  | foreignKey
  | notNull
  | check
  | other

inductive DatabaseFailure where
  | rowNotFound
  | report (code : Option String) (kind : ReportedKind) (message : String)
  | connection (message : String)
  | encryption (message : String)
  | protocol (message : String)
  | poolTimedOut
  | poolClosed
  | workerCrashed
  | migration (message : String)
  | configuration (message : String)
  | invalidArgument (message : String)
  | typeNotFound (name : String)
  | columnNotFound (name : String)
  | columnOutOfBounds (index length : Nat)
  | columnDecode (column message : String)
  | encode (message : String)
  | decode (message : String)
  | driver (message : String)
  | invalidSavepoint
  | beginFailed

namespace DatabaseFailure

def message : DatabaseFailure → String
  | .rowNotFound => "no rows returned by a query that expected to return at least one row"
  | .report _ _ m => "error returned from database: " ++ m
  | .connection m => "error communicating with database: " ++ m
  | .encryption m => "error occurred while attempting to establish a TLS connection: " ++ m
  | .protocol m => "encountered unexpected or invalid data: " ++ m
  | .poolTimedOut => "pool timed out while waiting for an open connection"
  | .poolClosed => "attempted to acquire a connection on a closed pool"
  | .workerCrashed => "attempted to communicate with a crashed background worker"
  | .migration m => m
  | .configuration m => "error with configuration: " ++ m
  | .invalidArgument m => m
  | .typeNotFound name => "type named " ++ name ++ " not found"
  | .columnNotFound name => "no column found for name: " ++ name
  | .columnOutOfBounds index length =>
    s!"column index out of bounds: the len is {length}, but the index is {index}"
  | .columnDecode column m => "error occurred while decoding column " ++ column ++ ": " ++ m
  | .encode m => "error occurred while encoding a value: " ++ m
  | .decode m => "error occurred while decoding: " ++ m
  | .driver m => "error in Any driver mapping: " ++ m
  | .invalidSavepoint => "attempted to call begin_with at non-zero transaction depth"
  | .beginFailed => "got unexpected connection status after attempting to begin transaction"

/-- Serialization failure, deadlock, and a lock that is not available. -/
def lostRaceCodes : List String := ["40001", "40P01", "55P03"]

def ReportedKind.constraint : ReportedKind → Constraint
  | .unique => .unique
  | .foreignKey => .foreignKey
  | .check => .check
  | .notNull | .other => .other

def toStoreError : DatabaseFailure → StoreError
  | .rowNotFound => .notFound (.named "row")
  | .report code kind m =>
    if (code.map lostRaceCodes.contains).getD false then .aborted m
    else .constraint (.reported (ReportedKind.constraint kind) m)
  | f@(.connection _) | f@(.encryption _) | f@(.protocol _) => .aborted f.message
  | f@.poolTimedOut | f@.poolClosed | f@.workerCrashed => .aborted f.message
  | f => .constraint (.reported .other f.message)

end DatabaseFailure
end Giro

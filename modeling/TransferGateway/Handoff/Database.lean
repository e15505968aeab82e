import TransferGateway.Handoff.Queue

/-!
# The store in a database

What the calls of a store kept in a database report when no connection can be had.  A block
size that its column cannot hold is found out before the database is asked.
-/

namespace TransferGateway.DatabaseStore

/-- What the database says when its connections are closed. -/
def closed : String := "attempted to acquire a connection on a closed pool"

/-- The value of the block size column, which holds 32 bits with a sign. -/
def blockSizeColumn (blockSize : Nat) : Except StoreError Nat :=
  if blockSize < Nat.pow 2 31 then .ok blockSize
  else .error (.serialization ("Block size out of range: " ++ toString blockSize))

/-- The error of creating a row. -/
def createError (cause : String) (descriptor : Descriptor) : StoreError :=
  match blockSizeColumn descriptor.blockSize with
  | .error e => e
  | .ok _ => .database ("Failed to create queued transfer: " ++ cause)

/-- The error of marking a row. -/
def markError (cause : String) (id : Int) : StoreError :=
  .database ("Failed to update queued transfer " ++ toString id ++ ": " ++ cause)

/-- The error of deleting a row. -/
def deleteError (cause : String) (id : Int) : StoreError :=
  .database ("Failed to delete queued transfer " ++ toString id ++ ": " ++ cause)

/-- The error of looking up a rule. -/
def ruleError (cause : String) (name : String) : StoreError :=
  .database ("Failed to look up rule " ++ name ++ ": " ++ cause)

/-- The error of finding a row. -/
def findError (cause : String) : StoreError := .database cause

/-- The error of a query that must give a row and gives none. -/
def noRow : StoreError := .notFound "Row not found"

end TransferGateway.DatabaseStore

import CustomFields.Store.Basic

/-!
# Filters and pages

A listing keeps the records that a filter asks for, puts them in the order of their creation, and
returns a page of them. Records of the same moment are in the order of their ids, so the order
does not depend on how they came.
-/

namespace CustomFields

/-- Which records are asked for, and which part of their list. -/
structure RecordFilter where
  tenantId : Option Uuid := none
  entityType : Option String := none
  skip : Nat := 0
  limit : Nat := 100
deriving DecidableEq, Repr

namespace RecordFilter

/-- The first page of all records. -/
def all : RecordFilter := {}

/-- Asks for the records of a tenant only. -/
def forTenant (f : RecordFilter) (tenantId : Uuid) : RecordFilter :=
  { f with tenantId := some tenantId }

/-- Asks for the records of an entity type only. -/
def forEntityType (f : RecordFilter) (entityType : String) : RecordFilter :=
  { f with entityType := some entityType }

/-- Asks for another page. -/
def page (f : RecordFilter) (skip limit : Nat) : RecordFilter :=
  { f with skip, limit }

/-- Whether a record is one that the filter asks for. -/
def isMatch (f : RecordFilter) (r : Record) : Bool :=
  f.tenantId.all (· == r.tenantId) && f.entityType.all (· == r.entityType)

/-- Whether a record does not stand behind another in a listing. -/
def precedes (a b : Record) : Bool :=
  match a.createdAt.compare b.createdAt with
  | .lt => true
  | .eq => decide (a.id ≤ b.id)
  | .gt => false

/-- The page of the records that the filter asks for. -/
def apply (f : RecordFilter) (records : List Record) : List Record :=
  (((records.filter f.isMatch).mergeSort precedes).drop f.skip).take f.limit

end RecordFilter

end CustomFields

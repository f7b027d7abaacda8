import RestScaffold.SortedMap
import RestScaffold.Decimal.Double

/-! Policy records of a configuration. Every field may be left unset, so that one record can be laid
over another. -/
namespace RestScaffold

inductive SortOrder where
  | asc
  | desc
  deriving DecidableEq, Repr

def SortOrder.sql : SortOrder → String
  | .asc => "ASC"
  | .desc => "DESC"

def SortOrder.name : SortOrder → String
  | .asc => "asc"
  | .desc => "desc"

structure ValidationRecord where
  required : Option (List String) := none
  minLength : Option (SortedMap Nat) := none
  maxLength : Option (SortedMap Nat) := none
  minValue : Option (SortedMap Double) := none
  maxValue : Option (SortedMap Double) := none
  emailFields : Option (List String) := none
  urlFields : Option (List String) := none
  uuidFields : Option (List String) := none
  enums : Option (SortedMap (List String)) := none
  deriving DecidableEq, Repr

structure PaginationRecord where
  defaultLimit : Option Nat := none
  maxLimit : Option Nat := none
  deriving DecidableEq, Repr

structure FilteringRecord where
  filterFields : Option (List String) := none
  searchFields : Option (List String) := none
  deriving DecidableEq, Repr

structure SortingRecord where
  sortFields : Option (List String) := none
  defaultSort : Option String := none
  defaultOrder : Option SortOrder := none
  deriving DecidableEq, Repr

structure CachingRecord where
  enabled : Option Bool := none
  ttlSeconds : Option Nat := none
  invalidateOn : Option (List String) := none
  deriving DecidableEq, Repr

structure SecurityRecord where
  requireAuth : Option Bool := none
  roles : Option (List String) := none
  permissions : Option (List String) := none
  rateLimitPerMinute : Option Nat := none
  audit : Option Bool := none
  softDelete : Option Bool := none
  timestamps : Option Bool := none
  deriving DecidableEq, Repr

structure PolicyRecord where
  enabled : Option Bool := none
  endpoints : Option (List String) := none
  validation : ValidationRecord := {}
  pagination : PaginationRecord := {}
  filtering : FilteringRecord := {}
  sorting : SortingRecord := {}
  caching : CachingRecord := {}
  security : SecurityRecord := {}
  deriving DecidableEq, Repr

end RestScaffold

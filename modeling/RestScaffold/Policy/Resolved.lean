import RestScaffold.Policy.Record
import RestScaffold.Endpoint.Kind

/-! Policies with every field decided. A record laid over a policy replaces the fields that it
sets. -/
namespace RestScaffold

structure ValidationRules where
  required : List String := []
  minLength : SortedMap Nat := {}
  maxLength : SortedMap Nat := {}
  minValue : SortedMap Double := {}
  maxValue : SortedMap Double := {}
  emailFields : List String := []
  urlFields : List String := []
  uuidFields : List String := []
  enums : SortedMap (List String) := {}
  deriving DecidableEq, Repr

structure Pagination where
  defaultLimit : Nat := 20
  maxLimit : Nat := 100
  deriving DecidableEq, Repr

structure Filtering where
  filterFields : List String := []
  searchFields : List String := []
  deriving DecidableEq, Repr

structure Sorting where
  sortFields : List String := []
  defaultSort : Option String := none
  defaultOrder : SortOrder := .asc
  deriving DecidableEq, Repr

structure Caching where
  enabled : Bool := false
  ttlSeconds : Nat := 60
  invalidateOn : List String := []
  deriving DecidableEq, Repr

structure Security where
  requireAuth : Bool := false
  roles : List String := []
  permissions : List String := []
  rateLimitPerMinute : Option Nat := none
  audit : Bool := false
  softDelete : Bool := false
  timestamps : Bool := true
  deriving DecidableEq, Repr

def Security.needsAuthorization (s : Security) : Bool :=
  s.requireAuth || !s.roles.isEmpty || !s.permissions.isEmpty

structure Policy where
  enabled : Bool := true
  endpoints : List String := ["list", "create", "get", "update", "delete"]
  validation : ValidationRules := {}
  pagination : Pagination := {}
  filtering : Filtering := {}
  sorting : Sorting := {}
  caching : Caching := {}
  security : Security := {}
  deriving DecidableEq, Repr

def ValidationRules.overlay (p : ValidationRules) (r : ValidationRecord) : ValidationRules where
  required := r.required.getD p.required
  minLength := r.minLength.getD p.minLength
  maxLength := r.maxLength.getD p.maxLength
  minValue := r.minValue.getD p.minValue
  maxValue := r.maxValue.getD p.maxValue
  emailFields := r.emailFields.getD p.emailFields
  urlFields := r.urlFields.getD p.urlFields
  uuidFields := r.uuidFields.getD p.uuidFields
  enums := r.enums.getD p.enums

def Pagination.overlay (p : Pagination) (r : PaginationRecord) : Pagination where
  defaultLimit := r.defaultLimit.getD p.defaultLimit
  maxLimit := r.maxLimit.getD p.maxLimit

def Filtering.overlay (p : Filtering) (r : FilteringRecord) : Filtering where
  filterFields := r.filterFields.getD p.filterFields
  searchFields := r.searchFields.getD p.searchFields

def Sorting.overlay (p : Sorting) (r : SortingRecord) : Sorting where
  sortFields := r.sortFields.getD p.sortFields
  defaultSort := r.defaultSort.or p.defaultSort
  defaultOrder := r.defaultOrder.getD p.defaultOrder

def Caching.overlay (p : Caching) (r : CachingRecord) : Caching where
  enabled := r.enabled.getD p.enabled
  ttlSeconds := r.ttlSeconds.getD p.ttlSeconds
  invalidateOn := r.invalidateOn.getD p.invalidateOn

def overlayLimit (limit : Option Nat) : Option Nat → Option Nat
  | none => limit
  | some 0 => none
  | some n => some n

def Security.overlay (p : Security) (r : SecurityRecord) : Security where
  requireAuth := r.requireAuth.getD p.requireAuth
  roles := r.roles.getD p.roles
  permissions := r.permissions.getD p.permissions
  rateLimitPerMinute := overlayLimit p.rateLimitPerMinute r.rateLimitPerMinute
  audit := r.audit.getD p.audit
  softDelete := r.softDelete.getD p.softDelete
  timestamps := r.timestamps.getD p.timestamps

def Policy.overlay (p : Policy) (r : PolicyRecord) : Policy where
  enabled := r.enabled.getD p.enabled
  endpoints := r.endpoints.getD p.endpoints
  validation := p.validation.overlay r.validation
  pagination := p.pagination.overlay r.pagination
  filtering := p.filtering.overlay r.filtering
  sorting := p.sorting.overlay r.sorting
  caching := p.caching.overlay r.caching
  security := p.security.overlay r.security

inductive PolicyError where
  | unknownEndpointKind (table kind : String)
  deriving DecidableEq, Repr

def PolicyError.message : PolicyError → String
  | .unknownEndpointKind table kind => s!"table {table}: unknown endpoint kind '{kind}'"

def Policy.endpointKinds (p : Policy) (table : String) : Except PolicyError (List EndpointKind) :=
  (EndpointKind.parseAll p.endpoints []).mapError (.unknownEndpointKind table)

end RestScaffold

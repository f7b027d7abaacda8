import RestScaffold.Catalog.Shape
import RestScaffold.Endpoint.Descriptor
import RestScaffold.Policy.Resolved

/-! The endpoints of one table, planned from its shape and its policy: one descriptor for each
configured kind, in the order of the policy. -/
namespace RestScaffold.Plan
open Catalog

def defaultSortColumn (t : TableShape) (p : Policy) : Option String :=
  ((p.sorting.defaultSort.filter t.hasColumn).or (t.primaryKey?.map ColumnShape.name)).or
    (t.columns.head?.map ColumnShape.name)

def filterColumns (t : TableShape) (p : Policy) : List ColumnShape :=
  t.namedColumns p.filtering.filterFields

def searchColumns (t : TableShape) (p : Policy) : List ColumnShape :=
  t.namedColumns p.filtering.searchFields

def sortColumns (t : TableShape) (p : Policy) : List ColumnShape :=
  t.namedColumns p.sorting.sortFields

def listed (columns : List ColumnShape) : String :=
  ", ".intercalate (columns.map ColumnShape.name)

def middleware (k : EndpointKind) (p : Policy) : List Middleware :=
  Middleware.base ++
  (if p.security.needsAuthorization then [Middleware.authorize] else []) ++
  (if p.security.rateLimitPerMinute.isSome then [Middleware.rateLimit] else []) ++
  (if p.security.audit && k.isMutating then [Middleware.audit] else []) ++
  (if k.isValidated then [Middleware.validation] else []) ++
  (if p.caching.enabled && k.isCacheable then [Middleware.cache] else [])

def columnType (c : ColumnShape) : SchemaType := (StorageType.ofText c.dataType).schemaType

def filterParameters (t : TableShape) (p : Policy) : List Parameter :=
  (filterColumns t p).map fun c =>
    { name := c.name, type := columnType c, required := false, location := .query,
      description := some s!"exact match on {c.name}" }

def sortParameter (t : TableShape) (p : Policy) : Parameter where
  name := "sort"
  type := .string
  required := false
  location := .query
  description :=
    if (sortColumns t p).isEmpty then none else some ("one of: " ++ listed (sortColumns t p))
  default := defaultSortColumn t p

def pageParameters (t : TableShape) (p : Policy) : List Parameter :=
  [{ name := "page", type := .integer, required := false, location := .query,
     description := some "1-based page number", default := some "1" },
   { name := "limit", type := .integer, required := false, location := .query,
     description := some s!"page size, at most {p.pagination.maxLimit}",
     default := some (toString p.pagination.defaultLimit) },
   sortParameter t p,
   { name := "order", type := .string, required := false, location := .query,
     description := some "asc or desc", default := some p.sorting.defaultOrder.name }] ++
  filterParameters t p

def searchParameters (t : TableShape) (p : Policy) : List Parameter :=
  if (searchColumns t p).isEmpty then []
  else
    [{ name := "q", type := .string, required := true, location := .query,
       description := some ("text matched against " ++ listed (searchColumns t p)) }]

def idType (t : TableShape) : SchemaType := (t.primaryKey?.map columnType).getD .string

def idParameter (t : TableShape) : Parameter where
  name := "id"
  type := idType t
  required := true
  location := .path
  description := some "primary key"

def bodyParameter (type : SchemaType) (shape : String) : Parameter where
  name := "body"
  type := type
  required := true
  location := .body
  description := some shape

def parameters (k : EndpointKind) (t : TableShape) (p : Policy) : List Parameter :=
  let stem := Naming.pascal t.name
  match k with
  | .list => pageParameters t p
  | .search => searchParameters t p ++ pageParameters t p
  | .export =>
      { name := "format", type := .string, required := false, location := .query,
        description := some "json or csv", default := some "json" } :: pageParameters t p
  | .stats => filterParameters t p
  | .get | .delete => [idParameter t]
  | .create => [bodyParameter .object ("Create" ++ stem ++ "Request")]
  | .update => [idParameter t, bodyParameter .object ("Update" ++ stem ++ "Request")]
  | .bulk => [bodyParameter .array ("Create" ++ stem ++ "Request[]")]

def success (k : EndpointKind) (stem : String) : Response :=
  match k with
  | .list | .search => ⟨200, "page of rows", some (stem ++ "ListResponse")⟩
  | .export => ⟨200, "all matching rows as JSON or CSV", some (stem ++ "[]")⟩
  | .get => ⟨200, "the row", some stem⟩
  | .create => ⟨201, "created row", some stem⟩
  | .update => ⟨200, "updated row", some stem⟩
  | .delete => ⟨204, "deleted", none⟩
  | .bulk => ⟨201, "created rows", some (stem ++ "[]")⟩
  | .stats => ⟨200, "aggregate counts", some (stem ++ "Stats")⟩

def failure (status : Nat) (description : String) : Response :=
  ⟨status, description, some "ErrorResponse"⟩

def responses (k : EndpointKind) (chain : List Middleware) (stem : String) : List Response :=
  [success k stem, failure 400 "invalid request"] ++
  (if .authorize ∈ chain then
    [failure 401 "authentication required", failure 403 "insufficient role or permission"]
  else []) ++
  (if k.isSingular then [failure 404 "no row with this id"] else []) ++
  (if .validation ∈ chain then [failure 422 "validation failed"] else []) ++
  (if .rateLimit ∈ chain then [failure 429 "rate limit exceeded"] else []) ++
  [failure 500 "internal error"]

def softDeletes (t : TableShape) (p : Policy) : Bool :=
  p.security.softDelete && t.hasColumn deletedAt

def description (k : EndpointKind) (t : TableShape) (p : Policy) : String :=
  match k with
  | .list => s!"List {t.name} with pagination, filtering and sorting"
  | .create => s!"Create one {t.name} row"
  | .get => s!"Fetch one {t.name} row by primary key"
  | .update => s!"Update one {t.name} row by primary key"
  | .delete =>
      if softDeletes t p then s!"Soft-delete one {t.name} row by primary key"
      else s!"Delete one {t.name} row by primary key"
  | .bulk => s!"Create several {t.name} rows in one transaction"
  | .search =>
      if (searchColumns t p).isEmpty then
        s!"Search {t.name} (no search fields configured; matches nothing)"
      else s!"Full-text search over {t.name}"
  | .stats => s!"Row counts for {t.name}"
  | .export => s!"Export {t.name} as JSON or CSV"

def endpoint (t : TableShape) (p : Policy) (k : EndpointKind) : Endpoint where
  kind := k
  method := k.method
  path := k.path t.name
  handler := k.handler t.name
  middleware := middleware k p
  parameters := parameters k t p
  responses := responses k (middleware k p) (Naming.pascal t.name)
  description := description k t p
  tag := Text.lower t.name

def endpoints (t : TableShape) (p : Policy) : Except PolicyError (List Endpoint) :=
  (p.endpointKinds t.name).map fun kinds => kinds.map (endpoint t p)

end RestScaffold.Plan

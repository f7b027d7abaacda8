import RestScaffold.Policy.Settings
import RestScaffold.Json.Record
import RestScaffold.Json.Reader

/-! Settings as JSON documents. -/
namespace RestScaffold
open Json

def SortOrder.named? : String → Option SortOrder
  | "asc" => some .asc
  | "desc" => some .desc
  | _ => none

def ValidationRecord.fieldNames : List String :=
  ["required", "min_length", "max_length", "min_value", "max_value", "email_fields",
    "url_fields", "uuid_fields", "enums"]

def ValidationRecord.ofJson : Reader ValidationRecord := fun j => do
  let fields ← fields? fieldNames j
  let required ← fields.optional "required" (readList readText)
  let minLength ← fields.optional "min_length" (readMap (readNat 32))
  let maxLength ← fields.optional "max_length" (readMap (readNat 32))
  let minValue ← fields.optional "min_value" (readMap readDouble)
  let maxValue ← fields.optional "max_value" (readMap readDouble)
  let emailFields ← fields.optional "email_fields" (readList readText)
  let urlFields ← fields.optional "url_fields" (readList readText)
  let uuidFields ← fields.optional "uuid_fields" (readList readText)
  let enums ← fields.optional "enums" (readMap (readList readText))
  some ⟨required, minLength, maxLength, minValue, maxValue, emailFields, urlFields, uuidFields,
    enums⟩

def PaginationRecord.ofJson : Reader PaginationRecord := fun j => do
  let fields ← fields? ["default_limit", "max_limit"] j
  let defaultLimit ← fields.optional "default_limit" (readNat 32)
  let maxLimit ← fields.optional "max_limit" (readNat 32)
  some ⟨defaultLimit, maxLimit⟩

def FilteringRecord.ofJson : Reader FilteringRecord := fun j => do
  let fields ← fields? ["filter_fields", "search_fields"] j
  let filterFields ← fields.optional "filter_fields" (readList readText)
  let searchFields ← fields.optional "search_fields" (readList readText)
  some ⟨filterFields, searchFields⟩

def SortingRecord.ofJson : Reader SortingRecord := fun j => do
  let fields ← fields? ["sort_fields", "default_sort", "default_order"] j
  let sortFields ← fields.optional "sort_fields" (readList readText)
  let defaultSort ← fields.optional "default_sort" readText
  let defaultOrder ← fields.optional "default_order" (readVariant SortOrder.named?)
  some ⟨sortFields, defaultSort, defaultOrder⟩

def CachingRecord.ofJson : Reader CachingRecord := fun j => do
  let fields ← fields? ["enabled", "ttl_seconds", "invalidate_on"] j
  let enabled ← fields.optional "enabled" readBool
  let ttlSeconds ← fields.optional "ttl_seconds" (readNat 64)
  let invalidateOn ← fields.optional "invalidate_on" (readList readText)
  some ⟨enabled, ttlSeconds, invalidateOn⟩

def SecurityRecord.fieldNames : List String :=
  ["require_auth", "roles", "permissions", "rate_limit_per_minute", "audit", "soft_delete",
    "timestamps"]

def SecurityRecord.ofJson : Reader SecurityRecord := fun j => do
  let fields ← fields? fieldNames j
  let requireAuth ← fields.optional "require_auth" readBool
  let roles ← fields.optional "roles" (readList readText)
  let permissions ← fields.optional "permissions" (readList readText)
  let rateLimitPerMinute ← fields.optional "rate_limit_per_minute" (readNat 32)
  let audit ← fields.optional "audit" readBool
  let softDelete ← fields.optional "soft_delete" readBool
  let timestamps ← fields.optional "timestamps" readBool
  some ⟨requireAuth, roles, permissions, rateLimitPerMinute, audit, softDelete, timestamps⟩

def PolicyRecord.fieldNames : List String :=
  ["enabled", "endpoints", "validation", "pagination", "filtering", "sorting", "caching",
    "security"]

def PolicyRecord.ofJson : Reader PolicyRecord := fun j => do
  let fields ← fields? fieldNames j
  let enabled ← fields.optional "enabled" readBool
  let endpoints ← fields.optional "endpoints" (readList readText)
  let validation ← fields.withDefault "validation" {} ValidationRecord.ofJson
  let pagination ← fields.withDefault "pagination" {} PaginationRecord.ofJson
  let filtering ← fields.withDefault "filtering" {} FilteringRecord.ofJson
  let sorting ← fields.withDefault "sorting" {} SortingRecord.ofJson
  let caching ← fields.withDefault "caching" {} CachingRecord.ofJson
  let security ← fields.withDefault "security" {} SecurityRecord.ofJson
  some ⟨enabled, endpoints, validation, pagination, filtering, sorting, caching, security⟩

def Settings.fieldNames : List String :=
  ["output_root", "enabled", "schemas", "exclude_tables", "targets", "go_module",
    "api_base_path", "watch_interval_secs", "defaults", "tables"]

def Settings.ofJson : Reader Settings := fun j => do
  let fields ← fields? fieldNames j
  let unset : Settings := {}
  let outputRoot ← fields.withDefault "output_root" unset.outputRoot readText
  let enabled ← fields.withDefault "enabled" unset.enabled readBool
  let schemas ← fields.withDefault "schemas" unset.schemas (readList readText)
  let excludeTables ← fields.withDefault "exclude_tables" unset.excludeTables (readList readText)
  let targets ← fields.withDefault "targets" unset.targets (readList (readVariant Target.named?))
  let goModule ← fields.withDefault "go_module" unset.goModule readText
  let apiBasePath ← fields.withDefault "api_base_path" unset.apiBasePath readText
  let watchIntervalSecs ←
    fields.withDefault "watch_interval_secs" unset.watchIntervalSecs (readNat 64)
  let defaults ← fields.withDefault "defaults" {} PolicyRecord.ofJson
  let tables ← fields.withDefault "tables" {} (readMap PolicyRecord.ofJson)
  some ⟨outputRoot, enabled, schemas, excludeTables, targets, goModule, apiBasePath,
    watchIntervalSecs, defaults, tables⟩

def Settings.parse (s : String) : Option Settings := (Json.parse s).bind Settings.ofJson

end RestScaffold

import RestScaffold.Policy.Resolution

/-! What settings have to satisfy. Records are checked on their own first, and then as merged
policies, since a default for all tables may exceed the cap of one. -/
namespace RestScaffold

inductive SettingsFault where
  | zeroInterval
  | noTarget
  | noSchema
  | zeroPageSize (owner : String)
  | defaultAboveMax (owner : String) (default max : Nat)
  | effectiveDefaultAboveMax (owner : String) (default max : Nat)
  | reported (detail : String)
  deriving DecidableEq, Repr

def SettingsFault.message : SettingsFault → String
  | .zeroInterval => "watch_interval_secs must be greater than zero"
  | .noTarget => "at least one target required"
  | .noSchema => "at least one schema required"
  | .zeroPageSize owner => s!"{owner}: page sizes must be greater than zero"
  | .defaultAboveMax owner default max =>
      s!"{owner}: default_limit {default} exceeds max_limit {max}"
  | .effectiveDefaultAboveMax owner default max =>
      s!"{owner}: effective default_limit {default} exceeds effective max_limit {max}"
  | .reported detail => detail

inductive LoadFault where
  | notNumber (name value : String)
  | notBoolean (name value : String)
  | reported (detail : String)
  deriving DecidableEq, Repr

def LoadFault.message : LoadFault → String
  | .notNumber name value => s!"{name}: not a number: {value}"
  | .notBoolean name value => s!"{name}: not a boolean: {value}"
  | .reported detail => detail

inductive SettingsError where
  | load (fault : LoadFault)
  | invalid (fault : SettingsFault)
  | policy (error : PolicyError)
  deriving DecidableEq, Repr

def SettingsError.message : SettingsError → String
  | .load fault => "config load: " ++ fault.message
  | .invalid fault => "validation: " ++ fault.message
  | .policy error => error.message

def PolicyRecord.check (owner : String) (r : PolicyRecord) : Except SettingsError Unit := do
  match (r.endpoints.getD []).find? fun name => (EndpointKind.parse? name).isNone with
  | some name => throw (.policy (.unknownEndpointKind owner name))
  | none => pure ()
  let p := r.pagination
  if p.defaultLimit = some 0 ∨ p.maxLimit = some 0 then throw (.invalid (.zeroPageSize owner))
  match p.defaultLimit, p.maxLimit with
  | some default, some max =>
      if default > max then throw (.invalid (.defaultAboveMax owner default max))
  | _, _ => pure ()

def Policy.check (owner : String) (p : Policy) : Except SettingsError Unit :=
  if p.pagination.defaultLimit > p.pagination.maxLimit then
    .error (.invalid
      (.effectiveDefaultAboveMax owner p.pagination.defaultLimit p.pagination.maxLimit))
  else .ok ()

def splitAtDot (key : String) : Option (String × String) :=
  match key.toList.dropWhile (· ≠ '.') with
  | [] => none
  | _ :: rest => some (String.ofList (key.toList.takeWhile (· ≠ '.')), String.ofList rest)

def Resolver.resolveKey (r : Resolver) (key : String) : Policy :=
  match splitAtDot key with
  | some (schema, table) => r.resolve (some schema) table
  | none => r.resolve none key

def checkAll (check : α → Except SettingsError Unit) : List α → Except SettingsError Unit
  | [] => .ok ()
  | a :: rest => do
      check a
      checkAll check rest

def Settings.validate (s : Settings) : Except SettingsError Unit := do
  if s.watchIntervalSecs = 0 then throw (.invalid .zeroInterval)
  if s.targets.isEmpty then throw (.invalid .noTarget)
  if s.schemas.isEmpty then throw (.invalid .noSchema)
  s.defaults.check "defaults"
  checkAll (fun (key, record) => record.check key) s.tables.entries
  let resolver := Resolver.ofSettings s
  resolver.global.check "defaults"
  checkAll (fun key => (resolver.resolveKey key).check key) s.tables.keys

end RestScaffold

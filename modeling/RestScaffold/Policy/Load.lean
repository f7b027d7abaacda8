import RestScaffold.Policy.Document
import RestScaffold.Policy.Validation
import RestScaffold.Text.Blank

/-! Loading settings: from a document, and then from environment variables laid over it. -/
namespace RestScaffold

def outputRootVariable : String := "TABLEGEN_OUTPUT_ROOT"
def intervalVariable : String := "TABLEGEN_WATCH_INTERVAL_SECS"
def enabledVariable : String := "TABLEGEN_ENABLED"

abbrev Environment := String → Option String

def digitsToNat? (cs : List Char) : Option Nat :=
  if cs.isEmpty || !cs.all Char.isDigit then none else some (Numeral.digitsValue cs)

def readSeconds (s : String) : Option Nat :=
  let digits := match (Text.trim s).toList with
    | '+' :: rest => rest
    | cs => cs
  (digitsToNat? digits).filter (· < UInt64.size)

def readSwitch (s : String) : Except String Bool :=
  let word := Text.lower (Text.trim s)
  if word ∈ ["1", "true", "yes", "on"] then .ok true
  else if word ∈ ["0", "false", "no", "off"] then .ok false
  else .error word

namespace Settings

def withOutputRoot (env : Environment) (s : Settings) : Settings :=
  match env outputRootVariable with
  | none => s
  | some root => if root.isEmpty then s else { s with outputRoot := root }

def withInterval (env : Environment) (s : Settings) : Except SettingsError Settings :=
  match env intervalVariable with
  | none => .ok s
  | some value =>
      match readSeconds value with
      | some secs => .ok { s with watchIntervalSecs := secs }
      | none => .error (.load (.notNumber intervalVariable value))

def withSwitch (env : Environment) (s : Settings) : Except SettingsError Settings :=
  match env enabledVariable with
  | none => .ok s
  | some value =>
      match readSwitch value with
      | .ok enabled => .ok { s with enabled }
      | .error word => .error (.load (.notBoolean enabledVariable word))

/-- Variables are applied one after the other. At the first that cannot be read, what came before
it stays applied. -/
def applyEnvironment (env : Environment) (s : Settings) : Settings × Except SettingsError Unit :=
  let s := s.withOutputRoot env
  match s.withInterval env with
  | .error e => (s, .error e)
  | .ok s =>
      match s.withSwitch env with
      | .error e => (s, .error e)
      | .ok s => (s, s.validate)

def ofDocument (detail text : String) : Except SettingsError Settings :=
  match parse text with
  | none => .error (.load (.reported detail))
  | some s => s.validate.map fun _ => s

def load (detail : String) (document : Option String) (env : Environment) :
    Except SettingsError Settings := do
  match document with
  | none => throw (.load (.reported detail))
  | some text =>
      let s ← ofDocument detail text
      let (s, checked) := s.applyEnvironment env
      checked
      pure s

end Settings
end RestScaffold

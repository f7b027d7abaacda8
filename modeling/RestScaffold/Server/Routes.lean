import RestScaffold.Server.Handler

/-! Registration of routes on the server, for one table and for all of them. -/
namespace RestScaffold.Server
open Code

inductive MiddlewareCall where
  | bare (middleware : Middleware)
  | authorize (roles permissions : List String)
  | rateLimit (perMinute : Nat)
  | audit (table action : String)
  | cache (ttlSeconds : Nat)
  deriving DecidableEq, Repr

def MiddlewareCall.text : MiddlewareCall → String
  | .bare middleware => "mw." ++ middleware.name ++ "()"
  | .authorize roles permissions =>
      "mw.Authorize(" ++ Go.strings roles ++ ", " ++ Go.strings permissions ++ ")"
  | .rateLimit perMinute => "mw.RateLimit(" ++ toString perMinute ++ ")"
  | .audit table action =>
      "mw.Audit(" ++ Text.GoString.quote table ++ ", " ++ Text.GoString.quote action ++ ")"
  | .cache ttlSeconds => "mw.Cache(" ++ toString ttlSeconds ++ ")"

structure Registration where
  method : Method
  path : String
  chain : List MiddlewareCall
  handler : String
  deriving DecidableEq, Repr

structure Routes where
  typeName : String
  stem : String
  registrations : List Registration
  deriving DecidableEq, Repr

def registerName (typeName : String) : String := "Register" ++ typeName ++ "Routes"

namespace Routes

def call (s : Subject) (k : EndpointKind) : Middleware → MiddlewareCall
  | .authorize => .authorize s.policy.security.roles s.policy.security.permissions
  | .rateLimit => .rateLimit (s.policy.security.rateLimitPerMinute.getD 0)
  | .audit => .audit s.stem k.name
  | .cache => .cache s.policy.caching.ttlSeconds
  | m => .bare m

def registration (s : Subject) (e : Endpoint) : Registration where
  method := e.method
  path := e.path
  chain := e.middleware.map (call s e.kind)
  handler := e.handler

def of (s : Subject) : Routes := ⟨s.typeName, s.stem, s.plan.map (registration s)⟩

def registrationCode (r : Registration) : Line :=
  plain ("r." ++ r.method.name ++ "(" ++
    ", ".intercalate (Text.GoString.quote r.path :: r.chain.map MiddlewareCall.text ++
      ["h." ++ r.handler]) ++ ")")

def code (r : Routes) : List Line :=
  Go.function
    (some (registerName r.typeName ++ " binds the " ++ r.stem ++ " endpoints on r."))
    (line [declared (registerName r.typeName), "(r ", imported .gin "IRouter", ", h *",
      imported .handlers (handlerName r.typeName), ", mw ", own "Middleware", ")"])
    (r.registrations.map registrationCode)

def file (r : Routes) : GoFile where
  package := "routes"
  imports := [[.gin], [.handlers]]
  body := r.code

end Routes

structure RoutesIndex where
  tables : List String
  deriving DecidableEq, Repr

namespace RoutesIndex

def makers : List String :=
  ["RequestLogger()", "Recovery()", "CORS()", "SecurityHeaders()",
    "Authorize(roles []string, permissions []string)", "RateLimit(perMinute int)",
    "Audit(table string, action string)", "Validation()", "Cache(ttlSeconds int)"]

def middlewareCode : List Line :=
  [blank, plain "// Middleware is supplied by the serving application."] ++
  Go.block (line ["type ", declared "Middleware", " interface"])
    (makers.map fun m => line [plain m, " ", imported .gin "HandlerFunc"])

def registerTable (typeName : String) : Line :=
  line [own (registerName typeName), "(r, ", imported .handlers (newHandlerName typeName), "(",
    imported .repository (newRepositoryName typeName), "(db)), mw)"]

def code (i : RoutesIndex) : List Line :=
  middlewareCode ++
  Go.function (some "RegisterAll binds every generated table.")
    (line [declared "RegisterAll", "(r ", imported .gin "IRouter", ", db *", imported .sql "DB",
      ", mw ", own "Middleware", ")"])
    (i.tables.map registerTable)

def file (i : RoutesIndex) : GoFile where
  package := "routes"
  imports := [[.sql], [.gin], if i.tables.isEmpty then [] else [.handlers, .repository]]
  body := i.code

end RoutesIndex
end RestScaffold.Server

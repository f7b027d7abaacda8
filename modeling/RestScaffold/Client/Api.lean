import RestScaffold.Client.Types

/-! The client object of a table: one member for each planned endpoint. -/
namespace RestScaffold.Client
open Code

structure Member where
  kind : EndpointKind
  name : String
  method : Method
  path : String
  description : String
  deriving DecidableEq, Repr

structure Api where
  typeName : String
  stem : String
  baseUrl : String
  keyType : ScriptType
  imported : List String
  queries : Bool
  members : List Member
  deriving DecidableEq, Repr

def newApiName (typeName : String) : String := "create" ++ typeName ++ "Api"
def apiName (typeName : String) : String := typeName ++ "Api"

namespace Api

def member (e : Endpoint) : Member :=
  ⟨e.kind, Naming.camel e.handler, e.method, e.path, e.description⟩

def importedTypes (s : Subject) : List String :=
  [s.typeName] ++
  (if s.needsCreateShape then [Names.createRequest s.typeName] else []) ++
  (if s.has .update then [Names.updateRequest s.typeName] else []) ++
  (if s.needsListParams then [Names.listParams s.typeName] else []) ++
  (if s.needsPageShape then [Names.page s.typeName] else []) ++
  (if s.has .stats then [Names.stats s.typeName] else [])

def of (baseUrl : String) (s : Subject) : Api where
  typeName := s.typeName
  stem := s.stem
  baseUrl := baseUrl
  keyType := Client.keyType s
  imported := importedTypes s
  queries := s.needsListParams
  members := s.plan.map member

def interpolated : List Char → List Char
  | ':' :: 'i' :: 'd' :: rest =>
      "$\x7bencodeURIComponent(String(id))\x7d".toList ++ interpolated rest
  | c :: rest => c :: interpolated rest
  | [] => []

def pathCode (m : Member) : Line :=
  match m.kind with
  | .get | .update | .delete => plain ("`" ++ String.ofList (interpolated m.path.toList) ++ "`")
  | .create | .bulk => plain (Text.ScriptString.quote m.path)
  | .list | .search | .export | .stats => plain ("`" ++ m.path ++ "$\x7bquery(params)\x7d`")

variable (a : Api)

def keyArgument : Line := plain ("id: " ++ a.keyType.text)

def paramsType : Line := own (Names.listParams a.typeName)

def memberArguments : EndpointKind → Line
  | .list | .search | .stats => line ["params: ", a.paramsType, " = \x7b\x7d"]
  | .export =>
      line ["params: ", a.paramsType, " & \x7b format?: 'json' | 'csv' \x7d = \x7b\x7d"]
  | .get | .delete => a.keyArgument
  | .create => line ["body: ", own (Names.createRequest a.typeName)]
  | .bulk => line ["body: ", own (Names.createRequest a.typeName), "[]"]
  | .update => line [a.keyArgument, ", body: ", own (Names.updateRequest a.typeName)]

def memberResult : EndpointKind → Line
  | .list | .search => own (Names.page a.typeName)
  | .export => line [own a.typeName, "[] | string"]
  | .stats => own (Names.stats a.typeName)
  | .get | .create | .update => own a.typeName
  | .bulk => line [own a.typeName, "[]"]
  | .delete => "void"

def sendsBody (k : EndpointKind) : Bool := k.isValidated

def memberCode (m : Member) : List Line :=
  [plain ("/** " ++ m.description ++ " */"),
    line [m.name, ": (", a.memberArguments m.kind, ") => request<", a.memberResult m.kind, ">(",
      Text.ScriptString.quote m.method.name, ", ", pathCode m,
      if sendsBody m.kind then ", body" else "", "),"]]

def requestCode : List Line :=
  Code.block "  "
    "async function request<T>(method: string, path: string, body?: unknown): Promise<T>"
    ([plain "const res = await fetch(baseUrl + path, \x7b",
        plain "  ...init,",
        plain "  method,",
        plain ("  headers: \x7b 'Content-Type': 'application/json', " ++
          "...(init.headers as Record<string, string> | undefined) \x7d,"),
        plain "  body: body === undefined ? undefined : JSON.stringify(body),",
        plain "\x7d);"] ++
      Code.block "  " "if (!res.ok)"
        [plain ("throw new Error(`$\x7bmethod\x7d $\x7bpath\x7d: $\x7bres.status\x7d " ++
          "$\x7bawait res.text()\x7d`);")] ++
      Code.block "  " "if (res.status === 204)" [plain "return undefined as T;"] ++
      Code.block "  "
        "if ((res.headers.get('Content-Type') ?? '').includes('application/json'))"
        [plain "return (await res.json()) as T;"] ++
      [plain "return (await res.text()) as unknown as T;"])

def queryCode : List Line :=
  blank :: Code.block "  " "function query(params: object): string"
    ([plain "const qs = new URLSearchParams();"] ++
      Code.block "  " "for (const [key, value] of Object.entries(params))"
        (Code.block "  " "if (value !== undefined && value !== null)"
          [plain "qs.append(key, String(value));"]) ++
      [plain "const s = qs.toString();", plain "return s ? `?$\x7bs\x7d` : '';"])

def objectCode : List Line :=
  [blank, plain "return \x7b"] ++ indented "  " (a.members.flatMap a.memberCode) ++ [plain "\x7d;"]

def code : List Line :=
  [plain generatedNotice, blank,
    line ["import type \x7b ", separated ", " (a.imported.map own), " \x7d from '../types/", a.stem,
      "';"],
    blank,
    plain ("/** Fetch wrappers for the " ++ a.stem ++ " endpoints. */")] ++
  Code.block "  "
    (line ["export function ", declared (newApiName a.typeName), "(baseUrl: string = ",
      Text.ScriptString.quote a.baseUrl, ", init: RequestInit = \x7b\x7d)"])
    (requestCode ++ (if a.queries then queryCode else []) ++ a.objectCode) ++
  [blank,
    line ["export type ", declared (apiName a.typeName), " = ReturnType<typeof ",
      own (newApiName a.typeName), ">;"]]

end Api

def indexCode (stems : List String) : List Line :=
  [plain generatedNotice, blank] ++
  stems.flatMap fun stem =>
    [plain ("export * from './types/" ++ stem ++ "';"),
      plain ("export * from './api/" ++ stem ++ "';")]

end RestScaffold.Client

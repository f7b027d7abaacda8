import RestScaffold.Artifact.Basic
import RestScaffold.Client.Api
import RestScaffold.Server.Routes

/-! The files of one table for each target, and the file of a target that brings its tables
together. -/
namespace RestScaffold

structure Rendering where
  goModule : String
  apiBasePath : String
  deriving DecidableEq, Repr

namespace Rendering

variable (r : Rendering)

def serverFile (path : String) (category : Category) (f : GoFile) : Artifact :=
  ⟨path, f.text r.goModule, .server, category⟩

def serverArtifacts (s : Subject) : Except RenderError (List Artifact) :=
  (Server.Dto.of s).map fun dto =>
    [r.serverFile ("server/models/" ++ s.stem ++ ".go") .model (Server.Model.of s).file,
      r.serverFile ("server/repository/" ++ s.stem ++ "_repository.go") .repository
        (Server.Repository.of s).file,
      r.serverFile ("server/dto/" ++ s.stem ++ "_dto.go") .dto dto.file,
      r.serverFile ("server/handlers/" ++ s.stem ++ "_handler.go") .handler
        (Server.Handler.of s).file,
      r.serverFile ("server/routes/" ++ s.stem ++ "_routes.go") .routes
        (Server.Routes.of s).file]

def clientArtifacts (s : Subject) : List Artifact :=
  [⟨"client/types/" ++ s.stem ++ ".ts", Code.fileText (Client.Types.of s).code, .client,
      .clientTypes⟩,
    ⟨"client/api/" ++ s.stem ++ ".ts", Code.fileText (Client.Api.of r.apiBasePath s).code, .client,
      .clientApi⟩]

def targetArtifacts (s : Subject) : Target → Except RenderError (List Artifact)
  | .server => r.serverArtifacts s
  | .client => .ok (r.clientArtifacts s)

def artifacts (s : Subject) : List Target → Except RenderError (List Artifact)
  | [] => .ok []
  | target :: rest =>
      match r.targetArtifacts s target, artifacts s rest with
      | .error e, _ => .error e
      | _, .error e => .error e
      | .ok files, .ok more => .ok (files ++ more)

def tableArtifacts (table : Catalog.TableShape) (policy : Policy) (plan : List Endpoint)
    (targets : List Target) : Except RenderError (List Artifact) :=
  match Subject.of table policy plan with
  | .error e => .error e
  | .ok s => r.artifacts s targets

def index (names : List String) : Target → Artifact
  | .server =>
      r.serverFile "server/routes/routes.go" .routes
        (Server.RoutesIndex.file ⟨names.map Naming.pascal⟩)
  | .client =>
      ⟨"client/index.ts", Code.fileText (Client.indexCode (names.map Text.lower)), .client, .index⟩

end Rendering
end RestScaffold

import RestScaffold.Target

/-! Generated files. -/
namespace RestScaffold

inductive Category where
  | model
  | repository
  | dto
  | handler
  | routes
  | clientTypes
  | clientApi
  | index
  deriving DecidableEq, Repr

def Category.name : Category → String
  | .model => "model"
  | .repository => "repository"
  | .dto => "dto"
  | .handler => "handler"
  | .routes => "routes"
  | .clientTypes => "client_types"
  | .clientApi => "client_api"
  | .index => "index"

structure Artifact where
  path : String
  contents : String
  target : Target
  category : Category
  deriving DecidableEq, Repr

end RestScaffold

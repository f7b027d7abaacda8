/-! Go packages that generated code refers to: the standard library's, the web framework, and the
generated ones. -/
namespace RestScaffold

inductive Package where
  | context
  | sql
  | csv
  | json
  | errors
  | fmt
  | http
  | strconv
  | strings
  | time
  | gin
  | dto
  | handlers
  | models
  | repository
  deriving DecidableEq, Repr

namespace Package

def name : Package → String
  | .context => "context"
  | .sql => "sql"
  | .csv => "csv"
  | .json => "json"
  | .errors => "errors"
  | .fmt => "fmt"
  | .http => "http"
  | .strconv => "strconv"
  | .strings => "strings"
  | .time => "time"
  | .gin => "gin"
  | .dto => "dto"
  | .handlers => "handlers"
  | .models => "models"
  | .repository => "repository"

def path (goModule : String) : Package → String
  | .sql => "database/sql"
  | .csv => "encoding/csv"
  | .json => "encoding/json"
  | .http => "net/http"
  | .gin => "github.com/gin-gonic/gin"
  | .dto => goModule ++ "/dto"
  | .handlers => goModule ++ "/handlers"
  | .models => goModule ++ "/models"
  | .repository => goModule ++ "/repository"
  | p => p.name

end Package
end RestScaffold

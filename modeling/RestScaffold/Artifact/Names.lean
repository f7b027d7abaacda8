/-! Names of the shapes that requests and responses of a table have, the same on the server and in
the client. -/
namespace RestScaffold.Names

def createRequest (typeName : String) : String := "Create" ++ typeName ++ "Request"

def updateRequest (typeName : String) : String := "Update" ++ typeName ++ "Request"

def listParams (typeName : String) : String := typeName ++ "ListParams"

def page (typeName : String) : String := typeName ++ "ListResponse"

def stats (typeName : String) : String := typeName ++ "Stats"

end RestScaffold.Names

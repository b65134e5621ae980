import ServiceAtlas.Path

/-!
Which service a file belongs to: the directory that encloses the file's own directory.
-/

namespace ServiceAtlas.Service

/-- The service of files that lie too high to have a grandparent directory. -/
def rootName : String := "(root)"

/-- The callee of a call that no known URL explains. -/
def unknownName : String := "unknown"

def ofNames : List String → String
  | [service, _, _] => service
  | _ :: rest => ofNames rest
  | [] => rootName

/-- The third-last named step of the path. -/
def ofPath (p : Path) : String := ofNames p.names

end ServiceAtlas.Service

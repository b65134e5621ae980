import ServiceAtlas.Scan

/-!
A scan as a report to be read.
-/

namespace ServiceAtlas.Scan

private def header (s : Scan) (root : Path) : List String :=
  let t := s.stats
  ["Service Dependency Scan",
   "=======================",
   "",
   "Root:       " ++ root.text,
   "Files:      " ++ toString t.visited ++ " visited (" ++ toString t.java ++ " java, " ++
     toString t.python ++ " python)",
   "Skipped:    " ++ toString t.malformed ++ " syntax, " ++ toString t.unreadable ++ " unreadable, " ++
     toString t.pruned ++ " excluded subtrees",
   "Config:     " ++ toString t.configRead ++ " files read, " ++ toString t.configFailed ++ " failed, " ++
     toString s.urls.size ++ " URL keys",
   "",
   "=== Summary ===",
   "Total detected dependencies: " ++ toString s.dependencies.length,
   "Total detected entities: " ++ toString s.contexts.totalEntities]

private def rule : String := String.ofList (List.replicate 60 '-')

private def dependencyLines (s : Scan) : List String :=
  if s.dependencies.isEmpty then []
  else
    ["", "Dependencies", rule] ++ s.dependencies.map fun d =>
      "  " ++ d.caller ++ " -> " ++ d.callee ++ " [" ++ d.label ++ "]"

private def endpointLine (e : Endpoint) : String :=
  "  " ++ e.method ++ " " ++ (if e.path.isEmpty then "-" else e.path) ++ " -> " ++ e.returnType ++
    " (" ++ ", ".intercalate e.params ++ ")  line " ++ toString e.line

private def entityLine (e : Entity) : String :=
  "  entity " ++ e.name ++ "  line " ++ toString e.line

private def contextLines (name : String) (f : Facts) : List String :=
  (name ++ " (" ++ toString f.endpoints.length ++ " endpoints, " ++ toString f.entities.length ++
    " entities)") :: (f.endpoints.map endpointLine ++ f.entities.map entityLine)

def report (s : Scan) (root : Path) : String :=
  let lines := header s root ++ dependencyLines s ++ ["", "Context Maps", rule] ++
    s.contexts.entries.flatMap fun e => contextLines e.1 e.2
  String.join (lines.map (· ++ "\n"))

end ServiceAtlas.Scan

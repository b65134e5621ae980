import ServiceAtlas.Command.Run

/-!
The program: takes in the files and the environment that a command needs, carries it out, and prints.
-/

namespace ServiceAtlas.Program

/-- A file or a directory with all that is below it. What cannot be read is left out. -/
partial def load (path : String) : IO FileNode := do
  let place ← IO.FS.realPath path
  if ← place.isDir then
    let entries ← place.readDir
    let nodes ← entries.toList.mapM fun e => do return (e.fileName, ← load e.path.toString)
    return .directory nodes
  else
    let bytes ← IO.FS.readBinFile path
    return .file (bytes.toList.map UInt8.toNat)

private def putFile (disk : FileNode) (path : Path) : IO FileNode := do
  try
    return disk.put path.names (← load path.text)
  catch _ => return disk

/-- The part of the file system that a command can see: what is below its directory, and the settings
files in and above it. -/
def snapshot (target : String) (below : Bool) (userFile : Option Path) : IO FileNode := do
  let place ← try some <$> IO.FS.realPath target catch _ => pure none
  match place with
  | none => return .emptyDirectory
  | some place =>
    let root : Path := ⟨place.toString⟩
    let start ← if below then putFile .emptyDirectory root
      else pure (FileNode.emptyDirectory.put root.names .emptyDirectory)
    let wanted := root.ancestors.flatMap fun dir =>
      [dir.join ⟨projectFileName⟩, dir.join ⟨ignoreListName⟩]
    (wanted ++ userFile.toList).foldlM putFile start

private def userFile : IO (Option Path) := do
  let config ← match ← IO.getEnv "XDG_CONFIG_HOME" with
    | some dir => pure (some dir)
    | none => return (← IO.getEnv "HOME").map fun home => ⟨home ++ "/.config/svcmap/config.toml"⟩
  return config.map fun dir => ⟨dir ++ "/svcmap/config.toml"⟩

private def targetOf : Command → String × Bool
  | .scan path _ => (path.text, true)
  | .graph path _ => (path.text, true)
  | .urls path _ => (path.text, true)
  | .showSettings path => ((path.map Path.text).getD ".", false)

private def usage : String :=
  "Usage: svcmap scan PATH | graph PATH | urls PATH | config show\n" ++
    "Options: --format json|text|dot, --exclude GLOB, --quiet, --respect-gitignore, --path PATH\n"

private def carryOut (c : Command) : IO UInt32 := do
  let (target, below) := targetOf c
  let userFile ← userFile
  let root ← snapshot target below userFile
  let here : Path := ⟨(← IO.currentDir).toString⟩
  let environment : Environment :=
    ⟨← IO.getEnv "SVCMAP_FORMAT", ← IO.getEnv "SVCMAP_QUIET", ← IO.getEnv "SVCMAP_EXCLUDE"⟩
  match (Surroundings.run ⟨⟨root, here.names⟩, environment, userFile⟩ c).value with
  | .ok output =>
    IO.print output
    return 0
  | .error e =>
    IO.eprintln e.message
    return 1

end ServiceAtlas.Program

def main (args : List String) : IO UInt32 :=
  match ServiceAtlas.Command.ofArguments args with
  | .ok c => ServiceAtlas.Program.carryOut c
  | .error .version => do
    IO.println "svcmap 0.1.0"
    return 0
  | .error .help => do
    IO.print ServiceAtlas.Program.usage
    return 0
  | .error _ => do
    IO.eprint ServiceAtlas.Program.usage
    return 2

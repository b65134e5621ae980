import ServiceAtlas.Url.Table

/-!
The table of URLs as aligned lines.
-/

namespace ServiceAtlas.UrlTable

/-- Keys are filled up with blanks, one for each character short of the byte length of the longest. -/
private def padTo (width : Nat) (s : String) : String :=
  s ++ String.ofList (List.replicate (width - s.length) ' ')

private def line (width : Nat) (key : String) (entry : UrlEntry) : String :=
  padTo width key ++ " = " ++ entry.value ++ "  (" ++ entry.dialect.name ++ ", " ++
    entry.source.text ++ ")\n"

def listing (t : UrlTable) : String :=
  if t.isEmpty then "No URL keys found.\n"
  else
    let width := (t.keys.map String.utf8ByteSize).foldl max 0
    String.join (t.entries.map fun e => line width e.1 e.2)

end ServiceAtlas.UrlTable

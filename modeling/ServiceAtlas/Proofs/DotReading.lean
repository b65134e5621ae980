import ServiceAtlas.Graph.Dot
import ServiceAtlas.Proofs.GraphHistory
import ServiceAtlas.Proofs.JsonReading
import ServiceAtlas.Proofs.PathSteps
import ServiceAtlas.Proofs.PrintedText

/-!
Drawings read. The reader (`Dot.read?`) takes the statements of a Graphviz text up to its first
subgraph; in a quoted identifier a backslash takes the next character as it is. From the drawing of a
graph it gets the services with their sizes and the calls with their labels and colours, in their
order, which is what the JSON document of the graph says (`Dot.drawing_recovers_graph`).
-/

namespace ServiceAtlas

/-- Pieces that each end with the separator. -/
theorem Text.splitAtEach_flatMap {α : Type} [DecidableEq α] {sep : α} {pieces : List (List α)}
    (h : ∀ piece ∈ pieces, sep ∉ piece) (rest : List α) :
    splitAtEach sep (pieces.flatMap (· ++ [sep]) ++ rest) = pieces ++ splitAtEach sep rest := by
  induction pieces with
  | nil => rfl
  | cons piece pieces ih =>
    obtain ⟨hpiece, hpieces⟩ := List.forall_mem_cons.1 h
    rw [List.flatMap_cons, List.append_assoc, List.append_assoc, List.singleton_append,
      splitAtEach_append, splitAtEach_of_not_mem hpiece, ih hpieces, List.singleton_append,
      List.cons_append]

namespace Dot

/-! ### Tokens -/

inductive Token where
  | word (s : String)
  | quoted (s : String)
  | sign (c : Char)
  | arrow
  deriving DecidableEq, Repr

/-- Where a scanner of drawings stands: between tokens, in a word, behind the first half of an arrow,
or in a quoted identifier of which it has the front, there maybe right behind a backslash. -/
inductive Mode where
  | between
  | word (front : List Char)
  | hyphen
  | quoted (front : List Char)
  | escaped (front : List Char)
  deriving DecidableEq, Repr

def isWordChar (c : Char) : Bool := c.isAlphanum || c == '_' || c == '.'

def isBlank (c : Char) : Bool := c == ' ' || c == '\n' || c == '\r' || c == '\t'

def isSign (c : Char) : Bool := ['{', '}', '[', ']', '=', ';', ','].contains c

/-- What a character does that stands in no token yet. -/
def opened (c : Char) : Option (List Token × Mode) :=
  if isWordChar c then some ([], .word [c])
  else if c = '"' then some ([], .quoted [])
  else if c = '-' then some ([], .hyphen)
  else if isBlank c then some ([], .between)
  else if isSign c then some ([.sign c], .between)
  else none

def Mode.next : Mode → Char → Option (List Token × Mode)
  | .between, c => opened c
  | .word front, c =>
    if isWordChar c then some ([], .word (front ++ [c]))
    else (opened c).map fun r => (.word (String.ofList front) :: r.1, r.2)
  | .hyphen, c => if c = '>' then some ([.arrow], .between) else none
  | .quoted front, c =>
    if c = '"' then some ([.quoted (String.ofList front)], .between)
    else if c = '\\' then some ([], .escaped front)
    else some ([], .quoted (front ++ [c]))
  | .escaped front, c => some ([], .quoted (front ++ [c]))

def Mode.finish : Mode → Option (List Token)
  | .between => some []
  | .word front => some [.word (String.ofList front)]
  | _ => none

def scanner : Scanner Mode Token := ⟨.between, Mode.next, Mode.finish⟩

/-! ### Statements -/

structure Node where
  name : String
  size : Nat
  deriving DecidableEq, Repr

structure Edge where
  source : String
  target : String
  label : String
  colour : String
  deriving DecidableEq, Repr

structure Drawing where
  nodes : List Node
  edges : List Edge
  deriving DecidableEq, Repr

inductive Statement where
  | setting
  | node (n : Node)
  | edge (e : Edge)
  deriving DecidableEq, Repr

namespace Statement

def node? : Statement → Option Node
  | .node n => some n
  | _ => none

def edge? : Statement → Option Edge
  | .edge e => some e
  | _ => none

end Statement

/-- The identifier that a token is. -/
def Token.id? : Token → Option String
  | .word s => some s
  | .quoted s => some s
  | _ => none

def attribute? : List Token → Option (String × String)
  | [key, .sign '=', value] => do return (← key.id?, ← value.id?)
  | _ => none

/-- The attributes between brackets. -/
def attributes? : List Token → Option (List (String × String))
  | .sign '[' :: rest =>
    if rest.getLast? = some (.sign ']') then
      (Text.splitAtEach (.sign ',') rest.dropLast).mapM attribute?
    else none
  | _ => none

def number? (s : String) : Option Nat :=
  if s.toList ≠ [] ∧ s.toList.all Char.isDigit then some (Nat.ofDigitChars 10 s.toList 0) else none

/-- A setting of the drawing or of its nodes, an edge, or a node. -/
def statement? : List Token → Option Statement
  | .word "node" :: rest => (attributes? rest).map fun _ => .setting
  | [.word _, .sign '=', value] => value.id?.map fun _ => .setting
  | source :: .arrow :: target :: rest => do
    let attributes ← attributes? rest
    return .edge ⟨← source.id?, ← target.id?, ← attributes.lookup "label", ← attributes.lookup "color"⟩
  | name :: rest => do
    let attributes ← attributes? rest
    return .node ⟨← name.id?, ← (attributes.lookup "size_hint").bind number?⟩
  | [] => none

/-- What the statements draw. -/
def Drawing.ofStatements (statements : List Statement) : Drawing :=
  ⟨statements.filterMap Statement.node?, statements.filterMap Statement.edge?⟩

def beginsSubgraph (tokens : List Token) : Bool := tokens.head? = some (.word "subgraph")

/-- What a text draws before its first subgraph. -/
def read? (text : String) : Option Drawing :=
  (scanner.tokens? text).bind fun
    | .word "digraph" :: .word _ :: .sign '{' :: body =>
      let statements := (Text.splitAtEach (.sign ';') body).takeWhile fun s => !beginsSubgraph s
      (statements.mapM statement?).map Drawing.ofStatements
    | _ => none

/-! ### Printed tokens -/

/-- Texts that are scanned as one word. -/
def IsWord (s : String) : Prop := s.toList ≠ [] ∧ ∀ c ∈ s.toList, isWordChar c = true

instance : DecidablePred IsWord := fun s =>
  decidable_of_iff ((!s.toList.isEmpty && s.toList.all isWordChar) = true) (by simp [IsWord])

/-- Whether a word ends where a text begins. -/
def endsWord (cs : List Char) : Bool := cs.head?.any fun c => !isWordChar c

theorem run_word {s : String} (hs : IsWord s) {rest : List Char} {ts : List Token} {m : Mode}
    (hrest : endsWord rest = true) (h : scanner.run .between rest = some (ts, m)) :
    scanner.run .between (s.toList ++ rest) = some (.word s :: ts, m) := by
  obtain ⟨hne, hchars⟩ := hs
  have hword : scanner.run .between s.toList = some ([], .word s.toList) :=
    Scanner.run_chars Mode.word (fun _ hc => if_pos hc) (fun _ _ hc => if_pos hc) hne hchars
  refine Scanner.run_completed hword (fun c r hc hopened => ?_) hrest h
  change ite _ _ _ = _
  rw [if_neg (Bool.eq_false_iff.1 hc), show opened c = some r from hopened, String.ofList_toList]
  rfl

theorem isWordChar_of_isDigit {c : Char} (h : c.isDigit = true) : isWordChar c = true := by
  simp [isWordChar, Char.isAlphanum, h]

theorem isWord_toString (n : Nat) : IsWord (toString n) := by
  rw [IsWord, Nat.toString_eq_ofList_toDigits, String.toList_ofList]
  exact ⟨Nat.toDigits_ne_nil, fun c hc =>
    isWordChar_of_isDigit (Nat.isDigit_of_mem_toDigits (by decide) (by decide) hc)⟩

theorem IsWord.append {s t : String} (hs : IsWord s) (ht : IsWord t) : IsWord (s ++ t) := by
  obtain ⟨hne, hschars⟩ := hs
  rw [IsWord, String.toList_append]
  refine ⟨fun h => hne (List.append_eq_nil_iff.1 h).1, fun c hc => ?_⟩
  rcases List.mem_append.1 hc with hc | hc
  · exact hschars c hc
  · exact ht.2 c hc

theorem isWord_hundredths (n d : Nat) : IsWord (hundredths n d) := by
  have hzero : IsWord "0" := by decide
  have hpoint : IsWord "." := by decide
  have hdecimals : IsWord (twoDigits (n % d * 100 / d)) := by
    rw [twoDigits]
    split
    · exact hzero.append (isWord_toString _)
    · exact isWord_toString _
  exact ((isWord_toString _).append hpoint).append hdecimals

theorem isWord_ofLabel (label : String) : IsWord (Colour.ofLabel label) := by
  have hcolours : ∀ e ∈ Colour.palette, IsWord e.2 := by decide
  have hother : IsWord Colour.other := by decide
  rw [Colour.ofLabel]
  cases hfound : Colour.palette.lookup (Text.lower label) with
  | none => exact hother
  | some colour =>
    obtain ⟨before, after, hpalette, _⟩ := List.lookup_eq_some_iff.1 hfound
    exact hcolours (Text.lower label, colour) (by simp [hpalette])

/-- A character is read back from the way in which it is written. -/
theorem run_escape (front : List Char) (c : Char) :
    scanner.run (.quoted front) (escape c) = some ([], .quoted (front ++ [c])) := by
  rw [escape]
  split
  · rfl
  · rename_i hc
    obtain ⟨hquote, hbackslash⟩ := not_or.1 hc
    have hnext : scanner.next (.quoted front) c = some ([], .quoted (front ++ [c])) := by
      change ite _ _ _ = _
      rw [if_neg hquote, if_neg hbackslash]
    exact Scanner.run_cons hnext rfl

theorem toList_quote (s : String) : (quote s).toList = '"' :: (s.toList.flatMap escape ++ ['"']) := by
  simp [quote]

theorem run_quote (s : String) :
    scanner.run .between (quote s).toList = some ([.quoted s], .between) := by
  have hopen : scanner.next .between '"' = some ([], .quoted []) := rfl
  have hinside : scanner.run (.quoted []) (s.toList.flatMap escape) = some ([], .quoted s.toList) :=
    Scanner.run_flatMap escape Mode.quoted (fun front c _ => run_escape front c) []
  have hclose : scanner.run (.quoted s.toList) ['"'] =
      some ([.quoted (String.ofList s.toList)], .between) := rfl
  rw [String.ofList_toList] at hclose
  rw [toList_quote]
  exact Scanner.run_cons hopen (Scanner.run_append hinside hclose)

def nodeTokens (g : ServiceGraph) (name : String) : List Token :=
  [.quoted name, .sign '[', .word "size_hint", .sign '=', .word (toString (g.sizeHint name)),
    .sign ',', .word "width", .sign '=',
    .word (hundredths (g.sizeHint name) ServiceGraph.sizeUnit), .sign ']']

def callTokens (d : Dependency) : List Token :=
  [.quoted d.caller, .arrow, .quoted d.callee, .sign '[', .word "label", .sign '=', .quoted d.label,
    .sign ',', .word "color", .sign '=', .word (Colour.ofLabel d.label),
    .sign ',', .word "fontcolor", .sign '=', .word "red", .sign ']']

def settingTokens : List (List Token) :=
  [[.word "label", .sign '=', .quoted "Microservices Dependency Graph"],
   [.word "labelloc", .sign '=', .word "t"],
   [.word "rankdir", .sign '=', .word "LR"],
   [.word "node", .sign '[', .word "shape", .sign '=', .word "ellipse",
    .sign ',', .word "style", .sign '=', .word "filled",
    .sign ',', .word "fillcolor", .sign '=', .word Colour.node,
    .sign ',', .word "fontsize", .sign '=', .word "10", .sign ']']]

/-- A line with its end. -/
def lineChars (l : String) : List Char := l.toList ++ ['\n']

theorem run_header : scanner.run .between (header.flatMap lineChars) =
    some ([.word "digraph", .word "service_dependencies", .sign '{'] ++
      settingTokens.flatMap (· ++ [.sign ';']), .between) := by
  decide +kernel

/-- An entry of the legend: the verb and the colour of its calls. -/
def entryTokens (e : String × String) : List Token :=
  [.quoted ("legend_" ++ e.1), .sign '[', .word "label", .sign '=', .quoted e.1,
    .sign ',', .word "fontcolor", .sign '=', .word e.2, .sign ']']

/-- What stands in the legend before its entries. -/
def legendSettingTokens : List (List Token) :=
  [[.word "label", .sign '=', .quoted "HTTP Methods"],
   [.word "node", .sign '[', .word "shape", .sign '=', .word "plaintext",
    .sign ',', .word "style", .sign '=', .quoted "", .sign ']']]

def legendEntries : List (String × String) := Colour.palette ++ [("other", Colour.other)]

/-- The statements of the legend, each without the sign that ends it. -/
def legendTokens : List (List Token) := legendSettingTokens ++ legendEntries.map entryTokens

/-- What follows the word that begins the legend, up to the end of the drawing. -/
def legendBlock : List Token :=
  .word "cluster_legend" :: .sign '{' ::
    (legendTokens.flatMap (· ++ [.sign ';']) ++ [.sign '}', .sign '}'])

/-- The legend is a subgraph, the last thing that is drawn. -/
theorem run_legend : scanner.run .between ((legend ++ ["\x7d"]).flatMap lineChars) =
    some (.word "subgraph" :: legendBlock, .between) := by
  decide +kernel

theorem run_nodeLine (g : ServiceGraph) (name : String) :
    scanner.run .between (lineChars (nodeLine g name)) =
      some (nodeTokens g name ++ [.sign ';'], .between) := by
  have htext : lineChars (nodeLine g name) = "    ".toList ++ ((quote name).toList ++
      (" [size_hint=".toList ++ ((toString (g.sizeHint name)).toList ++ (", width=".toList ++
        ((hundredths (g.sizeHint name) ServiceGraph.sizeUnit).toList ++ "];\n".toList))))) := by
    simp only [lineChars, nodeLine, String.toList_append, List.append_assoc]
    rfl
  have hindent : scanner.run .between "    ".toList = some ([], .between) := rfl
  have hsize : scanner.run .between " [size_hint=".toList =
      some ([.sign '[', .word "size_hint", .sign '='], .between) := rfl
  have hwidth : scanner.run .between ", width=".toList =
      some ([.sign ',', .word "width", .sign '='], .between) := rfl
  have hend : scanner.run .between "];\n".toList = some ([.sign ']', .sign ';'], .between) := rfl
  have hwidthValue := run_word (isWord_hundredths (g.sizeHint name) ServiceGraph.sizeUnit) rfl hend
  have hsizeValue := run_word (isWord_toString (g.sizeHint name)) rfl
    (Scanner.run_append hwidth hwidthValue)
  have hall := Scanner.run_append hindent (Scanner.run_append (run_quote name)
    (Scanner.run_append hsize hsizeValue))
  rw [htext]
  exact hall

theorem run_callLine (d : Dependency) :
    scanner.run .between (lineChars (callLine d)) =
      some (callTokens d ++ [.sign ';'], .between) := by
  have htext : lineChars (callLine d) = "    ".toList ++ ((quote d.caller).toList ++
      (" -> ".toList ++ ((quote d.callee).toList ++ (" [label=".toList ++ ((quote d.label).toList ++
        (", color=".toList ++ ((Colour.ofLabel d.label).toList ++
          ", fontcolor=red];\n".toList))))))) := by
    simp only [lineChars, callLine, String.toList_append, List.append_assoc]
    rfl
  have hindent : scanner.run .between "    ".toList = some ([], .between) := rfl
  have harrow : scanner.run .between " -> ".toList = some ([.arrow], .between) := rfl
  have hlabel : scanner.run .between " [label=".toList =
      some ([.sign '[', .word "label", .sign '='], .between) := rfl
  have hcolour : scanner.run .between ", color=".toList =
      some ([.sign ',', .word "color", .sign '='], .between) := rfl
  have hend : scanner.run .between ", fontcolor=red];\n".toList =
      some ([.sign ',', .word "fontcolor", .sign '=', .word "red", .sign ']', .sign ';'],
        .between) := rfl
  have hcolourValue := run_word (isWord_ofLabel d.label) rfl hend
  have hattributes := Scanner.run_append hlabel (Scanner.run_append (run_quote d.label)
    (Scanner.run_append hcolour hcolourValue))
  have hall := Scanner.run_append hindent (Scanner.run_append (run_quote d.caller)
    (Scanner.run_append harrow (Scanner.run_append (run_quote d.callee) hattributes)))
  rw [htext]
  exact hall

/-! ### Printed statements -/

/-- The statements of the drawing of a graph, each without the sign that ends it. -/
def statementTokens (g : ServiceGraph) : List (List Token) :=
  settingTokens ++ g.services.map (nodeTokens g) ++ g.calls.map callTokens

theorem toList_render (g : ServiceGraph) : (render g).toList = header.flatMap lineChars ++
    (g.services.flatMap (fun name => lineChars (nodeLine g name)) ++ (['\n'] ++
      (g.calls.flatMap (fun d => lineChars (callLine d)) ++ (['\n'] ++
        (legend ++ ["\x7d"]).flatMap lineChars)))) := by
  have hlines : (render g).toList = (lines g).flatMap lineChars := toList_textOfLines (lines g)
  rw [hlines, lines]
  simp only [List.flatMap_append, List.flatMap_map, List.append_assoc, List.flatMap_cons,
    List.flatMap_nil, List.append_nil]
  rfl

theorem tokens?_render (g : ServiceGraph) : scanner.tokens? (render g) =
    some (.word "digraph" :: .word "service_dependencies" :: .sign '{' ::
      ((statementTokens g).flatMap (· ++ [.sign ';']) ++ .word "subgraph" :: legendBlock)) := by
  have hnodes := Scanner.run_pieces (fun name => lineChars (nodeLine g name))
    (fun name => nodeTokens g name ++ [.sign ';']) (run_nodeLine g) g.services
  have hcalls := Scanner.run_pieces (fun d => lineChars (callLine d))
    (fun d => callTokens d ++ [.sign ';']) run_callLine g.calls
  have hblank : scanner.run .between ['\n'] = some ([], .between) := rfl
  have hall := Scanner.run_append run_header (Scanner.run_append hnodes (Scanner.run_append hblank
    (Scanner.run_append hcalls (Scanner.run_append hblank run_legend))))
  rw [← toList_render] at hall
  rw [Scanner.tokens?_eq hall rfl]
  simp [statementTokens, List.flatMap_map]

theorem number?_repr (n : Nat) : number? n.repr = some n := by
  have hdigits : (Nat.toDigits 10 n).all Char.isDigit = true :=
    List.all_eq_true.2 fun c hc => Nat.isDigit_of_mem_toDigits (by decide) (by decide) hc
  rw [number?, Nat.repr_eq_ofList_toDigits, String.toList_ofList,
    if_pos ⟨Nat.toDigits_ne_nil, hdigits⟩, Nat.ofDigitChars_ten_toDigits]

theorem statement?_nodeTokens (g : ServiceGraph) (name : String) :
    statement? (nodeTokens g name) = some (.node ⟨name, g.sizeHint name⟩) := by
  simp [statement?, nodeTokens, attributes?, Text.splitAtEach, attribute?, Token.id?, number?_repr]

theorem statement?_callTokens (d : Dependency) : statement? (callTokens d) =
    some (.edge ⟨d.caller, d.callee, d.label, Colour.ofLabel d.label⟩) := by
  simp [statement?, callTokens, attributes?, Text.splitAtEach, attribute?, Token.id?, List.lookup_cons]

theorem mapM_settingTokens :
    settingTokens.mapM statement? = some (List.replicate settingTokens.length .setting) := by
  decide +kernel

/-- The statements can be told apart by the signs that end them, and none begins a subgraph: names are
quoted, whatever they are. -/
theorem forall_mem_statementTokens (g : ServiceGraph) :
    ∀ piece ∈ statementTokens g, Token.sign ';' ∉ piece ∧ beginsSubgraph piece = false := by
  have hsettings : ∀ piece ∈ settingTokens,
      Token.sign ';' ∉ piece ∧ beginsSubgraph piece = false := by decide
  intro piece hpiece
  rw [statementTokens, List.append_assoc] at hpiece
  rcases List.mem_append.1 hpiece with hsetting | hpiece
  · exact hsettings piece hsetting
  rcases List.mem_append.1 hpiece with hnode | hcall
  · obtain ⟨name, _, rfl⟩ := List.mem_map.1 hnode
    exact ⟨by simp [nodeTokens], rfl⟩
  · obtain ⟨d, _, rfl⟩ := List.mem_map.1 hcall
    exact ⟨by simp [callTokens], rfl⟩

/-- What is drawn of a graph. -/
def Drawing.ofGraph (g : ServiceGraph) : Drawing where
  nodes := g.services.map fun name => ⟨name, g.sizeHint name⟩
  edges := g.calls.map fun d => ⟨d.caller, d.callee, d.label, Colour.ofLabel d.label⟩

theorem mapM_statementTokens (g : ServiceGraph) : (statementTokens g).mapM statement? =
    some (List.replicate settingTokens.length .setting ++ ((Drawing.ofGraph g).nodes.map .node ++
      (Drawing.ofGraph g).edges.map .edge)) := by
  have hnodes := mapM_map_eq_some (nodeTokens g) statement? _ (statement?_nodeTokens g) g.services
  have hcalls := mapM_map_eq_some callTokens statement? _ statement?_callTokens g.calls
  simp [statementTokens, mapM_settingTokens, hnodes, hcalls, Drawing.ofGraph, Function.comp_def]

theorem Drawing.ofStatements_append (n : Nat) (d : Drawing) :
    ofStatements (List.replicate n .setting ++ (d.nodes.map .node ++ d.edges.map .edge)) = d := by
  simp [ofStatements, List.filterMap_replicate, Function.comp_def, Statement.node?, Statement.edge?]

theorem read?_render (g : ServiceGraph) : read? (render g) = some (Drawing.ofGraph g) := by
  have hstatements := forall_mem_statementTokens g
  have hpieces := Text.splitAtEach_flatMap (fun piece h => (hstatements piece h).1)
  obtain ⟨piece, pieces, hblock⟩ := Text.exists_splitAtEach_eq_cons (.sign ';') legendBlock
  have hlegend : Text.splitAtEach (.sign ';') (.word "subgraph" :: legendBlock) =
      (.word "subgraph" :: piece) :: pieces := by
    rw [Text.splitAtEach, if_neg (by simp), hblock]
  have hbefore : (statementTokens g ++ (.word "subgraph" :: piece) :: pieces).takeWhile
      (fun s => !beginsSubgraph s) = statementTokens g := by
    rw [List.takeWhile_append_of_pos fun piece h => by rw [(hstatements piece h).2]; rfl]
    -- the piece behind the statements begins the legend, so nothing of it is taken
    exact List.append_nil _
  rw [read?, tokens?_render, Option.bind_some]
  change Option.map _ (List.mapM _ (List.takeWhile _ (Text.splitAtEach _ _))) = _
  rw [hpieces, hlegend, hbefore, mapM_statementTokens, Option.map_some, Drawing.ofStatements_append]

/-! ### The drawing and the document -/

def Node.ofJson? (j : Json) : Option Node := do
  let name ← Json.member? "name" Json.text? j
  let size ← Json.member? "size" Json.count? j
  return ⟨name, size⟩

def Edge.ofJson? (j : Json) : Option Edge := do
  let source ← Json.member? "from" Json.text? j
  let target ← Json.member? "to" Json.text? j
  let label ← Json.member? "label" Json.text? j
  let colour ← Json.member? "color" Json.text? j
  return ⟨source, target, label, colour⟩

/-- The nodes and the edges that the document of a graph lists. -/
def Drawing.ofJson? (j : Json) : Option Drawing := do
  let nodes ← Json.member? "nodes" (Json.list? Node.ofJson?) j
  let edges ← Json.member? "edges" (Json.list? Edge.ofJson?) j
  return ⟨nodes, edges⟩

theorem Drawing.ofJson?_toJson (g : ServiceGraph) : ofJson? g.toJson = some (ofGraph g) := by
  have hnodes := mapM_map_eq_some (fun name => .object [("name", .text name),
    ("size", .count (g.sizeHint name)), ("color", .text Colour.node)]) Node.ofJson?
    (fun name => ⟨name, g.sizeHint name⟩) (fun _ => rfl) g.services
  have hedges := mapM_map_eq_some (fun c : Dependency => .object [("from", .text c.caller),
    ("to", .text c.callee), ("label", .text c.label), ("color", .text (Colour.ofLabel c.label))])
    Edge.ofJson? (fun c => ⟨c.caller, c.callee, c.label, Colour.ofLabel c.label⟩) (fun _ => rfl) g.calls
  simp [ofJson?, ServiceGraph.toJson, Json.member?, Json.list?, List.lookup_cons, hnodes, hedges,
    ofGraph]

theorem Drawing.ofGraph_injective : Function.Injective ofGraph := by
  rintro ⟨services, calls⟩ ⟨services', calls'⟩ h
  have hnodes := congrArg (fun d => d.nodes.map Node.name) h
  have hedges := congrArg (fun d => d.edges.map fun e => Dependency.mk e.source e.target e.label) h
  simp only [ofGraph, List.map_map, Function.comp_def, List.map_id'] at hnodes hedges
  rw [hnodes, hedges]

theorem render_inj {g g' : ServiceGraph} : render g = render g' ↔ g = g' := by
  constructor
  · intro h
    have hdrawing : some (Drawing.ofGraph g) = some (Drawing.ofGraph g') := by
      rw [← read?_render, ← read?_render, h]
    exact Drawing.ofGraph_injective (Option.some.inj hdrawing)
  · rintro rfl
    rfl

/-- The drawing loses nothing and says what the document says. For any graph that steps build, the
reader of drawings and the reader of documents get the same nodes, named and sized as the services of
the graph and in their order, and the same edges, with the ends, the label and the colour of the
calls of the graph and in their order. So two graphs have one drawing only if they are one graph. -/
theorem drawing_recovers_graph (steps : List ServiceGraph.Step) :
    let g := steps.foldl ServiceGraph.apply .empty
    (∃ d, read? (render g) = some d ∧ (Json.read? g.toJson.document).bind Drawing.ofJson? = some d ∧
      d.nodes = g.services.map (fun name => ⟨name, g.sizeHint name⟩) ∧
      d.edges = g.calls.map fun c => ⟨c.caller, c.callee, c.label, Colour.ofLabel c.label⟩) ∧
    ∀ steps' : List ServiceGraph.Step, render g = render (steps'.foldl ServiceGraph.apply .empty) ↔
      g = steps'.foldl ServiceGraph.apply .empty := by
  intro g
  refine ⟨⟨Drawing.ofGraph g, read?_render g, ?_, rfl, rfl⟩, fun steps' => render_inj⟩
  rw [Json.read?_document, Option.bind_some, Drawing.ofJson?_toJson]

end Dot

end ServiceAtlas

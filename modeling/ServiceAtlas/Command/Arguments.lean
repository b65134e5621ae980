import ServiceAtlas.Settings.Layers

/-!
Command lines. Arguments are taken one by one; a value is looked at only when the next option or
operand begins, so that what is wrong with a later argument may be told first.
-/

namespace ServiceAtlas

/-- What the program is asked to do. -/
inductive Command where
  | scan (path : Path) (overrides : Overrides)
  | graph (path : Path) (overrides : Overrides)
  | urls (path : Path) (overrides : Overrides)
  | showSettings (path : Option Path)
  deriving DecidableEq, Repr

/-- Why a command line does not lead to a command. Help and version are asked for, the others are
mistakes. -/
inductive Usage where
  | help
  | version
  | helpForMissing
  | unknownArgument
  | invalidValue
  | missingArgument
  | unknownCommand
  | repeated
  | unwantedValue
  deriving DecidableEq, Repr

/-! Options of a command -/

/-- What values an option takes. -/
inductive OptionKind where
  | switch
  | format
  | path
  | patterns
  deriving DecidableEq, Repr

/-- The options of a command, and whether it takes an operand, which then is required. -/
structure Signature where
  options : List (String × OptionKind)
  operand : Bool

/-- The arguments of a command as far as they have been accepted. -/
structure Accepted where
  switches : List String := []
  values : List (String × String) := []
  operand : Option String := none

/-- An argument that is not yet accepted: an option that may still lack its value, or an operand. -/
inductive Pending where
  | option (name : String) (kind : OptionKind) (value : Option String)
  | operand (value : String)

namespace Accepted

private def isValid (kind : OptionKind) (value : String) : Bool :=
  match kind with
  | .switch => false
  | .format => value == "json" || value == "text" || value == "dot"
  | .path => !value.isEmpty
  | .patterns => true

/-- Accepts the value of an option. Only patterns may be given repeatedly. -/
def option (a : Accepted) (name : String) (kind : OptionKind) (value : String) :
    Except Usage Accepted :=
  if kind ≠ .patterns && (a.values.lookup name).isSome then .error .repeated
  else if !isValid kind value then .error .invalidValue
  else .ok { a with values := a.values ++ [(name, value)] }

def switch (a : Accepted) (name : String) : Except Usage Accepted :=
  if a.switches.contains name then .error .repeated
  else .ok { a with switches := a.switches ++ [name] }

/-- Accepts what is pending. An operand must not be empty. -/
def settle (a : Accepted) : Option Pending → Except Usage Accepted
  | none => .ok a
  | some (.option _ _ none) => .error .invalidValue
  | some (.option name kind (some value)) => a.option name kind value
  | some (.operand value) =>
    if value.isEmpty then .error .invalidValue else .ok { a with operand := some value }

end Accepted

/-- An argument by its looks. -/
inductive Word where
  /-- Two hyphens: what follows is operands. -/
  | separator
  | long (name : String) (value : Option String)
  | short (letters : List Char)
  | plain
  deriving DecidableEq, Repr

def Word.of (arg : String) : Word :=
  match arg.toList with
  | ['-', '-'] => .separator
  | '-' :: '-' :: rest =>
    let name := String.ofList (rest.takeWhile (· != '='))
    match rest.dropWhile (· != '=') with
    | [] => .long name none
    | _ :: value => .long name (some (String.ofList value))
  | '-' :: c :: rest => .short (c :: rest)
  | _ => .plain

namespace Signature

/-- A command line in progress. -/
structure State where
  accepted : Accepted := {}
  pending : Option Pending := none
  operandsOnly : Bool := false
  /-- Whether an operand was met. -/
  filled : Bool := false

private def long (s : Signature) (st : State) (name : String) (value : Option String) :
    Except Usage State := do
  if name = "help" then
    if value.isSome then throw .unwantedValue
    let _ ← st.accepted.settle st.pending
    throw .help
  match s.options.lookup name, value with
  | none, _ => throw .unknownArgument
  | some .switch, some _ => throw .unwantedValue
  | some .switch, none =>
    let a ← st.accepted.settle st.pending
    return { st with accepted := ← a.switch name, pending := none }
  | some kind, some value =>
    let a ← st.accepted.settle st.pending
    return { st with accepted := ← a.option name kind value, pending := none }
  | some kind, none =>
    let a ← st.accepted.settle st.pending
    return { st with accepted := a, pending := some (.option name kind none) }

private def operandArgument (s : Signature) (st : State) (arg : String) : Except Usage State := do
  if !s.operand || st.filled then throw .unknownArgument
  let a ← st.accepted.settle st.pending
  return { st with accepted := a, pending := some (.operand arg), filled := true }

/-- Takes one argument. -/
def take (s : Signature) (st : State) (arg : String) : Except Usage State :=
  if st.operandsOnly then s.operandArgument st arg
  else
    match Word.of arg with
    | .separator => .ok { st with operandsOnly := true }
    | .long name value => s.long st name value
    | .short letters =>
      if letters.head? = some 'h' then do
        let _ ← st.accepted.settle st.pending
        throw .help
      else .error .unknownArgument
    | .plain =>
      match st.pending with
      | some (.option name kind none) => .ok { st with pending := some (.option name kind (some arg)) }
      | _ => s.operandArgument st arg

/-- Takes all arguments of a command. -/
def accept (s : Signature) (args : List String) : Except Usage Accepted := do
  let st ← args.foldlM s.take {}
  let a ← st.accepted.settle st.pending
  if s.operand && a.operand.isNone then throw .missingArgument
  return a

end Signature

/-! The commands -/

private def scanSignature : Signature :=
  ⟨[("format", .format), ("exclude", .patterns), ("quiet", .switch), ("respect-gitignore", .switch)], true⟩

private def urlsSignature : Signature := ⟨[("format", .format), ("respect-gitignore", .switch)], true⟩

private def showSignature : Signature := ⟨[("path", .path)], false⟩

private def overridesOf (a : Accepted) : Overrides where
  format := (a.values.lookup "format").bind Format.ofName?
  quiet := a.switches.contains "quiet"
  exclude := (a.values.filter (·.1 = "exclude")).map (·.2)
  respectGitignore := a.switches.contains "respect-gitignore"

private def pathOf (a : Accepted) : Path := ⟨a.operand.getD ""⟩

/-- A command word: a command of its own, or a group of them. -/
inductive Verb where
  | leaf (parse : List String → Except Usage Command)
  | group (verbs : List (String × (List String → Except Usage Command)))

private def settingsVerbs : List (String × (List String → Except Usage Command)) :=
  [("show", fun args => (showSignature.accept args).map fun a =>
    .showSettings ((a.values.lookup "path").map fun text => ⟨text⟩))]

private def verbs : List (String × Verb) :=
  [("scan", .leaf fun args => (scanSignature.accept args).map fun a => .scan (pathOf a) (overridesOf a)),
   ("graph", .leaf fun args => (scanSignature.accept args).map fun a => .graph (pathOf a) (overridesOf a)),
   ("urls", .leaf fun args => (urlsSignature.accept args).map fun a => .urls (pathOf a) (overridesOf a)),
   ("config", .group settingsVerbs)]

/-- Arguments in a place where a command word is expected. `find` tells the words apart, and `letters`
what single letters and long names ask for. -/
private def expectVerb (find : String → Option (List String → Except Usage Command))
    (asks : List (Char × String × Usage)) : (operandsOnly : Bool) → List String → Except Usage Command
  | _, [] => .error .helpForMissing
  | operandsOnly, arg :: rest =>
    match find arg with
    | some parse => if operandsOnly then .error .unknownArgument else parse rest
    | none =>
      if operandsOnly then .error .unknownCommand
      else
        match Word.of arg with
        | .separator => expectVerb find asks true rest
        | .long name value =>
          match asks.find? (fun a => a.2.1 = name) with
          | none => .error .unknownArgument
          | some a => .error (if value.isSome then .unwantedValue else a.2.2)
        | .short letters =>
          match asks.find? (fun a => letters.head? = some a.1) with
          | none => .error .unknownArgument
          | some a => .error a.2.2
        | .plain => .error .unknownCommand

private def askHelp : Char × String × Usage := ('h', "help", .help)

private def askVersion : Char × String × Usage := ('V', "version", .version)

/-- Help on a command, told by its words. -/
private def helpOn (known : List String → Bool) (words : List String) : Except Usage Command :=
  .error (if known words then .help else .unknownCommand)

private def groupCommand (inside : List (String × (List String → Except Usage Command)))
    (args : List String) : Except Usage Command :=
  let known (words : List String) : Bool :=
    match words with
    | [] => true
    | [word] => word = "help" || (inside.lookup word).isSome
    | _ => false
  expectVerb (fun word => if word = "help" then some (helpOn known) else inside.lookup word)
    [askHelp] false args

/-- Whether words lead to a command, from the top. -/
private def isKnown : List String → Bool
  | [] => true
  | ["help"] => true
  | word :: rest =>
    match verbs.lookup word with
    | none => false
    | some (.leaf _) => rest.isEmpty
    | some (.group inside) =>
      match rest with
      | [] => true
      | [word] => word = "help" || (inside.lookup word).isSome
      | _ => false

namespace Command

/-- The command that a command line asks for. -/
def ofArguments (args : List String) : Except Usage Command :=
  expectVerb
    (fun word =>
      if word = "help" then some (helpOn isKnown)
      else (verbs.lookup word).map fun v =>
        match v with
        | .leaf parse => parse
        | .group inside => groupCommand inside)
    [askHelp, askVersion] false args

end Command

end ServiceAtlas

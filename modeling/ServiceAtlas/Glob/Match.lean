import ServiceAtlas.Glob.Pattern

/-!
Matching paths against glob patterns. Paths are matched byte by byte. The meaning of a token is the
list of all that may be left of a path after it.
-/

namespace ServiceAtlas.Glob

/-- Whether the wildcards stop at separators. -/
structure Options where
  literalSeparator : Bool
  deriving DecidableEq, Repr

private def bytesOf (c : Char) : List Nat := (String.singleton c).toUTF8.toList.map UInt8.toNat

private def slash : Nat := 0x2F

/-- The list itself and all that is left after dropping from its front. -/
def tails : List Nat → List (List Nat)
  | [] => [[]]
  | b :: bs => (b :: bs) :: tails bs

/-- What is left after each separator. -/
def afterSeparators : List Nat → List (List Nat)
  | [] => []
  | b :: bs => if b = slash then bs :: afterSeparators bs else afterSeparators bs

/-- As `tails`, without passing a separator. -/
def tailsInside : List Nat → List (List Nat)
  | [] => [[]]
  | b :: bs => if b = slash then [b :: bs] else (b :: bs) :: tailsInside bs

private def dropBytes (bs : List Nat) (path : List Nat) : List (List Nat) :=
  if bs.isPrefixOf path then [path.drop bs.length] else []

/-- Whether a byte is in a range. A range of characters beyond one byte means their first bytes, the
bytes from the last byte of the left end to the first of the right end, and the other bytes of the
right end. -/
private def inRange (b : Nat) (r : Char × Char) : Bool :=
  if r.1 = r.2 then (bytesOf r.1).contains b
  else
    let left := bytesOf r.1
    let right := bytesOf r.2
    left.dropLast.contains b || right.tail.contains b ||
      (left.getLast?.any (· ≤ b) && right.head?.any (b ≤ ·))

mutual

/-- Whether tokens without any text of their own, which match nothing but the empty path. -/
def isBlank : List Token → Bool
  | [] => true
  | .alternates branches :: rest => areBlank branches && isBlank rest
  | _ :: _ => false

def areBlank : List (List Token) → Bool
  | [] => true
  | b :: bs => isBlank b && areBlank bs

end

mutual

/-- What may be left of a path after a token. -/
def Token.rests (o : Options) : Token → List Nat → List (List Nat)
  | .literal c, path => dropBytes (bytesOf c) path
  | .any, path =>
    match path with
    | [] => []
    | b :: bs => if o.literalSeparator && b = slash then [] else [bs]
  | .zeroOrMore, path => if o.literalSeparator then tailsInside path else tails path
  | .leadingDirectories, path => path :: afterSeparators path
  | .trailingAll, path =>
    match path with
    | b :: bs => if b = slash then tails bs else []
    | [] => []
  | .innerDirectories, path =>
    match path with
    | b :: bs => if b = slash then bs :: afterSeparators bs else []
    | [] => []
  | .oneOf negated ranges, path =>
    match path with
    | b :: bs => if (ranges.any (inRange b)) != negated then [bs] else []
    | [] => []
  | .alternates branches, path => if areBlank branches then [path] else branchRests o branches path

/-- What may be left after one of the branches; blank branches do not count. -/
def branchRests (o : Options) : List (List Token) → List Nat → List (List Nat)
  | [], _ => []
  | b :: bs, path => (if isBlank b then [] else sequenceRests o b [path]) ++ branchRests o bs path

/-- What may be left after tokens in a row. -/
def sequenceRests (o : Options) : List Token → List (List Nat) → List (List Nat)
  | [], paths => paths
  | t :: ts, paths => sequenceRests o ts (paths.flatMap (t.rests o)).eraseDups

end

private def isLiteral : Token → Bool
  | .literal _ => true
  | _ => false

private def isPlain : Token → Bool
  | .literal c => c ≠ '/'
  | _ => false

/-- Whether tokens end in a dot and other plain characters after it. -/
private def endsInExtension (tokens : List Token) : Bool :=
  match tokens.reverse.dropWhile (fun t => isPlain t && !(t matches .literal '.')) with
  | .literal '.' :: _ => true
  | _ => false

private def isStarSuffix : List Token → Bool
  | .leadingDirectories :: .zeroOrMore :: rest => rest.all isLiteral
  | .leadingDirectories :: rest => rest.all isLiteral
  | .zeroOrMore :: rest => rest.all isLiteral
  | _ => false

private def isStarExtension (tokens : List Token) : Bool :=
  let rest := match tokens with
    | .leadingDirectories :: rest => rest
    | tokens => tokens
  match rest with
  | .zeroOrMore :: .literal '.' :: ext => ext.all fun t => isPlain t && !(t matches .literal '.')
  | _ => false

private def isPrefixPattern (tokens : List Token) : Bool :=
  tokens.dropLast.all isLiteral &&
    match tokens.getLast? with
    | some .zeroOrMore => true
    | some .trailingAll => true
    | _ => false

/-- Whether the pattern is one that names a file or an extension, so that it is compared with the file
name of a path. A path that ends in a dot has no file name to compare with. -/
def isByName (o : Options) (tokens : List Token) : Bool :=
  match tokens with
  | .leadingDirectories :: rest =>
    if !rest.isEmpty && rest.all isPlain then true
    else isStarExtension tokens || (!(isStarSuffix tokens && !o.literalSeparator) && endsInExtension tokens)
  | _ =>
    if tokens.all isLiteral then false
    else if isStarExtension tokens && !o.literalSeparator then true
    else if !o.literalSeparator && (isPrefixPattern tokens || isStarSuffix tokens) then false
    else endsInExtension tokens

/-- Whether the pattern matches the whole path. -/
def isMatch (o : Options) (tokens : List Token) (path : String) : Bool :=
  let bytes := path.toUTF8.toList.map UInt8.toNat
  if isByName o tokens && bytes.getLast? = some 0x2E then false
  else
    match tokens with
    | [.leadingDirectories] => true
    | _ => (sequenceRests o tokens [bytes]).any List.isEmpty

end ServiceAtlas.Glob

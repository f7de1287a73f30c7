import ServerLink.Glob.Expression
import ServerLink.Glob.Parser
/-!
Collections of patterns. A collection knows patterns that are texts at an end of a path, patterns for
an extension, each with its expression, and all other ones, whose expressions are kept together.
-/

namespace ServerLink.Glob

inductive CollectionError where
  | malformed (pattern : String) (error : ParseError)
  /-- An expression that is kept for itself is nested too deep. -/
  | tooDeep (expression : String)
  /-- One of the expressions that are kept together is nested too deep. -/
  | tooDeepAt (index : Nat)
  deriving DecidableEq, Repr

def CollectionError.message : CollectionError → String
  | .malformed pattern error => "error parsing glob '" ++ pattern ++ "': " ++ error.reason
  | .tooDeep expression => "error parsing glob '" ++ expression ++ "': error parsing pattern 0"
  | .tooDeepAt index => "error parsing pattern " ++ toString index

inductive Keeping where
  | asText
  | byExtension
  | together
  deriving DecidableEq, Repr

/-- Whether a pattern is a text at the end of a path, or at its start before one wildcard. -/
def isText (tokens : List Token) : Bool :=
  let (_, wild, text) := splitText tokens
  let front := tokens.dropLast
  (!text.isEmpty && text.all Token.isLiteral &&
      !(wild && text.length == 1 && text.all (Token.isChar '/'))) ||
    (front.all Token.isLiteral &&
      match tokens.getLast? with
      | some .anyBytes => !front.isEmpty
      | some .directoryContent => true
      | _ => false)

def endsInExtension (tokens : List Token) : Bool :=
  (tokens.reverse.dropWhile fun t =>
    t.isLiteral && !t.isChar '.' && !t.isChar '/').head?.any (Token.isChar '.')

def keeping (g : Glob) : Keeping :=
  if isText g.tokens then .asText else if endsInExtension g.tokens then .byExtension else .together

def parseOne (pattern : String) : Except CollectionError Glob :=
  match parse pattern with
  | .ok g => .ok g
  | .error e => .error (.malformed pattern e)

def parseAll (patterns : List String) : Except CollectionError (List Glob) := do
  let globs ← patterns.mapM parseOne
  let tooDeep := fun g : Glob => greatestDepth < g.depth
  match (globs.filter (keeping · = .byExtension)).find? tooDeep with
  | some g => throw (.tooDeep g.expression)
  | none =>
      match (globs.filter (keeping · = .together)).findIdx? tooDeep with
      | some i => throw (.tooDeepAt i)
      | none => return globs

def anyMatch (globs : List Glob) (path : List UInt8) : Bool :=
  globs.any (·.isMatch path)

end ServerLink.Glob

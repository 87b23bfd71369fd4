import CfgPatch.Cfg.Token

/-!
# What can be wrong with a cfg source

An error names its cause and the bytes of the source that show it. The wording is in
`Error.message` alone.
-/

namespace CfgPatch.Cfg

/-- What the reader was looking for. -/
inductive Expected where
  /-- The end of a node's body. -/
  | closeBrace
  /-- A field or a node. -/
  | item
  /-- The body of a node whose name has been read. -/
  | bodyOf (name : Text)
deriving DecidableEq, Repr

/-- Why a token cannot stand where it stands. -/
inductive Fault where
  /-- Something else should stand there. -/
  | unexpected (expected : Expected)
  /-- A body with no name in front. -/
  | namelessNode
  /-- An equals sign with no key in front. -/
  | namelessField
deriving DecidableEq, Repr

/-- Why a source cannot be read. -/
inductive Error where
  /-- A blank that the format has no place for. -/
  | stray (span : Span) (char : Char)
  /-- A token that cannot stand where it stands. -/
  | misplaced (span : Span) (token : Token) (fault : Fault)
  /-- The source ends too early. -/
  | unexpectedEnd (expected : Expected)
deriving DecidableEq, Repr

/-- How a message names what was expected. -/
def Expected.describe : Expected → String
  | closeBrace => "'\x7d'"
  | item => "a value or node"
  | bodyOf name => "'\x7b' after '" ++ String.ofList name ++ "'"

/-- A span as messages show it. -/
def Span.describe (s : Span) : String :=
  "TokenSpan \x7b start: " ++ toString s.start ++ ", end: " ++ toString s.stop ++ " \x7d"

/-- A lone blank character in quotes, spelled by its code point. -/
def quoteBlank (c : Char) : String :=
  "\"\\u\x7b" ++ String.ofList (Nat.toDigits 16 c.toNat) ++ "\x7d\""

/-- The wording of an error. -/
def Error.message : Error → String
  | stray span c => "Lexer error at " ++ span.describe ++ ": unexpected character " ++ quoteBlank c
  | misplaced span token (.unexpected expected) =>
    "Unexpected token at " ++ span.describe ++ ": expected " ++ expected.describe ++
      ", found " ++ token.describe
  | misplaced span _ .namelessNode =>
    "Invalid syntax at " ++ span.describe ++ ": node is missing a name"
  | misplaced span _ .namelessField =>
    "Invalid syntax at " ++ span.describe ++ ": value is missing a name"
  | unexpectedEnd expected => "Unexpected end of input: expected " ++ expected.describe

end CfgPatch.Cfg

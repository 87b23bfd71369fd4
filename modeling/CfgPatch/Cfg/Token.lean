import CfgPatch.Text

/-!
# Tokens of the cfg format

A source is cut into braces, equals signs, slashes, line ends and words. Between the tokens
stand *gaps*: spaces, tabs, carriage returns, form feeds, byte order marks, and comments,
which run from `//` to the end of their line. Names and values may hold gaps, so a lexeme
keeps the gap in front of its token, and the lexemes of a source together with the gap
behind the last one spell the source again.

Any other blank character outside a comment is a *stray*: it is no part of the format, and
a source that has one has no tokens. `scan` steps over strays as it does over a gap, which
keeps it total; `firstStray?` finds them, and `tokenize` puts the two together.
-/

namespace CfgPatch.Cfg

open Text

/-! ## Spans -/

/-- A range of bytes of a source. -/
structure Span where
  start : Nat
  stop : Nat
deriving DecidableEq, Repr

/-! ## Tokens -/

/-- A token of the cfg format. -/
inductive Token where
  | openBrace
  | closeBrace
  | equals
  | newline
  | slash
  | word (text : Text)
deriving DecidableEq, Repr

namespace Token

/-- The text a token is written as. -/
def text : Token → Text
  | openBrace => ['{']
  | closeBrace => ['}']
  | equals => ['=']
  | newline => ['\n']
  | slash => ['/']
  | word w => w

/-- How a message speaks of a token. -/
def describe : Token → String
  | openBrace => "'\x7b'"
  | closeBrace => "'\x7d'"
  | equals => "'='"
  | newline => "end of line"
  | slash => "'/'"
  | word w => "'" ++ String.ofList w ++ "'"

end Token

/-- A token and the skipped text in front of it. -/
structure Lexeme where
  gap : Text
  token : Token
deriving DecidableEq, Repr

/-- The text a lexeme was read from. -/
def Lexeme.text (l : Lexeme) : Text := l.gap ++ l.token.text

/-- The lexemes of a source and the skipped text behind the last one. -/
structure Lexed where
  lexemes : List Lexeme
  rest : Text
deriving DecidableEq, Repr

/-! ## Classes of characters -/

/-- The byte order mark, which is skipped wherever it stands. -/
def byteOrderMark : Char := '\uFEFF'

/-- Whether a character may stand in a gap outside a comment. -/
def isGap (c : Char) : Bool :=
  c == ' ' || c == '\t' || c == '\r' || c == '\x0C' || c == byteOrderMark

/-- Whether a character is a blank the format has no place for. -/
def isStray (c : Char) : Bool := isBlank c && !isGap c && c != '\n'

/-! ## Scanning -/

namespace Lexed

/-- Puts a skipped character in front. -/
def skip (c : Char) (l : Lexed) : Lexed :=
  match l.lexemes with
  | [] => { l with rest := c :: l.rest }
  | x :: xs => { l with lexemes := { x with gap := c :: x.gap } :: xs }

/-- Puts a token in front. -/
def push (t : Token) (l : Lexed) : Lexed := { l with lexemes := ⟨[], t⟩ :: l.lexemes }

/-- Puts a character of a word in front, joining it to a word that follows at once. -/
def extend (c : Char) (l : Lexed) : Lexed :=
  match l.lexemes with
  | ⟨[], .word w⟩ :: xs => { l with lexemes := ⟨[], .word (c :: w)⟩ :: xs }
  | _ => l.push (.word [c])

/-- The source that was read. -/
def text (l : Lexed) : Text := l.lexemes.flatMap Lexeme.text ++ l.rest

end Lexed

/-- Cuts a source into lexemes; `commented` says that it begins inside a comment. -/
def scan (commented : Bool) : Text → Lexed
  | [] => ⟨[], []⟩
  | c :: t =>
    if c = '\n' then (scan false t).push .newline
    else if commented || isGap c || isStray c then (scan commented t).skip c
    else if c = '/' then
      if t.head? = some '/' then (scan true t).skip c else (scan false t).push .slash
    else if c = '{' then (scan false t).push .openBrace
    else if c = '}' then (scan false t).push .closeBrace
    else if c = '=' then (scan false t).push .equals
    else (scan false t).extend c

/-- The first stray outside a comment, with the number of bytes in front of it. -/
def firstStray? (commented : Bool) : Text → Option (Nat × Char)
  | [] => none
  | c :: t =>
    if !commented && isStray c then some (0, c)
    else
      let inComment := c != '\n' && (commented || (c == '/' && t.head? == some '/'))
      (firstStray? inComment t).map fun (n, d) => (c.utf8Size + n, d)

/-- The spans of lexemes that begin at byte `pos`. -/
def spans (pos : Nat) : List Lexeme → List Span
  | [] => []
  | l :: ls =>
    let start := pos + utf8Length l.gap
    let stop := start + utf8Length l.token.text
    ⟨start, stop⟩ :: spans stop ls

/-- The lexemes of a source, or its first stray character and where that stands. -/
def tokenize (source : Text) : Except (Span × Char) Lexed :=
  match firstStray? false source with
  | some (n, c) => .error (⟨n, n + c.utf8Size⟩, c)
  | none => .ok (scan false source)

/-! ## What scanning keeps -/

@[simp] theorem Lexed.text_skip (c : Char) (l : Lexed) : (l.skip c).text = c :: l.text := by
  rcases l with ⟨_ | ⟨x, xs⟩, r⟩ <;> simp [skip, text, Lexeme.text]

@[simp] theorem Lexed.text_push (t : Token) (l : Lexed) : (l.push t).text = t.text ++ l.text := by
  simp [push, text, Lexeme.text]

@[simp] theorem Lexed.text_extend (c : Char) (l : Lexed) : (l.extend c).text = c :: l.text := by
  unfold extend
  split
  · rename_i w xs h
    simp [text, h, Lexeme.text, Token.text]
  · simp [Token.text]

/-- No character of a source is lost or made up. -/
theorem text_scan (commented : Bool) (t : Text) : (scan commented t).text = t := by
  fun_induction scan commented t with
  | case1 => rfl
  | _ => simp_all [Token.text]

end CfgPatch.Cfg

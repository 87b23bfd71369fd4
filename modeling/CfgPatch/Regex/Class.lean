import CfgPatch.Regex.Property
import CfgPatch.Regex.Syntax

/-!
# Reading escapes and character classes

The parts of a regular expression that stand for one character or for one condition: the
escapes, and the classes in square brackets with their ranges, nested classes and set
operations. Every reader takes the text and answers what it read and the text behind it, or
`none` where the text does not follow the grammar.
-/

namespace CfgPatch.Regex

/-! ## Flags -/

/-- The settings under which a part of an expression is read. -/
structure Flags where
  /-- Letters match in either case. -/
  ignoreCase : Bool := false
  /-- `^` and `$` match at the ends of lines. -/
  multiLine : Bool := false
  /-- The dot matches line ends. -/
  dotAll : Bool := false
  /-- Repetitions are lazy unless a question mark follows. -/
  swapGreed : Bool := false
  /-- Classes go beyond ASCII. -/
  unicode : Bool := true
  /-- A carriage return ends a line too. -/
  carriage : Bool := false
  /-- Blanks and comments may stand between the parts of an expression. -/
  verbose : Bool := false
deriving DecidableEq, Repr

/-- Skips blanks and comments; a comment runs from `#` to the end of its line. -/
def skipComments (inComment : Bool) : Text → Text
  | [] => []
  | c :: t =>
    if inComment then skipComments (c != '\n') t
    else if Text.isBlank c then skipComments false t
    else if c = '#' then skipComments true t
    else c :: t

/-- The first character behind blanks and comments. A blank at the end of a line does not end a
comment here, so of a comment only blanks are skipped. -/
def peekPastComments (inComment : Bool) : Text → Option Char
  | [] => none
  | c :: t =>
    if Text.isBlank c then peekPastComments inComment t
    else if !inComment && c = '#' then peekPastComments true t
    else some c

namespace Flags

/-- Skips what may stand between two parts of an expression. -/
def skip (flags : Flags) (t : Text) : Text := if flags.verbose then skipComments false t else t

/-- The next character behind what may stand between two parts of an expression, or the very
next one if there is no other. -/
def peek (flags : Flags) (t : Text) : Option Char :=
  if flags.verbose then peekPastComments false t <|> t.head? else t.head?

/-- Reads characters for as long as they satisfy `p`, and skips what may stand in front of,
between and behind them. -/
def takeWhile (flags : Flags) (p : Char → Bool) (t : Text) : Text × Text := go false t
where
  /-- Reads on, possibly within a comment. -/
  go (inComment : Bool) : Text → Text × Text
    | [] => ([], [])
    | c :: t =>
      if inComment then go (c != '\n') t
      else if flags.verbose && Text.isBlank c then go false t
      else if flags.verbose && c = '#' then go true t
      else if p c then
        let (taken, rest) := go false t
        (c :: taken, rest)
      else ([], c :: t)

/-- A set, unless it needs characters beyond ASCII where those are not allowed. -/
def allow (flags : Flags) (s : CharSet) : Option CharSet :=
  if flags.unicode || s.isAscii then some s else none

/-- The set with the other cases of its letters, if case is ignored. -/
def fold (flags : Flags) (s : CharSet) : CharSet :=
  if !flags.ignoreCase then s
  else if flags.unicode then s.ignoreCase
  else s.union ((s.inter CharSet.ascii).ignoreCase.inter CharSet.ascii)

/-- The complement of a set, if `negated`. -/
def negate (negated : Bool) (s : CharSet) : CharSet := if negated then s.compl else s

/-- The set of a class from that of its items, if it is allowed: case is ignored before the
complement is taken. -/
def complete (flags : Flags) (negated : Bool) (s : CharSet) : Option CharSet :=
  flags.allow (negate negated (flags.fold s))

/-- The characters of words. -/
def word (flags : Flags) : CharSet :=
  if flags.unicode then wordChars
  else CharSet.ofRanges [⟨0x30, 0x39⟩, ⟨0x41, 0x5A⟩, ⟨0x5F, 0x5F⟩, ⟨0x61, 0x7A⟩]

/-- The class of a letter that stands for one: digits, blanks, or word characters. -/
def letterClass? (flags : Flags) (c : Char) : Option CharSet :=
  let base := match c.toLower with
    | 'd' => some (if flags.unicode then digits else CharSet.ofRanges [⟨0x30, 0x39⟩])
    | 's' => some (if flags.unicode then blanks else CharSet.ofRanges [⟨9, 13⟩, ⟨32, 32⟩])
    | 'w' => some flags.word
    | _ => none
  base.bind fun s => flags.allow (negate c.isUpper s)

end Flags

/-! ## Escapes -/

/-- What an escape, or a character that stands for itself, can mean. -/
inductive Primitive where
  | literal (c : Char)
  | set (s : CharSet)
  | look (condition : Look)

/-- Whether a character has a meaning of its own in some place of an expression. -/
def isMeta (c : Char) : Bool := "\\.+*?()|[]\x7b\x7d^$#&-~".toList.contains c

/-- Whether a backslash in front of a character makes it stand for itself. -/
def isEscapable (c : Char) : Bool :=
  isMeta c || (c.toNat < 0x80 && !c.isAlphanum && c != '<' && c != '>')

/-- Whether a character is a hexadecimal digit. -/
def isHex (c : Char) : Bool :=
  c.isDigit || ('a' ≤ c && c ≤ 'f') || ('A' ≤ c && c ≤ 'F')

/-- The character with a code point given in hexadecimal digits, if there is one. -/
def charOfHex? (hex : Text) : Option Char :=
  let n := Unicode.hexValue hex
  if !hex.isEmpty && hex.all isHex && n.isValidChar then some (Char.ofNat n) else none

/-- Reads characters up to a closing brace, skipping as the flags say. -/
def readBraced (flags : Flags) (t : Text) : Option (Text × Text) :=
  match flags.takeWhile (· != '}') t with
  | (inner, _ :: rest) => some (inner, rest)
  | (_, []) => none

/-- Reads a number of characters, skipping as the flags say behind each. -/
def readCounted (flags : Flags) : Nat → Text → Option (Text × Text)
  | 0, t => some ([], t)
  | _ + 1, [] => none
  | n + 1, c :: t => (readCounted flags n (flags.skip t)).map fun (cs, rest) => (c :: cs, rest)

/-- Reads the code point of an escape: `count` digits, or any number in braces. -/
def readHex (flags : Flags) (count : Nat) (t : Text) : Option (Char × Text) := do
  let (hex, rest) ← match flags.skip t with
    | '{' :: t => readBraced flags t
    | t => readCounted flags count t
  let c ← charOfHex? hex
  some (c, flags.skip rest)

/-- The text in front of and behind the first place where another text stands in it. -/
def cutAt (separator : Text) : Text → Option (Text × Text)
  | [] => none
  | c :: t =>
    if separator.isPrefixOf (c :: t) then some ([], (c :: t).drop separator.length)
    else (cutAt separator t).map fun (front, rest) => (c :: front, rest)

/-- The set a property query in braces stands for, and whether the query asks for the
characters that are not in it. -/
def propertyQuery? (query : Text) : Option (CharSet × Bool) :=
  match cutAt ['!', '='] query with
  | some (property, value) => (propertyValue? property value).map (·, true)
  | none =>
    match cutAt [':'] query <|> cutAt ['='] query with
    | some (property, value) => (propertyValue? property value).map (·, false)
    | none => (propertyNamed? query).map (·, false)

/-- Reads a property class behind its `p` or `P`. Case is ignored before the complement is
taken. -/
def readProperty (flags : Flags) (negated : Bool) (t : Text) : Option (CharSet × Text) :=
  if !flags.unicode then none
  else
    match flags.skip t with
    | [] => none
    | '{' :: t => do
      let (query, rest) ← readBraced flags t
      let (s, without) ← propertyQuery? query
      some (Flags.negate (negated != without) (flags.fold s), rest)
    | c :: t =>
      if c = '\\' then none
      else (propertyNamed? [c]).map fun s => (Flags.negate negated (flags.fold s), flags.skip t)

/-- Reads the kind of a word boundary in braces; `some (none, _)` where the brace begins a
repetition instead. -/
def readBoundaryKind (flags : Flags) (t : Text) : Option (Option Look × Text) :=
  let isNameChar (c : Char) : Bool := c.isAlpha || c == '-'
  match t with
  | '{' :: inner =>
    match flags.skip inner with
    | [] => none
    | c :: _ =>
      if !isNameChar c then some (none, t)
      else do
        let (name, rest) ← readBraced flags inner
        let w := flags.word
        let look ←
          if name = "start".toList then some (Look.wordStart w)
          else if name = "end".toList then some (Look.wordEnd w)
          else if name = "start-half".toList then some (Look.noWordBefore w)
          else if name = "end-half".toList then some (Look.noWordAfter w)
          else none
        some (some look, rest)
  | _ => some (none, t)

/-- Reads an escape behind its backslash. -/
def readEscape (flags : Flags) : Text → Option (Primitive × Text)
  | [] => none
  | c :: t =>
    match c with
    | 'x' => do
      let (c, rest) ← readHex flags 2 t
      -- Without braces this is a byte, which beyond ASCII is no character of its own.
      if flags.unicode || c.toNat < 0x80 || (flags.skip t).head? = some '{' then
        some (.literal c, rest)
      else none
    | 'u' => (readHex flags 4 t).map fun (c, rest) => (.literal c, rest)
    | 'U' => (readHex flags 8 t).map fun (c, rest) => (.literal c, rest)
    | 'p' => (readProperty flags false t).map fun (s, rest) => (.set s, rest)
    | 'P' => (readProperty flags true t).map fun (s, rest) => (.set s, rest)
    | 'a' => some (.literal '\x07', t)
    | 'f' => some (.literal '\x0C', t)
    | 't' => some (.literal '\t', t)
    | 'n' => some (.literal '\n', t)
    | 'r' => some (.literal '\r', t)
    | 'v' => some (.literal '\x0B', t)
    | 'A' => some (.look .textStart, t)
    | 'z' => some (.look .textEnd, t)
    | 'b' => (readBoundaryKind flags t).map fun
      | (some look, rest) => (.look look, rest)
      | (none, rest) => (.look (.wordEdge flags.word), rest)
    | 'B' => some (.look (.noWordEdge flags.word), t)
    | '<' => some (.look (.wordStart flags.word), t)
    | '>' => some (.look (.wordEnd flags.word), t)
    | c =>
      if isEscapable c then some (.literal c, t)
      else (flags.letterClass? c).map fun s => (.set s, t)

/-! ## Classes -/

/-- The classes of ASCII characters that go by a name between colons. -/
def namedAscii? (name : Text) : Option CharSet :=
  let table : List (String × List CodeRange) := [
    ("alnum", [⟨0x30, 0x39⟩, ⟨0x41, 0x5A⟩, ⟨0x61, 0x7A⟩]),
    ("alpha", [⟨0x41, 0x5A⟩, ⟨0x61, 0x7A⟩]),
    ("ascii", [⟨0, 0x7F⟩]),
    ("blank", [⟨9, 9⟩, ⟨0x20, 0x20⟩]),
    ("cntrl", [⟨0, 0x1F⟩, ⟨0x7F, 0x7F⟩]),
    ("digit", [⟨0x30, 0x39⟩]),
    ("graph", [⟨0x21, 0x7E⟩]),
    ("lower", [⟨0x61, 0x7A⟩]),
    ("print", [⟨0x20, 0x7E⟩]),
    ("punct", [⟨0x21, 0x2F⟩, ⟨0x3A, 0x40⟩, ⟨0x5B, 0x60⟩, ⟨0x7B, 0x7E⟩]),
    ("space", [⟨9, 13⟩, ⟨0x20, 0x20⟩]),
    ("upper", [⟨0x41, 0x5A⟩]),
    ("word", [⟨0x30, 0x39⟩, ⟨0x41, 0x5A⟩, ⟨0x5F, 0x5F⟩, ⟨0x61, 0x7A⟩]),
    ("xdigit", [⟨0x30, 0x39⟩, ⟨0x41, 0x46⟩, ⟨0x61, 0x66⟩])]
  (table.find? (·.1.toList = name)).map fun row => CharSet.ofRanges row.2

/-- Reads a named ASCII class behind its opening bracket: whether it is negated, its set, and
the text behind it. -/
def readNamedAscii? (t : Text) : Option (Bool × CharSet × Text) :=
  match t with
  | ':' :: t =>
    let (negated, t) := match t with
      | '^' :: r => (true, r)
      | _ => (false, t)
    match t.dropWhile (· != ':') with
    | ':' :: ']' :: rest =>
      (namedAscii? (t.takeWhile (· != ':'))).map fun s => (negated, s, rest)
    | _ => none
  | _ => none

/-- An operation on sets that is written between the items of a class. -/
inductive SetOp where
  | inter
  | diff
  | symmDiff

/-- Applies an operation on sets. -/
def SetOp.apply : SetOp → CharSet → CharSet → CharSet
  | inter => CharSet.inter
  | diff => CharSet.diff
  | symmDiff => CharSet.symmDiff

/-- A set with the number of levels of the class it was read from. -/
structure NestedSet where
  set : CharSet
  depth : Nat

/-- The number of levels of something that holds parts of the given depths, itself a level if
there are several. -/
def depthOf (depths : List Nat) : Nat :=
  depths.foldl max 0 + if depths.length > 1 then 1 else 0

/-- A class that is being read: whether it is negated, the operation that waits for its
right side, and the items read since, the latest first. -/
structure OpenClass where
  negated : Bool
  pending : Option (NestedSet × SetOp) := none
  items : List NestedSet := []

namespace OpenClass

/-- Adds an item. -/
def add (cls : OpenClass) (s : CharSet) (depth : Nat) : OpenClass :=
  { cls with items := ⟨s, depth⟩ :: cls.items }

/-- What has been read, negation apart. -/
def body (flags : Flags) (cls : OpenClass) : NestedSet :=
  let last : NestedSet :=
    ⟨CharSet.unions (cls.items.map (·.set)), depthOf (cls.items.map (·.depth))⟩
  match cls.pending with
  | some (left, op) =>
    ⟨op.apply (flags.fold left.set) (flags.fold last.set), max left.depth last.depth + 1⟩
  | none => last

/-- Begins the right side of an operation. -/
def operate (flags : Flags) (cls : OpenClass) (op : SetOp) : OpenClass :=
  { cls with pending := some (cls.body flags, op), items := [] }

/-- The whole class. -/
def close (flags : Flags) (cls : OpenClass) : Option NestedSet :=
  let body := cls.body flags
  (flags.complete cls.negated body.set).map fun s => ⟨s, body.depth + 1⟩

end OpenClass

/-- Reads the opening of a class behind its bracket: a negation, hyphens, and a closing
bracket that stands for itself because the class has nothing else yet. -/
def openClass (flags : Flags) (t : Text) : OpenClass × Text :=
  let t := flags.skip t
  let (negated, t) := match t with
    | '^' :: r => (true, flags.skip r)
    | _ => (false, t)
  let (hyphens, rest) := flags.takeWhile (· == '-') t
  let cls : OpenClass := { negated, items := hyphens.map fun c => ⟨CharSet.single c, 0⟩ }
  match hyphens, rest with
  | [], ']' :: rest => (cls.add (CharSet.single ']') 0, flags.skip rest)
  | _, _ => (cls, rest)

/-- Reads one item of a class that is no range: a character or an escape. -/
def readClassItem (flags : Flags) : Text → Option (Primitive × Text)
  | [] => none
  | '\\' :: t => readEscape flags t
  | c :: t => some (.literal c, t)

/-- The set of an item. -/
def Primitive.classSet? (flags : Flags) : Primitive → Option CharSet
  | .literal c => flags.allow (CharSet.single c)
  | .set s => some s
  | .look _ => none

/-- Reads a range or a single item of a class. -/
def readClassRange (flags : Flags) (t : Text) : Option (CharSet × Text) := do
  let (first, rest) ← readClassItem flags t
  match flags.skip rest with
  | [] => none
  | '-' :: r =>
    let next := flags.peek r
    if next = some ']' || next = some '-' then
      let s ← first.classSet? flags
      some (s, '-' :: r)
    else
      let (second, rest) ← readClassItem flags (flags.skip r)
      match first, second with
      | .literal a, .literal b =>
        if a ≤ b then
          let s ← flags.allow (CharSet.between a b)
          some (s, rest)
        else none
      | _, _ => none
  | rest =>
    let s ← first.classSet? flags
    some (s, rest)

/-- Reads a class to its closing bracket, given the class itself and the ones around it.
Every round reads a character, so a budget of the length of the text suffices. -/
def readClass (flags : Flags) : (budget : Nat) → OpenClass → List OpenClass → Text →
    Option (NestedSet × Text)
  | 0, _, _, _ => none
  | budget + 1, cls, outer, t =>
    match flags.skip t with
    | [] => none
    | '[' :: t =>
      match readNamedAscii? t with
      | some (negated, s, rest) => do
        let s ← flags.complete negated s
        readClass flags budget (cls.add s 0) outer rest
      | none =>
        let (inner, rest) := openClass flags t
        readClass flags budget inner (cls :: outer) rest
    | ']' :: t => do
      let closed ← cls.close flags
      match outer with
      | [] => some (closed, t)
      | parent :: outer => readClass flags budget (parent.add closed.set closed.depth) outer t
    | '&' :: '&' :: t => readClass flags budget (cls.operate flags .inter) outer t
    | '-' :: '-' :: t => readClass flags budget (cls.operate flags .diff) outer t
    | '~' :: '~' :: t => readClass flags budget (cls.operate flags .symmDiff) outer t
    | t => do
      let (s, rest) ← readClassRange flags t
      readClass flags budget (cls.add s 0) outer rest

end CfgPatch.Regex

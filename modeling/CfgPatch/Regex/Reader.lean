import CfgPatch.Regex.Class

/-!
# Reading regular expressions

An expression is read from left to right by a machine that keeps the groups that are open
around the current place. A level is one group's content so far: the alternatives that are
complete and the parts of the current one. Flags that a group sets hold to its end.

An expression may nest only so deep. Groups, repetitions, classes in brackets, sequences of
several parts and choices between alternatives count as levels.
-/

namespace CfgPatch.Regex

/-! ## Levels -/

/-- An expression with the number of its levels. -/
structure Nested where
  expr : Expr
  depth : Nat

/-- A part of an alternative. -/
inductive Part where
  /-- An expression. -/
  | expr (e : Nested)
  /-- A change of flags, which nothing can repeat. -/
  | flags

/-- The number of levels of a part. -/
def Part.depth : Part → Nat
  | expr e => e.depth
  | flags => 0

/-- The content of a group so far, the latest first. -/
structure Level where
  alternatives : List Nested := []
  parts : List Part := []

namespace Level

/-- Adds an expression to the current alternative. -/
def add (level : Level) (e : Expr) (depth : Nat) : Level :=
  { level with parts := .expr ⟨e, depth⟩ :: level.parts }

/-- The current alternative. -/
def current (level : Level) : Nested where
  expr := Expr.ofParts <| level.parts.reverse.filterMap fun
    | .expr e => some e.expr
    | .flags => none
  depth := depthOf (level.parts.map Part.depth)

/-- Ends the current alternative and begins another. -/
def nextAlternative (level : Level) : Level :=
  { alternatives := level.current :: level.alternatives, parts := [] }

/-- The expression of the whole level. -/
def whole (level : Level) : Nested where
  expr := Expr.ofChoices ((level.current :: level.alternatives).reverse.map Nested.expr)
  depth := depthOf (level.current.depth :: level.alternatives.map Nested.depth)

end Level

/-- A group that is open: the level it stands on, the flags to go back to, and its number if
it remembers its match. -/
structure OpenGroup where
  level : Level
  flags : Flags
  number : Option Nat

/-- What the machine knows. -/
structure Reading where
  flags : Flags := {}
  level : Level := {}
  outer : List OpenGroup := []
  /-- The number of groups so far that remember their match. -/
  groups : Nat := 0
  names : List (Text × Nat) := []

/-! ## Repetitions -/

/-- Repeats the last part of the current alternative. -/
def Reading.repeatLast (r : Reading) (least : Nat) (most : Option Nat) (lazy : Bool) :
    Option Reading :=
  match r.level.parts with
  | .expr e :: parts =>
    let e := ⟨.ofRepeated e.expr least most (lazy == r.flags.swapGreed), e.depth + 1⟩
    some { r with level := { r.level with parts := .expr e :: parts } }
  | _ => none

/-- A question mark behind a repetition changes its greed. -/
def readLazy : Text → Bool × Text
  | '?' :: t => (true, t)
  | t => (false, t)

/-- The largest number of repetitions that can be written. -/
def maxRepeat : Nat := 0xFFFFFFFF

/-- Reads a decimal numeral among blanks. -/
def readCount (flags : Flags) (t : Text) : Option (Nat × Text) :=
  let (digits, rest) := flags.takeWhile Char.isDigit (Text.trimStart t)
  let n := Text.digitsValue digits
  if digits.isEmpty || n > maxRepeat then none else some (n, Text.trimStart rest)

/-- Reads the bounds of a repetition behind its opening brace. -/
def readBounds (flags : Flags) (t : Text) : Option (Nat × Option Nat × Text) := do
  let (least, rest) ← readCount flags (flags.skip t)
  match rest with
  | '}' :: rest => some (least, some least, rest)
  | ',' :: rest =>
    match flags.skip rest with
    | '}' :: rest => some (least, none, rest)
    | rest => do
      let (most, rest) ← readCount flags rest
      match rest with
      | '}' :: rest => if least ≤ most then some (least, some most, rest) else none
      | _ => none
  | _ => none

/-! ## Groups -/

/-- The setting of one flag. -/
def Flags.set (flags : Flags) (c : Char) (on : Bool) : Option Flags :=
  match c with
  | 'i' => some { flags with ignoreCase := on }
  | 'm' => some { flags with multiLine := on }
  | 's' => some { flags with dotAll := on }
  | 'U' => some { flags with swapGreed := on }
  | 'u' => some { flags with unicode := on }
  | 'R' => some { flags with carriage := on }
  | 'x' => some { flags with verbose := on }
  | _ => none

/-- Reads flags up to a colon or a closing parenthesis: the flags, whether any were named,
and the text from there on. `seen` holds the characters so far and `on` says whether they
switch flags on. -/
def readFlags (flags : Flags) (seen : List Char) (on : Bool) : Text → Option (Flags × Bool × Text)
  | [] => none
  | c :: t =>
    if c = ':' || c = ')' then
      if seen.head? = some '-' then none else some (flags, !seen.isEmpty, c :: t)
    else if seen.contains c then none
    else if c = '-' then readFlags flags (c :: seen) false t
    else (flags.set c on).bind fun flags => readFlags flags (c :: seen) on t

/-- Whether a character is a letter of any script. -/
def isLetter (c : Char) : Bool := if c.toNat < 0x80 then c.isAlpha else letters.contains c

/-- Whether a character is a number of any script. -/
def isNumeric (c : Char) : Bool := if c.toNat < 0x80 then c.isDigit else numbers.contains c

/-- Whether a text can be the name of a group. -/
def isGroupName : Text → Bool
  | [] => false
  | c :: t =>
    (c == '_' || isLetter c) &&
      t.all fun c => c == '_' || c == '.' || c == '[' || c == ']' || isLetter c || isNumeric c

/-- Opens a group. -/
def Reading.openGroup (r : Reading) (flags : Flags) (number : Option Nat) : Reading :=
  { r with flags := flags, level := {}, outer := ⟨r.level, r.flags, number⟩ :: r.outer,
           groups := r.groups + if number.isSome then 1 else 0 }

/-- Opens a group that remembers its match under a name. -/
def Reading.openNamed (r : Reading) (t : Text) : Option (Reading × Text) :=
  let name := t.takeWhile (· != '>')
  match t.dropWhile (· != '>') with
  | '>' :: rest =>
    if isGroupName name && !(r.names.any (·.1 = name)) then
      let number := r.groups + 1
      some ({ r.openGroup r.flags (some number) with names := (name, number) :: r.names }, rest)
    else none
  | _ => none

/-- Reads what stands behind an opening parenthesis. -/
def Reading.openParen (r : Reading) (t : Text) : Option (Reading × Text) :=
  match r.flags.skip t with
  | '?' :: '=' :: _ | '?' :: '!' :: _ | '?' :: '<' :: '=' :: _ | '?' :: '<' :: '!' :: _ => none
  | '?' :: 'P' :: '<' :: t => r.openNamed t
  | '?' :: '<' :: t => r.openNamed t
  | '?' :: t =>
    match readFlags r.flags [] true t with
    | some (flags, _, ':' :: rest) => some (r.openGroup flags none, rest)
    | some (flags, true, ')' :: rest) =>
      some ({ r with flags := flags, level := { r.level with parts := .flags :: r.level.parts } },
        rest)
    | _ => none
  | t => some (r.openGroup r.flags (some (r.groups + 1)), t)

/-- Closes the innermost group. -/
def Reading.closeParen (r : Reading) : Option Reading :=
  match r.outer with
  | [] => none
  | group :: outer =>
    let body := r.level.whole
    let e := match group.number with
      | some n => .group n body.expr
      | none => body.expr
    some { r with flags := group.flags, level := group.level.add e (body.depth + 1),
                  outer := outer }

/-! ## Primitives -/

/-- The expression of a character or a condition that is written outside a class. -/
def Primitive.expr (flags : Flags) : Primitive → Expr
  | .literal c => .ofSet (flags.fold (CharSet.single c))
  | .set s => .ofSet s
  | .look condition => .look condition

/-- What a dot stands for. -/
def dotSet (flags : Flags) : CharSet :=
  if flags.dotAll then CharSet.full
  else if flags.carriage then CharSet.compl (CharSet.ofRanges [⟨10, 10⟩, ⟨13, 13⟩])
  else CharSet.compl (CharSet.single '\n')

/-- Reads a character, an escape, a dot or an anchor. -/
def readPrimitive (flags : Flags) : Text → Option (Expr × Text)
  | [] => none
  | '\\' :: t => (readEscape flags t).map fun (p, rest) => (p.expr flags, rest)
  | '.' :: t => (flags.allow (dotSet flags)).map fun s => (.ofSet s, t)
  | '^' :: t =>
    some (.look (if flags.multiLine then .lineStart flags.carriage else .textStart), t)
  | '$' :: t => some (.look (if flags.multiLine then .lineEnd flags.carriage else .textEnd), t)
  | c :: t => some (.ofSet (flags.fold (CharSet.single c)), t)

/-! ## The machine -/

/-- The largest number of levels. -/
def maxDepth : Nat := 250

/-- The pattern that has been read, if every group is closed. -/
def Reading.finish (r : Reading) : Option Pattern :=
  let whole := r.level.whole
  if r.outer.isEmpty && whole.depth ≤ maxDepth then some ⟨whole.expr, r.names⟩ else none

/-- Reads to the end of the text. Every round reads a character, so a budget of one more than
the length of the text suffices. -/
def Reading.run : (budget : Nat) → Reading → Text → Option Pattern
  | 0, _, _ => none
  | budget + 1, r, t =>
    match r.flags.skip t with
    | [] => r.finish
    | '(' :: t => do
      let (r, rest) ← r.openParen t
      r.run budget rest
    | ')' :: t => do
      let r ← r.closeParen
      r.run budget t
    | '|' :: t => { r with level := r.level.nextAlternative }.run budget t
    | '[' :: t => do
      let (cls, rest) := openClass r.flags t
      let (s, rest) ← readClass r.flags (t.length + 1) cls [] rest
      { r with level := r.level.add (.ofSet s.set) s.depth }.run budget rest
    | '?' :: t => repeatAnd budget r 0 (some 1) t
    | '*' :: t => repeatAnd budget r 0 none t
    | '+' :: t => repeatAnd budget r 1 none t
    | '{' :: t => do
      let (least, most, rest) ← readBounds r.flags t
      repeatAnd budget r least most (r.flags.skip rest)
    | t => do
      let (e, rest) ← readPrimitive r.flags t
      { r with level := r.level.add e 0 }.run budget rest
where
  /-- Repeats the last part and reads on behind a possible question mark. -/
  repeatAnd (budget : Nat) (r : Reading) (least : Nat) (most : Option Nat) (t : Text) :
      Option Pattern := do
    let (lazy, rest) := readLazy t
    let r ← r.repeatLast least most lazy
    r.run budget rest

/-- Reads a regular expression. -/
def parse? (t : Text) : Option Pattern := Reading.run (t.length + 1) {} t

end CfgPatch.Regex

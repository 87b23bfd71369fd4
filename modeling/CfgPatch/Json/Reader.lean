import CfgPatch.Json.Basic

/-!
# Reading JSON

The reader follows the JSON grammar to the letter: no comments, no trailing commas, no text
behind the value. Every part of the reader answers what it read and the text behind it, or
`none` where the text does not follow the grammar.
-/

namespace CfgPatch.Json

/-! ## Blanks and words -/

/-- Whether a character may stand between the parts of a value. -/
def isSpace (c : Char) : Bool := c == ' ' || c == '\n' || c == '\t' || c == '\r'

/-- Skips what may stand between the parts of a value. -/
def skip (t : Text) : Text := t.dropWhile isSpace

/-! ## Numbers -/

/-- Reads digits, at least one. -/
def readDigits (t : Text) : Option (Text × Text) :=
  let digits := t.takeWhile Char.isDigit
  if digits.isEmpty then none else some (digits, t.dropWhile Char.isDigit)

/-- Reads the digits in front of the point; only a lone zero begins with a zero. -/
def readWhole : Text → Option (Text × Text)
  | '0' :: t => some (['0'], t)
  | t => readDigits t

/-- Reads what stands behind the point, if there is one. -/
def readFraction : Text → Option (Text × Text)
  | '.' :: t => (readDigits t).map fun (digits, rest) => ('.' :: digits, rest)
  | t => some ([], t)

/-- Reads an exponent, if there is one. -/
def readExponent (t : Text) : Option (Text × Text) :=
  match t with
  | c :: rest =>
    if c = 'e' || c = 'E' then
      match rest with
      | s :: digits =>
        if s = '+' || s = '-' then
          (readDigits digits).map fun (digits, rest) => (c :: s :: digits, rest)
        else (readDigits rest).map fun (digits, rest) => (c :: digits, rest)
      | [] => none
    else some ([], t)
  | [] => some ([], t)

/-- Reads a number. -/
def readNumber (t : Text) : Option (Json × Text) := do
  let (sign, t) := match t with
    | '-' :: r => (['-'], r)
    | _ => (([] : Text), t)
  let (whole, t) ← readWhole t
  let (fraction, t) ← readFraction t
  let (exponent, t) ← readExponent t
  some (.number (sign ++ whole ++ fraction ++ exponent), t)

/-! ## Strings -/

/-- The value of a hexadecimal digit. -/
def hexDigit? (c : Char) : Option Nat :=
  if c.isDigit then some (c.toNat - '0'.toNat)
  else if 'a' ≤ c && c ≤ 'f' then some (c.toNat - 'a'.toNat + 10)
  else if 'A' ≤ c && c ≤ 'F' then some (c.toNat - 'A'.toNat + 10)
  else none

/-- Reads four hexadecimal digits. -/
def readHex4 : Text → Option (Nat × Text)
  | a :: b :: c :: d :: t => do
    let a ← hexDigit? a
    let b ← hexDigit? b
    let c ← hexDigit? c
    let d ← hexDigit? d
    some (((a * 16 + b) * 16 + c) * 16 + d, t)
  | _ => none

/-- Whether a number is the first half of a pair that names a character together. -/
def isLead (n : Nat) : Bool := 0xD800 ≤ n && n < 0xDC00

/-- Whether a number is the second half of such a pair. -/
def isTrail (n : Nat) : Bool := 0xDC00 ≤ n && n < 0xE000

/-- Reads an escape with a code behind its letter: the character, if it names one, and the
text behind it. -/
def readCode (t : Text) : Option (Option Char × Text) := do
  let (n, rest) ← readHex4 t
  if isLead n then
    match rest with
    | '\\' :: 'u' :: more =>
      match readHex4 more with
      | some (m, behind) =>
        if isTrail m then
          some (some (Char.ofNat (0x10000 + (n - 0xD800) * 0x400 + (m - 0xDC00))), behind)
        else some (none, rest)
      | none => some (none, rest)
    | _ => some (none, rest)
  else if isTrail n then some (none, rest)
  else some (some (Char.ofNat n), rest)

/-- Reads an escape behind its backslash. -/
def readEscape : Text → Option (Option Char × Text)
  | [] => none
  | c :: t =>
    match c with
    | '"' => some (some '"', t)
    | '\\' => some (some '\\', t)
    | '/' => some (some '/', t)
    | 'b' => some (some '\x08', t)
    | 'f' => some (some '\x0C', t)
    | 'n' => some (some '\n', t)
    | 'r' => some (some '\r', t)
    | 't' => some (some '\t', t)
    | 'u' => readCode t
    | _ => none

/-- Reads a string behind its opening quote: its text, if it has one, and the text behind it.
Every round reads a character, so a budget of the length of the text suffices. -/
def readString : (budget : Nat) → Text → Option (Option Text × Text)
  | 0, _ => none
  | _ + 1, [] => none
  | budget + 1, c :: t =>
    if c = '"' then some (some [], t)
    else if c = '\\' then do
      let (char, rest) ← readEscape t
      let (text, rest) ← readString budget rest
      some (char.bind fun c => text.map (c :: ·), rest)
    else if c.toNat < 0x20 then none
    else (readString budget t).map fun (text, rest) => (text.map (c :: ·), rest)

/-- The value of a string that was read. -/
def ofText? : Option Text → Json
  | some s => .string s
  | none => .textless

/-! ## Values -/

/-- What a reader of values is in the middle of. -/
inductive Inside where
  /-- An array, with the items so far. -/
  | array (items : List Json)
  /-- An object, with the members so far and the key whose value is to come. -/
  | object (members : List (Json × Json)) (key : Json)

/-- Reads a key and the colon behind it. -/
def readKey (t : Text) : Option (Json × Text) :=
  match skip t with
  | '"' :: t => do
    let (key, rest) ← readString (t.length + 1) t
    match skip rest with
    | ':' :: rest => some (ofText? key, rest)
    | _ => none
  | _ => none

/-- Reads a value that holds no other: a word, a number or a string. -/
def readLeaf (t : Text) : Option (Json × Text) :=
  match t with
  | '"' :: t => (readString (t.length + 1) t).map fun (s, rest) => (ofText? s, rest)
  | 'n' :: 'u' :: 'l' :: 'l' :: t => some (.null, t)
  | 't' :: 'r' :: 'u' :: 'e' :: t => some (.bool true, t)
  | 'f' :: 'a' :: 'l' :: 's' :: 'e' :: t => some (.bool false, t)
  | t => readNumber t

/-- What is to be done next. -/
inductive Task where
  /-- Read a value. -/
  | value
  /-- Put a value where it belongs. -/
  | place (v : Json)

/-- Reads values with the arrays and objects that are open around the current place. Every
two rounds read a character. -/
def readInside : (budget : Nat) → Task → List Inside → Text → Option (Json × Text)
  | 0, _, _, _ => none
  | budget + 1, .value, outer, t =>
    match skip t with
    | '[' :: t =>
      match skip t with
      | ']' :: t => readInside budget (.place (.array [])) outer t
      | t => readInside budget .value (.array [] :: outer) t
    | '{' :: t =>
      match skip t with
      | '}' :: t => readInside budget (.place (.object [])) outer t
      | t => do
        let (key, rest) ← readKey t
        readInside budget .value (.object [] key :: outer) rest
    | t => do
      let (v, rest) ← readLeaf t
      readInside budget (.place v) outer rest
  | _ + 1, .place v, [], t => some (v, t)
  | budget + 1, .place v, .array items :: outer, t =>
    match skip t with
    | ',' :: t => readInside budget .value (.array (items ++ [v]) :: outer) t
    | ']' :: t => readInside budget (.place (.array (items ++ [v]))) outer t
    | _ => none
  | budget + 1, .place v, .object members key :: outer, t =>
    match skip t with
    | ',' :: t => do
      let (next, rest) ← readKey t
      readInside budget .value (.object (members ++ [(key, v)]) next :: outer) rest
    | '}' :: t => readInside budget (.place (.object (members ++ [(key, v)]))) outer t
    | _ => none

/-- Reads a text that is one JSON value. -/
def parse? (t : Text) : Option Json := do
  let (v, rest) ← readInside (2 * t.length + 2) .value [] t
  if (skip rest).isEmpty then some v else none

end CfgPatch.Json

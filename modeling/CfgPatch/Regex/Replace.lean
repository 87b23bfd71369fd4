import CfgPatch.Regex.Reader
import CfgPatch.Regex.Search
import CfgPatch.Regex.Size

/-!
# Replacing matches

Every match of an expression is replaced by a template, in which `$1` and `${1}` stand for
what a group matched, `$name` and `${name}` for a group with a name, and `$$` for a dollar
sign. A reference to a group that took no part, or that does not exist, stands for nothing.
-/

namespace CfgPatch.Regex

/-! ## Templates -/

/-- A piece of a template. -/
inductive Piece where
  /-- A character that stands for itself. -/
  | literal (c : Char)
  /-- The group with a number. -/
  | number (n : Nat)
  /-- The group with a name. -/
  | named (name : Text)
deriving DecidableEq, Repr

/-- The piece a reference stands for: a number if it reads as one, and else a name. -/
def Piece.ofReference (name : Text) : Piece :=
  match Text.readIndex? name with
  | some n => .number n
  | none => .named name

/-- Whether a character can be part of a reference without braces. -/
def isReferenceChar (c : Char) : Bool := c.isAlphanum || c == '_'

/-- Reads a reference behind its dollar sign: what it stands for and the text behind it. -/
def readReference? (t : Text) : Option (Piece × Text) :=
  match t with
  | '{' :: rest =>
    match rest.dropWhile (· != '}') with
    | _ :: behind => some (.ofReference (rest.takeWhile (· != '}')), behind)
    | [] => none
  | _ =>
    let name := t.takeWhile isReferenceChar
    if name.isEmpty then none
    else some (.ofReference name, t.dropWhile isReferenceChar)

theorem length_readReference?_le {t rest : Text} {piece : Piece}
    (h : readReference? t = some (piece, rest)) : rest.length ≤ t.length := by
  unfold readReference? at h
  split at h
  · rename_i inner
    have hle := (List.dropWhile_sublist (p := (· != '}')) (l := inner)).length_le
    split at h
    · rename_i hb
      simp only [Option.some.injEq, Prod.mk.injEq] at h
      rw [hb] at hle
      simp only [List.length_cons] at hle ⊢
      rw [← h.2]
      omega
    · simp at h
  · simp only at h
    split at h
    · simp at h
    · simp only [Option.some.injEq, Prod.mk.injEq] at h
      rw [← h.2]
      exact (List.dropWhile_sublist _).length_le

/-- Reads a template. -/
def readTemplate : Text → List Piece
  | [] => []
  | c :: t =>
    if c = '$' then
      if t.head? = some '$' then .literal '$' :: readTemplate t.tail
      else
        match h : readReference? t with
        | some (piece, rest) =>
          have := length_readReference?_le h
          piece :: readTemplate rest
        | none => .literal '$' :: readTemplate t
    else .literal c :: readTemplate t
termination_by t => t.length
decreasing_by all_goals simp_all; try omega

/-- The characters of a text from one place to another. -/
def slice (text : Array Char) (start stop : Nat) : Text := (text.extract start stop).toList

/-- What a piece of a template stands for in a match. -/
def Piece.expand (names : List (Text × Nat)) (text : Array Char) (m : Match) : Piece → Text
  | literal c => [c]
  | number n => group n
  | named name =>
    match names.find? (·.1 = name) with
    | some (_, n) => group n
    | none => []
where
  /-- What a group matched. -/
  group (n : Nat) : Text :=
    match m.group? n with
    | some (start, stop) => slice text start stop
    | none => []

/-! ## All matches -/

/-- The matches in a text from a place on, from left to right. A match of the empty text does
not count right behind another match, whose end is `last`. Every round moves on by a
character, so a budget of two more than the length of the text suffices. -/
def Program.allMatches (program : Program) (text : Array Char) : (budget : Nat) → (place : Nat) →
    (last : Option Nat) → List Match
  | 0, _, _ => []
  | budget + 1, place, last =>
    match program.find? text place with
    | none => []
    | some m =>
      if m.start = m.stop && last = some m.stop then
        -- The search is taken up again one character on.
        match program.find? text (place + 1) with
        | none => []
        | some m => m :: program.allMatches text budget m.stop (some m.stop)
      else m :: program.allMatches text budget m.stop (some m.stop)

/-- The text with matches replaced, from the place `start` on. -/
def replaceMatches (template : List Piece) (names : List (Text × Nat)) (text : Array Char) :
    (start : Nat) → List Match → Text
  | start, [] => slice text start text.size
  | start, m :: ms =>
    slice text start m.start ++ template.flatMap (·.expand names text m) ++
      replaceMatches template names text m.stop ms

/-- The text with every match of an expression replaced by a template. -/
def replaceAll (pattern template text : Text) : Except Refusal Text :=
  match parse? pattern with
  | none => .error .malformed
  | some p =>
    if !p.expr.fits then .error .tooLarge
    else
      let chars := text.toArray
      let program := Program.ofExpr p.expr
      let found := program.allMatches chars (chars.size + 2) 0 none
      .ok (replaceMatches (readTemplate template) p.names chars 0 found)

end CfgPatch.Regex

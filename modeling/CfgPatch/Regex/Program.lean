import CfgPatch.Regex.Syntax

/-!
# Programs that match

An expression is turned into a list of instructions. Jumps are relative, so the code of an
expression is the same wherever it stands and the code of a whole is put together from the
codes of its parts. Where an instruction can go on in two ways, the first way is preferred.
-/

namespace CfgPatch.Regex

/-- An instruction. Those that name no jump go on with the next one. -/
inductive Instr where
  /-- Takes a character of the set. -/
  | take (set : CharSet)
  /-- Goes on if the condition holds. -/
  | look (condition : Look)
  /-- Remembers the current place in a slot. -/
  | save (slot : Nat)
  /-- Goes on elsewhere. -/
  | jump (offset : Int)
  /-- Goes on at the first place or, if that fails, at the second. -/
  | fork (first second : Int)
  /-- The text matches. -/
  | accept

/-- A fork that prefers to go on with the next instruction if `greedy`. -/
def forkNext (greedy : Bool) (past : Int) : Instr := if greedy then .fork 1 past else .fork past 1

/-- A fork that prefers to go back if `greedy`. -/
def forkBack (greedy : Bool) (back : Int) : Instr := if greedy then .fork back 1 else .fork 1 back

/-- `count` copies of a code. -/
def copies (count : Nat) (code : List Instr) : List Instr := (List.replicate count code).flatten

/-- Up to `count` repetitions of a code, each of which can leave for the end. -/
def optional (greedy : Bool) (code : List Instr) (count : Nat) : List Instr :=
  (List.range count).flatMap fun n =>
    forkNext greedy (((count - n) * (code.length + 1) : Nat) : Int) :: code

/-- One or more repetitions of a code. -/
def oneOrMore (greedy : Bool) (code : List Instr) : List Instr :=
  code ++ [forkBack greedy (-(code.length : Int))]

/-- Any number of repetitions of a code. Where the code may match the empty text, a repetition
begins with a decision whether to enter it at all, which keeps the preferences right. -/
def zeroOrMore (greedy consumes : Bool) (code : List Instr) : List Instr :=
  if consumes then
    forkNext greedy ((code.length + 2 : Nat) : Int) :: code ++
      [.jump (-((code.length + 1 : Nat) : Int))]
  else forkNext greedy ((code.length + 2 : Nat) : Int) :: oneOrMore greedy code

/-- The instructions of an expression. -/
def Expr.code : Expr → List Instr
  | .empty => []
  | .text chars => chars.map fun c => .take (CharSet.single c)
  | .one set => [.take set]
  | .look condition => [.look condition]
  | .group n body => .save (2 * n) :: body.code ++ [.save (2 * n + 1)]
  | .seq a b => a.code ++ b.code
  | .alt a b =>
    let first := a.code
    let second := b.code
    .fork 1 ((first.length + 2 : Nat) : Int) :: first ++
      .jump ((second.length + 1 : Nat) : Int) :: second
  | .repeated body least most greedy =>
    let code := body.code
    match most with
    | some most => copies least code ++ optional greedy code (most - least)
    | none =>
      match least with
      | 0 => zeroOrMore greedy body.consumes code
      | least + 1 => copies least code ++ oneOrMore greedy code

/-- A program: its instructions, numbered from zero. -/
structure Program where
  code : Array Instr

/-- The program that matches an expression and remembers the whole match as group 0. -/
def Program.ofExpr (e : Expr) : Program := ⟨((Expr.group 0 e).code ++ [Instr.accept]).toArray⟩

end CfgPatch.Regex

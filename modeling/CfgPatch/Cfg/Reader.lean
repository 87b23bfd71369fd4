import CfgPatch.Cfg.Error
import CfgPatch.Node

/-!
# Reading the cfg format

A line that holds an equals sign is a field, cut at the first one; anything else names a
node, whose body follows in braces, on the same line or after any number of line ends.

The reader is a machine that takes one lexeme at a time. Its state is the node it is inside
of, the nodes around that one, and how far the current item has come. A name or a value is
the text of the source from the first to the last token of its run, gaps in between
included, without the blanks at either end.
-/

namespace CfgPatch.Cfg

open Text

/-- How far the current item has come. -/
inductive Progress where
  /-- No item has begun. -/
  | between
  /-- A run of words and slashes with no equals sign so far. -/
  | name (run : Text)
  /-- A field whose key is complete. -/
  | value (key run : Text)
  /-- A node's name, complete; its body has to follow. -/
  | header (name : Text)
deriving DecidableEq, Repr

/-- The state of the reader: the innermost open node, those around it from the inside out,
and the progress of the current item. -/
structure State where
  node : Node
  outer : List Node
  progress : Progress
deriving DecidableEq, Repr

namespace State

/-- The state before the first lexeme: inside a document, which is a node with no name. -/
def initial : State := ⟨Node.ofName [], [], .between⟩

/-- Opens a node inside the current one. -/
def enter (s : State) (name : Text) : State := ⟨Node.ofName name, s.node :: s.outer, .between⟩

/-- Reads a lexeme where no item has begun. -/
def stepBetween (s : State) (l : Lexeme) : Except Fault State :=
  match l.token with
  | .newline => .ok { s with progress := .between }
  | .closeBrace =>
    match s.outer with
    | [] => .error (.unexpected .item)
    | parent :: outer => .ok ⟨parent.addChild s.node, outer, .between⟩
  | .openBrace => .error .namelessNode
  | .equals => .error .namelessField
  | .slash | .word _ => .ok { s with progress := .name l.token.text }

/-- Adds a finished field to the current node. -/
def endField (s : State) (key run : Text) : State :=
  ⟨s.node.addField key (trim run), s.outer, .between⟩

/-- Reads one lexeme. -/
def step (s : State) (l : Lexeme) : Except Fault State :=
  match s.progress with
  | .between => s.stepBetween l
  | .name run =>
    match l.token with
    | .word _ | .slash => .ok { s with progress := .name (run ++ l.text) }
    | .equals => .ok { s with progress := .value (trim (run ++ l.gap)) [] }
    | .newline => .ok { s with progress := .header (trim run) }
    | .openBrace => .ok (s.enter (trim run))
    | .closeBrace => .error (.unexpected (.bodyOf (trim run)))
  | .value key run =>
    match l.token with
    | .word _ | .slash | .equals => .ok { s with progress := .value key (run ++ l.text) }
    | .newline | .openBrace | .closeBrace => (s.endField key run).stepBetween l
  | .header name =>
    match l.token with
    | .newline => .ok s
    | .openBrace => .ok (s.enter name)
    | .closeBrace | .equals | .slash | .word _ => .error (.unexpected (.bodyOf name))

/-- The node a state stands for when the source ends there. -/
def finish (s : State) : Except Expected Node :=
  match s.progress with
  | .name run => .error (.bodyOf (trim run))
  | .header name => .error (.bodyOf name)
  | .between => if s.outer.isEmpty then .ok s.node else .error .closeBrace
  | .value key run =>
    if s.outer.isEmpty then .ok (s.endField key run).node else .error .closeBrace

/-- Reads lexemes to the end of the source; the first of them begins at byte `pos`. -/
def run (s : State) (pos : Nat) : List Lexeme → Except Error Node
  | [] => s.finish.mapError Error.unexpectedEnd
  | l :: ls =>
    let start := pos + utf8Length l.gap
    let stop := start + utf8Length l.token.text
    match s.step l with
    | .error fault => .error (.misplaced ⟨start, stop⟩ l.token fault)
    | .ok s' => s'.run stop ls

end State

/-- Reads a whole source. The document is a node with no name, which holds the fields and
nodes that stand in no other node. -/
def parse (source : Text) : Except Error Node :=
  match tokenize source with
  | .error (span, c) => .error (.stray span c)
  | .ok lexed => State.initial.run 0 lexed.lexemes

end CfgPatch.Cfg

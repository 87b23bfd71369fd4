import CfgPatch.Directive
import CfgPatch.Pass

/-!
# The agenda

The agenda holds the directives that are to be applied, each with its pass, in the order in
which they were found. The passes of a mod exist if the mod is known; mods are told apart
without regard to the case of letters, and the first spelling is the one that counts.
-/

namespace CfgPatch

open Text

/-- Directives waiting for their passes. -/
structure Agenda where
  /-- The known mods, no two of which differ in case alone. -/
  mods : List Text
  /-- The directives with their passes, in the order of arrival. -/
  queue : List (Pass × Directive)
deriving DecidableEq, Repr

namespace Agenda

/-- The names without those that an earlier one equals up to case. -/
def distinct : List Text → List Text
  | [] => []
  | name :: names => name :: (distinct names).filter (!sameLetters name ·)

/-- The empty agenda for the known mods. -/
def ofMods (mods : List Text) : Agenda := ⟨distinct mods, []⟩

/-- The spelling of a known mod. -/
def knownMod? (a : Agenda) (name : Text) : Option Text := a.mods.find? (sameLetters · name)

/-- A pass with the known spelling of its mod; none if the mod is unknown. -/
def canonical? (a : Agenda) : Pass → Option Pass
  | .mod phase name => (a.knownMod? name).map (.mod phase)
  | pass => some pass

/-- Adds a directive to a pass, unless that is a pass of an unknown mod. -/
def push? (a : Agenda) (pass : Pass) (d : Directive) : Option Agenda :=
  (a.canonical? pass).map fun pass => { a with queue := a.queue ++ [(pass, d)] }

/-- Every pass, in the order of application. -/
def passes (a : Agenda) : List Pass :=
  [.first, .legacy] ++ a.mods.flatMap (fun name => Phase.inTurn.map (Pass.mod · name)) ++
    a.mods.map (Pass.mod .last) ++ [.final]

/-- The directives of one pass, in the order of arrival. -/
def bucket (a : Agenda) (pass : Pass) : List Directive :=
  (a.queue.filter (·.1 = pass)).map (·.2)

/-- Every pass with its directives, in the order of application. -/
def buckets (a : Agenda) : List (Pass × List Directive) :=
  a.passes.map fun pass => (pass, a.bucket pass)

/-- The passes that some mods have in turn, with their directives, and apart from these the last
pass of each of the mods. -/
def sweep (a : Agenda) : List Text → List (Pass × List Directive) × List (Pass × List Directive)
  | [] => ([], [])
  | name :: names =>
    let (inTurn, last) := a.sweep names
    (Phase.inTurn.map (fun phase => (.mod phase name, a.bucket (.mod phase name))) ++ inTurn,
      (.mod .last name, a.bucket (.mod .last name)) :: last)

/-- Every pass with its directives, as the agenda is worked off: the mods are gone through once,
and their last passes are put off. -/
def drain (a : Agenda) : List (Pass × List Directive) :=
  let (inTurn, last) := a.sweep a.mods
  [(.first, a.bucket .first), (.legacy, a.bucket .legacy)] ++ inTurn ++ last ++
    [(.final, a.bucket .final)]

/-- The passes that have directives, as the agenda is worked off. -/
def filled (a : Agenda) : List (Pass × List Directive) :=
  a.drain.filter fun (_, ds) => !ds.isEmpty

/-- The number of directives. -/
def size (a : Agenda) : Nat := a.queue.length

/-- A text with blanks behind it up to a width. -/
def padRight (width : Nat) (s : String) : String :=
  s ++ String.ofList (List.replicate (width - s.length) ' ')

/-- The width of the column of passes in a summary. -/
def summaryWidth : Nat := 24

/-- The line of a summary for a pass with some number of directives. -/
def passLine (pass : Pass) (count : Nat) : String :=
  padRight summaryWidth pass.describe ++ " " ++ toString count ++ " patches"

/-- One line for each pass that has directives, in the order of application. -/
def summary (a : Agenda) : List String :=
  (a.buckets.filter fun (_, ds) => !ds.isEmpty).map fun (pass, ds) => passLine pass ds.length

end Agenda

end CfgPatch

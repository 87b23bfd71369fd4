import CfgPatch.Brackets

/-!
# Passes

Directives are grouped into passes, which are applied in a fixed order: the first pass, the
directives that name no pass, then for each known mod what comes before it, for it and after
it, then for each mod what comes last of it, and the final pass.

The name of a directive says which pass it belongs to by a segment outside all brackets:
`:FIRST`, `:FINAL`, or `:BEFORE`, `:FOR`, `:AFTER` or `:LAST` with the name of a mod in
brackets. Keywords are letters of either case. A segment is malformed if it has a mod where
none belongs, or none where one belongs.
-/

namespace CfgPatch

open Text Brackets

/-! ## Phases and passes -/

/-- Where a directive stands relative to a mod. -/
inductive Phase where
  | before
  | during
  | after
  | last
deriving DecidableEq, Repr

/-- The phases that are applied mod by mod, in their order. -/
def Phase.inTurn : List Phase := [.before, .during, .after]

/-- The keyword of a phase. -/
def Phase.keyword : Phase → String
  | before => "BEFORE"
  | during => "FOR"
  | after => "AFTER"
  | last => "LAST"

/-- A pass. -/
inductive Pass where
  | first
  | legacy
  | mod (phase : Phase) (name : Text)
  | final
deriving DecidableEq, Repr

/-- How messages show a pass. -/
def Pass.describe : Pass → String
  | first => ":FIRST"
  | legacy => ":LEGACY (default)"
  | mod phase name => ":" ++ phase.keyword ++ "[" ++ String.ofList name ++ "]"
  | final => ":FINAL"

/-! ## Segments -/

/-- The keyword of a pass segment. -/
inductive Keyword where
  | first
  | final
  | phase (p : Phase)
deriving DecidableEq, Repr

namespace Keyword

/-- The spelling of a keyword. -/
def word : Keyword → String
  | first => "FIRST"
  | final => "FINAL"
  | phase p => p.keyword

/-- Every keyword. -/
def all : List Keyword :=
  [.first, .final, .phase .before, .phase .during, .phase .after, .phase .last]

/-- The keyword that a word spells, in letters of either case. -/
def ofWord? (w : Text) : Option Keyword := all.find? fun k => sameLetters w k.word.toList

end Keyword

/-- A pass segment of a name. -/
inductive Segment where
  /-- A segment that names a pass. -/
  | pass (pass : Pass)
  /-- A segment with a mod too many or too few. -/
  | malformed (keyword : Keyword)
deriving DecidableEq, Repr

/-- What a segment with a keyword says, and the text behind it, from the text behind the
keyword. A bracket that nothing closes reaches to the end of the text behind `:FIRST` and
`:FINAL`, and belongs to no segment behind the keywords of mods. -/
def Keyword.complete (k : Keyword) (t : Text) : Segment × Text :=
  match k with
  | .first => ofFixed .first
  | .final => ofFixed .final
  | .phase p =>
    match group? t with
    | some (inner, rest) =>
      (if (trim inner).isEmpty then .malformed k else .pass (.mod p (trim inner)), rest)
    | none => (.malformed k, t)
where
  /-- A segment that takes no mod. -/
  ofFixed (pass : Pass) : Segment × Text :=
    if t.head? = some '[' then
      (.malformed k, match group? t with
        | some (_, rest) => rest
        | none => [])
    else (.pass pass, t)

theorem Keyword.length_complete_le (k : Keyword) (t : Text) :
    (k.complete t).2.length ≤ t.length := by
  have hg : ∀ {inner rest : Text}, group? t = some (inner, rest) → rest.length ≤ t.length := by
    intro inner rest h
    rw [eq_append_of_group? h]
    simp only [List.length_cons, List.length_append]
    omega
  have hf : ∀ pass, (complete.ofFixed k t pass).2.length ≤ t.length := by
    intro pass
    unfold complete.ofFixed
    split
    · split
      · exact hg ‹_›
      · simp
    · simp
  unfold complete
  split
  · exact hf _
  · exact hf _
  · split
    · exact hg ‹_›
    · simp

/-! ## Scanning -/

/-- A name without its pass segments, and the segments in order. -/
structure PassScan where
  stripped : Text
  segments : List Segment
deriving DecidableEq, Repr

namespace PassScan

/-- Puts a character in front that belongs to no segment. -/
def keep (c : Char) (s : PassScan) : PassScan := { s with stripped := c :: s.stripped }

/-- Puts a segment in front. -/
def found (segment : Segment) (s : PassScan) : PassScan :=
  { s with segments := segment :: s.segments }

/-- The passes that well-formed segments name. -/
def passes (s : PassScan) : List Pass :=
  s.segments.filterMap fun
    | .pass p => some p
    | .malformed _ => none

/-- The keywords of malformed segments. -/
def malformed (s : PassScan) : List Keyword :=
  s.segments.filterMap fun
    | .pass _ => none
    | .malformed k => some k

/-- The number of segments. -/
def count (s : PassScan) : Nat := s.segments.length

end PassScan

/-- Takes the pass segments out of a text that begins `depth` deep. -/
def scanPassesFrom (depth : Nat) : Text → PassScan
  | [] => ⟨[], []⟩
  | c :: t =>
    if c = ':' && depth = 0 then
      match Keyword.ofWord? (t.takeWhile Char.isAlpha) with
      | some k =>
        have : (k.complete (t.dropWhile Char.isAlpha)).2.length < (c :: t).length :=
          Nat.lt_succ_of_le (Nat.le_trans (k.length_complete_le _)
            (List.dropWhile_sublist _).length_le)
        (scanPassesFrom 0 (k.complete (t.dropWhile Char.isAlpha)).2).found
          (k.complete (t.dropWhile Char.isAlpha)).1
      | none => (scanPassesFrom depth t).keep c
    else (scanPassesFrom (depthBehind depth c) t).keep c
termination_by t => t.length
decreasing_by
  · exact this
  all_goals exact Nat.lt_succ_self _

/-- Takes the pass segments out of a name. -/
def scanPasses (name : Text) : PassScan := scanPassesFrom 0 name

end CfgPatch

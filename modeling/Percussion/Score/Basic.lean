import Percussion.Score.Hit

/-!
# Scores

A score is a row of beats, and a beat is the hits that start together. A beat without hits is
silent and still takes up its time.
-/

namespace Percussion

/-- The hits that start together, in the order of the voices. -/
structure Beat where
  hits : List Hit
  deriving Repr, DecidableEq

namespace Beat

/-- Whether nothing is played on the beat. -/
def isSilent (beat : Beat) : Bool := beat.hits.isEmpty

/-- The beat at which the voices have the given tokens. The first token that is neither a rest
nor a sound is the error. -/
def ofTokens (tokens : List String) : Except ScoreError Beat := do
  let hits ← tokens.mapM Hit.ofToken
  return ⟨hits.filterMap id⟩

end Beat

/-- A piece of music: what is played on each beat. -/
structure Score where
  beats : List Beat
  deriving Repr, DecidableEq

namespace Score

/-- The score without beats. -/
def empty : Score := ⟨[]⟩

/-- The number of beats, silent ones included. -/
def size (score : Score) : Nat := score.beats.length

/-- The number of hits on all beats. -/
def hitCount (score : Score) : Nat := (score.beats.flatMap (·.hits)).length

/-- The score whose beats have the given tokens. -/
def ofColumns (columns : List (List String)) : Except ScoreError Score := do
  let beats ← columns.mapM Beat.ofTokens
  return ⟨beats⟩

end Score

end Percussion

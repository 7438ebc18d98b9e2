import Helpdesk.Knowledge.Hit
import Helpdesk.Number

/-!
# Helpdesk.Knowledge.Ranking — one ranked list from the hits of several queries.

A hit that several queries find counts more than a hit of one query, and summaries count a little
more than what they sum up. The fused list does not depend on the order of the queries: ties are
broken by identifier. From the ranked list the best few are taken so that no source takes all the
places, unless there is nothing else to fill them with.
-/
namespace Helpdesk.Knowledge

/-! ## Number of hits per query -/

/-- The least integer that is not below a finite float. -/
def ceiling (x : Float) : Option Int :=
  (Decimal.Binary.ofFloat? x).map fun b => -((-b.signedNumerator).fdiv b.denominator)

/-- How many hits each of some queries asks for: the fewer queries, the more hits. Nothing when the
quotient is too large for a float. -/
def hitsPerQuery? (queries base : Int) : Option Int := do
  let share ← (Number.divideInts (2 * base) (max 1 queries)).toOption
  return max base (← ceiling share)

/-! ## Fusion -/

/-- What each further query adds to a good hit. -/
def repeatedGoodBonus : Float := 0.03

/-- What each further query adds to any other hit. -/
def repeatedBonus : Float := 0.01

/-- The score above which a hit is good. -/
def goodScore : Float := 0.7

/-- All that is known about the hits of one identifier. -/
structure Tally where
  /-- The first of the hits with the greatest base. -/
  best : Hit
  base : Float
  count : Nat

/-- The score of a hit before fusion. -/
def baseScore (summaryBonus : Float) (hit : Hit) : Float :=
  (if hit.score == 0.0 then 0.0 else hit.score) + (if hit.isSummary then summaryBonus else 0.0)

/-- Adds a hit to the tallies. -/
def tally (summaryBonus : Float) (hit : Hit) : List Tally → List Tally
  | [] => [⟨hit, baseScore summaryBonus hit, 1⟩]
  | t :: rest =>
    if t.best.id = hit.id then
      let base := baseScore summaryBonus hit
      (if t.base < base then ⟨hit, base, t.count + 1⟩ else { t with count := t.count + 1 }) :: rest
    else t :: tally summaryBonus hit rest

/-- The fused hit of a tally. -/
def Tally.fused (t : Tally) : Hit :=
  let bonus := if goodScore < t.base then repeatedGoodBonus else repeatedBonus
  { t.best with score := t.base + bonus * Float.ofInt (t.count - 1) }

/-- Whether a hit ranks before another or beside it: by score, then by identifier. -/
def ranksBefore (a b : Hit) : Bool :=
  !(decide (a.score < b.score) || (a.score == b.score && decide (b.id < a.id)))

/-- The hits of several queries as one ranked list. -/
def fuse (branches : List (List Hit)) (summaryBonus : Float) : List Hit :=
  let tallies := branches.flatten.foldl (fun tallies hit => tally summaryBonus hit tallies) []
  (tallies.map Tally.fused).mergeSort ranksBefore

/-! ## Diversity -/

/-- Hits in order as long as there are places and their sources have places left. -/
def takeCapped (places perSource : Int) : List Hit → List Hit → List Hit
  | chosen, [] => chosen
  | chosen, hit :: rest =>
    if places ≤ chosen.length then chosen
    else if perSource ≤ (chosen.filter fun h => h.sourceKey = hit.sourceKey).length then
      takeCapped places perSource chosen rest
    else takeCapped places perSource (chosen ++ [hit]) rest

/-- Fills the places that are left with hits that are not chosen yet. -/
def fillUp (places : Int) : List Hit → List Hit → List Hit
  | chosen, [] => chosen
  | chosen, hit :: rest =>
    if places ≤ chosen.length then chosen
    else if chosen.any fun h => h.id = hit.id then fillUp places chosen rest
    else fillUp places (chosen ++ [hit]) rest

/-- The best hits with at most so many of each source, then the best of the rest. -/
def diversify (hits : List Hit) (places perSource : Int) : List Hit :=
  fillUp places (takeCapped places perSource [] hits) hits

end Helpdesk.Knowledge

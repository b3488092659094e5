import Mathlib.Order.MinMax

/-! The hull of a list of closed ranges, accumulated from a starting range. -/

namespace DummyDrivers.Hull

variable {Point : Type*} [LinearOrder Point]

structure Span (Point : Type*) where
  low : Point
  high : Point

/-- The smallest span that contains two spans, whichever way round their bounds are. -/
def Span.join (left right : Span Point) : Span Point :=
  { low := min left.low right.low, high := max left.high right.high }

def hull (start : Span Point) (spans : List (Span Point)) : Span Point :=
  spans.foldl Span.join start

/-- A point is above the hull's lower bound when it is above some span's, by induction. -/
theorem hull_low_le {start : Span Point} {spans : List (Span Point)} {point : Point}
    : (hull start spans).low ≤ point ↔ start.low ≤ point ∨ ∃ span ∈ spans, span.low ≤ point := by
  induction spans generalizing start with
  | nil => simp [hull]
  | cons span spans ih =>
      rw [hull, List.foldl_cons, ← hull, ih]
      simp only [Span.join, min_le_iff, List.mem_cons, exists_eq_or_imp, or_assoc]

/-- A point is below the hull's upper bound when it is below some span's, by induction. -/
theorem le_hull_high {start : Span Point} {spans : List (Span Point)} {point : Point}
    : point ≤ (hull start spans).high
      ↔ point ≤ start.high ∨ ∃ span ∈ spans, point ≤ span.high := by
  induction spans generalizing start with
  | nil => simp [hull]
  | cons span spans ih =>
      rw [hull, List.foldl_cons, ← hull, ih]
      simp only [Span.join, le_max_iff, List.mem_cons, exists_eq_or_imp, or_assoc]

/-- The hull's upper bound is below a point when every span's is, by induction. -/
theorem hull_high_le {start : Span Point} {spans : List (Span Point)} {point : Point}
    : (hull start spans).high ≤ point
      ↔ start.high ≤ point ∧ ∀ span ∈ spans, span.high ≤ point := by
  induction spans generalizing start with
  | nil => simp [hull]
  | cons span spans ih =>
      rw [hull, List.foldl_cons, ← hull, ih]
      simp only [Span.join, max_le_iff, List.mem_cons, forall_eq_or_imp, and_assoc]

/-- The order and the repetitions of the spans have no part in the hull. -/
theorem hull_congr {start : Span Point} {left right : List (Span Point)}
    (same : ∀ span, span ∈ left ↔ span ∈ right)
    : hull start left = hull start right := by
  have low : (hull start left).low = (hull start right).low :=
    eq_of_forall_ge_iff fun point => by simp only [hull_low_le, same]
  have high : (hull start left).high = (hull start right).high :=
    eq_of_forall_le_iff fun point => by simp only [le_hull_high, same]
  exact congrArg₂ Span.mk low high

/-- The hull of a concatenation is the hull of the two hulls. -/
theorem hull_append (start : Span Point) (left right : List (Span Point))
    : hull start (left ++ right) = (hull start left).join (hull start right) := by
  have low : (hull start (left ++ right)).low
      = min (hull start left).low (hull start right).low :=
    eq_of_forall_ge_iff fun point => by
      simp only [hull_low_le, min_le_iff, List.mem_append, or_and_right, exists_or]
      exact or_or_distrib_left
  have high : (hull start (left ++ right)).high
      = max (hull start left).high (hull start right).high :=
    eq_of_forall_le_iff fun point => by
      simp only [le_hull_high, le_max_iff, List.mem_append, or_and_right, exists_or]
      exact or_or_distrib_left
  exact congrArg₂ Span.mk low high

end DummyDrivers.Hull

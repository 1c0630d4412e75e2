import SpatialGrammar.Number.Word

/-!
# Intervals

Sets of consecutive integers, each end of which may be missing: an interval without a start
reaches down without bound, one without a stop reaches up without bound. The written forms are in
`Interval.Notation`.
-/

namespace SpatialGrammar

/-- What is wrong with the description of an interval. -/
inductive IntervalError where
  /-- The text has none of the written forms of an interval. -/
  | malformed (text : String)
  /-- The start lies beyond the stop. -/
  | reversed (start stop : Int)
  deriving DecidableEq, Repr

/-- Consecutive integers, from `start` to `stop` inclusive as far as these are present. -/
structure Interval where
  start : Option Int
  stop : Option Int
  ordered : ∀ a ∈ start, ∀ b ∈ stop, a ≤ b
  deriving DecidableEq

namespace Interval

/-- All integers. -/
def unbounded : Interval := ⟨none, none, by simp⟩

instance : Inhabited Interval := ⟨unbounded⟩

/-- One integer. -/
def exact (n : Int) : Interval := ⟨some n, some n, by simp⟩

/-- The integers from `n` up. -/
def atLeast (n : Int) : Interval := ⟨some n, none, by simp⟩

/-- The integers up to `n`. -/
def atMost (n : Int) : Interval := ⟨none, some n, by simp⟩

/-- The interval between two ends, unless they are reversed. -/
def ofEnds (start stop : Option Int) : Except IntervalError Interval :=
  match start, stop with
  | some a, some b =>
    if h : a ≤ b then .ok ⟨some a, some b, by simpa using h⟩ else .error (.reversed a b)
  | some a, none => .ok (atLeast a)
  | none, some b => .ok (atMost b)
  | none, none => .ok unbounded

/-- The interval between two ends, if there is one. -/
def ofEnds? (start stop : Option Int) : Option Interval := (ofEnds start stop).toOption

/-- Whether both ends are present. -/
def isBounded (r : Interval) : Bool := r.start.isSome && r.stop.isSome

/-- Whether both ends are missing. -/
def isUnbounded (r : Interval) : Bool := r.start.isNone && r.stop.isNone

/-- Whether a number lies in the interval. -/
def contains (r : Interval) (n : Int) : Bool :=
  r.start.all (fun a => decide (a ≤ n)) && r.stop.all (fun b => decide (n ≤ b))

/-- The common part of two intervals, if they have one. -/
def inter? (r s : Interval) : Option Interval :=
  ofEnds? (Option.merge max r.start s.start) (Option.merge min r.stop s.stop)

theorem start_le_stop (r : Interval) {a b : Int} (ha : r.start = some a) (hb : r.stop = some b) :
    a ≤ b :=
  r.ordered a ha b hb

/-- The least interval around two intervals. -/
def hull (r s : Interval) : Interval where
  start := do return min (← r.start) (← s.start)
  stop := do return max (← r.stop) (← s.stop)
  ordered := by
    intro x hx y hy
    simp [Option.bind_eq_some_iff] at hx hy
    obtain ⟨a, ha, c, hc, rfl⟩ := hx
    obtain ⟨b, hb, d, hd, rfl⟩ := hy
    have := r.start_le_stop ha hb
    omega

/-- The interval moved up by a number. -/
def shift (r : Interval) (n : Int) : Interval where
  start := r.start.map (· + n)
  stop := r.stop.map (· + n)
  ordered := by
    rcases r with ⟨_ | a, _ | b, hr⟩ <;> simp_all

/-- The sums of the members of two intervals. -/
protected def add (r s : Interval) : Interval where
  start := do return (← r.start) + (← s.start)
  stop := do return (← r.stop) + (← s.stop)
  ordered := by
    intro x hx y hy
    simp [Option.bind_eq_some_iff] at hx hy
    obtain ⟨a, ha, c, hc, rfl⟩ := hx
    obtain ⟨b, hb, d, hd, rfl⟩ := hy
    have := r.start_le_stop ha hb
    have := s.start_le_stop hc hd
    omega

/-- The negated members of an interval. -/
protected def neg (r : Interval) : Interval where
  start := r.stop.map (- ·)
  stop := r.start.map (- ·)
  ordered := by
    rcases r with ⟨_ | a, _ | b, hr⟩ <;> simp_all

instance : Add Interval := ⟨Interval.add⟩
instance : Neg Interval := ⟨Interval.neg⟩
instance : Sub Interval := ⟨fun r s => r + -s⟩

/-- The ends that are present. -/
def ends (r : Interval) : List Int := r.start.toList ++ r.stop.toList

/-- The workings of `r.shift n`. -/
def shiftWorkings (r : Interval) (n : Int) : List Int := (r.shift n).ends

/-- The workings of a shift down by `n`, which is a shift by the negated number. -/
def shiftDownWorkings (r : Interval) (n : Int) : List Int := -n :: r.shiftWorkings (-n)

/-- The workings of `r + s`. -/
def addWorkings (r s : Interval) : List Int := (r + s).ends

/-- The workings of `-r`. -/
def negWorkings (r : Interval) : List Int := (-r).ends

/-- The workings of `r - s`, which adds the negated interval. -/
def subWorkings (r s : Interval) : List Int := s.negWorkings ++ r.addWorkings (-s)

theorem contains_iff {r : Interval} {n : Int} :
    r.contains n = true ↔ (∀ a ∈ r.start, a ≤ n) ∧ ∀ b ∈ r.stop, n ≤ b := by
  rcases r with ⟨_ | a, _ | b, hr⟩ <;> simp [contains]

end Interval

end SpatialGrammar

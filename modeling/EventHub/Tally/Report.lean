import EventHub.Num.Binary64
import EventHub.Tally

/-! # Reports on counters

A snapshot holds the counts of one moment. Its summary adds the sums and the rate of failures: the
percentage of actor calls that failed, rounded to two decimal places.
-/

namespace EventHub

/-- The counts of one moment. A snapshot may also be put together by hand, so that its numbers are any
integers. -/
structure Snapshot where
  published : OrderedMap String Int := []
  called : OrderedMap String Int := []
  failed : OrderedMap String Int := []
  entries : Int := 0
  active : Int := 0
  actors : Int := 0

/-- Sums and rate beside the counts of a snapshot. -/
structure Summary where
  publishes : Int
  published : OrderedMap String Int
  calls : Int
  failures : Int
  failed : OrderedMap String Int
  entries : Int
  active : Int
  actors : Int
  failureRate : Num.Binary64

/-- The sum of all counts. -/
def totalOf (counts : OrderedMap String Int) : Int := (OrderedMap.values counts).foldl (· + ·) 0

/-- The counts of a tally as they are now. -/
def Tally.snapshot (t : Tally) : Snapshot where
  published := t.published.map fun (k, n) => (k, (n : Int))
  called := t.called.map fun (k, n) => (k, (n : Int))
  failed := t.failed.map fun (k, n) => (k, (n : Int))
  entries := t.sizes.entries
  active := t.sizes.active
  actors := t.sizes.actors

/-- The percentage that `part` is of `whole`, where a whole below one counts as one, rounded to two
decimal places; none when the ratio is out of range. -/
def percentage? (part whole : Int) : Option Num.Binary64 :=
  match Num.Binary64.ofRatio (decide (part < 0)) part.natAbs (max 1 whole).toNat with
  | .infinite _ => none
  | x => some ((x.scale 100).roundPlaces 2)

/-- The summary of a snapshot. -/
def Snapshot.summary? (s : Snapshot) : Option Summary :=
  (percentage? (totalOf s.failed) (totalOf s.called)).map fun rate =>
    { publishes := totalOf s.published
      published := s.published
      calls := totalOf s.called
      failures := totalOf s.failed
      failed := s.failed
      entries := s.entries
      active := s.active
      actors := s.actors
      failureRate := rate }

end EventHub

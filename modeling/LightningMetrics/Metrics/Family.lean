import Std.Data.TreeMap
import LightningMetrics.Binary64.Decimal
import LightningMetrics.Metrics.Histogram

set_option autoImplicit false

namespace LightningMetrics

/-- The series of a family whose label values are few and known, by these values. A series exists
from its first use on. -/
abbrev SeriesMap (α : Type) := Std.TreeMap (List String) α

/-- Changes one series, which starts from `fresh` if it is new. -/
def SeriesMap.update {α : Type} (series : SeriesMap α) (labels : List String) (fresh : α)
    (change : α → α) : SeriesMap α :=
  series.insert labels (change (series.getD labels fresh))

/-- The series of a family, each with its label values in the order of the family's label names. -/
inductive FamilySeries where
  | counters (series : List (List String × Nat))
  | gauges (series : List (List String × Binary64))
  | histograms (series : List (List String × Histogram))

structure Family where
  name : String
  help : String
  labelNames : List String
  series : FamilySeries

namespace Exposition

/-- The content type of the text format. -/
def contentType : String := "text/plain; version=0.0.4"

def escapeChar (char : Char) : List Char :=
  if char = '\\' then ['\\', '\\']
  else if char = '"' then ['\\', '"']
  else if char = '\n' then ['\\', 'n']
  else [char]

/-- A label value as it stands between quotes. -/
def escape (value : String) : String :=
  String.ofList (value.toList.flatMap escapeChar)

/-- The labels of a series, in alphabetical order of their names. -/
def sortedLabels (names values : List String) : List (String × String) :=
  (names.zip values).mergeSort fun left right => left.1 ≤ right.1

/-- Series in the order of their label values, compared name by name in alphabetical order. -/
def sortedSeries {α : Type} (names : List String) (series : List (List String × α)) :
    List (List (String × String) × α) :=
  let labelled := series.map fun entry => (sortedLabels names entry.1, entry.2)
  labelled.mergeSort fun left right =>
    (compare (left.1.map Prod.snd) (right.1.map Prod.snd)).isLE

def labelsText (labels : List (String × String)) : String :=
  if labels.isEmpty then ""
  else
    let pairs := labels.map fun label => label.1 ++ "=\"" ++ escape label.2 ++ "\""
    "\x7b" ++ ",".intercalate pairs ++ "\x7d"

/-- One sample line. -/
def line (name : String) (labels : List (String × String)) (value : Binary64) : String :=
  name ++ labelsText labels ++ " " ++ value.text ++ "\n"

/-- The sample lines of a histogram: a line per bucket with its bound as the last label, then the
bucket without a bound, the sum and the count. -/
def histogramLines (name : String) (labels : List (String × String))
    (histogram : Histogram) : List String :=
  let bucketLine (bound : String) (count : Nat) : String :=
    line (name ++ "_bucket") (labels ++ [("le", bound)]) (.ofNat count)
  histogram.cumulative.map (fun bucket => bucketLine bucket.1.text bucket.2) ++
    [bucketLine "+Inf" histogram.count,
     line (name ++ "_sum") labels histogram.sum,
     line (name ++ "_count") labels (.ofNat histogram.count)]

/-- The word for the kind of a family, and its sample lines. -/
def samples (family : Family) : String × List String :=
  match family.series with
  | .counters series =>
      ("counter", (sortedSeries family.labelNames series).map fun entry =>
        line family.name entry.1 (.ofNat entry.2))
  | .gauges series =>
      ("gauge", (sortedSeries family.labelNames series).map fun entry =>
        line family.name entry.1 entry.2)
  | .histograms series =>
      ("histogram", (sortedSeries family.labelNames series).flatMap fun entry =>
        histogramLines family.name entry.1 entry.2)

/-- The lines of a family; none if it has no series. -/
def familyLines (family : Family) : List String :=
  match samples family with
  | (_, []) => []
  | (kind, lines) =>
      ("# HELP " ++ family.name ++ " " ++ family.help ++ "\n") ::
        ("# TYPE " ++ family.name ++ " " ++ kind ++ "\n") :: lines

/-- The whole text, with the families in the order of their names. -/
def text (families : List Family) : String :=
  let sorted := families.mergeSort fun left right => left.name ≤ right.name
  String.join (sorted.flatMap familyLines)

end Exposition

end LightningMetrics

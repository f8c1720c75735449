import PoolHealth.Metrics.Record

/-!
# Metric families

A registry sums measurements up in families.  The first measurement of a name fixes
the kind of the family and the names of its labels.  Later ones go to the series with
the fingerprint of their label values, which are taken by position; they are dropped if
their kind is another one or their number of labels is another one.  The fingerprint
does not see where one value ends and the next begins, so `a`, `bc` and `ab`, `c` are
one series, shown with the values that came first.  The registry is written in the text
exposition format.
-/

namespace PoolHealth

/-- Samples of a distribution, counted by bucket. -/
structure Histogram where
  /-- Samples whose first bucket is the one at this place. -/
  counts : List Nat
  sum : Float
  count : Nat

namespace Histogram

def empty : Histogram := ⟨Metrics.latencyBuckets.map fun _ => 0, 0.0, 0⟩

/-- Adds one to the first place whose bound is not below the value. -/
def addToBucket (value : Float) : List Float -> List Nat -> List Nat
  | bound :: bounds, n :: counts =>
      if value ≤ bound then (n + 1) :: counts else n :: addToBucket value bounds counts
  | _, counts => counts

def observe (h : Histogram) (value : Float) : Histogram :=
  ⟨addToBucket value Metrics.latencyBuckets h.counts, h.sum + value, h.count + 1⟩

def cumulative (h : Histogram) : List Nat :=
  (h.counts.foldl (fun (acc : List Nat × Nat) n => ((acc.2 + n) :: acc.1, acc.2 + n))
    ([], 0)).1.reverse

end Histogram

inductive SeriesData where
  | histogram (h : Histogram)
  | counter (value : Float)
  | gauge (value : Float)

namespace SeriesData

/-- A series of a kind before its first measurement. -/
def fresh : MetricKind -> SeriesData
  | .observation => histogram .empty
  | .counter => counter 0.0
  | .gauge => gauge 0.0

def add (value : Float) : SeriesData -> SeriesData
  | histogram h => histogram (h.observe value)
  | counter total => counter (total + 1.0)
  | gauge _ => gauge value

end SeriesData

/-- The measurements of a family whose label values have one fingerprint. -/
structure Series where
  /-- The label values of the first measurement. -/
  values : List String
  data : SeriesData

structure MetricFamily where
  name : String
  kind : MetricKind
  labelNames : List String
  series : List Series

/-- The families in the order of their first use. -/
structure MetricRegistry where
  families : List MetricFamily

namespace MetricRegistry

def empty : MetricRegistry := ⟨[]⟩

/-!
## Names
-/

def isAsciiLetter (c : Char) : Bool := ('a' ≤ c && c ≤ 'z') || ('A' ≤ c && c ≤ 'Z')

/-- Letters and underscores may start a label name, and digits may follow. -/
def isLabelName (s : String) : Bool :=
  match s.toList with
  | [] => false
  | c :: rest =>
      (isAsciiLetter c || c == '_')
        && rest.all fun c => isAsciiLetter c || c == '_' || c.isDigit

def isMetricName (s : String) : Bool :=
  match s.toList with
  | [] => false
  | c :: rest =>
      (isAsciiLetter c || c == '_' || c == ':')
        && rest.all fun c => isAsciiLetter c || c == '_' || c == ':' || c.isDigit

/-- The label of the bucket bounds, which a distribution has for itself. -/
def bucketLabel : String := "le"

def allDistinct : List String -> Bool
  | [] => true
  | s :: rest => !rest.contains s && allDistinct rest

/-- Whether a family of that name and those labels can be set up. -/
def isAcceptable (name : String) (labelNames : List String) : Bool :=
  isMetricName name && labelNames.all isLabelName && allDistinct labelNames

/-!
## Recording
-/

/-- The fingerprint of no bytes. -/
def fingerprintBasis : UInt64 := 0xcbf29ce484222325

/-- The factor that each byte of a fingerprint brings in. -/
def fingerprintPrime : UInt64 := 0x100000001b3

def stir (hash : UInt64) (byte : UInt8) : UInt64 :=
  (hash ^^^ byte.toUInt64) * fingerprintPrime

/-- The fingerprint of label values: all their bytes one after the other, with nothing
between two values. -/
def fingerprint (values : List String) : UInt64 :=
  values.foldl (fun hash value => value.toUTF8.data.foldl stir hash) fingerprintBasis

/-- Adds a measurement to the series with the fingerprint of its label values. -/
def addToSeries (kind : MetricKind) (values : List String) (value : Float) :
    List Series -> List Series
  | [] => [⟨values, (SeriesData.fresh kind).add value⟩]
  | s :: rest =>
      if fingerprint s.values = fingerprint values then { s with data := s.data.add value } :: rest
      else s :: addToSeries kind values value rest

/-- Whether the family takes a measurement of a kind with that many labels.  A
distribution has no series if one of its labels is that of the bucket bounds. -/
def accepts (f : MetricFamily) (kind : MetricKind) (labelCount : Nat) : Bool :=
  f.kind == kind && f.labelNames.length == labelCount
    && !(kind == .observation && f.labelNames.contains bucketLabel)

def addToFamily (f : MetricFamily) (r : MetricRecord) : MetricFamily :=
  if accepts f r.kind r.labels.length then
    { f with series := addToSeries r.kind (r.labels.map (·.2)) r.value f.series }
  else f

/-- Adds a measurement to the family of its name, and sets the family up if there is
none and the names allow it. -/
def recordIn (r : MetricRecord) : List MetricFamily -> List MetricFamily
  | [] =>
      let labelNames := r.labels.map (·.1)
      if isAcceptable r.name labelNames then [addToFamily ⟨r.name, r.kind, labelNames, []⟩ r]
      else []
  | f :: rest => if f.name = r.name then addToFamily f r :: rest else f :: recordIn r rest

def record (g : MetricRegistry) (r : MetricRecord) : MetricRegistry := ⟨recordIn r g.families⟩

/-!
## Text exposition
-/

def typeName : MetricKind -> String
  | .observation => "histogram"
  | .counter => "counter"
  | .gauge => "gauge"

def description : MetricKind -> String
  | .observation => "distribution"
  | .counter => "counter"
  | .gauge => "gauge"

def escapeChar (c : Char) : List Char :=
  if c = '\\' then ['\\', '\\']
  else if c = '\n' then ['\\', 'n']
  else if c = '"' then ['\\', '"']
  else [c]

def labelText (label : String × String) : String :=
  label.1 ++ "=\"" ++ String.ofList (label.2.toList.flatMap escapeChar) ++ "\""

/-- The labels of a sample between braces, or nothing if there are none. -/
def labelsText (labels : Labels) : String :=
  if labels.isEmpty then ""
  else "\x7b" ++ ",".intercalate (labels.map labelText) ++ "\x7d"

def sampleText (name : String) (labels : Labels) (value : Float) : String :=
  name ++ labelsText labels ++ " " ++ Decimal.Layout.plain.text value ++ "\n"

def countValue (n : Nat) : Float := n.toUInt64.toFloat

/-- The labels of a series in the order of their names. -/
def sortedLabels (labelNames values : List String) : Labels :=
  (labelNames.zip values).mergeSort fun a b => !decide (b.1 < a.1)

def seriesText (name : String) (labels : Labels) : SeriesData -> String
  | .counter value | .gauge value => sampleText name labels value
  | .histogram h =>
      let bucket (bound : String) (n : Nat) : String :=
        sampleText (name ++ "_bucket") (labels ++ [(bucketLabel, bound)]) (countValue n)
      String.join
          ((Metrics.latencyBuckets.zip h.cumulative).map fun (bound, n) =>
            bucket (Decimal.Layout.plain.text bound) n)
        ++ bucket "+Inf" h.count
        ++ sampleText (name ++ "_sum") labels h.sum
        ++ sampleText (name ++ "_count") labels (countValue h.count)

/-- Whether the values of one list of labels come before those of another. -/
def valuesBefore : Labels -> Labels -> Bool
  | (_, v) :: rest, (_, w) :: rest' => if v = w then valuesBefore rest rest' else decide (v < w)
  | _, _ => false

/-- The series of a family with sorted labels, in the order of the label values. -/
def sortedSeries (f : MetricFamily) : List (Labels × SeriesData) :=
  (f.series.map fun s => (sortedLabels f.labelNames s.values, s.data)).mergeSort
    fun a b => !valuesBefore b.1 a.1

/-- The lines of a family, or nothing if it has no series. -/
def familyText (f : MetricFamily) : String :=
  if f.series.isEmpty then ""
  else
    "# HELP " ++ f.name ++ " " ++ f.name ++ " " ++ description f.kind ++ "\n# TYPE " ++ f.name
      ++ " " ++ typeName f.kind ++ "\n"
      ++ String.join ((sortedSeries f).map fun (labels, data) => seriesText f.name labels data)

/-- The families in the order of their names. -/
def sortedFamilies (g : MetricRegistry) : List MetricFamily :=
  g.families.mergeSort fun a b => !decide (b.name < a.name)

def render (g : MetricRegistry) : String := String.join (g.sortedFamilies.map familyText)

end MetricRegistry
end PoolHealth

import DumpKeeper.Decimal.Shortest
import DumpKeeper.Duration
import DumpKeeper.Metrics

/-!
# Counters as text

Counters are shown one below the other: what a counter means, what kind of counter it is, and its
samples.  A counter that only grows has one sample, as has a gauge; a histogram has one for each
bucket, each counting the smaller buckets too, and one each for the number of observations and their
sum.

* `Family`, `families` — the counters with their names and meanings, in the order in which they are
  shown.
* `Sample`, `Family.samples` — the values that are shown.
* `Metrics.sample?` — the value of one sample.
* `exposition` — the text.
-/

set_option autoImplicit false

namespace DumpKeeper

/-- A counter as it is shown: what it counts, its name and its meaning. -/
inductive Family where
  | counter (c : Counter) (name help : String)
  | gauge (name help : String)
  | histogram (d : Distribution) (name help : String)
  deriving Repr

/-- The name that ends in `rest`, behind the word that all names begin with. -/
def metricName (rest : String) : String := "redis_vault_" ++ rest

/-- All counters, in the order in which they are shown. -/
def families : List Family :=
  [.counter .attempted (metricName "backups") "Total number of backup operations attempted",
   .counter .successful (metricName "backups_successful")
     "Total number of successful backup operations",
   .counter .failed (metricName "backups_failed") "Total number of failed backup operations",
   .histogram .sizes (metricName "backup_size_bytes") "Size of backup files in bytes",
   .histogram .durations (metricName "backup_duration_seconds")
     "Duration of backup operations in seconds",
   .gauge (metricName "last_backup_timestamp_seconds")
     "Unix timestamp of the last successful backup",
   .counter .uploads (metricName "storage_uploads") "Total number of storage upload operations",
   .counter .deletes (metricName "storage_deletes") "Total number of storage delete operations",
   .counter .deleteFailures (metricName "storage_delete_failures")
     "Total number of storage delete operations that failed",
   .counter .cleanups (metricName "cleanup_operations")
     "Total number of cleanup operations performed",
   .counter .deleted (metricName "backups_deleted")
     "Total number of old backups deleted during cleanup"]

/-- A value that is shown; only the samples of buckets have a bound. -/
structure Sample where
  name : String
  bound : Option Float := none
  value : Float
  deriving Inhabited

/-- The characters `cs` without zeros and points at their end. -/
def dropEndZeros (cs : List Char) : List Char :=
  (cs.reverse.dropWhile fun c => c == '0' || c == '.').reverse

/-- The number `x` in decimal.  A positive number with seven or more digits before the point is
written with a power of ten. -/
def numberText (x : Float) : String :=
  if x.isNaN then "NaN"
  else if x.isInf then if x < 0 then "-Inf" else "+Inf"
  else
    let s := (Binary64.text x).toList
    let point := (s.takeWhile (· != '.')).length
    if 0 < x ∧ 6 < point ∧ point < s.length then
      let digits := s.filter (· != '.')
      let mantissa := dropEndZeros (digits.take 1 ++ '.' :: digits.drop 1)
      String.ofList mantissa ++ "e+" ++ Duration.padded 2 (point - 1)
    else String.ofList s

/-- The sample of an infinite bound, which all observations reach. -/
def infinity : Float := 1 / 0

namespace Family

/-- What is counted, under the name that the head of its text has. -/
def shownName : Family → String
  | counter _ name _ => name ++ "_total"
  | gauge name _ => name
  | histogram _ name _ => name

/-- The meaning. -/
def help : Family → String
  | counter _ _ help => help
  | gauge _ help => help
  | histogram _ _ help => help

/-- The kind of counter. -/
def kind : Family → String
  | counter .. => "counter"
  | gauge .. => "gauge"
  | histogram .. => "histogram"

/-- The values that are shown of `m` for a family. -/
def samples (m : Metrics) : Family → List Sample
  | counter c name _ => [⟨name ++ "_total", none, (m.get c).toFloat⟩]
  | gauge name _ => [⟨name, none, m.lastBackup⟩]
  | histogram d name _ =>
    let h := m.histogram d
    (((d.bounds ++ [infinity]).zip h.cumulative).map fun e =>
      ⟨name ++ "_bucket", some e.1, Float.ofNat e.2⟩) ++
      [⟨name ++ "_count", none, Float.ofNat h.count⟩, ⟨name ++ "_sum", none, h.sum.toFloat⟩]

end Family

/-- One line of the text, which shows the sample `s`. -/
def Sample.line (s : Sample) : String :=
  s.name ++
    (match s.bound with
      | some b => "\x7ble=\"" ++ numberText b ++ "\"\x7d"
      | none => "") ++
    " " ++ numberText s.value ++ "\n"

/-- The lines that show the family `f` of `m`. -/
def Family.text (m : Metrics) (f : Family) : String :=
  "# HELP " ++ f.shownName ++ " " ++ f.help ++ "\n" ++
    "# TYPE " ++ f.shownName ++ " " ++ f.kind ++ "\n" ++
    String.join ((f.samples m).map Sample.line)

/-- All counters of `m` as text. -/
def exposition (m : Metrics) : String :=
  String.join (families.map (Family.text m))

/-- The kind of text that the counters are. -/
def expositionType : String := "text/plain; version=1.0.0; charset=utf-8"

/-- The value that `exposition` shows under `name`; samples of buckets have no name of their own. -/
def Metrics.sample? (m : Metrics) (name : String) : Option Float :=
  ((families.flatMap (Family.samples m)).find? fun s => s.bound.isNone && s.name == name).map
    (·.value)

end DumpKeeper

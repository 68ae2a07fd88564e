import DumpKeeper.DateTime
import DumpKeeper.Decimal.Shortest
import DumpKeeper.Text.Digits
import DumpKeeper.Text.Quoted

/-!
# Values of a configuration

A configuration file holds values of many kinds before anything is known about their meaning: texts,
numbers, truth values, dates, bytes, and lists and mappings of them.  A mapping keeps its entries in
the order in which their keys first came.

* `Value` — the values.
* `Value.truthy` — whether a value counts as given, rather than as empty.
* `Value.sameKey`, `Value.insert`, `Value.lookup?` — keys, and entries of a mapping.
* `Value.quoted`, `Value.asText` — a value as messages show it, and as text without quotes.
* `Value.isShowable` — whether a value can be shown at all.
-/

set_option autoImplicit false

namespace DumpKeeper

/-- A value read from a configuration. -/
inductive Value where
  | null
  | bool (b : Bool)
  | int (n : Int)
  | float (x : Float)
  | text (s : String)
  | bytes (bs : List UInt8)
  | date (d : Date)
  | dateTime (t : DateTime)
  | list (items : List Value)
  | pair (first second : Value)
  | set (members : List Value)
  | map (entries : List (Value × Value))
  /-- A list or a mapping that this value stands inside of. -/
  | enclosing (mapping : Bool)
  deriving Inhabited

namespace Value

/-- Whether a value counts as given: empty texts and collections, zero and `false` do not. -/
def truthy : Value → Bool
  | null => false
  | bool b => b
  | int n => n != 0
  | float x => x.isNaN || x != 0
  | text s => !s.isEmpty
  | bytes bs => !bs.isEmpty
  | date _ => true
  | dateTime _ => true
  | list items => !items.isEmpty
  | pair _ _ => true
  | set members => !members.isEmpty
  | map entries => !entries.isEmpty
  | enclosing _ => true

/-- The whole number that a truth value counts as, or a number itself if it is whole. -/
def asInt? : Value → Option Int
  | bool b => some (if b then 1 else 0)
  | int n => some n
  | _ => none

/-- Whether two values are the same key of a mapping.  Numbers and truth values are compared by
what they count as; points in time with a known offset are compared as instants. -/
def sameKey : Value → Value → Bool
  | null, null => true
  | text s, text t => s == t
  | bytes a, bytes b => a == b
  | date a, date b => a == b
  | dateTime a, dateTime b => a.offset.isSome == b.offset.isSome && a.utcWall == b.utcWall
  | float x, float y => x == y
  | float x, v => match v.asInt? with | some n => Binary64.equalsInt x n | none => false
  | v, float y => match v.asInt? with | some n => Binary64.equalsInt y n | none => false
  | v, w => match v.asInt?, w.asInt? with | some m, some n => m == n | _, _ => false

/-- Entries with `key` set to `value`: the place of a known key is kept, a new key goes to the
end. -/
def insert (key value : Value) : List (Value × Value) → List (Value × Value)
  | [] => [(key, value)]
  | (k, v) :: rest => if sameKey k key then (k, value) :: rest else (k, v) :: insert key value rest

/-- The value of the text `key` in `entries`. -/
def lookup? (key : String) (entries : List (Value × Value)) : Option Value :=
  (entries.find? fun e => match e.1 with | text s => s == key | _ => false).map (·.2)

/-! ## Texts -/

mutual

/-- Whether a value can be shown: a number in it must not have too many digits. -/
def isShowable : Value → Bool
  | int n => n.natAbs < Nat.pow 10 Text.digitLimit
  | list items => allShowable items
  | pair a b => isShowable a && isShowable b
  | set members => allShowable members
  | map entries => entriesShowable entries
  | _ => true

/-- Whether values can be shown. -/
def allShowable : List Value → Bool
  | [] => true
  | v :: rest => isShowable v && allShowable rest

/-- Whether keys and values can be shown. -/
def entriesShowable : List (Value × Value) → Bool
  | [] => true
  | (k, v) :: rest => isShowable k && isShowable v && entriesShowable rest

end

mutual

/-- A value as messages show it. -/
def quoted : Value → String
  | null => "None"
  | bool b => if b then "True" else "False"
  | int n => toString n
  | float x => Binary64.text x
  | text s => Text.quoted s
  | bytes bs => Text.quotedBytes bs
  | date d => DateTime.describedDate d
  | dateTime t => t.described
  | list items => "[" ++ quotedItems items ++ "]"
  | pair a b => "(" ++ quoted a ++ ", " ++ quoted b ++ ")"
  | set [] => "set()"
  | set (m :: ms) => "\x7b" ++ quotedItems (m :: ms) ++ "\x7d"
  | map entries => "\x7b" ++ quotedEntries entries ++ "\x7d"
  | enclosing mapping => if mapping then "\x7b...\x7d" else "[...]"

/-- Values with commas between them. -/
def quotedItems : List Value → String
  | [] => ""
  | [v] => quoted v
  | v :: w :: rest => quoted v ++ ", " ++ quotedItems (w :: rest)

/-- Entries with commas between them. -/
def quotedEntries : List (Value × Value) → String
  | [] => ""
  | [(k, v)] => quoted k ++ ": " ++ quoted v
  | (k, v) :: e :: rest => quoted k ++ ": " ++ quoted v ++ ", " ++ quotedEntries (e :: rest)

end

/-- A value as text: a text stands as it is, points in time without their names, and all else as
messages show it. -/
def asText : Value → String
  | text s => s
  | date d => DateTime.dateText 4 d
  | dateTime t => t.spaced
  | v => v.quoted

end Value

end DumpKeeper

import ApiSite.Data.Value
import ApiSite.Text.Entity
import ApiSite.Yaml.Node

/-!
The value of a YAML document. Each node gives the value of its type; a mapping takes over the
entries of the mappings under its merge keys, before its own.
-/

set_option autoImplicit false

namespace ApiSite.Yaml

/-- The value of digits in a base, each read by `digit`. -/
def number? (base : Nat) (digit : Char → Option Nat) (t : Text) : Option Nat :=
  if t.isEmpty then none
  else t.foldl (fun n c => n.bind fun n => (digit c).map fun d => base * n + d) (some 0)

/-- The value of a digit below a base of at most ten. -/
def digit? (base : Nat) (c : Char) : Option Nat :=
  if c.isDigit ∧ c.toNat - '0'.toNat < base then some (c.toNat - '0'.toNat) else none

/-- The value of a hexadecimal digit. -/
def hexDigit? (c : Char) : Option Nat :=
  if Text.isHexDigit c then some (Text.hexadecimal [c]) else none

/-- The value of parts in base sixty. -/
def sixtieths? (parts : List Text) : Option Nat :=
  parts.foldl (fun n part => n.bind fun n => (Text.toNat? part).map fun d => 60 * n + d) (some 0)

/-- The value of a whole number. -/
def int? (t : Text) : Option Int :=
  let t := t.filter (· != '_')
  let magnitude : Option Nat :=
    match Tag.unsigned t with
    | '0' :: 'b' :: digits => number? 2 (digit? 2) digits
    | '0' :: 'x' :: digits => number? 16 hexDigit? digits
    | '0' :: digits => number? 8 (digit? 8) ('0' :: digits)
    | t => if t.contains ':' then sixtieths? (Text.splitOn ':' t) else Text.toNat? t
  magnitude.map fun n => if t.head? == some '-' then -(n : Int) else n

/-- The value of parts in base sixty, the last first, when the parts before are worth `unit`
each. -/
def realSixtieths? (unit : Int) (sum : Binary64) : List Text → Option Binary64
  | [] => some sum
  | part :: rest =>
    match Binary64.ofText? part with
    | some r => realSixtieths? (60 * unit) (sum.add (r.scale unit)) rest
    | none => none

/-- The value of a real number. -/
def real? (t : Text) : Option Binary64 :=
  let t := (t.filter (· != '_')).map Char.toLower
  let negative := t.head? == some '-'
  let magnitude : Option Binary64 :=
    let t := Tag.unsigned t
    if t == ".inf" then some (.infinite false)
    else if t == ".nan" then some .nan
    else if t.contains ':' then
      realSixtieths? 1 (Binary64.ofInt 0) (Text.splitOn ':' t).reverse
    else Binary64.ofText? t
  if negative then magnitude.map Binary64.neg else magnitude

def isLeapYear (year : Nat) : Bool := year % 4 == 0 && (year % 100 != 0 || year % 400 == 0)

/-- How many days a month has. -/
def daysOf (year month : Nat) : Nat :=
  match month with
  | 2 => if isLeapYear year then 29 else 28
  | 4 | 6 | 9 | 11 => 30
  | _ => 31

/-- A day, if there is one with these numbers. -/
def date? (year month day : Nat) : Option Date :=
  if 1 ≤ year ∧ 1 ≤ month ∧ month ≤ 12 ∧ 1 ≤ day ∧ day ≤ daysOf year month then
    some ⟨year, month, day⟩
  else none

/-- The number of a text of digits; zero for none. -/
def numberOf (t : Text) : Nat := (Text.toNat? t).getD 0

/-- The value of a date. -/
def stampValue? (s : Tag.Stamp) : Option Value :=
  (date? (numberOf s.year) (numberOf s.month) (numberOf s.day)).bind fun date =>
    match s.time with
    | none => some (.date date)
    | some (hour, minute, second, fraction) =>
      let offset : Option Int := s.offset.map fun (sign, hours, minutes) =>
        let n : Int := 60 * numberOf hours + numberOf minutes
        if sign == some '-' then -n else n
      let (hour, minute, second) := (numberOf hour, numberOf minute, numberOf second)
      let micro := numberOf ((fraction ++ List.replicate 6 '0').take 6)
      if hour < 24 ∧ minute < 60 ∧ second < 60 ∧ offset.all (fun n => n.natAbs < 1440) then
        some (.moment ⟨date, hour, minute, second, micro, offset⟩)
      else none

/-- The value of a scalar. -/
def scalarValue (tag : Tag) (t : Text) : Except Error Value :=
  match tag with
  | .null => .ok .null
  | .bool =>
    match Tag.truthWord? (t.map Char.toLower) with
    | some b => .ok (.bool b)
    | none => .error .unknownWord
  | .int =>
    match int? t with
    | some i => .ok (.int i)
    | none => .error .impossible
  | .float =>
    match real? t with
    | some r => .ok (.real r)
    | none => .error .impossible
  | .timestamp =>
    match Tag.stamp? t with
    | none => .error .unknownWord
    | some s =>
      match stampValue? s with
      | some v => .ok v
      | none => .error .impossible
  | .str => .ok (.text t)
  | .seq | .map | .merge | .value | .unknown => .error .malformed

/-- Entries added to those of a mapping. -/
def addEntries (entries new : List (Value × Value)) : List (Value × Value) :=
  new.foldl (fun entries e => Value.assign e.1 e.2 entries) entries

/-- The mappings of a list. -/
def mappings? : List Value → Option (List (List (Value × Value)))
  | [] => some []
  | .mapping m :: rest => (mappings? rest).map (m :: ·)
  | _ :: _ => none

/-- The entries that a mapping takes over from what stands under a merge key: of several mappings,
the first has the last word. -/
def mergedEntries? : Value → Option (List (Value × Value))
  | .mapping m => some m
  | .list l => (mappings? l).map fun ms => ms.reverse.foldl addEntries []
  | _ => none

/-- An entry of a mapping under construction. -/
inductive Entry where
  | own (key value : Value)
  | merged (entries : List (Value × Value))

/-- The mapping with the given entries: those taken over come first. -/
def mappingOf (entries : List Entry) : Value :=
  let taken := entries.foldl (fun acc e =>
    match e with
    | .merged m => addEntries acc m
    | .own _ _ => acc) []
  .mapping (entries.foldl (fun acc e =>
    match e with
    | .merged _ => acc
    | .own k v => Value.assign k v acc) taken)

mutual

/-- The value of a node. -/
def valueOf : Node → Except Error Value
  | .scalar tag t => scalarValue tag t
  | .sequence tag items =>
    match valuesOf items with
    | .error e => .error e
    | .ok vs => if tag = .seq then .ok (.list vs) else .error .malformed
  | .mapping tag entries =>
    match entriesOf entries with
    | .error e => .error e
    | .ok es => if tag = .map then .ok (mappingOf es) else .error .malformed

def valuesOf : List Node → Except Error (List Value)
  | [] => .ok []
  | n :: rest =>
    match valueOf n, valuesOf rest with
    | .ok v, .ok vs => .ok (v :: vs)
    | .error e, _ => .error e
    | _, .error e => .error e

/-- The entry of a key that is given by its own value, or taken over. -/
def entryOf : Node × Node → Except Error Entry
  | (.scalar .merge _, n) =>
    match valueOf n with
    | .error e => .error e
    | .ok v =>
      match mergedEntries? v with
      | some m => .ok (.merged m)
      | none => .error .malformed
  | (.scalar .value t, n) => (valueOf n).map fun v => .own (.text t) v
  | (k, n) =>
    match valueOf k, valueOf n with
    | .ok k, .ok v => if k.isKey then .ok (.own k v) else .error .malformed
    | .error e, _ => .error e
    | _, .error e => .error e

def entriesOf : List (Node × Node) → Except Error (List Entry)
  | [] => .ok []
  | e :: rest =>
    match entryOf e, entriesOf rest with
    | .ok e, .ok es => .ok (e :: es)
    | .error e, _ => .error e
    | _, .error e => .error e

end

/-- The value of the single document in a source; nothing where there is none. -/
def read (source : Text) : Except Error Value :=
  match Node.read source with
  | .error e => .error e
  | .ok none => .ok .null
  | .ok (some n) => valueOf n

end ApiSite.Yaml

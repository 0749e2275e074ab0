import ApiSite.Data.Binary64

/-!
Values as documents and settings give them: nothing, truth values, numbers, texts, dates, lists, and
mappings that keep the order of their keys.
-/

set_option autoImplicit false

namespace ApiSite

/-- A day. -/
structure Date where
  year : Nat
  month : Nat
  day : Nat
  deriving DecidableEq, Repr, Inhabited

/-- A time of a day, with the minutes by which its clock is ahead where this is known. -/
structure Moment where
  date : Date
  hour : Nat
  minute : Nat
  second : Nat
  microsecond : Nat
  offset : Option Int
  deriving DecidableEq, Repr, Inhabited

/-- A value of a document. -/
inductive Value where
  | null
  | bool (b : Bool)
  | int (i : Int)
  | real (r : Binary64)
  | text (t : Text)
  | date (d : Date)
  | moment (m : Moment)
  | list (items : List Value)
  /-- Keys with their values, in order; no key occurs twice. -/
  | mapping (entries : List (Value × Value))
  deriving Inhabited

namespace Value

/-- Whether a value counts as true: all do but nothing, false, zero, and what is empty. -/
def isTrue : Value → Bool
  | null => false
  | bool b => b
  | int i => i != 0
  | real r => !r.isZero
  | text t => !t.isEmpty
  | date _ => true
  | moment _ => true
  | list l => !l.isEmpty
  | mapping m => !m.isEmpty

def isNull : Value → Bool
  | null => true
  | _ => false

/-- A value that can be a key of a mapping. -/
def isKey : Value → Bool
  | list _ => false
  | mapping _ => false
  | _ => true

/-- The exact value of a number; truth values count as one and zero. -/
def number? : Value → Option (Int × Nat)
  | bool b => some (if b then 1 else 0, 1)
  | int i => some (i, 1)
  | real r => r.ratio?
  | _ => none

/-- Whether two values are one key: numbers are by their value, all else by kind too. -/
def sameKey (a b : Value) : Bool :=
  match number? a, number? b with
  | some (m, c), some (n, d) => m * d == n * c
  | none, none =>
    match a, b with
    | null, null => true
    | real (.infinite s), real (.infinite t) => s == t
    | text s, text t => s == t
    | date s, date t => s == t
    | moment s, moment t => s == t
    | _, _ => false
  | _, _ => false

/-- Looks a key up among entries. -/
def find? (key : Value) (entries : List (Value × Value)) : Option Value :=
  (entries.find? fun e => sameKey e.1 key).map (·.2)

/-- Gives a key a value: in its place if it is there, and at the end otherwise. -/
def assign (key value : Value) : List (Value × Value) → List (Value × Value)
  | [] => [(key, value)]
  | (k, v) :: rest =>
    if sameKey k key then (k, value) :: rest else (k, v) :: assign key value rest

/-- What a value enumerates: the items of a list, the characters of a text, the keys of a mapping,
and nothing where it counts as false. -/
def items? (v : Value) : Option (List Value) :=
  if !v.isTrue then some []
  else
    match v with
    | list l => some l
    | text t => some (t.map fun c => text [c])
    | mapping m => some (m.map (·.1))
    | _ => none

/-- The value of a text key in a mapping. -/
def get? (v : Value) (key : Text) : Option Value :=
  match v with
  | mapping m => find? (text key) m
  | _ => none

end Value

end ApiSite

import ApiSite.Data.Display

/-!
Values written as JSON in ASCII. In the canonical form the keys of every mapping are sorted, so that
two mappings with the same entries have one text.
-/

set_option autoImplicit false

namespace ApiSite.Json

/-- A unit of sixteen bits as an escape. -/
def unitEscape (n : Nat) : Text := '\\' :: 'u' :: Text.hex 4 n

/-- A character within a JSON string. -/
def charText (c : Char) : Text :=
  let n := c.toNat
  if c = '"' ∨ c = '\\' then ['\\', c]
  else if c = '\n' then "\\n"
  else if c = '\r' then "\\r"
  else if c = '\t' then "\\t"
  else if n = 8 then "\\b"
  else if n = 12 then "\\f"
  else if n < 32 then unitEscape n
  else if n < 127 then [c]
  else if n < 0x10000 then unitEscape n
  else unitEscape (0xd800 + (n - 0x10000) / 0x400) ++ unitEscape (0xdc00 + (n - 0x10000) % 0x400)

/-- A text as a JSON string. -/
def stringText (t : Text) : Text := '"' :: t.flatMap charText ++ ['"']

/-- A number as JSON readers know it, with names for what is no number. -/
def realText : Binary64 → Text
  | .infinite negative => if negative then "-Infinity" else "Infinity"
  | .nan => "NaN"
  | r => r.toText

/-- The text that stands for a key, for those that have one. -/
def keyText? : Value → Option Text
  | .text t => some t
  | .bool b => some (if b then "true" else "false")
  | .null => some "null"
  | .int i => some (Text.ofInt i)
  | .real r => some (realText r)
  | _ => none

/-- Whether two keys have an order: texts have, numbers have, and nothing else. -/
def areComparable (a b : Value) : Bool :=
  match a, b with
  | .text _, .text _ => true
  | .text _, _ => false
  | _, .text _ => false
  | .null, _ => false
  | _, .null => false
  | _, _ => true

/-- The order of comparable keys. -/
def keyLe (a b : Value) : Bool :=
  match a, b with
  | .text s, .text t => Text.le s t
  | .real (.infinite s), .real (.infinite t) => s || !t
  | .real (.infinite s), _ => s
  | _, .real (.infinite t) => !t
  | _, _ =>
    match a.number?, b.number? with
    | some (m, c), some (n, d) => m * d ≤ n * c
    | _, _ => true

/-- Whether the keys of entries can be sorted. -/
def canSort : List (Value × Text) → Bool
  | (a, _) :: (b, t) :: rest => areComparable a b && canSort ((b, t) :: rest)
  | _ => true

/-- Entries in the order of their keys, or as they are; `none` where keys have no order. -/
def arrange? (sorted : Bool) (entries : List (Value × Text)) : Option (List (Value × Text)) :=
  if !sorted then some entries
  else if canSort entries then some (entries.mergeSort fun a b => keyLe a.1 b.1) else none

/-- An entry of an object. -/
def entryText? (entry : Value × Text) : Option Text :=
  (keyText? entry.1).map fun key => stringText key ++ ": " ++ entry.2

mutual

/-- A value as JSON, the keys of mappings sorted if so asked; `none` where keys cannot be sorted or
cannot be written. -/
def write? (sorted : Bool) : Value → Option Text
  | .null => some "null"
  | .bool b => some (if b then "true" else "false")
  | .int i => some (Text.ofInt i)
  | .real r => some (realText r)
  | .text t => some (stringText t)
  | .date d => some (stringText d.toText)
  | .moment m => some (stringText m.toText)
  | .list l => (writeAll? sorted l).map fun items => '[' :: Text.join ", " items ++ [']']
  | .mapping m =>
    match writeEntries? sorted m with
    | none => none
    | some entries =>
      match (arrange? sorted entries).bind fun entries => entries.mapM entryText? with
      | none => none
      | some items => some ('\x7b' :: Text.join ", " items ++ ['\x7d'])

def writeAll? (sorted : Bool) : List Value → Option (List Text)
  | [] => some []
  | v :: rest =>
    match write? sorted v, writeAll? sorted rest with
    | some t, some ts => some (t :: ts)
    | _, _ => none

def writeEntries? (sorted : Bool) : List (Value × Value) → Option (List (Value × Text))
  | [] => some []
  | (k, v) :: rest =>
    match write? sorted v, writeEntries? sorted rest with
    | some t, some ts => some ((k, t) :: ts)
    | _, _ => none

end

/-- The canonical JSON of a value: keys sorted, nothing but ASCII. -/
def canonical? (v : Value) : Option Text := write? true v

/-- The break before a line at a depth. -/
def lineBreak (depth : Nat) : Text := '\n' :: Text.spaces (2 * depth)

/-- Items between brackets, each on a line of its own. -/
def block (opening closing : Char) (depth : Nat) (items : List Text) : Text :=
  if items.isEmpty then [opening, closing]
  else
    opening :: lineBreak (depth + 1) ++ Text.join (',' :: lineBreak (depth + 1)) items ++
      lineBreak depth ++ [closing]

mutual

/-- A value as JSON on several lines. -/
def indented (depth : Nat) : Value → Text
  | .list l => block '[' ']' depth (indentedAll (depth + 1) l)
  | .mapping m => block '\x7b' '\x7d' depth (indentedEntries (depth + 1) m)
  | v => (write? false v).getD "null"

def indentedAll (depth : Nat) : List Value → List Text
  | [] => []
  | v :: rest => indented depth v :: indentedAll depth rest

def indentedEntries (depth : Nat) : List (Value × Value) → List Text
  | [] => []
  | (k, v) :: rest =>
    (stringText ((keyText? k).getD k.shown) ++ ": " ++ indented depth v) ::
      indentedEntries depth rest

end

end ApiSite.Json

import ApiSite.Text.Printable
import ApiSite.Data.Value

/-!
How values are shown in messages and names. A text by itself is shown as it is; within a list or a
mapping, or where a message quotes a value, it is put in quotation marks.
-/

set_option autoImplicit false

namespace ApiSite

/-- A number in base ten with at least `width` digits. -/
def Text.padded (width n : Nat) : Text :=
  let digits := Text.ofNat n
  List.replicate (width - digits.length) '0' ++ digits

/-- A number in base sixteen with at least `width` digits. -/
def Text.hex (width n : Nat) : Text :=
  let digits := Nat.toDigits 16 n
  List.replicate (width - digits.length) '0' ++ digits

/-- A day as year, month and day. -/
def Date.toText (d : Date) : Text :=
  Text.padded 4 d.year ++ '-' :: Text.padded 2 d.month ++ '-' :: Text.padded 2 d.day

namespace Moment

/-- An offset in hours and minutes. -/
def offsetText (offset : Int) : Text :=
  let n := offset.natAbs
  (if offset < 0 then '-' else '+') :: Text.padded 2 (n / 60) ++ ':' :: Text.padded 2 (n % 60)

/-- Day, time and offset. -/
def toText (m : Moment) : Text :=
  let fraction : Text := if m.microsecond = 0 then [] else '.' :: Text.padded 6 m.microsecond
  m.date.toText ++ ' ' :: Text.padded 2 m.hour ++ ':' :: Text.padded 2 m.minute ++
    ':' :: Text.padded 2 m.second ++ fraction ++ (m.offset.map offsetText).getD []

end Moment

namespace Value

/-- A character between quotation marks of the given kind. -/
def quotedChar (quote c : Char) : Text :=
  let n := c.toNat
  if c = quote ∨ c = '\\' then ['\\', c]
  else if c = '\n' then "\\n"
  else if c = '\r' then "\\r"
  else if c = '\t' then "\\t"
  else if Text.isPrintable c then [c]
  else if n < 0x100 then "\\x" ++ Text.hex 2 n
  else if n < 0x10000 then "\\u" ++ Text.hex 4 n
  else "\\U" ++ Text.hex 8 n

/-- A text in quotation marks: single ones, unless it holds these and no double ones. -/
def quotedText (t : Text) : Text :=
  let quote : Char := if t.contains '\'' && !t.contains '"' then '"' else '\''
  quote :: t.flatMap (quotedChar quote) ++ [quote]

/-- The parts of a day as arguments. -/
def dateArguments (d : Date) : List Text :=
  [Text.ofNat d.year, Text.ofNat d.month, Text.ofNat d.day]

/-- An offset as an argument. -/
def offsetArgument (offset : Int) : Text :=
  if offset = 0 then "tzinfo=datetime.timezone.utc"
  else
    let days : Text := if offset < 0 then "days=-1, " else []
    let seconds := (if offset < 0 then offset + 1440 else offset) * 60
    "tzinfo=datetime.timezone(datetime.timedelta(" ++ days ++ "seconds=" ++
      Text.ofInt seconds ++ "))"

/-- A time as arguments: seconds and microseconds are left out where they are zero. -/
def momentArguments (m : Moment) : List Text :=
  let fine := if m.microsecond = 0 then
      (if m.second = 0 then [] else [Text.ofNat m.second])
    else [Text.ofNat m.second, Text.ofNat m.microsecond]
  dateArguments m.date ++ [Text.ofNat m.hour, Text.ofNat m.minute] ++ fine ++
    (m.offset.map offsetArgument).toList

mutual

/-- A value as a message quotes it. -/
def quoted : Value → Text
  | null => "None"
  | bool b => if b then "True" else "False"
  | int i => Text.ofInt i
  | real r => r.toText
  | text t => quotedText t
  | date d => "datetime.date(" ++ Text.join ", " (dateArguments d) ++ ")"
  | moment m => "datetime.datetime(" ++ Text.join ", " (momentArguments m) ++ ")"
  | list l => '[' :: Text.join ", " (quotedAll l) ++ [']']
  | mapping m => '\x7b' :: Text.join ", " (quotedEntries m) ++ ['\x7d']

def quotedAll : List Value → List Text
  | [] => []
  | v :: rest => quoted v :: quotedAll rest

def quotedEntries : List (Value × Value) → List Text
  | [] => []
  | (k, v) :: rest => (quoted k ++ ": " ++ quoted v) :: quotedEntries rest

end

/-- A value as a text of its own. -/
def shown : Value → Text
  | text t => t
  | date d => d.toText
  | moment m => m.toText
  | v => v.quoted

end Value

end ApiSite

import ApiSite.Text.Basic

/-!
The types of YAML values, and how a plain scalar shows its type: by the words for nothing and for
truth values, by the forms of numbers and dates, and else it is a text.
-/

set_option autoImplicit false

namespace ApiSite.Yaml

/-- The type of a node. -/
inductive Tag where
  | null
  | bool
  | int
  | float
  | timestamp
  | str
  | seq
  | map
  /-- The key under which a mapping takes over the entries of others. -/
  | merge
  /-- The key of a default value, which has no meaning by itself. -/
  | value
  | unknown
  deriving DecidableEq, Repr

namespace Tag

/-- The common beginning of the tags of the standard types. -/
abbrev standard : Text := "tag:yaml.org,2002:"

/-- The type that a tag written in full names. -/
def ofText (t : Text) : Tag :=
  match Text.after? standard t with
  | none => .unknown
  | some name =>
    if name == "null" then .null
    else if name == "bool" then .bool
    else if name == "int" then .int
    else if name == "float" then .float
    else if name == "timestamp" then .timestamp
    else if name == "str" then .str
    else if name == "seq" then .seq
    else if name == "map" then .map
    else .unknown

/-- Words for truth values, in lower case. -/
def truthWord? (t : Text) : Option Bool :=
  if t == "yes" || t == "true" || t == "on" then some true
  else if t == "no" || t == "false" || t == "off" then some false
  else none

/-- A word in lower case, with a capital, or in capitals. -/
def isUniform (t : Text) : Bool :=
  match t with
  | [] => true
  | c :: rest => rest.all (!Char.isUpper ·) || (c.isUpper && rest.all (!Char.isLower ·))

def isTruthWord (t : Text) : Bool :=
  isUniform t && (truthWord? (t.map Char.toLower)).isSome

def isNullWord (t : Text) : Bool :=
  t.isEmpty || t == "~" || (isUniform t && t.map Char.toLower == "null")

/-- A text without a sign before it. -/
def unsigned (t : Text) : Text :=
  match t with
  | '-' :: rest => rest
  | '+' :: rest => rest
  | t => t

/-- Digits with underscores between and behind them. -/
def isDigits (t : Text) : Bool :=
  match t with
  | c :: rest => c.isDigit && rest.all fun c => c.isDigit || c == '_'
  | [] => false

/-- A part of a number in base sixty: a digit, or two of which the first is below six. -/
def isSixtieth (t : Text) : Bool :=
  match t with
  | [a] => a.isDigit
  | [a, b] => '0' ≤ a && a ≤ '5' && b.isDigit
  | _ => false

/-- The forms of whole numbers: binary, octal, decimal, hexadecimal and in base sixty. -/
def isInt (t : Text) : Bool :=
  match unsigned t with
  | '0' :: 'b' :: rest => !rest.isEmpty && rest.all fun c => c == '0' || c == '1' || c == '_'
  | '0' :: 'x' :: rest =>
    !rest.isEmpty && rest.all fun c =>
      c.isDigit || ('a' ≤ c && c ≤ 'f') || ('A' ≤ c && c ≤ 'F') || c == '_'
  | ['0'] => true
  | '0' :: rest => rest.all fun c => ('0' ≤ c && c ≤ '7') || c == '_'
  | t =>
    match Text.splitOn ':' t with
    | first :: parts => isDigits first && parts.all isSixtieth
    | [] => false

/-- An exponent with its sign, or nothing. -/
def isExponent (t : Text) : Bool :=
  match t with
  | [] => true
  | e :: s :: digits =>
    (e == 'e' || e == 'E') && (s == '-' || s == '+') && !digits.isEmpty && digits.all Char.isDigit
  | _ => false

/-- Digits and underscores in front, and what follows them. -/
def spanDigits (t : Text) : Text × Text :=
  (t.takeWhile fun c => c.isDigit || c == '_', t.dropWhile fun c => c.isDigit || c == '_')

/-- The forms of real numbers: with a point, in base sixty with a point, infinite, and none. -/
def isFloat (t : Text) : Bool :=
  let isInfinite (t : Text) : Bool := t == ".inf" || t == ".Inf" || t == ".INF"
  if t == ".nan" || t == ".NaN" || t == ".NAN" || isInfinite (unsigned t) then true
  else
    match t with
    | '.' :: rest =>
      let (digits, rest) := spanDigits rest
      isDigits digits && isExponent rest
    | _ =>
      let t := unsigned t
      let whole := t.takeWhile (· != '.')
      match t.drop whole.length with
      | '.' :: rest =>
        let (_, rest) := spanDigits rest
        match Text.splitOn ':' whole with
        | [digits] => isDigits digits && isExponent rest
        | first :: parts => isDigits first && parts.all isSixtieth && rest.isEmpty
        | [] => false
      | _ => false

/-- The parts of a date, and of a time of day where one is given. -/
structure Stamp where
  year : Text
  month : Text
  day : Text
  /-- Hour, minute, second and the digits of a fraction. -/
  time : Option (Text × Text × Text × Text)
  /-- The sign, hours and minutes of an offset; no sign for none. -/
  offset : Option (Option Char × Text × Text)

/-- Some digits in front, between two numbers of them. -/
def someDigits? (low high : Nat) (t : Text) : Option (Text × Text) :=
  let digits := (t.take high).takeWhile Char.isDigit
  if digits.length < low then none else some (digits, t.drop digits.length)

/-- A character in front. -/
def expect? (c : Char) (t : Text) : Option Text :=
  match t with
  | d :: rest => if c = d then some rest else none
  | [] => none

/-- An offset at the end of a time. -/
def offset? (t : Text) : Option (Option (Option Char × Text × Text)) :=
  match t.dropWhile fun c => c == ' ' || c == '\t' with
  | [] => if t.isEmpty then some none else none
  | ['Z'] => some (some (none, [], []))
  | s :: rest =>
    if s == '-' || s == '+' then
      (someDigits? 1 2 rest).bind fun (hours, rest) =>
        match rest with
        | [] => some (some (some s, hours, []))
        | ':' :: rest =>
          (someDigits? 2 2 rest).bind fun (minutes, rest) =>
            if rest.isEmpty then some (some (some s, hours, minutes)) else none
        | _ => none
    else none

/-- Reads a date, with a time of day or without. -/
def stamp? (t : Text) : Option Stamp := do
  let (year, t) ← someDigits? 4 4 t
  let t ← expect? '-' t
  let (month, t) ← someDigits? 1 2 t
  let t ← expect? '-' t
  let (day, t) ← someDigits? 1 2 t
  match t with
  | [] => some ⟨year, month, day, none, none⟩
  | c :: rest =>
    let rest ← if c == 'T' || c == 't' then some rest
      else if c == ' ' || c == '\t' then some (rest.dropWhile fun c => c == ' ' || c == '\t')
      else none
    let (hour, t) ← someDigits? 1 2 rest
    let t ← expect? ':' t
    let (minute, t) ← someDigits? 2 2 t
    let t ← expect? ':' t
    let (second, t) ← someDigits? 2 2 t
    let (fraction, t) := match t with
      | '.' :: t => (t.takeWhile Char.isDigit, t.dropWhile Char.isDigit)
      | t => ([], t)
    let offset ← offset? t
    some ⟨year, month, day, some (hour, minute, second, fraction), offset⟩

/-- Whether plain text is a date: by itself only with two digits each for month and day. -/
def isStamp (t : Text) : Bool :=
  match stamp? t with
  | none => false
  | some s => s.time.isSome || (s.month.length == 2 && s.day.length == 2)

/-- The type of a plain scalar. -/
def ofPlain (t : Text) : Tag :=
  if isTruthWord t then .bool
  else if isFloat t then .float
  else if isInt t then .int
  else if t == "<<" then .merge
  else if isNullWord t then .null
  else if isStamp t then .timestamp
  else if t == "=" then .value
  else .str

end Tag

end ApiSite.Yaml

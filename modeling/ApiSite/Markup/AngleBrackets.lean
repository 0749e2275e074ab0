import ApiSite.Text.WordChar
import ApiSite.Text.LetterCase

/-!
Angle brackets in running text. Type arguments (`Map<K, V>`) get backslashes, tags that are not on
the list of safe ones become character references, and everything else stays, so that no text opens
a tag that is not allowed.
-/

set_option autoImplicit false

namespace ApiSite.Markup.AngleBrackets

/-- The segments of a tag's name at the head of a text: letters and digits, divided by hyphens. -/
def nameSegments : Text → Text
  | [] => []
  | c :: t =>
    if c.isAlphanum then c :: nameSegments t
    else if c = '-' ∧ (t.head?.any Char.isAlphanum) then c :: nameSegments t
    else []

/-- The name without its last segment, if it has more than one. -/
def dropSegment? (name : Text) : Option Text :=
  if name.contains '-' then some ((name.reverse.dropWhile (· != '-')).drop 1).reverse else none

/-- The name of a tag at the head of a text: the longest that ends at the edge of a word. -/
def tagName? (t : Text) : Option Text :=
  match t with
  | c :: _ =>
    if c.isAlpha then
      let name := nameSegments t
      if ((t.drop name.length).head?.any Text.isWord) then dropSegment? name else some name
    else none
  | [] => none

/-- A complete tag: its name, with a slash before it in an end tag, and what follows the name up to
the bracket that closes it. -/
structure Tag where
  slash : Bool
  name : Text
  rest : Text

/-- The length of a tag. -/
def Tag.size (tag : Tag) : Nat := tag.name.length + tag.rest.length + if tag.slash then 3 else 2

/-- The inside of a tag. -/
def Tag.inside (tag : Tag) : Text := (if tag.slash then ['/'] else []) ++ tag.name ++ tag.rest

/-- The complete tag at the head of a text. -/
def tag? (t : Text) : Option Tag :=
  match t with
  | '<' :: inner =>
    let slash := inner.head? == some '/'
    let body := if slash then inner.drop 1 else inner
    match tagName? body with
    | none => none
    | some name =>
      let rest := (body.drop name.length).takeWhile (· != '>')
      if (body.drop (name.length + rest.length)).isEmpty then none else some ⟨slash, name, rest⟩
  | _ => none

/-- What the escaping is doing with the characters to come. -/
inductive Mode where
  | plain
  /-- Copying the rest of a code span or of a safe tag. -/
  | copy (size : Nat)
  /-- Passing over a tag that has been written. -/
  | skip (size : Nat)
  /-- Within type arguments, this many of them open. -/
  | arguments (depth : Nat)

/-- The length of a code span after its backtick, with the one that closes it. -/
def spanRest? (t : Text) : Option Nat :=
  if t.contains '\x60' then some (Text.countStart (· != '\x60') t + 1) else none

/-- Whether an angle bracket after `previous` and before `t` opens type arguments: a capital
follows, and a word or nothing stands before it. -/
def opensArguments (previous : Option Char) (t : Text) : Bool :=
  (t.head?.any fun c => 'A' ≤ c && c ≤ 'Z') && previous.all Text.isAsciiWord

/-- Escapes a text from a place on, given the character before it. -/
def escapeFrom (safe : List Text) : Mode → Option Char → Text → Text
  | _, _, [] => []
  | .copy (n + 1), _, c :: t => c :: escapeFrom safe (.copy n) (some c) t
  | .skip (n + 1), _, c :: t => escapeFrom safe (.skip n) (some c) t
  | .arguments (depth + 1), _, c :: t =>
    if c = '<' then '\\' :: c :: escapeFrom safe (.arguments (depth + 2)) (some c) t
    else if c = '>' then '\\' :: c :: escapeFrom safe (.arguments depth) (some c) t
    else c :: escapeFrom safe (.arguments (depth + 1)) (some c) t
  | _, previous, c :: t =>
    if c = '\x60' then
      match spanRest? t with
      | some n => c :: escapeFrom safe (.copy n) (some c) t
      | none => c :: escapeFrom safe .plain (some c) t
    else if c = '<' then
      if opensArguments previous t then
        '\\' :: c :: escapeFrom safe (.arguments 1) (some c) t
      else
        match tag? (c :: t) with
        | some tag =>
          if safe.contains (Text.lower tag.name) then
            c :: escapeFrom safe (.copy (tag.size - 1)) (some c) t
          else
            "&lt;" ++ tag.inside ++ "&gt;" ++ escapeFrom safe (.skip (tag.size - 1)) (some c) t
        | none => c :: escapeFrom safe .plain (some c) t
    else c :: escapeFrom safe .plain (some c) t

/-- The text with its angle brackets escaped, the tags with the given names excepted. -/
def escape (safeTags : List Text) (t : Text) : Text :=
  escapeFrom (safeTags.map Text.lower) .plain none t

end ApiSite.Markup.AngleBrackets

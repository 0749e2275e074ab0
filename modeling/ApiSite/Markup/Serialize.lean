import ApiSite.Markup.Inline.Piece

/-!
The markup text of an element: tags, attributes in the order of their names, and content with its
brackets and lone ampersands escaped.
-/

set_option autoImplicit false

namespace ApiSite.Markup

/-- Whether a text after an ampersand makes it a character reference. -/
def isReferenceTail (t : Text) : Bool :=
  let closes (digits rest : Text) : Bool := !digits.isEmpty && rest.head? == some ';'
  let span (p : Char → Bool) (t : Text) : Bool := closes (t.takeWhile p) (t.dropWhile p)
  let isHex (c : Char) := c.isDigit || ('a' ≤ c && c ≤ 'f') || ('A' ≤ c && c ≤ 'F')
  match t with
  | '#' :: 'x' :: rest | '#' :: 'X' :: rest => span isHex rest
  | '#' :: rest => span Char.isDigit rest
  | _ => span (fun c => c.isAlphanum || c.toNat == 0x17f || c.toNat == 0x212a) t

/-- Content with its angle brackets escaped, and its ampersands unless they begin a reference. -/
def escapeContent : Text → Text
  | [] => []
  | c :: t =>
    (if c = '&' then (if isReferenceTail t then ['&'] else "&amp;")
      else if c = '<' then "&lt;" else if c = '>' then "&gt;" else [c]) ++ escapeContent t

/-- An attribute's value with its quotation marks escaped too. -/
def escapeValue (t : Text) : Text := Text.replace ['"'] "&quot;" (escapeContent t)

/-- Elements that never have content or an end tag. -/
def voidTags : List Text := Text.ofStrings
  ["area", "base", "basefont", "br", "col", "frame", "hr", "img", "input", "isindex", "link",
    "meta", "param"]

/-- Attributes with their values, in the order of names. One without a value is its name alone. -/
def attributeText (attrs : Attrs) : Text :=
  (attrs.mergeSort fun a b => Text.le a.1 b.1).flatMap fun (name, value) =>
    ' ' :: name ++ match value with
      | some v => "=\"" ++ escapeValue v ++ ['"']
      | none => []

/-- The start tag of an element, closed at once where it can have no content. -/
def openTag (tag : Text) (attrs : Attrs) : Text :=
  '<' :: tag ++ attributeText attrs ++
    if voidTags.contains (tag.map Char.toLower) then [' ', '/', '>'] else ['>']

/-- The end tag of an element, unless it can have no content. -/
def closeTag (tag : Text) : Text :=
  if voidTags.contains (tag.map Char.toLower) then [] else "</" ++ tag ++ ['>']

mutual

/-- The markup text of an element and its tail. -/
def Element.serialize : Element → Text
  | .mk tag attrs text children tail =>
    openTag tag attrs ++ (if voidTags.contains (tag.map Char.toLower) then []
      else escapeContent (text.getD []) ++ Element.serializeAll children) ++ closeTag tag ++
      escapeContent (tail.getD [])

def Element.serializeAll : List Element → Text
  | [] => []
  | e :: rest => e.serialize ++ Element.serializeAll rest

end

mutual

/-- The markup text of pieces: what was recognised as an element is written in markup, and what was
set aside follows a backslash. `plain` are the characters since the last such piece, in reverse. -/
def Pieces.serialize : (plain : Text) → List Piece → Text
  | plain, [] => escapeContent plain.reverse
  | plain, .char c :: rest => Pieces.serialize (c :: plain) rest
  | plain, .literal _ t :: rest =>
    escapeContent plain.reverse ++ ('\\' :: t) ++ Pieces.serialize [] rest
  | plain, .element _ e :: rest =>
    escapeContent plain.reverse ++ e.serialize ++ Pieces.serialize [] rest

def Draft.serialize : Draft → Text
  | .mk tag attrs text children tail =>
    openTag tag attrs ++ (if voidTags.contains (tag.map Char.toLower) then []
      else Run.serialize text ++ Draft.serializeAll children) ++ closeTag tag ++
      Run.serialize tail

def Run.serialize : Option Run → Text
  | none => []
  | some (.mk _ ps) => Pieces.serialize [] ps

def Draft.serializeAll : List Draft → Text
  | [] => []
  | e :: rest => e.serialize ++ Draft.serializeAll rest

end

/-- A raw tag's text with markup for what was recognised in it. -/
def Pieces.rawText : Pieces → Text
  | [] => []
  | .char c :: rest => c :: rawText rest
  | .literal _ t :: rest => '\\' :: t ++ rawText rest
  | .element _ e :: rest => e.serialize ++ rawText rest

end ApiSite.Markup

import ApiSite.Text.Blank
import ApiSite.Markup.Element

/-!
Attribute lists. Braces behind an inline element, at the end of a heading or a table cell, or on the
last line of any other block hold attributes of the element: an id after `#`, a class after a dot,
`key=value`, or a bare word for an attribute without a value.
-/

set_option autoImplicit false

namespace ApiSite.Markup.Attributes

open Text (startsWith)

/-- An entry of an attribute list. -/
inductive Entry where
  | cssClass (name : Text)
  | attribute (name : Text) (value : Option Text)

/-- Characters of a word in an attribute list. -/
def isWordChar (c : Char) : Bool := !(c == ' ' || c == '=' || c == '\x7d')

/-- A value in quotes after an equals sign: what it is without quotes at its ends, and its
length. -/
def quotedValue? (t : Text) : Option (Text × Nat) :=
  match t with
  | q :: rest =>
    if q = '"' ∨ q = '\'' then
      let inner := rest.takeWhile fun c => c != q && c != '\n'
      if (rest.drop inner.length).head? = some q then some (inner, inner.length + 2) else none
    else none
  | [] => none

/-- The entry at the head of a list and its length. -/
def entry? (t : Text) : Option (Entry × Nat) :=
  let key := t.takeWhile isWordChar
  if key.isEmpty then none
  else
    let word : Entry × Nat :=
      match key with
      | '.' :: name => (.cssClass name, key.length)
      | '#' :: name => (.attribute "id" (some name), key.length)
      | _ => (.attribute key none, key.length)
    match t.drop key.length with
    | '=' :: rest =>
      match quotedValue? rest with
      | some (inner, n) => some (.attribute key (some inner), key.length + 1 + n)
      | none =>
        let plain := rest.takeWhile isWordChar
        if plain.isEmpty then some word
        else some (.attribute key (some plain), key.length + 1 + plain.length)
    | _ => some word

/-- The entries of a list, divided by spaces, and the text from the first place on that is no entry;
`fuel` bounds their number. -/
def entries : Nat → Text → List Entry × Text
  | 0, t => ([], t)
  | _, [] => ([], [])
  | fuel + 1, c :: t =>
    if c = ' ' then entries fuel t
    else
      match entry? (c :: t) with
      | some (e, n) =>
        let (rest, left) := entries fuel ((c :: t).drop n)
        (e :: rest, left)
      | none => ([], c :: t)

/-- Characters that may stand in the name of an attribute. -/
def isNameChar (c : Char) : Bool :=
  let n := c.toNat
  c.isAlphanum || c == '_' || c == ':' || c == '-' || c == '.' || n == 0xb7 ||
    (0xc0 ≤ n && n ≤ 0x2ff && n != 0xd7 && n != 0xf7) || (0x300 ≤ n && n ≤ 0x37d) ||
    (0x37f ≤ n && n ≤ 0x1fff) || (0x200c ≤ n && n ≤ 0x200d) || (0x203f ≤ n && n ≤ 0x2040) ||
    (0x2070 ≤ n && n ≤ 0x218f) || (0x2c00 ≤ n && n ≤ 0x2fef) || (0x3001 ≤ n && n ≤ 0xd7ff) ||
    (0xf900 ≤ n && n ≤ 0xfdcf) || (0xfdf0 ≤ n && n ≤ 0xfffd)

/-- A name with an underscore for each run of other characters. -/
def cleanName : (inRun : Bool) → Text → Text
  | _, [] => []
  | inRun, c :: t =>
    if isNameChar c then c :: cleanName false t
    else if inRun then cleanName true t
    else '_' :: cleanName true t

/-- Adds an entry to attributes; classes are collected in one attribute. -/
def Entry.addTo (attrs : Attrs) : Entry → Attrs
  | .cssClass name =>
    match Element.lookup attrs "class" with
    | some [] => Element.assign "class" (some name) attrs
    | some old => Element.assign "class" (some (old ++ ' ' :: name)) attrs
    | none => Element.assign "class" (some name) attrs
  | .attribute name value => Element.assign (cleanName false name) value attrs

/-- Adds the entries of a list to attributes. What follows a brace that closes the list early is
returned with the brace. -/
def addList (attrs : Attrs) (list : Text) : Attrs × Text :=
  let (found, rest) := entries (list.length + 1) list
  (found.foldl Entry.addTo attrs, rest.dropWhile (· != '\x7d'))

/-- The last closing brace of a line after at least one character: what stands before it and after
it. -/
def lastBrace? (line : Text) : Option (Text × Text) :=
  match line.reverse.dropWhile (· != '\x7d') with
  | _ :: before =>
    if before.isEmpty then none else some (before.reverse, line.drop (before.length + 1))
  | [] => none

/-- A list in braces at the head of a text: its inside and what follows it. It reaches to the last
brace of the line. -/
def braces? (t : Text) : Option (Text × Text) :=
  match t with
  | '\x7b' :: t =>
    let read (t : Text) : Option (Text × Text) :=
      let body := t.dropWhile (· == ' ')
      match body with
      | c :: _ =>
        if c = '\x7d' ∨ c = '\n' then none
        else
          (lastBrace? (body.takeWhile (· != '\n'))).map fun (inside, after) =>
            (inside, after ++ body.dropWhile (· != '\n'))
      | [] => none
    match t with
    | ':' :: rest =>
      match read rest with
      | some r => some r
      | none => read t
    | _ => read t
  | _ => none

/-- Whether nothing but spaces stands before the end of a text. -/
def atEnd (t : Text) : Bool :=
  match t.dropWhile (· == ' ') with
  | [] => true
  | ['\n'] => true
  | _ => false

/-- The list that ends a text, after a space or on a line of its own, and the text before it. -/
def finalList? (ownLine : Bool) : Text → Option (Text × Text)
  | [] => none
  | c :: t =>
    let starts := if ownLine then c == '\n' else c == ' '
    let here := if starts then
        match braces? (t.dropWhile (· == ' ')) with
        | some (list, after) => if atEnd after then some ([], list) else none
        | none => none
      else none
    match here with
    | some r => some r
    | none => (finalList? ownLine t).map fun (before, list) => (c :: before, list)

/-- Where the attribute list of a block may stand. -/
inductive Spot where
  | text
  /-- Behind the child with this index. -/
  | tail (index : Nat)

/-- Whether a text is there and not empty. -/
def isThere (t : Option Text) : Bool := !(t.getD []).isEmpty

/-- Where to look for the attribute list of a block: behind its last child, in a list item before a
nested list, and else in its text. -/
def spotOf (tag : Text) (text : Option Text) (children : List Element) : Option Spot :=
  let own : Option Spot := if isThere text then some .text else none
  let behind (index : Nat) : Option Spot :=
    match children[index]? with
    | some e => if isThere e.tail then some (.tail index) else own
    | none => own
  if children.isEmpty then own
  else
    match (if tag == "li" then children.findIdx? fun (e : Element) => e.tag == "ul" || e.tag == "ol"
        else none) with
    | some 0 => own
    | some (index + 1) => behind index
    | none => behind (children.length - 1)

/-- Removes closing hashes from a heading's text. -/
def trimHashes (t : Text) : Text := Text.stripEnd (Text.trimEnd (· == '#') t)

/-- A list that ends a text: the attributes with its entries, and the text without it. A list that a
brace closes early is no list. -/
def takeFinal? (tag : Text) (attrs : Attrs) (t : Text) :
    Option (Attrs × Text) :=
  let isHeading := headingTags.contains tag
  let ownLine := !(isHeading || tag == "dt" || tag == "td" || tag == "th")
  match finalList? ownLine t with
  | none => none
  | some (before, list) =>
    match addList attrs list with
    | (attrs, []) => some (attrs, before)
    | _ => none

/-- What reading the list of a block changes: its attributes, its text, and the tail of one of its
children. -/
structure Change where
  attrs : Attrs
  text : Option Text
  tail : Option (Nat × Text)

/-- Reads the attribute list of a block. -/
def blockChange (tag : Text) (attrs : Attrs) (text : Option Text)
    (children : List Element) : Change :=
  let trimmed (t : Text) : Text := if headingTags.contains tag then trimHashes t else t
  match spotOf tag text children with
  | some .text =>
    match takeFinal? tag attrs (text.getD []) with
    | some (attrs, before) => ⟨attrs, some (trimmed before), none⟩
    | none => ⟨attrs, text, none⟩
  | some (.tail index) =>
    match takeFinal? tag attrs ((children[index]?.bind Element.tail).getD []) with
    | some (attrs, before) => ⟨attrs, text, some (index, trimmed before)⟩
    | none => ⟨attrs, text, none⟩
  | none => ⟨attrs, text, none⟩

/-- Reads the attribute list behind an inline element: its attributes and its tail. A brace that
closes the list early, and what follows it within the list, goes to the end of the tail. -/
def inlineChange (attrs : Attrs) (tail : Option Text) : Attrs × Option Text :=
  match braces? (tail.getD []) with
  | none => (attrs, tail)
  | some (list, after) =>
    match addList attrs list with
    | (attrs, rest) => (attrs, some (after ++ rest))

mutual

/-- The element with the attributes that its lists give, for the tail that it has. -/
def assigned (tail : Option Text) : Element → Element
  | .mk tag attrs text children _ =>
    if blockTags.contains tag then
      let change := blockChange tag attrs text children
      .mk tag change.attrs change.text (assignedAll change.tail children) tail
    else
      let (attrs, tail) := inlineChange attrs tail
      .mk tag attrs text (assignedAll none children) tail

/-- Elements with the attributes that their lists give, after the tail of the one with the given
index has been changed. -/
def assignedAll (change : Option (Nat × Text)) : List Element → List Element
  | [] => []
  | .mk tag attrs text children tail :: rest =>
    match change with
    | some (0, t) =>
      assigned (some t) (.mk tag attrs text children tail) :: assignedAll none rest
    | some (n + 1, t) =>
      assigned tail (.mk tag attrs text children tail) :: assignedAll (some (n, t)) rest
    | none => assigned tail (.mk tag attrs text children tail) :: assignedAll none rest

end

/-- Reads the attribute lists of a document. -/
def read (root : Element) : Element := assigned root.tail root

end ApiSite.Markup.Attributes

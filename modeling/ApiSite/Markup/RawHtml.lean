import ApiSite.Text.Blank
import ApiSite.Text.LetterCase
import ApiSite.Markup.Element
import ApiSite.Markup.Mark

/-!
Raw markup blocks: a block-level tag at the start of a line opens a piece of raw markup that runs to
the end tag that closes it. Such pieces, and comments, declarations and processing instructions at
the start of a line, are taken out of the source and replaced by their marks; all other tags stay
in the text.
-/

set_option autoImplicit false

namespace ApiSite.Markup.RawHtml

open Text (startsWith)

/-- How far the reading of raw markup has come. -/
structure Reader where
  /-- Pieces of the remaining source, the latest first. -/
  done : List Text := []
  /-- Raw markup that is not yet set aside. -/
  held : Text := []
  /-- Within a raw block. -/
  inRaw : Bool := false
  /-- On the line on which a raw block ended. -/
  inTail : Bool := false
  /-- Tags that are open within the raw block, the innermost first. -/
  openTags : List Text := []
  /-- The pieces set aside. -/
  blocks : List Text := []
  /-- The tag whose content is read as plain text up to its end tag. -/
  plainUntil : Option Text := none
  /-- The column of the reading position. -/
  column : Nat := 0
  /-- Whether only white space stands before the position on its line. -/
  indentOnly : Bool := true

namespace Reader

/-- The position is at the start of a line, three characters of white space aside. -/
def atLineStart (r : Reader) : Bool := r.column == 0 || (r.column ≤ 3 && r.indentOnly)

/-- Moves the position over a text. -/
def advance (r : Reader) (t : Text) : Reader :=
  t.foldl (fun r c =>
    if c = '\n' then { r with column := 0, indentOnly := true }
    else { r with column := r.column + 1, indentOnly := r.indentOnly && Text.isBlank c }) r

/-- Leaves a piece in the source. -/
def leave (r : Reader) (t : Text) : Reader := { r with done := t :: r.done }

/-- Keeps a piece for the raw markup that is to be set aside next. -/
def hold (r : Reader) (t : Text) : Reader := { r with held := r.held ++ t }

/-- Sets a piece aside and leaves its mark. -/
def setAside (r : Reader) (t : Text) : Reader :=
  { r with done := Mark.rawHtml r.blocks.length :: r.done, blocks := r.blocks ++ [t] }

/-- Plain text. -/
def plain (r : Reader) (t : Text) : Reader :=
  let r := if r.inTail && t.contains '\n' then { r with inTail := false } else r
  if r.inRaw then r.hold t else r.leave t

/-- Whether two empty lines, spaces aside, begin a text. -/
def blankLines (t : Text) : Bool :=
  match t.dropWhile (· == ' ') with
  | '\n' :: t => (t.dropWhile (· == ' ')).head? == some '\n'
  | _ => false

/-- Markup that holds no content; `after` follows it. -/
def empty (r : Reader) (t : Text) (isBlock : Bool) (after : Text) : Reader :=
  if r.inRaw || r.inTail then r.hold t
  else if r.atLineStart && isBlock then
    let followed := blankLines after
    let last := r.done.headD []
    let r := { r with inTail := !followed }
    let r := if startsWith ['\n'] last.reverse && !startsWith ['\n', '\n'] last.reverse
      then r.leave ['\n'] else r
    (r.setAside (if followed then t ++ ['\n'] else t)).leave ['\n', '\n']
  else r.leave t

/-- Whether a tag stands for a block of its own. -/
def isBlockTag (tag : Text) : Bool :=
  blockTags.contains (Text.trimEnd (· == '/') tag)

/-- Tags whose content is plain text. -/
def isPlainContentTag (tag : Text) : Bool := tag == "script" || tag == "style"

/-- A start tag with the given name and source; `after` follows it. -/
def startTag (r : Reader) (tag source after : Text) : Reader :=
  if tag == "hr" then r.empty source true after
  else
    let r :=
      if isBlockTag tag && (r.inTail || (r.atLineStart && !r.inRaw)) then
        { r.leave ['\n'] with inRaw := true }
      else r
    if r.inRaw then
      let r := { r with openTags := tag :: r.openTags }.hold source
      if isPlainContentTag tag then { r with plainUntil := some tag } else r
    else r.leave source

/-- The open tags after an end tag: everything inside the tag that it closes is closed too. -/
def closeTag (tag : Text) (openTags : List Text) : List Text :=
  if openTags.contains tag then (openTags.dropWhile (· != tag)).drop 1 else openTags

/-- An end tag with the given name and source; `after` follows it. -/
def endTag (r : Reader) (tag source after : Text) : Reader :=
  let r := { r with plainUntil := none }
  if r.inRaw then
    let r := { r with openTags := closeTag tag r.openTags }.hold source
    if r.openTags.isEmpty then
      let r := if blankLines after then r.hold ['\n'] else { r with inTail := true }
      { ({ r with inRaw := false }.setAside r.held).leave ['\n', '\n'] with held := [] }
    else r
  else r.leave source

end Reader

/-- White space within a tag. -/
def isTagSpace (c : Char) : Bool :=
  c == '\t' || c == '\n' || c == '\r' || c == '\x0c' || c == ' '

/-- Characters of a tag's name after its first. -/
def isTagNameChar (c : Char) : Bool := !(isTagSpace c || c == '/' || c == '>' || c == '\x60')

/-- The length of an attribute's value after its equals sign: quoted, or up to a space. -/
def valueLength? (t : Text) : Option Nat :=
  match t with
  | '"' :: rest =>
    if rest.contains '"' then some (2 + Text.countStart (· != '"') rest) else none
  | '\'' :: rest =>
    if rest.contains '\'' then some (2 + Text.countStart (· != '\'') rest) else none
  | _ => some (Text.countStart (fun c => !(isTagSpace c || c == '>')) t)

/-- Reads the rest of a tag after its name: the length up to its end bracket, this one included,
and whether a slash stands directly before it. `apart` says that the last character read sets an
attribute's name apart, `slash` that it was a slash. `fuel` bounds the number of parts. -/
def tagEnd? : Nat → (apart slash : Bool) → Text → Option (Nat × Bool)
  | 0, _, _, _ => none
  | _, _, _, [] => none
  | fuel + 1, apart, slash, c :: t =>
    if c = '>' then some (1, slash)
    else if isTagSpace c then (tagEnd? fuel true false t).map fun (n, s) => (n + 1, s)
    else if c = '/' then (tagEnd? fuel true true t).map fun (n, s) => (n + 1, s)
    else if !apart || c == '\x60' then none
    else
      let name :=
        1 + Text.countStart (fun d => !(isTagSpace d || d == '/' || d == '=' || d == '>')) t
      let quoteEnds (u : Text) := match u.getLast? with
        | some d => d == '"' || d == '\''
        | none => false
      match (c :: t).drop name with
      | '=' :: value =>
        match valueLength? value with
        | some n =>
          (tagEnd? fuel (quoteEnds (value.take n)) false (value.drop n)).map
            fun (m, s) => (name + 1 + n + m, s)
        | none => none
      | rest =>
        (tagEnd? fuel (quoteEnds ((c :: t).take name)) false rest).map fun (m, s) => (name + m, s)

/-- A start tag at the head of a text, after its bracket: its name in lower case, the length of the
whole and whether it closes itself. -/
def startTag? (t : Text) : Option (Text × Nat × Bool) :=
  let name := t.takeWhile isTagNameChar
  (tagEnd? (t.length + 1) false false (t.drop name.length)).map fun (n, slash) =>
    (Text.lower name, 1 + name.length + n, slash)

/-- The length of a text up to the first occurrence of `ending`, this one included. -/
def through? (ending t : Text) : Option Nat :=
  (Text.cut? ending t).map fun (before, _) => before.length + ending.length

/-- The length of a character data section after its opening: up to two brackets and an angle
bracket, white space between them allowed. -/
def sectionEnd? : Text → Option (Nat × Nat)
  | [] => none
  | c :: t =>
    let close :=
      if c = ']' then
        match t.dropWhile Text.isBlank with
        | ']' :: u =>
          match u.dropWhile Text.isBlank with
          | '>' :: v => some (0, (c :: t).length - v.length)
          | _ => none
        | _ => none
      else none
    match close with
    | some r => some r
    | none => (sectionEnd? t).map fun (n, m) => (n + 1, m)

/-- The text before the end tag of an element with plain content, or all of it. -/
def plainContent (tag : Text) : Text → Option Text
  | [] => none
  | c :: t =>
    match Text.after? ['<', '/'] (c :: t) with
    | some rest =>
      if Text.lower (rest.take tag.length) == tag &&
          ((rest.drop tag.length).head?.any fun d => isTagSpace d || d == '/' || d == '>') then
        some []
      else (plainContent tag t).map (c :: ·)
    | none => (plainContent tag t).map (c :: ·)

/-- A numeric reference at the head of a text, after `&#`: its digits and the length that is passed
over, which ends with a semicolon where one follows. -/
def charRef? (t : Text) : Option (Text × Nat) :=
  let isHex (c : Char) := c.isDigit || ('a' ≤ c && c ≤ 'f') || ('A' ≤ c && c ≤ 'F')
  let close (body rest : Text) : Option (Text × Nat) :=
    match rest with
    | [] => none
    | c :: _ =>
      if isHex c then none
      else some (body, body.length + if c = ';' then 1 else 0)
  let digits := t.takeWhile Char.isDigit
  if digits.isEmpty then
    match t with
    | c :: rest =>
      if c = 'x' ∨ c = 'X' then
        let hex := rest.takeWhile isHex
        if hex.isEmpty then none else close (c :: hex) (rest.drop hex.length)
      else none
    | [] => none
  else close digits (t.drop digits.length)

/-- A named reference at the head of a text, after its ampersand: its name, a semicolon follows. -/
def entityRef? (t : Text) : Option Text :=
  match t with
  | c :: rest =>
    if c.isAlpha then
      let name := c :: rest.takeWhile fun d => d.isAlphanum || d == '-' || d == '.'
      if (t.drop name.length).head? = some ';' then some name else none
    else none
  | [] => none

/-- Reads what begins with an angle bracket: the reader after it and the length it took. -/
def readBracket (r : Reader) (t : Text) : Reader × Nat :=
  let plainStart (n : Nat) : Reader × Nat := (r.plain (t.take n), n)
  let emptyOf (n : Nat) (isBlock : Bool) : Reader × Nat :=
    (r.empty (t.take n) isBlock (t.drop n), n)
  let lineStart := r.atLineStart || r.inTail
  match t with
  | '<' :: c :: rest =>
    if c.isAlpha then
      match startTag? (c :: rest) with
      | none => plainStart 1
      | some (tag, n, slash) =>
        if slash then emptyOf n (Reader.isBlockTag tag)
        else (r.startTag tag (t.take n) (t.drop n), n)
    else if c = '/' then
      match rest with
      | d :: _ =>
        if d.isAlpha then
          match through? ['>'] rest with
          | none => plainStart 2
          | some n =>
            let tag := Text.lower (rest.takeWhile isTagNameChar)
            (r.endTag tag (t.take (n + 2)) (t.drop (n + 2)), n + 2)
        else plainStart 2
      | [] => plainStart 2
    else if startsWith "!--" (c :: rest) then
      match through? "-->" (rest.drop 2), through? "--!>" (rest.drop 2) with
      | some n, none => emptyOf (n + 4) true
      | some n, some m => if n < m then emptyOf (n + 4) true else plainStart 1
      | none, _ => plainStart 1
    else if c = '?' then
      if lineStart then
        match through? "?>" rest with
        | some n => emptyOf (n + 2) true
        | none => plainStart 2
      else plainStart 2
    else if c = '!' then
      if lineStart then
        if startsWith "[CDATA[" rest then
          match sectionEnd? (rest.drop 1) with
          | some (n, m) =>
            let whole := "<![" ++ (rest.drop 1).take n ++ "]]>"
            (r.empty whole true (t.drop (3 + n + m)), 3 + n + m)
          | none => plainStart 2
        else
          match through? ['>'] rest with
          | some n => emptyOf (n + 2) (Text.lower (rest.take 7) == "doctype")
          | none => plainStart 2
      else plainStart 2
    else plainStart 1
  | _ => plainStart 1

/-- Reads a source to its end. Once a lone `&#` without a number has been met for the second time,
or for the first time with no semicolon after it, the rest is plain text; `strict` says that this
would be the second time. `fuel` bounds the number of steps. -/
def readAll : Nat → Bool → Reader → Text → Reader
  | 0, _, r, _ => r
  | _, _, r, [] => r
  | fuel + 1, strict, r, c :: t =>
    match r.plainUntil with
    | some tag =>
      match plainContent tag (c :: t) with
      | none => r.plain (c :: t)
      | some content =>
        let r := if content.isEmpty then r else (r.plain content).advance content
        let rest := (c :: t).drop content.length
        let (r', n) := readBracket r rest
        readAll fuel strict (r'.advance (rest.take n)) (rest.drop n)
    | none =>
      if c = '<' then
        let (r', n) := readBracket r (c :: t)
        readAll fuel strict (r'.advance ((c :: t).take n)) ((c :: t).drop n)
      else if c = '&' then
        let passed (r : Reader) (n : Nat) := r.advance ((c :: t).take n)
        if t.head? = some '#' then
          match charRef? (t.drop 1) with
          | some (digits, n) =>
            readAll fuel strict
              (passed (r.empty ("&#" ++ digits ++ ";") false ((c :: t).drop (n + 2))) (n + 2))
              ((c :: t).drop (n + 2))
          | none =>
            if strict then r.plain (c :: t)
            else if t.contains ';' then
              readAll fuel true (passed (r.plain ['&', '#']) 2) (t.drop 1)
            else r.plain (c :: t)
        else
          match entityRef? t with
          | some name =>
            readAll fuel strict
              (passed (r.empty ('&' :: name ++ [';']) false (t.drop (name.length + 1)))
                (name.length + 2))
              (t.drop (name.length + 1))
          | none => readAll fuel strict (passed (r.plain ['&']) 1) t
      else
        let data := (c :: t).takeWhile fun d => d != '<' && d != '&'
        readAll fuel strict ((r.plain data).advance data) ((c :: t).drop data.length)

/-- The source without its raw markup blocks, and these. -/
def extract (t : Text) : Text × List Text :=
  let r := readAll (t.length + 1) false {} t
  let r := if r.held.isEmpty then r else r.setAside r.held
  (r.done.reverse.flatten, r.blocks)

end ApiSite.Markup.RawHtml

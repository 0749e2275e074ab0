import ApiSite.Yaml.Scalar

/-!
The tokens of a YAML source. Block collections show in indentation alone, and a mapping's key only
in the colon behind it, so the reading of tokens keeps the columns of the open blocks, and for each
open flow collection the place where a key may have begun.
-/

set_option autoImplicit false

namespace ApiSite.Yaml

/-- A token. -/
inductive Token where
  | streamEnd
  /-- A directive that names a version. -/
  | version (major : Nat)
  /-- A directive that gives a tag handle a meaning. -/
  | tagHandle (handle meaning : Text)
  | otherDirective
  | documentStart
  | documentEnd
  | blockSequence
  | blockMapping
  | blockEnd
  | flowSequence
  | flowSequenceEnd
  | flowMapping
  | flowMappingEnd
  | blockEntry
  | flowEntry
  | key
  | value
  | alias (name : Text)
  | anchor (name : Text)
  /-- A tag: its handle, unless it is written in full, and what follows this. -/
  | tag (handle : Option Text) (rest : Text)
  | scalar (text : Text) (plain : Bool)
  deriving DecidableEq, Repr

namespace Token

/-- A place where a key may have begun: the number of its first token, and where it stands. In block
collections a key at the collection's column has to be one. -/
structure KeyPlace where
  number : Nat
  required : Bool
  line : Nat
  column : Nat
  index : Nat

/-- The reading of tokens: those read, in reverse, and what the next ones depend on. -/
structure Reader where
  cursor : Cursor
  tokens : List Token := []
  /-- The column of the innermost open block. -/
  indent : Int := -1
  outer : List Int := []
  flowLevel : Nat := 0
  /-- Whether a key may begin here. -/
  keyAllowed : Bool := true
  /-- The possible keys by the flow level they belong to. -/
  keys : List (Nat × KeyPlace) := []

namespace Reader

def push (t : Token) (r : Reader) : Reader := { r with tokens := t :: r.tokens }

/-- Puts a token before the one with the given number. -/
def insertAt (number : Nat) (t : Token) (r : Reader) : Reader :=
  let later := r.tokens.length - number
  { r with tokens := r.tokens.take later ++ t :: r.tokens.drop later }

/-- Moves over white space and comments to the next token. -/
def skipBlank : Nat → Reader → Reader
  | 0, r => r
  | fuel + 1, r =>
    let c := r.cursor.skipSpaces.skipComment
    match c.lineBreak? with
    | some (_, c) =>
      skipBlank fuel { r with cursor := c, keyAllowed := r.keyAllowed || r.flowLevel == 0 }
    | none => { r with cursor := c }

/-- Forgets the possible keys that are too far behind; one that has to be a key may not be. -/
def dropStale (r : Reader) : Except Error Reader :=
  let isStale (k : KeyPlace) : Bool :=
    k.line != r.cursor.line || 1024 < r.cursor.index - k.index
  if r.keys.any fun (_, k) => isStale k && k.required then .error .malformed
  else .ok { r with keys := r.keys.filter fun (_, k) => !isStale k }

/-- Forgets the possible key of the current flow level. -/
def dropKey (r : Reader) : Except Error Reader :=
  if r.keys.any fun (level, k) => level == r.flowLevel && k.required then .error .malformed
  else .ok { r with keys := r.keys.filter fun (level, _) => level != r.flowLevel }

/-- Notes that a key may begin here. -/
def saveKey (r : Reader) : Except Error Reader :=
  if !r.keyAllowed then .ok r
  else
    let c := r.cursor
    let required := r.flowLevel == 0 && r.indent == (c.column : Int)
    (dropKey r).map fun r =>
      { r with
        keys := (r.flowLevel, ⟨r.tokens.length, required, c.line, c.column, c.index⟩) :: r.keys }

/-- Closes the blocks to the right of a column. -/
def closeBlocks (column : Int) : List Int → Reader → Reader
  | [], r => r
  | o :: outer, r =>
    if column < r.indent then
      closeBlocks column outer ({ r with indent := o, outer }.push .blockEnd)
    else r

/-- Closes the blocks to the right of a column, outside of flow collections. -/
def unwind (column : Int) (r : Reader) : Reader :=
  if r.flowLevel == 0 then closeBlocks column r.outer r else r

/-- Opens a block at a column, if it is to the right of the innermost one. -/
def openBlock (column : Nat) (start : Reader → Reader) (r : Reader) : Reader :=
  if r.indent < (column : Int) then
    start { r with indent := column, outer := r.indent :: r.outer }
  else r

/-- A token of some characters that begins no key. -/
def mark (t : Token) (size : Nat) (r : Reader) : Reader :=
  { r with cursor := r.cursor.skip size }.push t

/-- A mark between documents. -/
def documentMark (t : Token) (r : Reader) : Except Error Reader :=
  (dropKey (r.unwind (-1))).map fun r => { r with keyAllowed := false }.mark t 3

/-- Opens a flow collection. -/
def openFlow (t : Token) (r : Reader) : Except Error Reader :=
  (saveKey r).map fun r => { r with flowLevel := r.flowLevel + 1, keyAllowed := true }.mark t 1

/-- Closes a flow collection. -/
def closeFlow (t : Token) (r : Reader) : Except Error Reader :=
  (dropKey r).map fun r => { r with flowLevel := r.flowLevel - 1, keyAllowed := false }.mark t 1

/-- The comma of a flow collection. -/
def flowEntry (r : Reader) : Except Error Reader :=
  (dropKey { r with keyAllowed := true }).map fun r => r.mark .flowEntry 1

/-- The hyphen of a block sequence. -/
def blockEntry (r : Reader) : Except Error Reader :=
  if r.flowLevel == 0 && !r.keyAllowed then .error .malformed
  else
    let r := if r.flowLevel == 0 then r.openBlock r.cursor.column (push .blockSequence) else r
    (dropKey { r with keyAllowed := true }).map fun r => r.mark .blockEntry 1

/-- The question mark before a key. -/
def explicitKey (r : Reader) : Except Error Reader :=
  if r.flowLevel == 0 && !r.keyAllowed then .error .malformed
  else
    let r := if r.flowLevel == 0 then r.openBlock r.cursor.column (push .blockMapping) else r
    (dropKey { r with keyAllowed := r.flowLevel == 0 }).map fun r => r.mark .key 1

/-- The colon before a value: what began at the possible key before it is a key. -/
def valueMark (r : Reader) : Except Error Reader :=
  match r.keys.find? fun (level, _) => level == r.flowLevel with
  | some (_, k) =>
    let r := { r with keys := r.keys.filter fun (level, _) => level != r.flowLevel }
    let r := r.insertAt k.number .key
    let r := if r.flowLevel == 0 then r.openBlock k.column (insertAt k.number .blockMapping) else r
    .ok ({ r with keyAllowed := false }.mark .value 1)
  | none =>
    if r.flowLevel == 0 && !r.keyAllowed then .error .malformed
    else
      let r := if r.flowLevel == 0 then r.openBlock r.cursor.column (push .blockMapping) else r
      (dropKey { r with keyAllowed := r.flowLevel == 0 }).map fun r => r.mark .value 1

/-- Characters of names of anchors, handles and directives. -/
def isNameChar (c : Char) : Bool := c.isAlphanum || c == '-' || c == '_'

/-- An anchor or an alias. -/
def name (make : Text → Token) (r : Reader) : Except Error Reader :=
  (saveKey r).bind fun r =>
    let (name, c) := r.cursor.next.span isNameChar
    let mayFollow := isGap c.peek || c.peek.any fun ch => ("?:,]\x7d%@\x60" : Text).contains ch
    if name.isEmpty || !mayFollow then .error .malformed
    else .ok ({ r with cursor := c, keyAllowed := false }.push (make name))

/-- Bytes written in hexadecimal after percent signs, and the place behind them. -/
def uriBytes : Nat → Cursor → Except Error (List UInt8 × Cursor)
  | 0, c => .ok ([], c)
  | fuel + 1, c =>
    match c.rest with
    | '%' :: a :: b :: _ =>
      if Text.isHexDigit a && Text.isHexDigit b then
        (uriBytes fuel (c.skip 3)).map fun (bytes, c) =>
          (UInt8.ofNat (Text.hexadecimal [a, b]) :: bytes, c)
      else .error .malformed
    | '%' :: _ => .error .malformed
    | _ => .ok ([], c)

/-- Characters of the rest of a tag. -/
def isUriChar (c : Char) : Bool :=
  c.isAlphanum || ("-;/?:@&=+$,_.!~*'()[]%" : Text).contains c

/-- The rest of a tag, which is not empty. -/
def uri : Nat → Text → Cursor → Except Error (Text × Cursor)
  | 0, _, _ => .error .malformed
  | fuel + 1, done, c =>
    match c.peek with
    | some '%' =>
      match uriBytes (c.rest.length + 1) c with
      | .error e => .error e
      | .ok (bytes, c) =>
        match String.fromUTF8? ⟨bytes.toArray⟩ with
        | some s => uri fuel (s.toList.reverse ++ done) c
        | none => .error .malformed
    | some ch =>
      if isUriChar ch then uri fuel (ch :: done) c.next
      else if done.isEmpty then .error .malformed else .ok (done.reverse, c)
    | none => if done.isEmpty then .error .malformed else .ok (done.reverse, c)

/-- A tag handle: an exclamation mark, or a name between two. -/
def handle (c : Cursor) : Except Error (Text × Cursor) :=
  if c.peek != some '!' then .error .malformed
  else if c.ahead 1 == some ' ' then .ok (['!'], c.next)
  else
    let (name, after) := c.next.span isNameChar
    if after.peek == some '!' then .ok ('!' :: name ++ ['!'], after.next) else .error .malformed

/-- A tag. -/
def tag (r : Reader) : Except Error Reader :=
  (saveKey r).bind fun r =>
    let c := r.cursor
    let fuel := c.rest.length + 1
    let read : Except Error (Option Text × Text × Cursor) :=
      match c.ahead 1 with
      | some '<' =>
        (uri fuel [] (c.skip 2)).bind fun (t, c) =>
          if c.peek == some '>' then .ok (none, t, c.next) else .error .malformed
      | ch =>
        if isGap ch then .ok (none, ['!'], c.next)
        else
          let word := (c.next.span fun ch => !(ch == ' ' || isBreak ch)).1
          if word.contains '!' then
            (handle c).bind fun (h, c) => (uri fuel [] c).map fun (t, c) => (some h, t, c)
          else (uri fuel [] c.next).map fun (t, c) => (some ['!'], t, c)
    read.bind fun (h, t, c) =>
      if endsWord c.peek then .ok ({ r with cursor := c, keyAllowed := false }.push (.tag h t))
      else .error .malformed

/-- A number of a version. -/
def versionNumber (c : Cursor) : Except Error (Nat × Cursor) :=
  let (digits, c) := c.span Char.isDigit
  match Text.toNat? digits with
  | some n => .ok (n, c)
  | none => .error .malformed

/-- What a directive with the given name says. -/
def directiveToken (name : Text) (c : Cursor) : Except Error (Token × Cursor) :=
  if name == "YAML" then
    (versionNumber c.skipSpaces).bind fun (major, c) =>
      if c.peek == some '.' then
        (versionNumber c.next).bind fun (_, c) =>
          if endsWord c.peek then .ok (.version major, c) else .error .malformed
      else .error .malformed
  else if name == "TAG" then
    (handle c.skipSpaces).bind fun (h, c) =>
      if c.peek == some ' ' then
        (uri (c.rest.length + 1) [] c.skipSpaces).bind fun (t, c) =>
          if endsWord c.peek then .ok (.tagHandle h t, c) else .error .malformed
      else .error .malformed
  else .ok (.otherDirective, (c.span fun ch => !isBreak ch).2)

/-- A directive, to the end of its line. -/
def directive (r : Reader) : Except Error Reader :=
  (dropKey (r.unwind (-1))).bind fun r =>
    let (name, c) := r.cursor.next.span isNameChar
    if name.isEmpty || !endsWord c.peek then .error .malformed
    else
      (directiveToken name c).bind fun (t, c) =>
        let c := c.skipSpaces.skipComment
        if endsLine c.peek then
          .ok ({ r with cursor := c.skipBreak, keyAllowed := false }.push t)
        else .error .malformed

/-- A scalar in quotation marks. -/
def quoted (double : Bool) (r : Reader) : Except Error Reader :=
  (saveKey r).bind fun r => (Scalar.quoted double r.cursor).map fun (t, c) =>
    { r with cursor := c, keyAllowed := false }.push (.scalar t false)

/-- A scalar written as a block. -/
def block (fold : Bool) (r : Reader) : Except Error Reader :=
  (dropKey r).bind fun r => (Scalar.block fold r.indent r.cursor).map fun (t, c) =>
    { r with cursor := c, keyAllowed := true }.push (.scalar t false)

/-- A plain scalar. -/
def plain (r : Reader) : Except Error Reader :=
  (saveKey r).map fun r =>
    let (t, c, ended) := Scalar.plain (r.flowLevel != 0) r.indent r.cursor
    { r with cursor := c, keyAllowed := ended }.push (.scalar t true)

/-- Whether a plain scalar may begin with a character, given the one after it. -/
def startsPlain (inFlow : Bool) (c : Char) (after : Option Char) : Bool :=
  !(isGap (some c) || ("-?:,[]\x7b\x7d#&*!|>'\"%@\x60" : Text).contains c) ||
    (!isGap after && (c == '-' || (!inFlow && (c == '?' || c == ':'))))

/-- Reads the token that begins with the given character. -/
def readAt (ch : Char) (r : Reader) : Except Error Reader :=
  let c := r.cursor
  let inFlow := r.flowLevel != 0
  let gapAfter := isGap (c.ahead 1)
  if ch == '%' && c.column == 0 then r.directive
  else if ch == '-' && c.column == 0 && c.isDocumentMark then r.documentMark .documentStart
  else if ch == '.' && c.column == 0 && c.isDocumentMark then r.documentMark .documentEnd
  else if ch == '[' then r.openFlow .flowSequence
  else if ch == '\x7b' then r.openFlow .flowMapping
  else if ch == ']' then r.closeFlow .flowSequenceEnd
  else if ch == '\x7d' then r.closeFlow .flowMappingEnd
  else if ch == ',' then r.flowEntry
  else if ch == '-' && gapAfter then r.blockEntry
  else if ch == '?' && (inFlow || gapAfter) then r.explicitKey
  else if ch == ':' && (inFlow || gapAfter) then r.valueMark
  else if ch == '*' then r.name .alias
  else if ch == '&' then r.name .anchor
  else if ch == '!' then r.tag
  else if ch == '|' && !inFlow then r.block false
  else if ch == '>' && !inFlow then r.block true
  else if ch == '\'' then r.quoted false
  else if ch == '"' then r.quoted true
  else if startsPlain inFlow ch (c.ahead 1) then r.plain
  else .error .malformed

/-- Reads tokens up to the end of the source; `fuel` bounds their number. -/
def readAll : Nat → Reader → Except Error Reader
  | 0, _ => .error .malformed
  | fuel + 1, r =>
    (dropStale (r.skipBlank (r.cursor.rest.length + 1))).bind fun r =>
      let r := r.unwind r.cursor.column
      match r.cursor.peek with
      | none => (dropKey (r.unwind (-1))).map (push .streamEnd)
      | some ch => (r.readAt ch).bind (readAll fuel)

end Reader

/-- Whether a source may hold a character. -/
def isAllowed (c : Char) : Bool :=
  let n := c.toNat
  n == 9 || n == 10 || n == 13 || (0x20 ≤ n && n ≤ 0x7e) || n == 0x85 ||
    (0xa0 ≤ n && n ≤ 0xd7ff) || (0xe000 ≤ n && n ≤ 0xfffd) || 0x10000 ≤ n

/-- The tokens of a source. -/
def read (source : Text) : Except Error (List Token) :=
  if source.all isAllowed then
    let source := match source with
      | c :: t => if c.toNat == 0xfeff then t else source
      | [] => source
    (Reader.readAll (source.length + 2) ⟨⟨source, 0, 0, 0⟩, [], -1, [], 0, true, []⟩).map
      fun r => r.tokens.reverse
  else .error .malformed

end Token

end ApiSite.Yaml

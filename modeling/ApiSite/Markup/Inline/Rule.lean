import ApiSite.Text.Entity
import ApiSite.Markup.Block
import ApiSite.Markup.Serialize
import ApiSite.Markup.Inline.Bracket

/-!
The rules of inline markup, in the order in which they go over a text. A rule is asked at each place
of a text from left to right; what it recognises becomes one piece, and the rule goes on behind it.
Emphasis is read after them.
-/

set_option autoImplicit false

namespace ApiSite.Markup.Inline

/-- What inline reading refers to: the link definitions of the document, and what a bracketed name
without a definition stands for. -/
structure Setting where
  definitions : List LinkDefinition
  /-- What a name stands for; `none` where names have no meaning. -/
  resolve? : Option (Text → Option Element)

/-- What inline reading leaves behind: raw markup that was set aside, the names that were asked for,
and the number of the next piece. -/
structure Trace where
  rawHtml : List Text
  names : List Text := []
  next : Nat := 0

/-- What a rule says at a place of a text. -/
inductive Verdict where
  /-- Nothing is recognised here. -/
  | reject
  /-- The next pieces, as many as said, stay as they are. -/
  | keep (size : Nat)
  /-- The next pieces are text that is set aside. -/
  | literal (size : Nat) (text : Text)
  /-- The next pieces are an element. -/
  | element (size : Nat) (node : Draft)

/-- A rule: its verdict at a place, given the piece before it and the pieces from there on. -/
abbrev Rule := Setting → Trace → (previous : Option Piece) → Pieces → Verdict × Trace

namespace Rule

open Pieces (beginsWith)

/-- A rule that leaves no trace. -/
def pure (f : Option Piece → Pieces → Verdict) : Rule := fun _ trace previous ps =>
  (f previous ps, trace)

/-- Escapes the characters of code within pieces. -/
def escapeCodePieces (ps : Pieces) : Pieces :=
  ps.flatMap fun p =>
    match p with
    | .char c => Pieces.ofText (Block.escapeCode [c])
    | _ => [p]

/-- An element for code: its text is not read again. -/
def codeElement (ps : Pieces) : Draft := .closed "code" [] (escapeCodePieces (Pieces.strip ps))

/-- The length of the longest run of backticks in a sequence, given that of the run before it. -/
def longestRun : (run : Nat) → Pieces → Nat
  | run, [] => run
  | run, p :: ps => if p.is '\x60' then longestRun (run + 1) ps else max run (longestRun 0 ps)

/-- Finds the run of `n` backticks that closes a span, none of them part of a longer run: the
text of the span, which is not empty. -/
def spanText? (n : Nat) : Option Piece → Pieces → Option Pieces
  | _, [] => none
  | previous, p :: ps =>
    let isTick (p : Piece) := p.is '\x60'
    let closes := match Pieces.after? (List.replicate n '\x60') (p :: ps) with
      | some rest => !previous.any isTick && previous.isSome && !beginsWith isTick rest
      | none => false
    if closes then some [] else (spanText? n (some p) ps).map (p :: ·)

/-- Code between equal runs of backticks, the first of which stands at the head of a sequence. Where
no later run is as long as this one, as many of its backticks open the code as the longest later run
has; the others belong to the code. Where no run of just that length closes it, the backticks are
text, and so are as many pieces behind them. -/
def ticked (ps : Pieces) : Verdict :=
  let length := Pieces.countStart (· == '\x60') ps
  let n := min length (longestRun 0 (ps.drop length))
  if n = 0 then .keep length
  else
    match spanText? n none (ps.drop n) with
    | none => .keep (2 * n)
    | some text => .element (text.length + 2 * n) (codeElement text)

/-- Code between runs of backticks. Pairs of backslashes before a backtick are escaped
backslashes. -/
def codeSpan : Rule := .pure fun previous ps =>
  if previous.any (·.is '\\') then .reject
  else
    let slashes := Pieces.countStart (· == '\\') ps
    if 0 < slashes then
      if slashes % 2 == 0 && beginsWith (·.is '\x60') (ps.drop slashes) then
        .literal slashes (Text.times (slashes / 2) (Mark.escaped '\\'))
      else .reject
    else if beginsWith (·.is '\x60') ps then ticked ps
    else .reject

/-- The characters that a backslash makes plain text. -/
def escapable : List Char :=
  ['\\', '\x60', '*', '_', '\x7b', '\x7d', '[', ']', '(', ')', '>', '#', '+', '-', '.', '!', '|']

/-- A backslash before punctuation. -/
def backslash : Rule := .pure fun _ ps =>
  match ps with
  | .char '\\' :: .char c :: _ =>
    if escapable.contains c then .literal 2 (Mark.escaped c) else .keep 2
  | .char '\\' :: _ :: _ => .keep 2
  | _ => .reject

/-- Code between `[:` and `:]`. -/
def bracketCode : Rule := .pure fun _ ps =>
  match (Pieces.after? "[:" ps).bind (Pieces.cut? ":]") with
  | some (text, _) => .element (text.length + 4) (codeElement text)
  | none => .reject

/-- Whether a bracket belongs to an image. -/
def followsBang (previous : Option Piece) : Bool := previous.any (·.is '!')

/-- The definition for a label in lower case; the latest counts. -/
def definition? (setting : Setting) (label : Text) : Option LinkDefinition :=
  setting.definitions.reverse.find? (·.label == label)

/-- The attributes for a target and a title under the given name of the target. -/
def targetAttrs (name : Text) (target : Text) (title : Option Text) : Attrs :=
  (name, some target) :: match title with
    | some t => [("title".toList, some t)]
    | none => []

/-- A link around a text. -/
def link (text : Pieces) (target : Text) (title : Option Text) : Draft :=
  .mk "a" (targetAttrs "href" target title) (some (.mk false text)) [] none

/-- An image with a text for it. -/
def image (text : Pieces) (target : Text) (title : Option Text) : Draft :=
  let alt := ("alt".toList, some (Pieces.spelled text))
  .mk "img" (targetAttrs "src" target title ++ [alt]) none [] none

/-- The bracketed text at the head of a sequence and the length it takes with its brackets. -/
def bracket? (previous : Option Piece) (ps : Pieces) : Option (Pieces × Nat) :=
  match ps with
  | .char '[' :: rest =>
    if followsBang previous then none
    else (bracketText? 0 rest).map fun (text, n) => (text, n + 1)
  | _ => none

/-- The bracketed text of an image at the head of a sequence and the length it takes. -/
def imageBracket? (ps : Pieces) : Option (Pieces × Nat) :=
  match ps with
  | .char '!' :: .char '[' :: rest => (bracketText? 0 rest).map fun (text, n) => (text, n + 2)
  | _ => none

/-- The definition for a label that is plain text: letter case does not count, nor how it is
spaced. -/
def labelled? (setting : Setting) (label : Pieces) : Option LinkDefinition :=
  (Pieces.plain? label).bind fun t => definition? setting (singleSpaces (Text.lower t))

/-- A bracketed text with the label of a definition in brackets behind it; an empty label stands for
the text itself. -/
def labelReference (found? : Option (Pieces × Nat)) (setting : Setting) (ps : Pieces)
    (make : Pieces → Text → Option Text → Draft) : Verdict :=
  match found? with
  | none => .reject
  | some (text, n) =>
    match linkLabel? (ps.drop n) with
    | none => .reject
    | some (label, m) =>
      match labelled? setting (if label.isEmpty then text else label) with
      | some d => .element (n + m) (make text d.target d.title)
      | none => .keep (n + m)

/-- A link by label: `[text][label]`. -/
def linkByLabel : Rule := fun setting trace previous ps =>
  (labelReference (bracket? previous ps) setting ps link, trace)

/-- A link to a target in parentheses: `[text](target "title")`. -/
def linkToTarget : Rule := .pure fun previous ps =>
  match bracket? previous ps with
  | none => .reject
  | some (text, n) =>
    match linkTarget? (ps.drop n) with
    | some (target, title, m) => .element (n + m) (link text target title)
    | none => .reject

/-- An image at a target in parentheses. -/
def imageAtTarget : Rule := .pure fun _ ps =>
  match imageBracket? ps with
  | none => .reject
  | some (text, n) =>
    match linkTarget? (ps.drop n) with
    | some (target, title, m) => .element (n + m) (image text target title)
    | none => .reject

/-- An image by label: `![text][label]`. -/
def imageByLabel : Rule := fun setting trace _ ps =>
  (labelReference (imageBracket? ps) setting ps image, trace)

/-- Code text without its references. -/
def unescapeCode (t : Text) : Text :=
  Text.replace "&amp;" ['&'] (Text.replace "&gt;" ['>'] (Text.replace "&lt;" ['<'] t))

/-- The name that a bracketed text spells. -/
def nameOf (text : Pieces) : Text :=
  Mark.restoreEscapes (unescapeCode (Pieces.spelled text))

mutual

/-- A finished element as a draft, its texts open to reading. -/
def draft : Element → Draft
  | .mk tag attrs text children tail =>
    .mk tag attrs (text.map fun t => .mk false (Pieces.ofText t)) (drafts children)
      (tail.map fun t => .mk false (Pieces.ofText t))

def drafts : List Element → List Draft
  | [] => []
  | e :: rest => draft e :: drafts rest

end

/-- An element that a name stands for: its own text is not read again. -/
def resolved (e : Element) : Draft :=
  match draft e with
  | .mk tag attrs text children tail =>
    .mk tag attrs (text.map fun r => match r with | .mk _ ps => .mk true ps) children tail

/-- A bracketed name: the link of its definition, or what the name stands for. -/
def nameReference : Rule := fun setting trace previous ps =>
  match bracket? previous ps with
  | none => (.reject, trace)
  | some (text, n) =>
    let isLabel := ((Pieces.plain? text).bind fun t => definition? setting (Text.lower t)).isSome
    if isLabel then
      match labelled? setting text with
      | some d => (.element n (link text d.target d.title), trace)
      | none => (.keep n, trace)
    else
      match setting.resolve? with
      | none => (.keep n, trace)
      | some resolve =>
        let name := nameOf text
        let trace := { trace with names := trace.names ++ [name] }
        match resolve name with
        | some e => (.element n (resolved e), trace)
        | none => (.keep n, trace)

/-- An image by its text as the label: `![label]`. -/
def imageByText : Rule := fun setting trace _ ps =>
  match imageBracket? ps with
  | none => (.reject, trace)
  | some (text, n) =>
    match labelled? setting text with
    | some d => (.element n (image text d.target d.title), trace)
    | none => (.keep n, trace)

/-- What follows a scheme with its slashes, given in small letters, at the head of a sequence. -/
def afterScheme? (schemes : List Text) (ps : Pieces) : Option (Text × Pieces) :=
  schemes.findSome? fun scheme =>
    let head := ps.take scheme.length
    match Pieces.plain? head with
    | some t =>
      if t.map Char.toLower == scheme then some (t, ps.drop scheme.length) else none
    | none => none

/-- A link whose text is its own target, not read again. -/
def plainLink (text : Pieces) (target : Text) : Draft :=
  .closed "a" [("href", some target)] text

/-- An address in angle brackets. -/
def bracketedAddress : Rule := .pure fun _ ps =>
  match ps with
  | .char '<' :: rest =>
    match afterScheme? ["http://", "https://", "ftp://", "ftps://"] rest with
    | some (scheme, after) =>
      let body := after.takeWhile fun p => !(p.is '<' || p.is '>')
      if beginsWith (·.is '>') (after.drop body.length) then
        let text := rest.take (scheme.length + body.length)
        .element (text.length + 2) (plainLink text (Pieces.spelled text))
      else .reject
    | none => .reject
  | _ => .reject

/-- Characters that never belong to a bare address. -/
def endsAddress (c : Char) : Bool :=
  Text.isBlank c || c == '<' || c == '>' || c == '[' || c == ']'

/-- Characters that do not end a bare address. -/
def isAddressPunctuation (c : Char) : Bool :=
  ['.', ',', ':', ';', '"', '\'', ')', '!', '?', '*', '_', '~'].contains c

/-- Characters after which no bare address begins. -/
def precludesAddress (c : Char) : Bool :=
  Text.isWord c || ['/', '(', '[', '<', '"', '\'', '='].contains c

/-- The end of a sequence that `p` does not hold of, with all before it. -/
def dropEndWhile (p : Piece → Bool) (ps : Pieces) : Pieces := (ps.reverse.dropWhile p).reverse

/-- An address that stands in the text without markup. -/
def bareAddress : Rule := .pure fun previous ps =>
  if previous.any (·.satisfies precludesAddress) then .reject
  else
    let scheme := (["https://", "http://", "www."] : List Text).findSome? fun s =>
      (Pieces.after? s ps).map fun rest => (s, rest)
    match scheme with
    | some (s, rest) =>
      let run := rest.takeWhile (·.avoids endsAddress)
      let body := dropEndWhile (·.satisfies isAddressPunctuation) run
      if body.isEmpty then .reject
      else
        let text := ps.take (s.length + body.length)
        let address := Pieces.marked text
        .element text.length
          (plainLink text (if Text.occursIn "://" address then address else "https://" ++ address))
    | none => .reject

/-- A character as a reference that reaches the page as it is. -/
def hiddenReference (c : Char) : Text := Mark.ampersand ++ '#' :: Text.ofNat c.toNat ++ [';']

/-- As `hiddenReference`, by its short name for a character that has one. -/
def hiddenEntity (c : Char) : Text :=
  match Text.shortEntityNames.find? (·.1 == c.toNat) with
  | some (_, name) => Mark.ampersand ++ name ++ [';']
  | none => hiddenReference c

/-- A mail address in angle brackets; it is written in character references. -/
def mailAddress : Rule := .pure fun _ ps =>
  match ps with
  | .char '<' :: rest =>
    let body := rest.takeWhile fun p => !(p.is '<' || p.is '>' || p.is ' ')
    let host := (body.reverse.takeWhile fun p => !p.is '@').reverse
    let user := body.take (body.length - host.length - 1)
    if beginsWith (·.is '>') (rest.drop body.length) && host.length < body.length &&
        !host.isEmpty && !user.isEmpty && !user.any (·.is '!') then
      let address := Text.dropStart "mailto:" (Pieces.spelled body)
      .element (body.length + 2)
        (plainLink (Pieces.ofText (address.flatMap hiddenEntity))
          (("mailto:" ++ address).flatMap hiddenReference))
    else .reject
  | _ => .reject

/-- Two spaces at the end of a line. -/
def lineBreak : Rule := .pure fun _ ps =>
  match Pieces.after? "  \n" ps with
  | some _ => .element 3 (.mk "br" [] none [] none)
  | none => .reject

/-- The length of an attribute's value after its equals sign and white space. -/
def tagValue? (ps : Pieces) : Option Nat :=
  match quoted? ps with
  | some (_, n) => some n
  | none =>
    let n := (ps.takeWhile (·.avoids fun c =>
      Text.isBlank c || ['"', '\'', '=', '<', '>'].contains c)).length
    if n = 0 then none else some n

/-- The length of a tag's attributes; `fuel` bounds their number. -/
def tagAttributes : Nat → Pieces → Nat
  | 0, _ => 0
  | fuel + 1, ps =>
    let gap := blankCount ps
    let name := ((ps.drop gap).takeWhile (·.avoids fun c =>
      Text.isBlank c || ['"', '\'', '=', '<', '>'].contains c)).length
    if gap = 0 || name = 0 then 0
    else
      let rest := ps.drop (gap + name)
      let equals := blankCount rest
      let value :=
        if beginsWith (·.is '=') (rest.drop equals) then
          let space := blankCount (rest.drop (equals + 1))
          match tagValue? (rest.drop (equals + 1 + space)) with
          | some n => equals + 1 + space + n
          | none => 0
        else 0
      let size := gap + name + value
      size + tagAttributes fuel (ps.drop size)

/-- The length of what lies between `opening` and `closing`, neither of which occurs in between,
these included. -/
def enclosed? (opening closing : Text) (ps : Pieces) : Option Nat :=
  match Pieces.after? opening ps with
  | none => none
  | some rest =>
    match Pieces.cut? closing rest with
    | none => none
    | some (body, _) =>
      match Pieces.cut? opening (rest.take (body.length + closing.length)) with
      | some (before, _) =>
        if before.length < body.length then none
        else some (opening.length + body.length + closing.length)
      | none => some (opening.length + body.length + closing.length)

/-- The length of a tag, comment, processing instruction or character data section at the head of a
sequence. -/
def rawMarkup? (ps : Pieces) : Option Nat :=
  match ps with
  | .char '<' :: rest =>
    let slash := if beginsWith (·.is '/') rest then 1 else 0
    let name := rest.drop slash
    if beginsWith (·.satisfies Char.isAlpha) name then
      let n := slash + (name.takeWhile (·.avoids fun c =>
        Text.isBlank c || ['"', '\'', '<', '>', '@'].contains c)).length
      let m := n + tagAttributes (rest.length + 1) (rest.drop n)
      let gap := m + blankCount (rest.drop m)
      let gap := if beginsWith (·.is '/') (rest.drop gap) then gap + 1 else gap
      if beginsWith (·.is '>') (rest.drop gap) then some (gap + 2) else none
    else
      (enclosed? "<!--" "-->" ps <|> enclosed? "<?" "?>" ps) <|> enclosed? "<![CDATA[" "]]>" ps
  | _ => none

/-- Sets raw markup aside. -/
def setAside (size : Nat) (trace : Trace) (ps : Pieces) : Verdict × Trace :=
  (.literal size (Mark.rawHtml trace.rawHtml.length),
    { trace with rawHtml := trace.rawHtml ++ [Pieces.rawText (ps.take size)] })

/-- A tag within a text. -/
def inlineTag : Rule := fun _ trace _ ps =>
  match rawMarkup? ps with
  | some n => setAside n trace ps
  | none => (.reject, trace)

/-- The length of a character reference at the head of a sequence. -/
def referenceSize? (ps : Pieces) : Option Nat :=
  match ps with
  | .char '&' :: rest =>
    let close (start : Nat) (p : Char → Bool) : Option Nat :=
      let n := Pieces.countStart p (rest.drop start)
      if n ≠ 0 && beginsWith (·.is ';') (rest.drop (start + n)) then some (start + n + 2) else none
    match rest with
    | .char '#' :: .char 'x' :: _ => close 2 Text.isHexDigit
    | .char '#' :: _ => close 1 Char.isDigit
    | _ => close 0 Char.isAlphanum
  | _ => none

/-- A character reference. -/
def characterReference : Rule := fun _ trace _ ps =>
  match referenceSize? ps with
  | some n => setAside n trace ps
  | none => (.reject, trace)

/-- Text between two pairs of tildes. -/
def deletion : Rule := .pure fun _ ps =>
  match Pieces.after? "~~" ps with
  | some (p :: rest) =>
    match Pieces.cut? "~~" rest with
    | some (text, _) => .element (text.length + 5) (.ofPieces "del" (p :: text))
    | none => .reject
  | _ => .reject

/-- The rules in the order in which they go over a text. -/
def all : List Rule :=
  [codeSpan, backslash, bracketCode, linkByLabel, linkToTarget, imageAtTarget, imageByLabel,
    nameReference, imageByText, bracketedAddress, bareAddress, mailAddress, lineBreak, inlineTag,
    characterReference, deletion]

end Rule

end ApiSite.Markup.Inline

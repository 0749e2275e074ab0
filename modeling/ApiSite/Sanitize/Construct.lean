import ApiSite.Text.LetterCase
import ApiSite.Text.WordChar
import ApiSite.Url
import ApiSite.Sanitize.Edit

/-!
The constructs of a text that can run code or change the page around it, each with the rule that
finds it. Names of tags and attributes are read in either letter case, and blanks may stand wherever
a lenient reader of markup passes over them.
-/

set_option autoImplicit false

namespace ApiSite.Sanitize

/-- What follows a character that blanks may surround. -/
def afterSpaced? (c : Char) (t : Text) : Option Text :=
  match Text.stripStart t with
  | d :: rest => if c = d then some (Text.stripStart rest) else none
  | [] => none

/-- A tag of this name in front: what stands between the name and the end of the tag, and what
follows the tag. -/
def tag? (name : Text) : Text → Option (Text × Text)
  | '<' :: t => do
    let t ← Text.afterWord? name (Text.stripStart t)
    if t.head?.any Text.isWord then none
    else
      let inside := t.takeWhile (· != '>')
      match t.drop inside.length with
      | _ :: rest => some (inside, rest)
      | [] => none
  | _ => none

/-- What follows the end tag of this name, if one stands in front. -/
def afterEndTag? (name : Text) : Text → Option Text
  | '<' :: t => do
    let t ← Text.afterWord? name (← afterSpaced? '/' t)
    match Text.stripStart t with
    | '>' :: rest => some rest
    | _ => none
  | _ => none

/-- What follows the first end tag of this name. -/
def afterContent? (name : Text) : Text → Option Text
  | [] => none
  | c :: t => (afterEndTag? name (c :: t)).or (afterContent? name t)

/-- What follows an element of this name. -/
def afterElement? (name t : Text) : Option Text := do
  let (_, rest) ← tag? name t
  afterContent? name rest

/-- Everything up to `rest` is removed. -/
def removing (removal : Removal) (t rest : Text) : Edit :=
  ⟨t.length - rest.length, [], some removal⟩

/-- Removes an element with its content. -/
def element (name : Text) : Rule := fun t =>
  (afterElement? name t).map (removing (.element name) t)

/-- Removes a tag that closes itself. -/
def closedTag (name : Text) : Rule := fun t =>
  match tag? name t with
  | some (inside, rest) =>
    if (Text.stripEnd inside).getLast? == some '/' then some (removing (.closedTag name) t rest)
    else none
  | none => none

/-- Removes a tag that has no content. -/
def soleTag (name : Text) : Rule := fun t =>
  (tag? name t).map fun (_, rest) => removing (.element name) t rest

def isQuote (c : Char) : Bool := c == '"' || c == '\''

/-- The quoted value of an attribute `src` in front. -/
def source? (t : Text) : Option Text := do
  let t ← afterSpaced? '=' (← Text.afterWord? "src" t)
  match t with
  | q :: t =>
    if isQuote q then
      let value := t.takeWhile fun c => !isQuote c
      if value.length < t.length then some value else none
    else none
  | [] => none

/-- The first source that an element names. -/
def firstSource? : Text → Option Text
  | [] => none
  | c :: t => (source? (c :: t)).or (firstSource? t)

/-- Hosts whose frames are always shown. -/
def knownHosts : List Text := Text.ofStrings
  ["youtube.com", "www.youtube.com", "youtube-nocookie.com", "www.youtube-nocookie.com",
    "dartpad.dev", "www.dartpad.dev", "dartpad.cn", "www.dartpad.cn"]

/-- Why a frame is removed, if it is. -/
def frameFault? (hosts : List Text) (frame : Text) : Option Removal :=
  match firstSource? frame with
  | none => some .frameWithoutSource
  | some source =>
    match Url.ofText? source with
    | none => some (.frameSource source)
    | some url =>
      if !(url.scheme == "http" || url.scheme == "https") then some (.frameSource source)
      else if hosts.contains url.host then none
      else some (.frameHost url.host)

/-- Removes frames whose source is not among the allowed hosts, and keeps the others whole. -/
def frame (hosts : List Text) : Rule := fun t => do
  let rest ← afterElement? "iframe" t
  let size := t.length - rest.length
  match frameFault? hosts (t.take size) with
  | some fault => some ⟨size, [], some fault⟩
  | none => some ⟨size, t.take size, none⟩

/-- The name of an attribute that holds an address, and what follows it. -/
def addressName? (t : Text) : Option (Text × Text) :=
  ((Text.afterWord? "href" t).or (Text.afterWord? "src" t)).map fun rest =>
    (t.take (t.length - rest.length), rest)

/-- Removes the scheme of an address that an attribute holds, and closes the space before it. -/
def address (scheme : Text) (removal : Removal) : Rule := fun t => do
  let (name, rest) ← addressName? t
  let value ← afterSpaced? '=' rest
  let value := match value with
    | q :: r => if isQuote q then Text.stripStart r else value
    | [] => value
  let rest ← Text.afterWord? scheme value
  some ⟨t.length - rest.length, name ++ "=\"", some removal⟩

/-- What follows a text in quotation marks. -/
def afterQuoted? : Text → Option Text
  | q :: t =>
    if isQuote q then
      match t.dropWhile (· != q) with
      | _ :: rest => some rest
      | [] => none
    else none
  | [] => none

/-- What follows the value of an attribute. -/
def afterValue? (t : Text) : Option Text :=
  (afterQuoted? t).or
    (let rest := t.dropWhile fun c => !(Text.isBlank c || c == '>')
    if rest.length < t.length then some rest else none)

/-- Removes an attribute that runs code on an event, with the blanks before it. -/
def eventHandler : Rule := fun t =>
  if t.head?.any Text.isBlank then do
    let name ← Text.afterWord? "on" (Text.stripStart t)
    let rest := name.dropWhile Text.isWord
    if rest.length < name.length then
      let rest ← afterValue? (← afterSpaced? '=' rest)
      some (removing .eventHandler t rest)
    else none
  else none

end ApiSite.Sanitize

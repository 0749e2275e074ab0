import ApiSite.Text.Blank
import ApiSite.Text.LetterCase
import ApiSite.Markup.Element
import ApiSite.Markup.Fence
import ApiSite.Markup.TableRow

/-!
The block structure of a source: lists, code, tables, headings, rules, alerts, quotes, link
definitions and paragraphs. A source is cut at empty lines into blocks; each goes to the first rule
that accepts it, and what a rule leaves over is read as the next block.
-/

set_option autoImplicit false

namespace ApiSite.Markup

open Text (startsWith)

/-- The definition of a link: its label in lower case, its target and its title. -/
structure LinkDefinition where
  label : Text
  target : Text
  title : Option Text

namespace Block

/-- What a nested reading takes place in. -/
inductive Place where
  /-- The document, or a block that changes nothing for its inside. -/
  | flow
  /-- An item of a list without empty lines: its first text gets no paragraph. -/
  | item
  /-- An item after an empty line. -/
  | looseItem
  /-- A block whose indent has just been taken off. -/
  | unindented
  /-- A quotation. -/
  | quote
  deriving DecidableEq

/-- Spaces that nest a block in the list item before it. -/
abbrev nestWidth : Nat := 2

/-- Spaces that make a block code. -/
abbrev codeWidth : Nat := 4

def isSpace (c : Char) : Bool := c == ' '

/-- How many spaces begin a text. -/
def indentOf (t : Text) : Nat := Text.countStart isSpace t

/-- Whether a tag is that of a list. -/
def isListTag (tag : Text) : Bool := tag == "ul" || tag == "ol"

/-- Whether an element is a block of code. -/
def isCodeBlock (e : Element) : Bool :=
  e.tag == "pre" && (e.children.head?.any fun (c : Element) => c.tag == "code")

/-- Adds a text at the end of a code block's code. -/
def extendCode (t : Text) (e : Element) : Element :=
  match e.children with
  | code :: rest => e.setChildren (code.setText (some (code.text.getD [] ++ t)) :: rest)
  | [] => e

/-- Code as it stands in a tree: its ampersands and angle brackets are references. -/
def escapeCode (t : Text) : Text :=
  Text.escapeWith (fun c =>
    if c = '&' then "&amp;" else if c = '<' then "&lt;" else if c = '>' then "&gt;" else [c]) t

/-! ### Indents -/

/-- Takes `width` spaces off each line as long as lines have them or are blank: the lines so
shortened and the rest. -/
def unindentRun (width : Nat) : List Text → List Text × List Text
  | [] => ([], [])
  | line :: rest =>
    if startsWith (Text.spaces width) line then
      let (done, after) := unindentRun width rest
      (line.drop width :: done, after)
    else if Text.isBlankText line then
      let (done, after) := unindentRun width rest
      ([] :: done, after)
    else ([], line :: rest)

/-- Takes `width` spaces off each line that has them. -/
def unindentEach (width : Nat) (t : Text) : Text :=
  Text.unlines ((Text.lines t).map fun line =>
    if startsWith (Text.spaces width) line then line.drop width else line)

/-- Follows the last children of `parent` to the list or item at the given indent: the level that
was reached and how many steps down it is. `level` is the level reached so far and `fuel` bounds the
steps. -/
def nestingLevel (indent : Nat) : Nat → Nat → Element → Nat × Nat
  | 0, level, _ => (level, 0)
  | fuel + 1, level, parent =>
    if level < indent then
      match parent.last? with
      | some child =>
        if isListTag child.tag || child.tag == "li" then
          let (reached, steps) :=
            nestingLevel indent fuel (if isListTag child.tag then level + 1 else level) child
          (reached, steps + 1)
        else (level, 0)
      | none => (level, 0)
    else (level, 0)

mutual

/-- How deep a tree is. -/
def depth : Element → Nat
  | .mk _ _ _ children _ => depthOfAll children + 1

def depthOfAll : List Element → Nat
  | [] => 0
  | e :: rest => max (depth e) (depthOfAll rest)

end

/-! ### Headings and rules -/

/-- The length of a heading's text and the length it takes with its closing marks and line end. A
backslash escapes the character after it; one at a line's end rules the heading out. -/
def headingText? : Text → Option (Nat × Nat)
  | [] => some (0, 0)
  | c :: t =>
    match (c :: t).dropWhile (· == '#') with
    | [] => some (0, (c :: t).length)
    | d :: after =>
      if d = '\n' then some (0, (c :: t).length - after.length)
      else if c = '\\' then
        match t with
        | e :: rest =>
          if e = '\n' then none else (headingText? rest).map fun (n, m) => (n + 2, m + 2)
        | [] => none
      else (headingText? t).map fun (n, m) => (n + 1, m + 1)

/-- A heading within a block. -/
structure HeadingMatch where
  before : Text
  level : Nat
  text : Text
  after : Text

/-- A heading at the head of a text. -/
def headingAt? (t : Text) : Option HeadingMatch :=
  let marks := min 6 (Text.countStart (· == '#') t)
  if marks = 0 then none
  else
    (headingText? (t.drop marks)).map fun (n, m) =>
      ⟨[], marks, (t.drop marks).take n, (t.drop marks).drop m⟩

/-- The first heading that follows a line end. -/
def headingAfterLine? : Text → Option HeadingMatch
  | [] => none
  | c :: t =>
    match (if c = '\n' then headingAt? t else none) with
    | some h => some h
    | none => (headingAfterLine? t).map fun h => { h with before := c :: h.before }

/-- The first heading of a block. -/
def heading? (block : Text) : Option HeadingMatch :=
  match headingAt? block with
  | some h => some h
  | none => headingAfterLine? block

/-- The level and the text of a heading that its second line underlines, and what follows. -/
def underlined? (block : Text) : Option (Nat × Text × List Text) :=
  match Text.lines block with
  | title :: line :: rest =>
    let underlines (c : Char) : Bool :=
      startsWith [c] line && (line.dropWhile (· == c)).all isSpace
    if underlines '=' then some (1, Text.strip title, rest)
    else if underlines '-' then some (2, Text.strip title, rest)
    else none
  | _ => none

/-- Whether the marks of a rule stand at most two spaces apart; counts those still needed. -/
def ruleMarks (c : Char) : Nat → Text → Bool
  | needed, t =>
    match t with
    | [] => needed == 0
    | d :: rest =>
      if d = c then ruleMarks c (needed - 1) rest
      else if t.all isSpace then needed == 0
      else
        match rest with
        | d' :: rest' =>
          if d = ' ' then
            if d' = c then ruleMarks c (needed - 1) rest'
            else if d' = ' ' then
              match rest' with
              | d'' :: rest'' => if d'' = c then ruleMarks c (needed - 1) rest'' else false
              | [] => false
            else false
          else false
        | [] => false

/-- Whether a line is a rule: three or more dashes, underscores or asterisks, spaces between
them. -/
def isRule (line : Text) : Bool :=
  let indent := indentOf line
  match line.drop indent with
  | c :: rest =>
    indent ≤ 3 && (c == '-' || c == '_' || c == '*') && ruleMarks c 2 rest
  | [] => false

/-- The lines before the first rule of a block and those after it. -/
def rule? : List Text → Option (List Text × List Text)
  | [] => none
  | line :: rest =>
    if isRule line then some ([], rest)
    else (rule? rest).map fun (before, after) => (line :: before, after)

/-! ### List items -/

/-- What stands before the text of a list item. -/
inductive Marker where
  | bullet | number
  deriving DecidableEq

/-- A list item's marker at the head of a text, with the text after it and its spaces. -/
def marker? (t : Text) : Option (Marker × Text) :=
  let item (kind : Marker) (rest : Text) : Option (Marker × Text) :=
    match rest with
    | ' ' :: _ => some (kind, rest.dropWhile isSpace)
    | _ => none
  match t with
  | [] => none
  | c :: rest =>
    if c = '*' ∨ c = '+' ∨ c = '-' then item .bullet rest
    else
      let digits := t.takeWhile Text.isDecimal
      if digits.isEmpty then none
      else
        match t.drop digits.length with
        | '.' :: rest => item .number rest
        | _ => none

/-- A list item's marker after at least `low` and at most `high` spaces. -/
def indentedMarker? (low high : Nat) (line : Text) : Option (Marker × Text) :=
  let indent := indentOf line
  if low ≤ indent ∧ indent ≤ high then marker? (line.drop indent) else none

/-- Whether a block begins a list of one kind. -/
def startsList (kind : Marker) (block : Text) : Bool :=
  match indentedMarker? 0 3 block with
  | some (k, _) => k == kind
  | none => false

/-- Adds a line to the last of the items, which are kept latest first. -/
def continueItem (line : Text) : List Text → List Text
  | [] => [line]
  | last :: before => (last ++ '\n' :: line) :: before

/-- Divides the lines of a list into items, latest first: a marker begins an item, a nested marker
begins a piece that belongs to the item before it, any other line continues the last one. -/
def itemsFrom : List Text → List Text → List Text
  | items, [] => items
  | items, line :: rest =>
    match indentedMarker? 0 (nestWidth - 1) line with
    | some (_, text) => itemsFrom (text :: items) rest
    | none =>
      let nested := (indentedMarker? nestWidth (2 * nestWidth - 1) line).isSome
      let previousNested := startsWith (Text.spaces nestWidth) (items.headD [])
      if nested && !previousNested then itemsFrom (line :: items) rest
      else itemsFrom (continueItem line items) rest

/-- The items of a list, whose lines stand relative to the indent of its first line. -/
def items (block : Text) : List Text :=
  (itemsFrom [] (Text.lines (unindentEach (indentOf block) block))).reverse

/-- Moves the text of an item into a paragraph of its own. -/
def paragraphItem (item : Element) : Element :=
  if (item.text.getD []).isEmpty then item
  else (item.setChildren (.ofText "p" (item.text.getD []) :: item.children)).setText (some [])

/-- Moves the text of a list's last item into a paragraph of its own, and the text after the item's
last child into another. -/
def separateLast (list : Element) : Element :=
  list.modifyLast fun item =>
    let item := paragraphItem item
    match item.last? with
    | none => item
    | some child =>
      if (child.tail.getD []).isEmpty then item
      else (item.modifyLast (·.setTail (some []))).append
        (.ofText "p" (Text.stripStart (child.tail.getD [])))

/-! ### Alerts and quotations -/

/-- The kinds of alert, as they are written. -/
def alertKinds : List Text := ["NOTE", "TIP", "IMPORTANT", "WARNING", "CAUTION"]

/-- What follows the mark of a quotation at the head of a line. -/
def afterQuoteMark? (line : Text) : Option Text :=
  let indent := indentOf line
  if indent ≤ 3 then
    match line.drop indent with
    | '>' :: ' ' :: rest => some rest
    | '>' :: rest => some rest
    | _ => none
  else none

/-- The kind of alert, in lower case, that a block's first line opens. -/
def alertKind? (line : Text) : Option Text :=
  match (afterQuoteMark? line).bind (Text.after? "[!") with
  | some rest =>
    let kind := rest.takeWhile Text.isWord
    match rest.drop kind.length with
    | ']' :: after =>
      if after.all isSpace && alertKinds.contains (kind.map Text.asciiCapital) then
        some (Text.lower kind)
      else none
    | _ => none
  | none => none

/-- A word with a capital at its head. -/
def capitalized : Text → Text
  | [] => []
  | c :: t => Text.asciiCapital c :: t

/-- The alert's element, with its title as the first paragraph. -/
def alertElement (kind : Text) : Element :=
  .mk "div" [("class", some ("markdown-alert markdown-alert-" ++ kind))] none
    [.mk "p" [("class", some "markdown-alert-title")] (some (capitalized kind)) [] none] none

/-- A line without the mark of a quotation. -/
def unquote (line : Text) : Text :=
  if Text.strip line == ['>'] then []
  else (afterQuoteMark? line).getD line

/-- The text before the first quoted line of a block, and the block from there on; a line end before
the quoted line goes with it. -/
def quotation? (block : Text) : Option (Text × Text) :=
  if (afterQuoteMark? block).isSome then some ([], block) else afterLine block
where
  afterLine : Text → Option (Text × Text)
    | [] => none
    | c :: t =>
      if c = '\n' ∧ (afterQuoteMark? t).isSome then some ([], c :: t)
      else (afterLine t).map fun (before, rest) => (c :: before, rest)

/-! ### Link definitions -/

/-- The title of a definition at the end of a line, with the length up to there: in quotes or in
parentheses. -/
def definitionTitle? (t : Text) : Option (Text × Nat) :=
  let line := t.takeWhile (· != '\n')
  let body := Text.trimEnd isSpace line
  let inner := (body.drop 1).dropLast
  match body.head?, body.getLast? with
  | some a, some z =>
    if 2 ≤ body.length ∧ ((a = z ∧ (a = '"' ∨ a = '\'')) ∨ (a = '(' ∧ z = ')')) then
      some (inner, line.length)
    else none
  | _, _ => none

/-- What may follow the target of a definition: the title and the length up to the end of the
line. -/
def afterTarget? (t : Text) : Option (Option Text × Nat) :=
  let gap := indentOf t
  let rest := t.drop gap
  let here (start : Nat) (u : Text) : Option (Option Text × Nat) :=
    match definitionTitle? u with
    | some (title, n) => some (if title.isEmpty then none else some title, start + n)
    | none =>
      match u with
      | [] => some (none, start)
      | '\n' :: _ => some (none, start)
      | _ => none
  match rest with
  | '\n' :: next =>
    let indent := indentOf next
    match here (gap + 1 + indent) (next.drop indent) with
    | some r => some r
    | none => here gap rest
  | _ => here gap rest

/-- Tries ever shorter targets of a definition: the target's length, the title, and the length up to
the end of the definition. -/
def target? (t : Text) : Nat → Option (Nat × Option Text × Nat)
  | 0 => none
  | n + 1 =>
    match afterTarget? (t.drop (n + 1)) with
    | some (title, m) => some (n + 1, title, n + 1 + m)
    | none => target? t n

/-- A definition at the head of a text: it and the length it takes. -/
def definitionAt? (t : Text) : Option (LinkDefinition × Nat) :=
  let indent := indentOf t
  match t.drop indent with
  | '[' :: rest =>
    if 3 < indent then none
    else
      let label := rest.takeWhile fun c => c != '[' && c != ']'
      match rest.drop label.length with
      | ']' :: ':' :: after =>
        let gap := indentOf after
        let gap := match after.drop gap with
          | '\n' :: next => gap + 1 + indentOf next
          | _ => gap
        let body := after.drop gap
        let longest := Text.countStart (fun c => !Text.isBlank c) body
        (target? body longest).map fun (n, title, size) =>
          (⟨Text.lower (Text.strip label),
            Text.trimEnd (· == '>') (Text.trimStart (· == '<') (body.take n)), title⟩,
            indent + 1 + label.length + 2 + gap + size)
      | _ => none
  | _ => none

/-- The first definition of a block, with the text before and after it. `lineStart` says that the
text begins a line. -/
def definition? : Bool → Text → Option (LinkDefinition × Text × Text)
  | lineStart, t =>
    match (if lineStart then definitionAt? t else none) with
    | some (d, n) => some (d, [], t.drop n)
    | none =>
      match t with
      | [] => none
      | c :: rest =>
        (definition? (c == '\n') rest).map fun (d, before, after) => (d, c :: before, after)

/-! ### Tables -/

/-- A row of a table: as many cells as the table has columns. -/
def tableRow (tag : Text) (layout : TableRow.Layout) (row : Text) : Element :=
  let cells := TableRow.split layout.bordered (Text.trim isSpace row)
  let cell (i : Nat) (column : Option TableRow.Alignment) : Element :=
    let text := Text.trim isSpace ((cells[i]?).getD [])
    let attrs := match column with
      | some a => [("style".toList, some ("text-align: " ++ a.word ++ ";"))]
      | none => []
    .mk tag attrs (some text) [] none
  .mk "tr" [] none (layout.columns.mapIdx cell) none

/-- The element of a table. A table without a body gets one empty row. -/
def tableElement (layout : TableRow.Layout) (lines : List Text) : Element :=
  let body := match lines.drop 2 with
    | [] => [.mk "tr" [] none (layout.columns.map fun _ => .bare "td") none]
    | rows => rows.map (tableRow "td" layout)
  .mk "table" [] none
    [.mk "thead" [] none [tableRow "th" layout (lines.headD [])] none,
      .mk "tbody" [] none body none] none

/-! ### Reading -/

/-- Lets `f` change the element `steps` last children below `e`. -/
def modifyBelow {α : Type} (f : Element → Element × α) : Nat → Element → Element × α
  | 0, e => f e
  | steps + 1, e =>
    match e.children.reverse with
    | [] => f e
    | last :: before =>
      let (last, a) := modifyBelow f steps last
      (e.setChildren (last :: before).reverse, a)

/-- Reads a text with an element as its parent: the element with what was read, and the definitions
that were met, the latest last. -/
abbrev Reading := Element → Element × List LinkDefinition

/-- The number of a fence's mark that a block consists of. -/
def fenceNumber? (block : Text) : Option Nat :=
  match Mark.read? "vitedocfence:" (Text.strip block) with
  | some (n, _, []) => some n
  | _ => none

/-- The code block of a fence. -/
def fenceElement (fence : Fence) : Element :=
  let attrs := if fence.language.isEmpty then [] else
    [("class".toList, some ("language-" ++ fence.language))]
  .mk "pre" [] none [.mk "code" attrs (some (escapeCode fence.code)) [] none] none

/-- Adds an empty line's worth to a code block that ends an element: empty lines belong to code. -/
def keepEmptyLine (filler : Text) (parent : Element) : Element :=
  match parent.last? with
  | some e => if isCodeBlock e then parent.modifyLast (extendCode filler) else parent
  | none => parent

/-- Adds indented code: the element, and the lines of the block that are not indented. -/
def addCode (block : Text) (parent : Element) : Element × List Text :=
  let (code, rest) := unindentRun codeWidth (Text.lines block)
  let code := escapeCode (Text.stripEnd (Text.unlines code)) ++ ['\n']
  let continued := match parent.last? with
    | some e => isCodeBlock e
    | none => false
  if continued then (parent.modifyLast (extendCode ('\n' :: code)), rest)
  else
    (parent.append (.mk "pre" [] none [.ofText "code" code] none), rest)

/-- Adds a paragraph, or in a list without empty lines the bare text. -/
def addParagraph (place : Place) (block : Text) (parent : Element) : Element :=
  if Text.isBlankText block then parent
  else if place = .item then
    match parent.last? with
    | some last =>
      let tail := last.tail.getD []
      parent.modifyLast (·.setTail (some (tail ++ '\n' :: block)))
    | none =>
      let text := parent.text.getD []
      let block := Text.stripStart block
      parent.setText (some (if text.isEmpty then block else text ++ '\n' :: block))
  else parent.append (.ofText "p" (Text.stripStart block))

/-- Whether a block belongs to the list that ends its parent, or to the item that is its parent. -/
def isNested (place : Place) (parent : Element) (block : Text) : Bool :=
  startsWith (Text.spaces nestWidth) block && place != .unindented &&
    (parent.tag == "li" || (parent.last?.any fun (e : Element) => isListTag e.tag))

/-- What a block is, with what its reading needs. -/
inductive Form where
  | empty
  | emptyLine (rest : Text)
  | nested
  | fence (fence : Fence)
  | code
  | table (layout : TableRow.Layout)
  | heading (found : HeadingMatch)
  | underlined (level : Nat) (title : Text) (rest : List Text)
  | rule (before after : List Text)
  | list (kind : Marker)
  | alert (kind : Text)
  | quotation (before quoted : Text)
  | definition (found : LinkDefinition) (before after : Text)
  | paragraph

/-- The form of a block: that of the first rule that accepts it. -/
def formOf (fences : List Fence) (place : Place) (parent : Element) (block : Text) : Form :=
  let given (condition : Bool) (form : Form) : Option Form := if condition then some form else none
  (given block.isEmpty .empty <|>
    given (startsWith ['\n'] block) (.emptyLine (block.drop 1)) <|>
    given (isNested place parent block) .nested <|>
    ((fenceNumber? block).bind fun n => fences[n]?).map Form.fence <|>
    given (startsWith (Text.spaces codeWidth) block) .code <|>
    (TableRow.layout? (Text.lines block)).map Form.table <|>
    (heading? block).map Form.heading <|>
    (underlined? block).map (fun (level, title, rest) => Form.underlined level title rest) <|>
    (rule? (Text.lines block)).map (fun (before, after) => Form.rule before after) <|>
    given (startsList .number block) (.list .number) <|>
    given (startsList .bullet block) (.list .bullet) <|>
    (alertKind? (block.takeWhile (· != '\n'))).map Form.alert <|>
    (quotation? block).map (fun (before, quoted) => Form.quotation before quoted) <|>
    (definition? true block).map (fun (d, before, after) => Form.definition d before after)).getD
      .paragraph

/-- A text before the blocks to come, unless it is empty. -/
def before (t : Text) (blocks : List Text) : List Text := if t.isEmpty then blocks else t :: blocks

/-- The tag of the list that a marker begins. -/
def Marker.tag : Marker → Text
  | .bullet => "ul"
  | .number => "ol"

/-- Whether the last child of an element is a list. -/
def endsInList (e : Element) : Bool :=
  match e.last? with
  | some last => isListTag last.tag
  | none => false

/-- Reads blocks in turn. `fences` are the fenced blocks whose marks may stand among them, and
`fuel` bounds the number of readings, one within another or one after another. -/
def read (fences : List Fence) : Nat → Place → List Text → Reading
  | 0, _, _, parent => (parent, [])
  | _, _, [], parent => (parent, [])
  | fuel + 1, place, block :: blocks, parent =>
    let next (blocks : List Text) (r : Element × List LinkDefinition) :=
      let (parent, defs) := read fences fuel place blocks r.1
      (parent, r.2 ++ defs)
    let single (place : Place) (t : Text) : Reading := read fences fuel place [t]
    let unlessEmpty (t : Text) : Reading := if t.isEmpty then fun e => (e, []) else single place t
    let chunk (place : Place) (t : Text) : Reading :=
      read fences fuel place (Text.splitOnText "\n\n" t)
    let addItems (items : List Text) (list : Element) : Element × List LinkDefinition :=
      items.foldl (fun (list, defs) item =>
        let list := if startsWith (Text.spaces nestWidth) item then list
          else list.append (.bare "li")
        let (list, more) := modifyBelow (single .item item) 1 list
        (list, defs ++ more)) (list, [])
    match formOf fences place parent block with
    | .empty => next blocks (keepEmptyLine "\n\n" parent, [])
    | .emptyLine rest => next (before rest blocks) (keepEmptyLine ['\n'] parent, [])
    | .nested =>
      let (level, steps) :=
        nestingLevel (indentOf block / nestWidth) (depth parent) (if place = .item then 1 else 0)
          parent
      let block := unindentEach (nestWidth * level) block
      if parent.tag == "li" then
        next blocks
          (modifyBelow (single .unindented block) (if endsInList parent then 1 else 0) parent)
      else
        next blocks (modifyBelow (fun sibling =>
          let lastIsItem := match sibling.last? with
            | some last => last.tag == "li"
            | none => false
          if sibling.tag == "li" then single .unindented block sibling
          else if lastIsItem then
            modifyBelow (chunk .unindented block) 1 (sibling.modifyLast paragraphItem)
          else modifyBelow (single .unindented block) 1 (sibling.append (.bare "li")))
          steps parent)
    | .fence fence => next blocks (parent.append (fenceElement fence), [])
    | .code =>
      let (parent, rest) := addCode block parent
      next (before (Text.unlines rest) blocks) (parent, [])
    | .table layout => next blocks (parent.append (tableElement layout (Text.lines block)), [])
    | .heading h =>
      let (parent, defs) := unlessEmpty h.before parent
      let after := if place = .looseItem then unindentEach codeWidth h.after else h.after
      next (before after blocks)
        (parent.append (.ofText ('h' :: Text.ofNat h.level) (Text.strip h.text)), defs)
    | .underlined level title rest =>
      next (if rest.isEmpty then blocks else Text.unlines rest :: blocks)
        (parent.append (.ofText ('h' :: Text.ofNat level) title), [])
    | .rule above below =>
      let (parent, defs) := unlessEmpty (Text.trimEnd (· == '\n') (Text.unlines above)) parent
      next (before (Text.trimStart (· == '\n') (Text.unlines below)) blocks)
        (parent.append (.bare "hr"), defs)
    | .list kind =>
      if endsInList parent then
        next blocks (modifyBelow (fun list =>
          match items block with
          | [] => (list, [])
          | first :: rest =>
            let list := (separateLast list).append (.bare "li")
            let (list, defs) := modifyBelow (single .looseItem first) 1 list
            let (list, more) := addItems rest list
            (list, defs ++ more)) 1 parent)
      else if isListTag parent.tag then next blocks (addItems (items block) parent)
      else next blocks (modifyBelow (addItems (items block)) 1 (parent.append (.bare kind.tag)))
    | .alert kind =>
      let body := Text.unlines ((Text.lines ((block.dropWhile (· != '\n')).drop 1)).map fun line =>
        (afterQuoteMark? line).getD line)
      let (alert, defs) :=
        if Text.isBlankText body then (alertElement kind, [])
        else chunk place body (alertElement kind)
      next blocks (parent.append alert, defs)
    | .quotation above quoted =>
      let (parent, defs) := single place above parent
      let body := Text.unlines ((Text.lines quoted).map unquote)
      let continues := match parent.last? with
        | some last => last.tag == "blockquote"
        | none => false
      let parent := if continues then parent else parent.append (.bare "blockquote")
      let (parent, more) := modifyBelow (chunk .quote body) 1 parent
      next blocks (parent, defs ++ more)
    | .definition d above below =>
      let blocks := if Text.isBlankText below then blocks
        else Text.trimStart (· == '\n') below :: blocks
      let blocks := if Text.isBlankText above then blocks
        else Text.trimEnd (· == '\n') above :: blocks
      next blocks (parent, [d])
    | .paragraph => next blocks (addParagraph place block parent, [])

/-- The tree of a source and the link definitions in it, the latest last. -/
def parse (fences : List Fence) (source : Text) : Element × List LinkDefinition :=
  read fences (3 * source.length + 16) .flow (Text.splitOnText "\n\n" source) (.bare "div")

end Block

end ApiSite.Markup

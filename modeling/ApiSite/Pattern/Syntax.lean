import ApiSite.Text.Blank
import ApiSite.Text.WordChar
import ApiSite.Text.Entity

/-!
Patterns for names: regular expressions with groups, repetition, looks ahead and behind, and
references to groups. A text that breaks their rules is no pattern.
-/

set_option autoImplicit false

namespace ApiSite

/-- A class of characters that a letter after a backslash stands for. -/
inductive Pattern.Category where
  | digit
  | space
  | word
  deriving DecidableEq, Repr

/-- A member of a set of characters. -/
inductive Pattern.Member where
  | range (first last : Char)
  | category (c : Pattern.Category) (negated : Bool)
  deriving Repr

/-- How letters, lines and points are taken. -/
structure Pattern.Flags where
  ignoreCase : Bool := false
  multiLine : Bool := false
  dotAll : Bool := false
  verbose : Bool := false
  ascii : Bool := false
  deriving DecidableEq, Repr

/-- Which of the ways to repeat is tried first, and whether the others are. -/
inductive Pattern.Greed where
  | most
  | fewest
  | possessive
  deriving DecidableEq, Repr

/-- A place that a pattern can ask for. -/
inductive Pattern.Edge where
  | lineStart
  | lineEnd
  | textStart
  | textEnd
  | word
  | notWord
  deriving DecidableEq, Repr

/-- A pattern. -/
inductive Pattern where
  /-- Matches the empty text. -/
  | empty
  /-- Matches nothing. -/
  | fail
  | char (c : Char) (flags : Pattern.Flags)
  | oneOf (negated : Bool) (members : List Pattern.Member) (flags : Pattern.Flags)
  | any (flags : Pattern.Flags)
  | edge (e : Pattern.Edge) (flags : Pattern.Flags)
  | seq (first second : Pattern)
  | either (first second : Pattern)
  | iterate (least : Nat) (most : Option Nat) (greed : Pattern.Greed) (body : Pattern)
  | group (index : Nat) (body : Pattern)
  /-- Matches what a group has matched. -/
  | again (index : Nat) (flags : Pattern.Flags)
  /-- Matches in the first way only. -/
  | atomic (body : Pattern)
  | ahead (negated : Bool) (body : Pattern)
  /-- Looks back over a fixed number of characters. -/
  | behind (negated : Bool) (width : Nat) (body : Pattern)
  /-- One of two, according to whether a group has matched. -/
  | given (index : Nat) (yes no : Pattern)
  deriving Inhabited

namespace Pattern

/-- The least and the greatest length of what a pattern matches; no greatest where there is none. A
reference is as long as its group, given by `groups`. -/
def width (groups : List (Nat × Nat × Option Nat)) : Pattern → Nat × Option Nat
  | empty => (0, some 0)
  | fail => (0, some 0)
  | char _ _ => (1, some 1)
  | oneOf _ _ _ => (1, some 1)
  | any _ => (1, some 1)
  | edge _ _ => (0, some 0)
  | seq a b =>
    let (l, h) := width groups a
    let (l', h') := width groups b
    (l + l', h.bind fun h => h'.map (h + ·))
  | either a b =>
    let (l, h) := width groups a
    let (l', h') := width groups b
    (min l l', h.bind fun h => h'.map (max h))
  | iterate least most _ body =>
    let (l, h) := width groups body
    (l * least, most.bind fun m => h.map (m * ·))
  | group _ body => width groups body
  | again i _ =>
    match groups.find? (·.1 == i) with
    | some (_, w) => w
    | none => (0, some 0)
  | atomic body => width groups body
  | ahead _ _ => (0, some 0)
  | behind _ _ _ => (0, some 0)
  | given _ a b =>
    let (l, h) := width groups a
    let (l', h') := width groups b
    (min l l', h.bind fun h => h'.map (max h))

/-- The reading of a pattern: what is left of it, the number of groups, those that are open, the
lengths of those that are closed, their names, and what references must be known at the end. -/
structure Reader where
  rest : Text
  groups : Nat := 0
  openGroups : List Nat := []
  widths : List (Nat × Nat × Option Nat) := []
  names : List (Text × Nat) := []
  /-- How many groups there were before the outermost look behind. -/
  behindFrom : Option Nat := none
  mentioned : List Nat := []

/-- A step of the reading; it fails where the text is no pattern. -/
abbrev Reading := StateT Reader Option

def peek : Reading (Option Char) := do return (← get).rest.head?

def next? : Reading (Option Char) := do
  let r ← get
  set { r with rest := r.rest.drop 1 }
  return r.rest.head?

def next : Reading Char := do
  match ← next? with
  | some c => return c
  | none => failure

/-- Moves behind the next character if it is the given one. -/
def take? (c : Char) : Reading Bool := do
  if (← peek) == some c then
    let _ ← next?
    return true
  else return false

/-- Reads at most `n` characters of a class. -/
def takeWhile (n : Nat) (p : Char → Bool) : Reading Text := do
  let r ← get
  let t := (r.rest.take n).takeWhile p
  set { r with rest := r.rest.drop t.length }
  return t

/-- Reads a name up to a character that ends it; it may not be empty. -/
def takeUntil (ending : Char) : Reading Text := do
  let r ← get
  let t := r.rest.takeWhile (· != ending)
  if t.isEmpty || t.length == r.rest.length then failure
  set { r with rest := r.rest.drop (t.length + 1) }
  return t

def isOctal (c : Char) : Bool := '0' ≤ c && c ≤ '7'

def octalNumber (t : Text) : Nat := t.foldl (fun n c => 8 * n + (c.toNat - '0'.toNat)) 0

/-- The character with a number in hexadecimal digits, exactly as many as given. -/
def hexChar (width : Nat) : Reading Char := do
  let digits ← takeWhile width Text.isHexDigit
  let n := Text.hexadecimal digits
  if digits.length == width && n < 0x110000 then return Char.ofNat n else failure

/-- Characters that a letter after a backslash stands for. -/
def control? (c : Char) : Option Char :=
  match c with
  | 'a' => some '\x07'
  | 'f' => some '\x0c'
  | 'n' => some '\n'
  | 'r' => some '\r'
  | 't' => some '\t'
  | 'v' => some '\x0b'
  | '\\' => some '\\'
  | _ => none

/-- The class that a letter after a backslash stands for. -/
def category? (c : Char) : Option Member :=
  match c with
  | 'd' => some (.category .digit false)
  | 'D' => some (.category .digit true)
  | 's' => some (.category .space false)
  | 'S' => some (.category .space true)
  | 'w' => some (.category .word false)
  | 'W' => some (.category .word true)
  | _ => none

/-- The place that a letter after a backslash stands for. -/
def edge? (c : Char) : Option Edge :=
  match c with
  | 'A' => some .textStart
  | 'Z' => some .textEnd
  | 'b' => some .word
  | 'B' => some .notWord
  | _ => none

/-- A character by its number, after a backslash and the given letter. -/
def numberedChar? (c : Char) : Option (Reading Char) :=
  match c with
  | 'x' => some (hexChar 2)
  | 'u' => some (hexChar 4)
  | 'U' => some (hexChar 8)
  | _ => none

/-- A member of a set after a backslash. -/
def setEscape : Reading Member := do
  let c ← next
  let single (c : Char) : Member := .range c c
  if c == 'b' then return single '\x08'
  match control? c, category? c, numberedChar? c with
  | some c, _, _ => return single c
  | _, some m, _ => return m
  | _, _, some read => return single (← read)
  | none, none, none =>
    if isOctal c then
      let n := octalNumber (c :: (← takeWhile 2 isOctal))
      if n < 256 then return single (Char.ofNat n) else failure
    else if c.isDigit || c.isAlpha then failure
    else return single c

/-- The members of a set up to its closing bracket, which may stand first as a member. -/
def setMembers : Nat → List Member → Reading (List Member)
  | 0, _ => failure
  | fuel + 1, done => do
    let c ← next
    if c == ']' && !done.isEmpty then return done.reverse
    let first ← if c == '\\' then setEscape else pure (.range c c)
    if ← take? '-' then
      let d ← next
      if d == ']' then return (Member.range '-' '-' :: first :: done).reverse
      let last ← if d == '\\' then setEscape else pure (.range d d)
      match first, last with
      | .range a _, .range b _ =>
        if b.val < a.val then failure else setMembers fuel (.range a b :: done)
      | _, _ => failure
    else setMembers fuel (first :: done)

/-- A reference to a group, which must be closed, and outside of the look behind at hand. -/
def reference (index : Nat) (flags : Flags) : Reading Pattern := do
  let r ← get
  if r.openGroups.contains index || r.behindFrom.any (· < index) then failure
  else return .again index flags

/-- What follows a backslash outside of sets. -/
def escape (flags : Flags) : Reading Pattern := do
  let c ← next
  match edge? c, control? c, category? c, numberedChar? c with
  | some e, _, _, _ => return .edge e flags
  | _, some c, _, _ => return .char c flags
  | _, _, some m, _ => return .oneOf false [m] flags
  | _, _, _, some read => return .char (← read) flags
  | none, none, none, none =>
    if c == '0' then
      return .char (Char.ofNat (octalNumber (← takeWhile 2 isOctal))) flags
    else if c.isDigit then
      let second ← takeWhile 1 Char.isDigit
      let digits := c :: second
      let third ← peek
      if second.length == 1 && digits.all isOctal && third.any isOctal then
        let n := octalNumber (digits ++ (← takeWhile 1 isOctal))
        if n < 256 then return .char (Char.ofNat n) flags else failure
      else
        let index := (Text.toNat? digits).getD 0
        if index ≤ (← get).groups then reference index flags else failure
    else if c.isAlpha then failure
    else return .char c flags

/-- Whether a text can name a group. -/
def isName (t : Text) : Bool :=
  match t with
  | c :: rest => Text.isWord c && !Text.isAnyDigit c && rest.all Text.isWord
  | [] => false

/-- How often the item before braces repeats; nothing is read where the braces say no such thing. -/
def braces? : Reading (Option (Nat × Option Nat)) := do
  let start ← get
  let low ← takeWhile start.rest.length Char.isDigit
  let hasComma ← take? ','
  let high ← if hasComma then takeWhile start.rest.length Char.isDigit else pure low
  if start.rest.head? == some '\x7d' || !(← take? '\x7d') then
    set start
    return none
  let least := (Text.toNat? low).getD 0
  let most := Text.toNat? high
  if most.any (· < least) then failure
  return some (least, most)

/-- A flag by its letter. -/
def withFlag (on : Bool) (c : Char) (flags : Flags) : Option Flags :=
  match c with
  | 'i' => some { flags with ignoreCase := on }
  | 'm' => some { flags with multiLine := on }
  | 's' => some { flags with dotAll := on }
  | 'x' => some { flags with verbose := on }
  | 'a' => if on then some { flags with ascii := true } else none
  | 'u' => if on then some { flags with ascii := false } else none
  | _ => none

/-- Flags by their letters; `none` for the two that exclude each other, and for unknown letters. -/
def withFlags (on : Bool) (letters : Text) (flags : Flags) : Reading Flags :=
  if letters.contains 'a' && letters.contains 'u' then failure
  else letters.foldlM (fun flags c => StateT.lift (withFlag on c flags)) flags

/-- Flags in parentheses, from their first letter on; the truth value says that they hold for what
follows up to the closing parenthesis of their own. -/
def inlineFlags (flags : Flags) : Reading (Flags × Bool) := do
  let isLetter (c : Char) : Bool := c.isAlpha
  let added ← takeWhile (← get).rest.length isLetter
  let flags ← withFlags true added flags
  let c ← next
  if c == ')' then return (flags, false)
  else if c == ':' then return (flags, true)
  else if c == '-' then
    let removed ← takeWhile (← get).rest.length isLetter
    if removed.isEmpty || removed.any added.contains then failure
    let flags ← withFlags false removed flags
    if ← take? ':' then return (flags, true) else failure
  else failure

/-- What can be repeated: all but places and what is repeated already. -/
def isRepeatable : Pattern → Bool
  | edge _ _ => false
  | iterate _ _ _ _ => false
  | _ => true

/-- Items one after another. -/
def sequence (items : List Pattern) : Pattern :=
  match items with
  | [] => .empty
  | [p] => p
  | p :: rest => .seq p (sequence rest)

/-- Opens a group, with a name or without. -/
def openGroup (name : Option Text) : Reading Nat := do
  let r ← get
  let index := r.groups + 1
  if name.any fun n => r.names.any (·.1 == n) then failure
  set { r with
    groups := index
    openGroups := index :: r.openGroups
    names := name.toList.map (·, index) ++ r.names }
  return index

/-- Closes a group. -/
def closeGroup (index : Nat) (body : Pattern) : Reading Unit := modify fun r =>
  { r with
    openGroups := r.openGroups.filter (· != index)
    widths := (index, body.width r.widths) :: r.widths }

/-- The end of a group. -/
def closing : Reading Unit := do
  if !(← take? ')') then failure

mutual

/-- Reads alternatives. -/
def alternatives : Nat → Flags → (outermost : Bool) → Reading Pattern
  | 0, _, _ => failure
  | fuel + 1, flags, outermost => do
    let first ← items fuel flags outermost []
    if ← take? '|' then return .either first (← alternatives fuel flags false) else return first

/-- Reads items up to the end of an alternative, given those before in reverse. -/
def items : Nat → Flags → (outermost : Bool) → List Pattern → Reading Pattern
  | 0, _, _, _ => failure
  | fuel + 1, flags, outermost, done => do
    let put (p : Pattern) : Reading Pattern := items fuel flags outermost (p :: done)
    match ← peek with
    | none => return sequence done.reverse
    | some c =>
      if c == '|' || c == ')' then return sequence done.reverse
      let _ ← next?
      if flags.verbose && Text.isBlank c then items fuel flags outermost done
      else if flags.verbose && c == '#' then
        modify fun r => { r with rest := (r.rest.dropWhile (· != '\n')).drop 1 }
        items fuel flags outermost done
      else if c == '\\' then put (← escape flags)
      else if c == '[' then
        let negated ← take? '^'
        put (.oneOf negated (← setMembers fuel []) flags)
      else if c == '.' then put (.any flags)
      else if c == '^' then put (.edge .lineStart flags)
      else if c == '$' then put (.edge .lineEnd flags)
      else if c == '(' then
        if ← take? '?' then extension fuel flags outermost done
        else
          let index ← openGroup none
          let body ← alternatives fuel flags false
          closing
          closeGroup index body
          put (.group index body)
      else if c == '*' || c == '+' || c == '?' || c == '\x7b' then
        let times : Option (Nat × Option Nat) ←
          if c == '*' then pure (some (0, none))
          else if c == '+' then pure (some (1, none))
          else if c == '?' then pure (some (0, some 1))
          else braces?
        match times, done with
        | none, _ => put (.char c flags)
        | some _, [] => failure
        | some (least, most), p :: before =>
          if !isRepeatable p then failure
          let fewest ← take? '?'
          let possessive ← if fewest then pure false else take? '+'
          let greed : Greed :=
            if fewest then .fewest else if possessive then .possessive else .most
          items fuel flags outermost (.iterate least most greed p :: before)
      else put (.char c flags)

/-- Reads a group that begins with a question mark, and the items behind it. -/
def extension : Nat → Flags → (outermost : Bool) → List Pattern → Reading Pattern
  | 0, _, _, _ => failure
  | fuel + 1, flags, outermost, done => do
    let put (p : Pattern) : Reading Pattern := items fuel flags outermost (p :: done)
    match ← peek with
    | none => failure
    | some c =>
      if c == 'P' then
        let _ ← next?
        if ← take? '<' then
          let name ← takeUntil '>'
          if !isName name then failure
          let index ← openGroup (some name)
          let body ← alternatives fuel flags false
          closing
          closeGroup index body
          put (.group index body)
        else if ← take? '=' then
          let name ← takeUntil ')'
          match (← get).names.find? (·.1 == name) with
          | some (_, index) => put (← reference index flags)
          | none => failure
        else failure
      else if c == ':' then
        let _ ← next?
        let body ← alternatives fuel flags false
        closing
        -- a group of its own, so that it can be repeated whatever it holds
        put (.seq body .empty)
      else if c == '>' then
        let _ ← next?
        let body ← alternatives fuel flags false
        closing
        put (.atomic body)
      else if c == '#' then
        let r ← get
        let rest := r.rest.dropWhile (· != ')')
        if rest.isEmpty then failure
        set { r with rest := rest.drop 1 }
        items fuel flags outermost done
      else if c == '=' || c == '!' then
        let _ ← next?
        let body ← alternatives fuel flags false
        closing
        put (.ahead (c == '!') body)
      else if c == '<' then
        let _ ← next?
        let d ← next
        if d != '=' && d != '!' then failure
        let before := (← get).behindFrom
        modify fun r => { r with behindFrom := some (before.getD r.groups) }
        let body ← alternatives fuel flags false
        closing
        modify fun r => { r with behindFrom := before }
        let (least, most) := body.width (← get).widths
        if most != some least then failure
        put (.behind (d == '!') least body)
      else if c == '(' then
        let _ ← next?
        let name ← takeUntil ')'
        let r ← get
        let index ← if isName name then
            match r.names.find? (·.1 == name) with
            | some (_, index) => pure index
            | none => failure
          else
            match Text.toNat? name with
            | some (n + 1) => pure (n + 1)
            | _ => failure
        if r.behindFrom.any fun n => n < index || r.openGroups.contains index then failure
        modify fun r => { r with mentioned := index :: r.mentioned }
        let yes ← items fuel flags false []
        let no ← if ← take? '|' then items fuel flags false [] else pure .empty
        closing
        put (.given index yes no)
      else if c.isAlpha || c == '-' then
        let (inner, isScoped) ← inlineFlags flags
        if isScoped then
          let body ← alternatives fuel inner false
          closing
          put (.seq body .empty)
        else if outermost && done.isEmpty then items fuel inner outermost done
        else failure
      else failure

end

/-- Reads a pattern; `none` for a text that is none. -/
def ofText? (t : Text) : Option Pattern :=
  match (alternatives (4 * t.length + 8) {} true).run ⟨t, 0, [], [], [], none, []⟩ with
  | some (p, r) =>
    if r.rest.isEmpty && r.mentioned.all (· ≤ r.groups) then some p else none
  | none => none

end Pattern

end ApiSite

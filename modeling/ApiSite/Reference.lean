import ApiSite.Text.Blank
import ApiSite.Text.WordChar

/-!
References to declarations as a documentation text writes them: a path of names, with what its
spelling says about the kind of declaration that is meant.
-/

set_option autoImplicit false

namespace ApiSite

/-- A reference to a declaration. -/
structure Reference where
  /-- The reference as it is written. -/
  text : Text
  /-- The names of its path, from the outermost one on. -/
  parts : List Text
  /-- Parentheses behind it say that something to call is meant. -/
  wantsCallable : Bool
  /-- A word before it says that a constructor is meant. -/
  wantsConstructor : Bool
  deriving DecidableEq, Repr

namespace Reference

/-- The words for operators. -/
def operatorWords : List (Text × Text) :=
  [("[]", "get"), ("[]=", "put"), ("~", "bitwise_negate"), ("==", "equals"), ("-", "minus"),
    ("+", "plus"), ("*", "multiply"), ("/", "divide"), ("<", "less"), (">", "greater"),
    (">=", "greater_equal"), ("<=", "less_equal"), ("<<", "shift_left"), (">>", "shift_right"),
    (">>>", "triple_shift"), ("^", "bitwise_exclusive_or"), ("unary-", "unary_minus"),
    ("|", "bitwise_or"), ("&", "bitwise_and"), ("~/", "truncate_divide"), ("%", "modulo")]

/-- The word for an operator. -/
def operatorWord? (symbol : Text) : Option Text :=
  (operatorWords.find? (·.1 == symbol)).map (·.2)

/-- What follows a word that must have blanks behind it. -/
def afterSpacedWord? (word t : Text) : Option Text := do
  let rest ← Text.after? word t
  if rest.head?.any Text.isBlank then some (Text.stripStart rest) else none

/-- What follows a word that says that a constructor is meant. -/
def afterConstructorWord? (t : Text) : Option Text :=
  (afterSpacedWord? "new" t).or (afterSpacedWord? "const" t)

/-- A text without the line feed at its end. -/
def dropLastBreak (t : Text) : Text := Text.dropEnding "\n" t

/-- What stands before parentheses with nothing in them at the end. -/
def beforeCall? (t : Text) : Option Text :=
  match t.reverse with
  | ')' :: rest =>
    match rest.dropWhile Text.isBlank with
    | '(' :: before => some before.reverse
    | _ => none
  | _ => none

/-- A name without its type arguments: brackets may be nested, and a closing one that nothing opens
belongs to the name. -/
def dropArguments : (depth : Nat) → Text → Text
  | _, [] => []
  | depth, c :: t =>
    if c = '<' then dropArguments (depth + 1) t
    else
      match depth with
      | 0 => c :: dropArguments 0 t
      | d + 1 => dropArguments (if c = '>' then d else d + 1) t

def isOwnerChar (c : Char) : Bool := Text.isWord c || c == '$' || c == '.'

/-- The symbol that follows the word for operators. -/
def symbol? (t : Text) : Option Text := do
  let rest := Text.stripStart (← Text.after? "operator" t)
  let symbol := dropLastBreak rest
  if symbol.isEmpty || symbol.any Text.isBlank then none else some symbol

/-- The owner of an operator and its symbol, where the owner has `size` characters or fewer: the
longest owner counts. -/
def ownedOperator? (t : Text) : Nat → Option (Text × Text)
  | 0 => none
  | size + 1 =>
    match t.drop (size + 1) with
    | '.' :: rest =>
      match symbol? rest with
      | some symbol => some (t.take (size + 1), symbol)
      | none => ownedOperator? t size
    | _ => ownedOperator? t size

/-- An operator with the names before it. -/
def operator? (t : Text) : Option (List Text) :=
  match ownedOperator? t (t.takeWhile isOwnerChar).length with
  | some (owner, symbol) =>
    some ((Text.splitOn '.' owner).filter (fun p => !p.isEmpty) ++ [symbol])
  | none => (symbol? t).map ([·])

/-- The names of a path. -/
def pathOf (t : Text) : List Text :=
  let t := Text.trimEnd (fun c => c == '?' || c == '!') (dropArguments 0 t)
  ((Text.splitOn '.' t).map Text.strip).filter fun p => !p.isEmpty

/-- Reads a reference. -/
def parse (text : Text) : Reference :=
  let text := Text.strip text
  let (body, wantsConstructor) := match afterConstructorWord? text with
    | some rest => (rest, true)
    | none => (text, false)
  let (body, wantsCallable) := match beforeCall? body with
    | some before => (before, true)
    | none => (body, false)
  ⟨text, (operator? body).getD (pathOf body), wantsCallable, wantsConstructor⟩

/-- The path as one name. -/
def name (r : Reference) : Text := Text.join "." r.parts

end Reference

end ApiSite

import ApiSite.Markup.Inline.Rule
import ApiSite.Markup.Inline.Emphasis

/-!
Inline reading of a tree. Each text goes through the rules in their order, and emphasis is read
last; the text of an element that a rule recognised goes through the later rules only. Then the
recognised pieces become children in the places where they stand, and the children are read in
their turn.
-/

set_option autoImplicit false

namespace ApiSite.Markup.Inline

/-- Pieces that are still to be passed over: kept as they are, or part of what was recognised. -/
inductive Pending where
  | nothing
  | kept (size : Nat)
  | taken (size : Nat)

/-- Lets a rule go over a text once. `inside` reads the inside of an element that it recognised. -/
def pass (setting : Setting) (rule : Rule) (inside : Draft → Trace → Draft × Trace) :
    Option Piece → Pending → Pieces → Trace → Pieces × Trace
  | _, _, [], trace => ([], trace)
  | previous, .taken (n + 1), _ :: ps, trace =>
    pass setting rule inside previous (.taken n) ps trace
  | _, .kept (n + 1), p :: ps, trace =>
    let (rest, trace) := pass setting rule inside (some p) (.kept n) ps trace
    (p :: rest, trace)
  | previous, _, p :: ps, trace =>
    match rule setting trace previous (p :: ps) with
    | (.reject, trace) =>
      let (rest, trace) := pass setting rule inside (some p) .nothing ps trace
      (p :: rest, trace)
    | (.keep size, trace) =>
      let (rest, trace) := pass setting rule inside (some p) (.kept (size - 1)) ps trace
      (p :: rest, trace)
    | (.literal size text, trace) =>
      let piece := Piece.literal trace.next text
      let (rest, trace) := pass setting rule inside (some piece) (.taken (size - 1)) ps
        { trace with next := trace.next + 1 }
      (piece :: rest, trace)
    | (.element size node, trace) =>
      let (node, trace) := inside node trace
      let piece := Piece.element trace.next node
      let (rest, trace) := pass setting rule inside (some piece) (.taken (size - 1)) ps
        { trace with next := trace.next + 1 }
      (piece :: rest, trace)

/-- Reads texts of a run with `read`, unless it is closed. -/
def readRun (read : Pieces → Trace → Pieces × Trace) : Option Run → Trace → Option Run × Trace
  | some (.mk false ps), trace =>
    let (ps, trace) := read ps trace
    (some (.mk false ps), trace)
  | run, trace => (run, trace)

/-- Reads the texts of an element that was recognised and of its children: the texts with the later
rules, what follows a child with the same rule too. A closed element is left alone. -/
def readElement (later same : Pieces → Trace → Pieces × Trace) : Draft → Trace → Draft × Trace
  | .mk tag attrs (some (.mk true ps)) children tail, trace =>
    (.mk tag attrs (some (.mk true ps)) children tail, trace)
  | .mk tag attrs text children tail, trace =>
    let (text, trace) := readRun later text trace
    let (tail, trace) := readRun same tail trace
    let (children, trace) := children.foldl (fun (done, trace) child =>
      match child with
      | .mk tag attrs text inner tail =>
        let (text, trace) := readRun later text trace
        let (tail, trace) := readRun same tail trace
        (done ++ [Draft.mk tag attrs text inner tail], trace)) ([], trace)
    (.mk tag attrs text children tail, trace)

/-- Lets rules go over a text one after another, and then reads the emphasis in it. `nested` reads a
text within what a rule recognised. -/
def applyRules (setting : Setting) (nested : List Rule → Pieces → Trace → Pieces × Trace) :
    List Rule → Pieces → Trace → Pieces × Trace
  | [], ps, trace =>
    let (ps, next) := readEmphasis ps trace.next
    (ps, { trace with next := next })
  | rule :: later, ps, trace =>
    let inside := readElement (nested later) (nested (rule :: later))
    let (ps, trace) := pass setting rule inside none .nothing ps trace
    applyRules setting nested later ps trace

/-- Reads a text with the given rules; `fuel` bounds the nesting. -/
def readPieces (setting : Setting) : Nat → List Rule → Pieces → Trace → Pieces × Trace
  | 0, _, ps, trace => (ps, trace)
  | fuel + 1, rules, ps, trace => applyRules setting (readPieces setting fuel) rules ps trace

/-- Reads a text with all rules. -/
def readText (setting : Setting) (ps : Pieces) (trace : Trace) : Pieces × Trace :=
  readPieces setting (ps.length + 1) Rule.all ps trace

/-- A text and the elements in it, being put together: the text before the first element, and the
elements with what follows each, the latest first. -/
structure Assembly where
  text : Option Run := none
  elements : List Draft := []

/-- Two texts of which the second follows the first. -/
def joinRuns (ps : Pieces) (closed : Bool) : Option Run → Option Run
  | none => some (.mk closed ps)
  | some (.mk c []) => some (.mk c ps)
  | some (.mk _ qs) => some (.mk false (qs ++ ps))

/-- Adds characters after what is there. -/
def Assembly.addText (ps : Pieces) (closed : Bool) (a : Assembly) : Assembly :=
  if ps.isEmpty then a
  else
    match a.elements with
    | [] => { a with text := joinRuns ps closed a.text }
    | .mk tag attrs text children tail :: rest =>
      { a with elements := .mk tag attrs text children (joinRuns ps closed tail) :: rest }

mutual

/-- Puts the recognised pieces of a text in their places. `plain` are the characters since the last
of them, in reverse. -/
def assemble (closed : Bool) : (plain : Pieces) → List Piece → Assembly → Assembly
  | plain, [], a => a.addText plain.reverse closed
  | plain, .char c :: rest, a => assemble closed (.char c :: plain) rest a
  | plain, .literal _ t :: rest, a =>
    assemble closed [] rest ((a.addText plain.reverse false).addText (Pieces.ofText t) false)
  | plain, .element _ e :: rest, a =>
    let a := a.addText plain.reverse false
    assemble closed [] rest { a with elements := settle e :: a.elements }

/-- Puts the recognised pieces of an element's own text in their places, and those of its children's
texts; what lies deeper is left as it is. -/
def settle : Draft → Draft
  | .mk tag attrs text children tail =>
    let own := settleRun text
    let after := settleRun tail
    .mk tag attrs own.text
      (own.elements.reverse ++ after.elements.reverse ++ settleChildren children) after.text

def settleChildren : List Draft → List Draft
  | [] => []
  | .mk tag attrs text children tail :: rest =>
    let own := settleRun text
    let after := settleRun tail
    .mk tag attrs own.text (own.elements.reverse ++ children) after.text ::
      (after.elements.reverse ++ settleChildren rest)

def settleRun : Option Run → Assembly
  | none => {}
  | some (.mk closed ps) =>
    if Pieces.isBlank ps then { text := some (.mk closed ps) } else assemble closed [] ps {}

end

/-- A text of the tree read and put together: the text before the first element, and the
elements. -/
def readRunText (setting : Setting) (run : Option Run) (trace : Trace) :
    Option Run × List Draft × Trace :=
  match run with
  | none => (none, [], trace)
  | some (.mk closed ps) =>
    let (ps, trace) := if closed then (ps, trace) else readText setting ps trace
    let a := assemble closed [] ps {}
    (a.text, a.elements.reverse, trace)

/-- Whether an element's own text is still to be read. -/
def hasOpenText : Option Run → Bool
  | some (.mk false (_ :: _)) => true
  | _ => false

/-- Children in the middle of reading: an element, the elements recognised in its text, and whether
it had children before. -/
structure Visited where
  node : Draft
  found : List Draft
  hadChildren : Bool

/-- Reads the texts of elements in turn, and what follows each; the elements recognised there are
read as the next ones. `fuel` bounds their number. -/
def visitAll (setting : Setting) : Nat → List Draft → Trace → List Visited × Trace
  | 0, nodes, trace => (nodes.map fun e => ⟨e, [], false⟩, trace)
  | _, [], trace => ([], trace)
  | fuel + 1, .mk tag attrs text children tail :: rest, trace =>
    let (text, found, trace) :=
      if hasOpenText text then readRunText setting text trace else (text, [], trace)
    let (tail, after, trace) := readRunText setting tail trace
    let (visited, trace) := visitAll setting fuel (after ++ rest) trace
    (⟨.mk tag attrs text children tail, found, !children.isEmpty⟩ :: visited, trace)

/-- Reads the children of an element, and then the children of what it holds; `fuel` bounds depth
and number. -/
def readChildren (setting : Setting) : Nat → List Draft → Trace → List Draft × Trace
  | 0, nodes, trace => (nodes, trace)
  | fuel + 1, nodes, trace =>
    let inner (e : Draft) (trace : Trace) : Draft × Trace :=
      match e with
      | .mk tag attrs text children tail =>
        let (children, trace) := readChildren setting fuel children trace
        (.mk tag attrs text children tail, trace)
    let (visited, trace) := visitAll setting fuel nodes trace
    visited.foldl (fun (done, trace) v =>
      match v.node with
      | .mk tag attrs text children tail =>
        let (found, trace) := v.found.foldl (fun (done, trace) e =>
          let (e, trace) := inner e trace
          (done ++ [e], trace)) ([], trace)
        let node := Draft.mk tag attrs text (found ++ children) tail
        let (node, trace) := if v.hadChildren then inner node trace else (node, trace)
        (done ++ [node], trace)) ([], trace)

mutual

/-- A block's element under reading: code is closed. -/
def ofBlock : Element → Draft
  | .mk tag attrs text children tail =>
    .mk tag attrs (text.map fun t => .mk (tag == "code") (Pieces.ofText t)) (ofBlocks children)
      (tail.map fun t => .mk false (Pieces.ofText t))

def ofBlocks : List Element → List Draft
  | [] => []
  | e :: rest => ofBlock e :: ofBlocks rest

end

/-- The text of a run, marks for what is not in its place. -/
def runText : Option Run → Option Text
  | none => none
  | some (.mk _ ps) => some (Pieces.marked ps)

mutual

/-- The element that a draft has become. -/
def finished : Draft → Element
  | .mk tag attrs text children tail =>
    .mk tag attrs (runText text) (finishedAll children) (runText tail)

def finishedAll : List Draft → List Element
  | [] => []
  | e :: rest => finished e :: finishedAll rest

end

mutual

/-- How many characters and elements a tree holds. -/
def size : Element → Nat
  | .mk _ _ text children tail =>
    1 + (text.getD []).length + (tail.getD []).length + sizeAll children

def sizeAll : List Element → Nat
  | [] => 0
  | e :: rest => size e + sizeAll rest

end

/-- Reads the inline markup in the blocks of a document. -/
def read (setting : Setting) (root : Element) (trace : Trace) : Element × Trace :=
  match ofBlock root with
  | .mk tag attrs text children tail =>
    let (children, trace) := readChildren setting (8 * size root + 64) children trace
    (finished (.mk tag attrs text children tail), trace)

end ApiSite.Markup.Inline

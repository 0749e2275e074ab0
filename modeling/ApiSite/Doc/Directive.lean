import ApiSite.Text.Substitute
import ApiSite.Text.Blank

/-!
Directives of a documentation text: places where prepared markup is put in, marks that are dropped,
and blocks that a tool has answered, which are dropped too.
-/

set_option autoImplicit false

namespace ApiSite.Doc

/-- Stands for the address that all pages share. -/
def baseMark : Text := "%%__HTMLBASE_dartdoc_internal__%%"

/-- A mark that a generator leaves between paragraphs. -/
def paragraphMark : Text := "DARTDOC_PARAGRAPH_BREAK"

def isDigestChar (c : Char) : Bool := c.isDigit || ('a' ≤ c && c ≤ 'f')

/-- A digest in front between two texts, and what follows. -/
def digestBetween? (before after t : Text) : Option (Text × Text) := do
  let t ← Text.after? before t
  let digest := t.takeWhile isDigestChar
  let rest ← Text.after? after (t.drop digest.length)
  if digest.isEmpty then none else some (digest, rest)

/-- The mark that takes the place of prepared markup while a text is read. -/
def fragmentMark (digest : Text) : Text := "DARTDOC_INJECT\x7b" ++ digest ++ "\x7d"

/-- Puts a mark where a directive names prepared markup. -/
def markFragment : Text.Rule := fun t =>
  (digestBetween? "<dartdoc-html>" "</dartdoc-html>" t).map fun (digest, rest) =>
    Text.upTo t rest (fragmentMark digest)

/-- Puts prepared markup where a mark names it; unknown digests have none. -/
def insertFragment (fragments : Text → Text) : Text.Rule := fun t =>
  (digestBetween? "DARTDOC_INJECT\x7b" "\x7d" t).map fun (digest, rest) =>
    Text.upTo t rest (fragments digest)

/-- What follows a block that a tool has answered, with the spaces around it and one line feed
behind it. -/
def afterTool? (t : Text) : Option Text := do
  let t ← Text.after? "\x7b@tool" (t.dropWhile (· == ' '))
  if t.head?.any Text.isBlank then
    match t.dropWhile (· != '\x7d') with
    | [] => none
    | _ :: t =>
      let (_, rest) ← Text.cut? "\x7b@end-tool\x7d" t
      some (Text.dropStart "\n" (rest.dropWhile (· == ' ')))
  else none

/-- Drops a block that a tool has answered. -/
def dropTool : Text.Rule := fun t => (afterTool? t).map fun rest => Text.upTo t rest []

/-- A documentation text with its directives resolved. -/
def resolveDirectives (t : Text) : Text :=
  let t := Text.substitute markFragment t
  let t := Text.replace paragraphMark [] (Text.replace baseMark [] t)
  Text.substitute dropTool t

end ApiSite.Doc

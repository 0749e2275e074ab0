import ApiSite.Text.Basic

/-!
Files of text as they are read: in UTF-8, with line ends of every kind as line feeds.
-/

set_option autoImplicit false

namespace ApiSite

/-- What reading a file gives. -/
inductive Source where
  /-- There is no file. -/
  | missing
  /-- The file is no text in UTF-8. -/
  | binary
  | text (t : Text)

/-- The text that bytes are. -/
def Source.ofBytes (bytes : ByteArray) : Source :=
  match String.fromUTF8? bytes with
  | some s => .text (Text.unifyLineEnds s.toList)
  | none => .binary

end ApiSite

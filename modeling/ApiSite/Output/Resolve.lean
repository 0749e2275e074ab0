import ApiSite.Output.Disk

/-!
Where a path leads once its links are followed. Paths here begin with what stands before the first
slash, so that the root of all files is the empty text.
-/

set_option autoImplicit false

namespace ApiSite.Output.Path

/-- The directory around a path; that of the outermost one is itself. -/
def parent : Path → Path
  | [] => []
  | [top] => [top]
  | a :: b :: rest => a :: (b :: rest).dropLast

/-- Parts that stay where they are. -/
def isHere (part : Text) : Bool := part.isEmpty || part == ['.']

/-- Walks along parts without following links. -/
def walk : Path → List Text → Path
  | p, [] => p
  | p, part :: rest =>
    if isHere part then walk p rest
    else if part == ['.', '.'] then walk (parent p) rest
    else walk (p ++ [part]) rest

/-- Where the parts of a text begin: at the root of all files if a slash stands in front. -/
def startOf (t : Text) (here : Path) : Path := if t.head? == some '/' then [[]] else here

/-- Walks along parts and follows links, where `active` are those that are being followed and
`depth` bounds how many can be. A link that leads back to itself is an error, at the path where this
shows. -/
def follow (link? : Path → Option Text) (depth : Nat) (active : List Path) (p : Path) :
    List Text → Except Path Path
  | [] => .ok p
  | part :: rest =>
    if isHere part then follow link? depth active p rest
    else if part == ['.', '.'] then follow link? depth active (parent p) rest
    else
      let next := p ++ [part]
      match link? next with
      | none => follow link? depth active next rest
      | some target =>
        match depth with
        | 0 => .error (walk next rest)
        | depth + 1 =>
          if active.contains next then .error (walk next rest)
          else
            match follow link? depth (next :: active) (startOf target p)
                (Text.splitOn '/' target) with
            | .ok found => follow link? (depth + 1) active found rest
            | .error found => .error (walk found rest)
  termination_by parts => (depth, parts.length)

end ApiSite.Output.Path

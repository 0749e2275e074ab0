import ApiSite.Data.Display

/-!
Laying one mapping over another. Mappings merge key by key, and other values replace what they are
laid over; the lists under a few keys add to each other instead.
-/

set_option autoImplicit false

namespace ApiSite.Value

/-- The keys whose lists add to the ones below. -/
def additiveKeys : List Text := ["allowed_iframe_hosts", "internal_names"]

def isAdditive : Value → Bool
  | text t => additiveKeys.contains t
  | _ => false

/-- The texts of two lists in order, each once. -/
def union (below above : List Value) : List Value :=
  let texts := (below ++ above).map shown
  ((texts.mergeSort Text.le).eraseDups).map text

mutual

/-- What a value under a key becomes when another is laid over it. -/
def overlay (key : Value) (below : Option Value) : Value → Value
  | mapping above =>
    match below with
    | some (mapping entries) => mapping (overlayAll entries above)
    | _ => mapping above
  | list above =>
    match below with
    | some (list items) => if key.isAdditive then list (union items above) else list above
    | _ => list above
  | v => v

/-- Entries with others laid over them: those with known keys keep their places. -/
def overlayAll (entries : List (Value × Value)) : List (Value × Value) → List (Value × Value)
  | [] => entries
  | (k, v) :: rest => overlayAll (assign k (overlay k (find? k entries) v) entries) rest

end

/-- A mapping laid over another. -/
def merge (below above : List (Value × Value)) : List (Value × Value) := overlayAll below above

end ApiSite.Value

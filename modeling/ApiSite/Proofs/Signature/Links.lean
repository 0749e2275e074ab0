import ApiSite.Proofs.Signature.Elements

/-!
# The links of a signature

A signature is markup in which the names of types are links. It is read again here (`typeLinks`),
with no regard to how it was written: a link is an opening tag `a` with an address in quotation
marks, of the class of links to types.

A piece of markup has links only to some addresses if it adds no other ones to whatever stands
behind it (`HasLinksTo`). Such pieces can be put together, what has no opening bracket has no links,
and the opening tag of a link adds its address. So the links of a signature lead to addresses of
public entities (`IsPublicAddress`), provided that these have no quotation marks in them, which
would end an address early (`hasLinksTo_of_isDeclaration`).
-/

set_option autoImplicit false

namespace ApiSite.Signature

open Model

/-! ### Reading links -/

/-- The address of a link to a type in front of a text, and what follows the opening tag. -/
def typeLink? (t : Text) : Option (Text × Text) := do
  let rest ← Text.after? "<a href=\"" t
  let address := rest.takeWhile (· != '"')
  let after ← Text.after? "\" class=\"type-link\">" (rest.drop address.length)
  some (address, after)

/-- The addresses of the links to types in a text. The counter says how many characters of an
opening tag are still to be passed over. -/
def typeLinksFrom : Nat → Text → List Text
  | _, [] => []
  | k + 1, _ :: t => typeLinksFrom k t
  | 0, c :: t =>
    match typeLink? (c :: t) with
    | some (address, after) => address :: typeLinksFrom (t.length - after.length) t
    | none => typeLinksFrom 0 t

/-- The addresses of the links to types in a text. -/
def typeLinks (t : Text) : List Text := typeLinksFrom 0 t

variable {P : Text → Prop} {site : Site} {s t url : Text} {c : Char}

theorem typeLinksFrom_append (s t : Text) : typeLinksFrom s.length (s ++ t) = typeLinks t := by
  induction s with
  | nil => rfl
  | cons c s ih => exact ih

theorem typeLinks_cons_of_ne (hc : c ≠ '<') (t : Text) : typeLinks (c :: t) = typeLinks t := by
  have hnone : typeLink? (c :: t) = none := by
    have hstart : Text.after? "<a href=\"" (c :: t) = none := if_neg hc.symm
    rw [typeLink?, hstart]
    rfl
  rw [typeLinks, typeLinksFrom, hnone]
  rfl

/-- The opening tag of a link to a type. -/
def linkOpening (url : Text) : Text := "<a href=\"" ++ (url ++ "\" class=\"type-link\">")

theorem typeLink?_linkOpening (hurl : '"' ∉ url) (t : Text) :
    typeLink? (linkOpening url ++ t) = some (url, t) := by
  let tail : Text := "\" class=\"type-link\">"
  have happend : linkOpening url ++ t = "<a href=\"".toList ++ (url ++ (tail ++ t)) :=
    (List.append_assoc _ _ _).trans (congrArg _ (List.append_assoc _ _ _))
  have hstart : Text.after? "<a href=\"" ("<a href=\"".toList ++ (url ++ (tail ++ t))) =
      some (url ++ (tail ++ t)) := rfl
  have hvalue : (url ++ (tail ++ t)).takeWhile (· != '"') = url := Text.takeWhile_append_stop hurl
  have hend : Text.after? "\" class=\"type-link\">" (tail ++ t) = some t := rfl
  rw [happend, typeLink?, hstart]
  simp only [Option.bind_eq_bind, Option.bind_some, hvalue, List.drop_left, hend]

/-- An opening tag is passed over as a whole. -/
theorem typeLinks_linkOpening (hurl : '"' ∉ url) (t : Text) :
    typeLinks (linkOpening url ++ t) = url :: typeLinks t := by
  obtain ⟨rest, hrest⟩ : ∃ rest, linkOpening url = '<' :: rest := ⟨_, rfl⟩
  have hlink := typeLink?_linkOpening hurl t
  have hlength : (rest ++ t).length - t.length = rest.length := by simp
  rw [hrest, List.cons_append] at hlink ⊢
  rw [typeLinks, typeLinksFrom, hlink]
  simp only [hlength, typeLinksFrom_append]

/-! ### Pieces of markup -/

/-- A piece of markup adds only links to certain addresses. -/
def HasLinksTo (P : Text → Prop) (s : Text) : Prop :=
  ∀ rest, ∀ address ∈ typeLinks (s ++ rest), P address ∨ address ∈ typeLinks rest

theorem HasLinksTo.all (h : HasLinksTo P s) : ∀ address ∈ typeLinks s, P address := by
  intro address haddress
  rw [← List.append_nil s] at haddress
  exact (h [] address haddress).resolve_right List.not_mem_nil

theorem hasLinksTo_nil : HasLinksTo P [] := fun _ _ h ↦ Or.inr h

theorem HasLinksTo.append (hs : HasLinksTo P s) (ht : HasLinksTo P t) : HasLinksTo P (s ++ t) := by
  intro rest address h
  rw [List.append_assoc] at h
  exact (hs _ address h).elim Or.inl (ht rest address)

/-- Without an opening bracket there are no links. -/
theorem hasLinksTo_of_not_mem (hs : '<' ∉ s) : HasLinksTo P s := by
  induction s with
  | nil => exact hasLinksTo_nil
  | cons c s ih =>
    intro rest address h
    rw [List.cons_append, typeLinks_cons_of_ne (List.ne_of_not_mem_cons hs).symm] at h
    exact ih (List.not_mem_of_not_mem_cons hs) rest address h

/-! ### The links of markup -/

theorem hasLinksTo_opening {e : Element} (he : e.IsKnown P) (hplain : ∀ url, P url → '"' ∉ url) :
    HasLinksTo P e.opening := by
  cases e with
  | span className =>
    have hstart : HasLinksTo P ("<span class=\"" : Text) := fun _ _ h ↦ Or.inr h
    have hclasses : ∀ c ∈ spanClasses, '<' ∉ c := by decide
    exact hstart.append ((hasLinksTo_of_not_mem (hclasses className he)).append
      (hasLinksTo_of_not_mem (by decide)))
  | link url =>
    intro rest address h
    rw [show (Element.link url).opening = linkOpening url from rfl,
      typeLinks_linkOpening (hplain url he)] at h
    rcases List.mem_cons.mp h with rfl | h
    · exact Or.inl he
    · exact Or.inr h

theorem hasLinksTo_closing (e : Element) : HasLinksTo P e.closing := by
  cases e <;> exact fun _ _ h ↦ Or.inr h

theorem Shows.hasLinksTo {v : Text} (hs : Shows P s v) (hplain : ∀ url, P url → '"' ∉ url) :
    HasLinksTo P s := by
  induction hs with
  | nil => exact hasLinksTo_nil
  | char c _ ih => exact (hasLinksTo_of_not_mem (brackets_not_mem_escapeChar c).1).append ih
  | element e he _ _ hinner hrest =>
    exact (hasLinksTo_opening he hplain).append
      (hinner.append ((hasLinksTo_closing e).append hrest))

/-- No address ends at a quotation mark within it. -/
def HasPlainAddresses (site : Site) : Prop := ∀ url, IsPublicAddress site url → '"' ∉ url

/-- The links of signatures lead to addresses of public entities. -/
theorem hasLinksTo_of_isDeclaration (hplain : HasPlainAddresses site)
    (hs : IsDeclaration site s) : HasLinksTo (IsPublicAddress site) s := by
  obtain ⟨v, hshows⟩ := isMarkup_of_isDeclaration hasUrls_isPublicAddress hs
  exact hshows.hasLinksTo hplain

end ApiSite.Signature

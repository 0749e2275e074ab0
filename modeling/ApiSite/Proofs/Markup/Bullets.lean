import ApiSite.Proofs.Doc.Prose

/-!
# Nested bullets and their lines

A forest of bullets is written one to a line, two spaces deeper for each level. Reading it cuts the
lines of a list into its items: a bullet's word, and the lines of the bullets below it as one text
(`itemsFrom_bullets`). That text is a list of its own once its indent is taken off
(`unindentEach_bulletsText`), so the items are read by recursion on the forest (`addItem_bullets`),
and a source of bullets is one list (`parse_bulletsText`).
-/

set_option autoImplicit false

namespace ApiSite.Markup

open Doc (Word)
open Text (lines unlines startsWith)

/-- A bullet: its word, and the bullets below it. -/
inductive Bullet where
  | mk (word : Word) (below : List Bullet)

/-- The line of a bullet behind an indent. -/
def bulletLine (indent : Nat) (w : Word) : Text := Text.spaces indent ++ '-' :: ' ' :: w.letters

mutual

/-- The lines of a bullet at a level. -/
def Bullet.lines (level : Nat) : Bullet → List Text
  | .mk word below => bulletLine (2 * level) word :: bulletsLines (level + 1) below

/-- The lines of bullets at a level. -/
def bulletsLines (level : Nat) : List Bullet → List Text
  | [] => []
  | b :: bs => b.lines level ++ bulletsLines level bs

end

/-- Bullets at a level as a text. -/
def bulletsText (level : Nat) (bs : List Bullet) : Text := unlines (bulletsLines level bs)

/-- The list of some items, where there are any. -/
def listsOf : List Element → List Element
  | [] => []
  | e :: es => [.mk "ul" [] none (e :: es) none]

mutual

/-- The item of a bullet. -/
def Bullet.element : Bullet → Element
  | .mk word below => .mk "li" [] (some word.letters) (listsOf (bulletElements below)) none

/-- The items of bullets. -/
def bulletElements : List Bullet → List Element
  | [] => []
  | b :: bs => b.element :: bulletElements bs

end

variable {b : Bullet} {bs : List Bullet} {w : Word} {line t : Text} {x : Char} {n level : Nat}

/-! ### Lines -/

mutual

theorem Bullet.exists_of_mem_lines (level : Nat) :
    ∀ b : Bullet, line ∈ b.lines level → ∃ n w, 2 * level ≤ n ∧ line = bulletLine n w
  | .mk word below => fun hline ↦ by
    rw [Bullet.lines] at hline
    rcases List.mem_cons.mp hline with rfl | hline
    · exact ⟨2 * level, word, Nat.le_refl _, rfl⟩
    · obtain ⟨n, w, hn, heq⟩ := exists_of_mem_bulletsLines (level + 1) below hline
      exact ⟨n, w, by omega, heq⟩

/-- Every line is that of some bullet, at its level or deeper. -/
theorem exists_of_mem_bulletsLines (level : Nat) :
    ∀ bs : List Bullet, line ∈ bulletsLines level bs →
      ∃ n w, 2 * level ≤ n ∧ line = bulletLine n w
  | [] => fun hline ↦ by
    rw [bulletsLines] at hline
    cases hline
  | b :: bs => fun hline ↦ by
    rw [bulletsLines] at hline
    rcases List.mem_append.mp hline with hline | hline
    · exact b.exists_of_mem_lines level hline
    · exact exists_of_mem_bulletsLines level bs hline

end

theorem bulletLine_add (m : Nat) : bulletLine (m + n) w = Text.spaces m ++ bulletLine n w := by
  rw [bulletLine, bulletLine, Text.spaces, List.replicate_add, List.append_assoc]

mutual

theorem Bullet.lines_succ (level : Nat) :
    ∀ b : Bullet, b.lines (level + 1) = (b.lines level).map (Text.spaces 2 ++ ·)
  | .mk word below => by
    rw [Bullet.lines, Bullet.lines, List.map_cons, bulletsLines_succ (level + 1) below,
      ← bulletLine_add, Nat.mul_add, Nat.mul_one, Nat.add_comm]

/-- One level deeper, each line has two spaces more. -/
theorem bulletsLines_succ (level : Nat) :
    ∀ bs : List Bullet,
      bulletsLines (level + 1) bs = (bulletsLines level bs).map (Text.spaces 2 ++ ·)
  | [] => rfl
  | b :: bs => by
    rw [bulletsLines, bulletsLines, List.map_append, b.lines_succ, bulletsLines_succ level bs]

end

/-- The characters of bullets. -/
def isBulletChar (c : Char) : Bool := c.isAlpha || c == ' ' || c == '-' || c == '\n'

theorem isBulletChar_of_mem_bulletLine (hx : x ∈ bulletLine n w) : isBulletChar x = true := by
  rcases List.mem_append.mp hx with hx | hx
  · rw [List.eq_of_mem_replicate hx]
    rfl
  · rcases List.mem_cons.mp hx with rfl | hx
    · rfl
    rcases List.mem_cons.mp hx with rfl | hx
    · rfl
    · simp [isBulletChar, w.isAlpha x hx]

theorem newline_not_mem_bulletLine : '\n' ∉ bulletLine n w := by
  have hletters : '\n' ∉ w.letters := Text.not_mem_of_all w.isAlpha rfl
  simp [bulletLine, hletters]

theorem newline_not_mem_of_mem_bulletsLines (hline : line ∈ bulletsLines level bs) :
    '\n' ∉ line := by
  obtain ⟨n, w, -, rfl⟩ := exists_of_mem_bulletsLines level bs hline
  exact newline_not_mem_bulletLine

theorem bulletsLines_ne_nil (hbs : bs ≠ []) : bulletsLines level bs ≠ [] := by
  obtain ⟨⟨word, below⟩, bs, rfl⟩ := List.exists_cons_of_ne_nil hbs
  rw [bulletsLines, Bullet.lines, List.cons_append]
  exact List.cons_ne_nil _ _

theorem lines_bulletsText (hbs : bs ≠ []) : lines (bulletsText level bs) = bulletsLines level bs :=
  Text.splitOn_join (bulletsLines_ne_nil hbs) fun _ ↦ newline_not_mem_of_mem_bulletsLines

theorem isBulletChar_of_mem_bulletsText (hx : x ∈ bulletsText level bs) :
    isBulletChar x = true := by
  rcases Text.mem_of_mem_join hx with hx | ⟨line, hline, hx⟩
  · rw [List.mem_singleton.mp hx]
    rfl
  · obtain ⟨n, w, -, rfl⟩ := exists_of_mem_bulletsLines level bs hline
    exact isBulletChar_of_mem_bulletLine hx

theorem not_mem_bulletsText (hx : isBulletChar x = false) : x ∉ bulletsText level bs :=
  Text.not_mem_of_all (fun _ ↦ isBulletChar_of_mem_bulletsText) hx

/-- Bullets begin with the indent and the mark of the first one. -/
theorem exists_bulletsText_eq (level : Nat) (hbs : bs ≠ []) :
    ∃ rest, bulletsText level bs = Text.spaces (2 * level) ++ '-' :: ' ' :: rest := by
  obtain ⟨⟨word, below⟩, bs, rfl⟩ := List.exists_cons_of_ne_nil hbs
  have hlines : bulletsLines level (.mk word below :: bs) =
      bulletLine (2 * level) word :: (bulletsLines (level + 1) below ++ bulletsLines level bs) := by
    rw [bulletsLines, Bullet.lines, List.cons_append]
  rw [bulletsText, hlines]
  cases bulletsLines (level + 1) below ++ bulletsLines level bs with
  | nil => exact ⟨word.letters, rfl⟩
  | cons line rest => exact ⟨_, List.append_assoc _ _ _⟩

theorem exists_bulletsText_last (level : Nat) (hbs : bs ≠ []) :
    ∃ t c, bulletsText level bs = t ++ [c] ∧ Text.isBlank c = false := by
  obtain hnil | ⟨before, line, hlines⟩ := List.eq_nil_or_concat (bulletsLines level bs)
  · exact absurd hnil (bulletsLines_ne_nil hbs)
  rw [List.concat_eq_append] at hlines
  have hline : line ∈ bulletsLines level bs := by simp [hlines]
  obtain ⟨n, w, -, rfl⟩ := exists_of_mem_bulletsLines level bs hline
  obtain ⟨t, ht⟩ := Text.exists_join_concat (t := bulletLine n w) ['\n'] before
  obtain ⟨letters, c, hletters, hc⟩ := w.exists_last
  refine ⟨t ++ (Text.spaces n ++ '-' :: ' ' :: letters), c, ?_, ?_⟩
  · rw [bulletsText, hlines, unlines, ht, bulletLine, hletters]
    simp
  · exact isBlank_of_isAlpha hc

/-- A list below an item is a list like any other without its indent. -/
theorem unindentEach_bulletsText (hbs : bs ≠ []) :
    Block.unindentEach 2 (bulletsText (level + 1) bs) = bulletsText level bs := by
  have hline (line : Text) : (if startsWith (Text.spaces 2) (Text.spaces 2 ++ line) then
      (Text.spaces 2 ++ line).drop 2 else Text.spaces 2 ++ line) = line := rfl
  rw [Block.unindentEach, lines_bulletsText hbs, bulletsLines_succ, List.map_map, bulletsText]
  congr 1
  exact (List.map_congr_left fun line _ ↦ hline line).trans (List.map_id _)

/-! ### What a list is not -/

namespace Block

theorem indentOf_bulletLine : indentOf (bulletLine n w) = n := by
  simp [indentOf, Text.countStart, bulletLine, isSpace, List.takeWhile_append]

theorem marker?_bullet (w : Word) :
    marker? ('-' :: ' ' :: w.letters) = some (.bullet, w.letters) := by
  obtain ⟨c, rest, hletters, hc⟩ := w.exists_head
  have hspace : c ≠ ' ' := ne_of_isAlpha hc rfl
  have hdrop : (' ' :: w.letters).dropWhile isSpace = w.letters := by
    rw [hletters]
    simp [isSpace, hspace]
  simp [marker?, hdrop]

theorem indentedMarker?_bulletLine {low high : Nat} : indentedMarker? low high (bulletLine n w) =
    if low ≤ n ∧ n ≤ high then some (.bullet, w.letters) else none := by
  have hdrop : (bulletLine n w).drop n = '-' :: ' ' :: w.letters := by simp [bulletLine]
  simp only [indentedMarker?, indentOf_bulletLine, hdrop, marker?_bullet]

theorem isRule_bulletLine : isRule (bulletLine n w) = false := by
  have hdrop : (bulletLine n w).drop n = '-' :: ' ' :: w.letters := by simp [bulletLine]
  obtain ⟨c, rest, hletters, hc⟩ := w.exists_head
  have hspace : c ≠ ' ' := ne_of_isAlpha hc rfl
  have hdash : c ≠ '-' := ne_of_isAlpha hc rfl
  have hmarks : ruleMarks '-' 2 (' ' :: c :: rest) = false := by
    rw [ruleMarks.eq_def]
    simp [isSpace, hspace, hdash]
  simp [isRule, indentOf_bulletLine, hdrop, hletters, hmarks]

/-- A dash before a space underlines nothing. -/
theorem underlined?_bulletsText (level : Nat) (hbs : bs ≠ []) :
    underlined? (bulletsText level bs) = none := by
  rw [underlined?, lines_bulletsText hbs]
  split
  · next title line rest hlines =>
    have hline : line ∈ bulletsLines level bs := by simp [hlines]
    obtain ⟨n, w, -, rfl⟩ := exists_of_mem_bulletsLines level bs hline
    have hdouble : startsWith ['='] (bulletLine n w) = false :=
      Text.startsWith_eq_false List.mem_cons_self
        (Text.not_mem_of_all (fun _ ↦ isBulletChar_of_mem_bulletLine) rfl)
    have hsingle : (startsWith ['-'] (bulletLine n w) &&
        ((bulletLine n w).dropWhile (· == '-')).all isSpace) = false := by
      cases n with
      | zero =>
        obtain ⟨c, rest, hletters, hc⟩ := w.exists_head
        have hspace : c ≠ ' ' := ne_of_isAlpha hc rfl
        simp [bulletLine, hletters, isSpace, hspace]
      | succ n => rfl
    simp [hdouble, hsingle]
  · rfl

/-- Bullets without an indent are a list, wherever they stand. -/
theorem formOf_bulletsText (hbs : bs ≠ []) {place : Place} {parent : Element} :
    formOf [] place parent (bulletsText 0 bs) = .list .bullet := by
  have hrule : rule? (lines (bulletsText 0 bs)) = none := by
    refine rule?_eq_none_of_lines fun line hline ↦ ?_
    rw [lines_bulletsText hbs] at hline
    obtain ⟨n, w, -, rfl⟩ := exists_of_mem_bulletsLines 0 bs hline
    exact isRule_bulletLine
  have hlayout : TableRow.layout? (lines (bulletsText 0 bs)) = none :=
    layout?_eq_none (not_mem_bulletsText rfl)
  have hheading : heading? (bulletsText 0 bs) = none := heading?_eq_none (not_mem_bulletsText rfl)
  have hunderlined := underlined?_bulletsText 0 hbs
  obtain ⟨rest, htext⟩ := exists_bulletsText_eq 0 hbs
  have htext : bulletsText 0 bs = '-' :: ' ' :: rest := htext
  rw [htext] at hrule hlayout hheading hunderlined ⊢
  have hnest : startsWith (Text.spaces nestWidth) ('-' :: ' ' :: rest) = false := rfl
  have hcode : startsWith (Text.spaces codeWidth) ('-' :: ' ' :: rest) = false := rfl
  have hline : startsWith ['\n'] ('-' :: ' ' :: rest) = false := rfl
  have hindented : indentedMarker? 0 3 ('-' :: ' ' :: rest) =
      some (.bullet, (' ' :: rest).dropWhile isSpace) := rfl
  simp [formOf, isNested, hnest, hcode, hline, hrule, hlayout, hheading, hunderlined, startsList,
    hindented]

/-- The bullets below an item are nested in it. -/
theorem formOf_nested (hbs : bs ≠ []) {place : Place} (hplace : place ≠ .unindented)
    {parent : Element} (hparent : parent.tag = "li") :
    formOf [] place parent (bulletsText 1 bs) = .nested := by
  obtain ⟨rest, htext⟩ := exists_bulletsText_eq 1 hbs
  have htext : bulletsText 1 bs = ' ' :: ' ' :: '-' :: ' ' :: rest := htext
  have hline : startsWith ['\n'] (' ' :: ' ' :: '-' :: ' ' :: rest) = false := rfl
  have hnest : startsWith (Text.spaces nestWidth) (' ' :: ' ' :: '-' :: ' ' :: rest) = true := rfl
  rw [htext]
  simp [formOf, isNested, hline, hnest, hplace, hparent]

/-! ### Items -/

/-- The bullets below an item as one text, where there are any. -/
def nestedTexts (bs : List Bullet) : List Text := if bs.isEmpty then [] else [bulletsText 1 bs]

/-- What a list has for a bullet: an item for its word, and one for the bullets below it. -/
def itemTexts : Bullet → List Text
  | .mk word below => word.letters :: nestedTexts below

/-- The lines of a nested list continue the item that its first line began. -/
theorem itemsFrom_continue {nested : Text} {items rest : List Text} {ls : List Text}
    (hnested : startsWith (Text.spaces nestWidth) nested = true)
    (hls : ∀ line ∈ ls, ∃ n w, 2 ≤ n ∧ line = bulletLine n w) :
    itemsFrom (nested :: items) (ls ++ rest) =
      itemsFrom (unlines (nested :: ls) :: items) rest := by
  induction ls generalizing nested with
  | nil => rfl
  | cons line ls ih =>
    obtain ⟨n, w, hn, rfl⟩ := hls line List.mem_cons_self
    have hown : indentedMarker? 0 (nestWidth - 1) (bulletLine n w) = none := by
      rw [indentedMarker?_bulletLine, if_neg (by simp only [nestWidth]; omega)]
    have hlonger : startsWith (Text.spaces nestWidth) (nested ++ '\n' :: bulletLine n w) =
        true := by
      rw [startsWith, List.isPrefixOf_iff_prefix] at hnested ⊢
      exact hnested.trans (List.prefix_append _ _)
    have hjoin : unlines ((nested ++ '\n' :: bulletLine n w) :: ls) =
        unlines (nested :: bulletLine n w :: ls) := by
      cases ls <;> simp [unlines, Text.join]
    rw [List.cons_append, itemsFrom, hown]
    simp only [List.headD_cons, hnested, Bool.not_true, Bool.and_false, Bool.false_eq_true,
      if_false, continueItem]
    rw [ih hlonger fun l hl ↦ hls l (List.mem_cons_of_mem _ hl), hjoin]

/-- The lines of a nested list become one item after that of its bullet. -/
theorem itemsFrom_nested {first : Text} {items rest : List Text}
    (hfirst : startsWith (Text.spaces nestWidth) first = false) (hbs : bs ≠ []) :
    itemsFrom (first :: items) (bulletsLines 1 bs ++ rest) =
      itemsFrom (bulletsText 1 bs :: first :: items) rest := by
  obtain ⟨⟨word, below⟩, bs, rfl⟩ := List.exists_cons_of_ne_nil hbs
  obtain ⟨ls, hlines⟩ : ∃ ls, bulletsLines 1 (.mk word below :: bs) = bulletLine 2 word :: ls := by
    rw [bulletsLines, Bullet.lines, List.cons_append]
    exact ⟨_, rfl⟩
  have hls : ∀ line ∈ ls, ∃ n w, 2 ≤ n ∧ line = bulletLine n w := fun line hline ↦
    exists_of_mem_bulletsLines 1 _ (hlines ▸ List.mem_cons_of_mem _ hline)
  have hown : indentedMarker? 0 (nestWidth - 1) (bulletLine 2 word) = none := by
    rw [indentedMarker?_bulletLine]
    rfl
  have hdeeper : indentedMarker? nestWidth (2 * nestWidth - 1) (bulletLine 2 word) =
      some (.bullet, word.letters) := by
    rw [indentedMarker?_bulletLine]
    rfl
  rw [bulletsText, hlines, List.cons_append, itemsFrom, hown]
  simp only [hdeeper, List.headD_cons, hfirst, Option.isSome_some, Bool.not_false, Bool.and_self,
    if_true]
  exact itemsFrom_continue rfl hls

theorem startsWith_letters (w : Word) : startsWith (Text.spaces nestWidth) w.letters = false :=
  Text.startsWith_eq_false (x := ' ') (by decide) (Text.not_mem_of_all w.isAlpha rfl)

theorem itemsFrom_bullets (items : List Text) (bs : List Bullet) :
    itemsFrom items (bulletsLines 0 bs) = (bs.flatMap itemTexts).reverse ++ items := by
  induction bs generalizing items with
  | nil => rfl
  | cons b bs ih =>
    obtain ⟨word, below⟩ := b
    have hown : indentedMarker? 0 (nestWidth - 1) (bulletLine (2 * 0) word) =
        some (.bullet, word.letters) := by
      rw [indentedMarker?_bulletLine]
      rfl
    have hbelow : itemsFrom (word.letters :: items) (bulletsLines 1 below ++ bulletsLines 0 bs) =
        itemsFrom ((nestedTexts below).reverse ++ word.letters :: items) (bulletsLines 0 bs) := by
      cases below with
      | nil => rfl
      | cons c below => exact itemsFrom_nested (startsWith_letters word) (List.cons_ne_nil c below)
    rw [bulletsLines, Bullet.lines, List.cons_append, itemsFrom, hown]
    simp only
    rw [hbelow, ih, List.flatMap_cons, itemTexts]
    simp

/-- The items of bullets without an indent. -/
theorem items_bulletsText (hbs : bs ≠ []) : items (bulletsText 0 bs) = bs.flatMap itemTexts := by
  have hindent : indentOf (bulletsText 0 bs) = 0 := by
    obtain ⟨rest, htext⟩ := exists_bulletsText_eq 0 hbs
    rw [htext]
    rfl
  have hunindent (t : Text) : unindentEach 0 t = t := by
    simp [unindentEach, Text.join_splitOn]
  rw [items, hindent, hunindent, lines_bulletsText hbs, itemsFrom_bullets]
  simp

/-! ### Reading -/

variable {fuel : Nat} {place : Place} {blocks : List Text} {parent list e : Element}

theorem modifyBelow_append {α : Type} (f : Element → Element × α) :
    modifyBelow f 1 (parent.append e) = (parent.append (f e).1, (f e).2) := by
  simp [modifyBelow, Element.append, Element.setChildren, Element.children, Element.tag,
    Element.attrs, Element.text, Element.tail]

/-- Reads a text into a list: bullets below an item go into the last item, and any other text begins
one. -/
def addItem (fuel : Nat) (done : Element × List LinkDefinition) (item : Text) :
    Element × List LinkDefinition :=
  let list := if startsWith (Text.spaces nestWidth) item then done.1
    else done.1.append (.bare "li")
  let (list, more) := modifyBelow (read [] fuel .item [item]) 1 list
  (list, done.2 ++ more)

/-- The list of bullets that has been read. -/
def bulletList (bs : List Bullet) : Element := .mk "ul" [] none (bulletElements bs) none

/-- Bullets are read as a list, and the list as its items. -/
theorem read_bulletsText (hbs : bs ≠ []) (hend : endsInList parent = false)
    (htag : isListTag parent.tag = false)
    (hitems : (bs.flatMap itemTexts).foldl (addItem fuel) (.bare "ul", []) = (bulletList bs, [])) :
    read [] (fuel + 1) place (bulletsText 0 bs :: blocks) parent =
      read [] fuel place blocks (parent.append (bulletList bs)) := by
  have hmodify : modifyBelow (fun list ↦ (bs.flatMap itemTexts).foldl (addItem fuel) (list, [])) 1
      (parent.append (.bare "ul")) = (parent.append (bulletList bs), []) := by
    rw [modifyBelow_append, hitems]
  rw [read, formOf_bulletsText hbs]
  simp only [hend, htag, Bool.false_eq_true, if_false, items_bulletsText hbs]
  rw [show Marker.bullet.tag = "ul" from rfl]
  let readRest (r : Element × List LinkDefinition) : Element × List LinkDefinition :=
    ((read [] fuel place blocks r.1).1, r.2 ++ (read [] fuel place blocks r.1).2)
  exact congrArg readRest hmodify

/-- A word alone is the text of its item. -/
theorem read_letters (w : Word) :
    read [] (fuel + 1) .item [w.letters] (.bare "li") =
      (.mk "li" [] (some w.letters) [] none, []) := by
  have hform : formOf [] .item (.bare "li") w.letters = .paragraph := by
    have hrunning := (Doc.Token.plain w).isRunning_atoms
    have hsource : sourceOf (Doc.Token.plain w).atoms = w.letters := Doc.Token.writtenWith_atoms _
    rw [← hsource]
    exact formOf_sourceOf hrunning
  have hadd : addParagraph .item w.letters (.bare "li") =
      .mk "li" [] (some w.letters) [] none := by
    obtain ⟨c, rest, hletters, hc⟩ := w.exists_head
    have hblank := isBlank_of_isAlpha hc
    have hstrip : Text.stripStart w.letters = w.letters := by
      rw [hletters, Text.stripStart, Text.trimStart_eq_self hblank]
    have hnot : Text.isBlankText w.letters = false := by
      simp [hletters, Text.isBlankText, hblank]
    rw [addParagraph, hnot, hstrip]
    rfl
  rw [read, hform]
  simp only [hadd, read_nil, List.append_nil]

/-- Bullets below an item become a list in it. -/
theorem read_nested (hbs : bs ≠ [])
    (hitems : (bs.flatMap itemTexts).foldl (addItem fuel) (.bare "ul", []) = (bulletList bs, [])) :
    read [] (fuel + 2) .item [bulletsText 1 bs] (.mk "li" [] (some t) [] none) =
      (.mk "li" [] (some t) [bulletList bs] none, []) := by
  have hlevel (k : Nat) : nestingLevel (indentOf (bulletsText 1 bs) / nestWidth) k 1
      (.mk "li" [] (some t) [] none) = (1, 0) := by
    obtain ⟨rest, htext⟩ := exists_bulletsText_eq 1 hbs
    have hindent : indentOf (bulletsText 1 bs) = nestWidth := by
      rw [htext]
      rfl
    rw [hindent]
    cases k <;> rfl
  have hread : read [] (fuel + 1) .unindented [bulletsText 0 bs] (.mk "li" [] (some t) [] none) =
      (.mk "li" [] (some t) [bulletList bs] none, []) := by
    rw [read_bulletsText hbs rfl rfl hitems, read_nil]
    rfl
  have htag : ((Element.mk "li" [] (some t) [] none).tag == "li") = true := rfl
  have hend : endsInList (.mk "li" [] (some t) [] none) = false := rfl
  rw [read, formOf_nested hbs (by decide) rfl]
  simp only [if_true, hlevel, Nat.mul_one, unindentEach_bulletsText hbs, htag, hend,
    Bool.false_eq_true, if_false, modifyBelow, hread, read_nil, List.append_nil]

mutual

theorem addItem_bullet :
    ∀ (b : Bullet) (fuel : Nat) (list : Element), 2 * (b.lines 0).length ≤ fuel + 1 →
      (itemTexts b).foldl (addItem fuel) (list, []) = (list.append b.element, [])
  | .mk word below, fuel, list => fun hfuel ↦ by
    rw [Bullet.lines, List.length_cons, bulletsLines_succ, List.length_map] at hfuel
    obtain ⟨fuel, rfl⟩ : ∃ n, fuel = n + 1 := ⟨fuel - 1, by omega⟩
    have hword : addItem (fuel + 1) (list, []) word.letters =
        (list.append (.mk "li" [] (some word.letters) [] none), []) := by
      simp only [addItem, startsWith_letters, Bool.false_eq_true, if_false, modifyBelow_append,
        read_letters, List.append_nil]
    cases below with
    | nil =>
      rw [itemTexts, List.foldl_cons, hword]
      rfl
    | cons c below =>
      have hne := List.cons_ne_nil c below
      have hcount : 0 < (bulletsLines 0 (c :: below)).length :=
        List.length_pos_iff.mpr (bulletsLines_ne_nil hne)
      obtain ⟨fuel, rfl⟩ : ∃ n, fuel = n + 1 := ⟨fuel - 1, by omega⟩
      have hitems := addItem_bullets (c :: below) fuel (.bare "ul") (by omega)
      have hnest : startsWith (Text.spaces nestWidth) (bulletsText 1 (c :: below)) = true := by
        obtain ⟨rest, htext⟩ := exists_bulletsText_eq 1 hne
        rw [htext]
        rfl
      have hbelow : addItem (fuel + 2)
          (list.append (.mk "li" [] (some word.letters) [] none), []) (bulletsText 1 (c :: below)) =
            (list.append (Bullet.mk word (c :: below)).element, []) := by
        simp only [addItem, hnest, if_true, modifyBelow_append, read_nested hne hitems,
          List.append_nil]
        rfl
      rw [itemTexts, List.foldl_cons, hword]
      exact hbelow

/-- **The items of a list are its bullets.** -/
theorem addItem_bullets :
    ∀ (bs : List Bullet) (fuel : Nat) (list : Element), 2 * (bulletsLines 0 bs).length ≤ fuel + 1 →
      (bs.flatMap itemTexts).foldl (addItem fuel) (list, []) =
        (list.setChildren (list.children ++ bulletElements bs), [])
  | [], fuel, list => fun _ ↦ by
    cases list
    simp [bulletElements, Element.setChildren, Element.children, Element.tag, Element.attrs,
      Element.text, Element.tail]
  | b :: bs, fuel, list => fun hfuel ↦ by
    rw [bulletsLines, List.length_append] at hfuel
    rw [List.flatMap_cons, List.foldl_append, addItem_bullet b fuel list (by omega),
      addItem_bullets bs fuel _ (by omega), bulletElements]
    simp [Element.append, Element.setChildren, Element.children, Element.tag, Element.attrs,
      Element.text, Element.tail]

end

/-- A source of bullets is one list. -/
theorem parse_bulletsText (hbs : bs ≠ []) :
    parse [] (bulletsText 0 bs ++ ['\n', '\n']) = (.mk "div" [] none [bulletList bs] none, []) := by
  have hsplit : Text.splitOnText "\n\n" (bulletsText 0 bs ++ ['\n', '\n']) =
      [bulletsText 0 bs, []] := by
    refine Text.splitOnText_append (Text.isChain_join fun line hline ↦ ?_) ?_
    · obtain ⟨n, w, -, rfl⟩ := exists_of_mem_bulletsLines 0 bs hline
      exact ⟨by simp [bulletLine], newline_not_mem_bulletLine⟩
    · obtain ⟨t, c, htext, hc⟩ := exists_bulletsText_last 0 hbs
      rw [htext, List.getLast?_concat]
      rintro ⟨rfl⟩
      cases hc
  obtain ⟨fuel, hfuel⟩ : ∃ n, 3 * (bulletsText 0 bs ++ ['\n', '\n']).length + 16 = n + 2 :=
    ⟨_, rfl⟩
  have hcount : 2 * (bulletsLines 0 bs).length ≤ fuel + 2 := by
    have hlines := Text.length_splitOn_le '\n' (bulletsText 0 bs)
    rw [← lines, lines_bulletsText hbs] at hlines
    simp only [List.length_append, List.length_cons, List.length_nil] at hfuel
    omega
  have hitems := addItem_bullets bs (fuel + 1) (.bare "ul") hcount
  have hlast : ∀ e ∈ ((Element.bare "div").append (bulletList bs)).last?,
      isCodeBlock e = false := by
    simp [Element.append, Element.last?, Element.setChildren, Element.children, Element.bare,
      bulletList, isCodeBlock, Element.tag]
  rw [parse, hsplit, hfuel, read_bulletsText hbs rfl rfl hitems, read_emptyBlock hlast]
  rfl

end Block

end ApiSite.Markup

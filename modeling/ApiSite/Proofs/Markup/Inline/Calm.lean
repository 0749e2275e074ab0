import ApiSite.Proofs.Markup.Inline.Answer

/-!
# Trees in which nothing is read

A text is still if reading it gives it back, recognises nothing in it and asks for no name
(`IsStill`). A tree whose open texts are all still stays as it is, and its reading leaves no trace
(`read_eq_self`). Code is closed, so whatever it says it is never read; a text of letters is open,
and no rule of inline markup begins with a letter (`isStill_letters`). Tags within a text are not
read either: each is set aside as it stands (`pass_inlineTag_tag`).
-/

set_option autoImplicit false

namespace ApiSite.Markup.Inline

variable {t : Text} {ts : Pieces} {setting : Setting} {trace : Trace} {fuel : Nat}
  {nodes : List Draft}

/-! ### Calm trees -/

/-- Reading a text gives it back, recognises nothing and leaves no trace. -/
def IsStill (setting : Setting) (run : Option Run) : Prop :=
  ∀ trace, readRunText setting run trace = (run, [], trace)

/-- Nothing follows an element or what it holds, and every text in it that is still to be read is
still. -/
inductive IsCalm (setting : Setting) : Draft → Prop
  | intro {tag : Text} {attrs : Attrs} {text : Option Run} {children : List Draft}
    (htext : hasOpenText text = true → IsStill setting text)
    (hchildren : ∀ e ∈ children, IsCalm setting e) :
    IsCalm setting (.mk tag attrs text children none)

/-- Texts that are still are visited without a find. -/
theorem visitAll_of_isCalm (fuel : Nat) (trace : Trace) (hnodes : ∀ e ∈ nodes, IsCalm setting e) :
    ∃ visited, visitAll setting fuel nodes trace = (visited, trace) ∧
      visited.map Visited.node = nodes ∧ ∀ v ∈ visited, v.found = [] := by
  induction fuel generalizing nodes with
  | zero =>
    refine ⟨nodes.map fun e ↦ ⟨e, [], false⟩, by cases nodes <;> rfl, ?_, by simp⟩
    rw [List.map_map]
    exact List.map_id nodes
  | succ fuel ih =>
    cases nodes with
    | nil => exact ⟨[], rfl, rfl, by simp⟩
    | cons e nodes =>
      obtain ⟨visited, hvisit, hnode, hfound⟩ :=
        ih fun e he ↦ hnodes e (List.mem_cons_of_mem _ he)
      obtain @⟨tag, attrs, text, children, htext, -⟩ := hnodes e List.mem_cons_self
      have hnone : readRunText setting none trace = (none, [], trace) := rfl
      refine ⟨⟨.mk tag attrs text children none, [], !children.isEmpty⟩ :: visited, ?_, ?_, ?_⟩
      · rw [visitAll]
        cases hopen : hasOpenText text with
        | false => simp only [Bool.false_eq_true, if_false, hnone, List.nil_append, hvisit]
        | true => simp only [if_true, htext hopen trace, hnone, List.nil_append, hvisit]
      · rw [List.map_cons, hnode]
      · simpa using hfound

theorem readChildren_of_isCalm (hnodes : ∀ e ∈ nodes, IsCalm setting e) :
    readChildren setting fuel nodes trace = (nodes, trace) := by
  induction fuel generalizing nodes trace with
  | zero => rfl
  | succ fuel ih =>
    obtain ⟨visited, hvisit, hnode, hfound⟩ := visitAll_of_isCalm fuel trace hnodes
    rw [readChildren]
    simp only [hvisit]
    rw [foldl_eq_of_step (g := Visited.node), List.nil_append, hnode]
    intro v hv done trace
    have hcalm : IsCalm setting v.node := hnodes _ (hnode ▸ List.mem_map_of_mem hv)
    simp only [hfound v hv, List.foldl_nil]
    obtain ⟨node, found, hadChildren⟩ := v
    obtain @⟨tag, attrs, text, children, -, hchildren⟩ := hcalm
    cases hadChildren with
    | false => rfl
    | true => simp only [List.nil_append, if_true, ih hchildren]

/-! ### The tree itself -/

theorem runText_some {closed : Bool} : runText (some (.mk closed (Pieces.ofText t))) = some t :=
  congrArg some marked_ofText

mutual

theorem finished_ofBlock : ∀ e : Element, finished (ofBlock e) = e
  | .mk tag attrs text children tail => by
    have htext (closed : Bool) (t : Option Text) :
        runText (t.map fun t ↦ .mk closed (Pieces.ofText t)) = t := by
      cases t with
      | none => rfl
      | some t => exact runText_some
    rw [ofBlock, finished, htext, htext, finishedAll_ofBlocks children]

theorem finishedAll_ofBlocks : ∀ l : List Element, finishedAll (ofBlocks l) = l
  | [] => rfl
  | e :: rest => by
    rw [ofBlocks, finishedAll, finished_ofBlock e, finishedAll_ofBlocks rest]

end

theorem mem_ofBlocks {l : List Element} {d : Draft} (hd : d ∈ ofBlocks l) :
    ∃ e ∈ l, ofBlock e = d := by
  induction l with
  | nil => cases hd
  | cons e l ih =>
    rcases List.mem_cons.mp hd with rfl | hd
    · exact ⟨e, List.mem_cons_self, rfl⟩
    · obtain ⟨e', he', heq⟩ := ih hd
      exact ⟨e', List.mem_cons_of_mem _ he', heq⟩

/-- **A tree of calm elements is read without a change and without a trace.** -/
theorem read_eq_self {root : Element} (h : ∀ e ∈ root.children, IsCalm setting (ofBlock e)) :
    read setting root trace = (root, trace) := by
  obtain ⟨tag, attrs, text, children, tail⟩ := root
  have hnodes : ∀ d ∈ ofBlocks children, IsCalm setting d := by
    intro d hd
    obtain ⟨e, he, rfl⟩ := mem_ofBlocks hd
    exact h e he
  rw [read, ofBlock]
  simp only [readChildren_of_isCalm hnodes]
  rw [← ofBlock, finished_ofBlock]

/-! ### Texts without markup -/

theorem Rule.spares_nameReference (hbracket : Lacks '[' ts) :
    Spares setting Rule.nameReference ts := by
  intro trace previous s hs
  refine Or.inl ?_
  cases s with
  | nil => rfl
  | cons p s => exact nameReference_reject (hbracket.suffix hs p List.mem_cons_self)

/-- Behind the rules for code and backslashes, every rule needs a character that is neither a letter
nor white space, or two spaces. -/
theorem applyRules_of_lacks {nested : List Rule → Pieces → Trace → Pieces × Trace}
    (hdefinitions : setting.definitions = [])
    (hlacks : ∀ x, x.isAlpha = false → Text.isBlank x = false → Lacks x ts)
    (hspaces : ts.IsChain fun p q ↦ ¬(p.is ' ' = true ∧ q.is ' ' = true)) :
    applyRules setting nested (Rule.all.drop 2) ts trace = (ts, trace) := by
  have hno (x : Char) (hx : x.isAlpha = false ∧ Text.isBlank x = false) : Lacks x ts :=
    hlacks x hx.1 hx.2
  have hrules : ∀ rule ∈ Rule.all.drop 2, Spares setting rule ts := by
    simp [Rule.all, Rule.spares_bracketCode (hno ':' ⟨rfl, rfl⟩),
      Rule.spares_linkByLabel hdefinitions, Rule.spares_linkToTarget (hno '(' ⟨rfl, rfl⟩),
      Rule.spares_imageAtTarget (hno '!' ⟨rfl, rfl⟩), Rule.spares_imageByLabel (hno '!' ⟨rfl, rfl⟩),
      Rule.spares_nameReference (hno '[' ⟨rfl, rfl⟩), Rule.spares_imageByText (hno '!' ⟨rfl, rfl⟩),
      Rule.spares_bracketedAddress (hno '<' ⟨rfl, rfl⟩),
      Rule.spares_bareAddress (hno ':' ⟨rfl, rfl⟩) (hno '.' ⟨rfl, rfl⟩),
      Rule.spares_mailAddress (hno '<' ⟨rfl, rfl⟩), Rule.spares_lineBreak hspaces,
      Rule.spares_inlineTag (hno '<' ⟨rfl, rfl⟩),
      Rule.spares_characterReference (hno '&' ⟨rfl, rfl⟩),
      Rule.spares_deletion (hno '~' ⟨rfl, rfl⟩)]
  rw [← List.append_nil (Rule.all.drop 2), applyRules_of_spares hrules, applyRules,
    readEmphasis_eq_self (hno '*' ⟨rfl, rfl⟩) (hno '_' ⟨rfl, rfl⟩)]

/-- Without definitions of links, letters are no markup. -/
theorem readText_letters (hdefinitions : setting.definitions = [])
    (ht : ∀ c ∈ t, c.isAlpha = true) :
    readText setting (Pieces.ofText t) trace = (Pieces.ofText t, trace) := by
  have hlacks (x : Char) (hx : x.isAlpha = false) : Lacks x (Pieces.ofText t) :=
    lacks_ofText (Text.not_mem_of_all ht hx)
  have hescapes : ∀ rule ∈ [Rule.codeSpan, Rule.backslash],
      Spares setting rule (Pieces.ofText t) := by
    simp [Rule.spares_codeSpan (hlacks '\x60' rfl) (hlacks '\\' rfl),
      Rule.spares_backslash (hlacks '\\' rfl)]
  have hall : Rule.all = [Rule.codeSpan, Rule.backslash] ++ Rule.all.drop 2 := rfl
  rw [readText, readPieces, hall, applyRules_of_spares hescapes,
    applyRules_of_lacks hdefinitions (fun x hx _ ↦ hlacks x hx)
      (noTwoSpaces_of_lacks (hlacks ' ' rfl))]

theorem isStill_letters (hdefinitions : setting.definitions = []) (hne : t ≠ [])
    (ht : ∀ c ∈ t, c.isAlpha = true) :
    IsStill setting (some (.mk false (Pieces.ofText t))) := by
  intro trace
  obtain ⟨c, t, rfl⟩ := List.exists_cons_of_ne_nil hne
  simp only [readRunText, Bool.false_eq_true, if_false, readText_letters hdefinitions ht,
    assemble_ofText]
  rfl

/-! ### Tags -/

section Tags

variable {inside : Draft → Trace → Draft × Trace} {s rest : Pieces} {u : Text} {after : Trace}
  {previous : Option Piece}

theorem tagAttributes_eq_zero {fuel : Nat} (hs : blankCount s = 0) :
    Rule.tagAttributes (fuel + 1) s = 0 := by
  rw [Rule.tagAttributes, hs]
  rfl

/-- A tag without attributes is a bracket, a slash perhaps, a name and a bracket. -/
theorem rawMarkup?_tag (slash name : Text) (hslash : slash = [] ∨ slash = ['/'])
    (hhead : ∃ c t, name = c :: t ∧ c.isAlpha = true)
    (hname : (name.any fun c ↦ Text.isBlank c || ['"', '\'', '<', '>', '@'].contains c) = false) :
    Rule.rawMarkup? (Pieces.ofText ('<' :: (slash ++ name ++ ['>'])) ++ s) =
      some (slash.length + name.length + 2) := by
  obtain ⟨c, t, hcons, hc⟩ := hhead
  have htake : (Pieces.ofText name ++ .char '>' :: s).takeWhile (Piece.avoids fun c =>
        Text.isBlank c || ['"', '\'', '<', '>', '@'].contains c) = Pieces.ofText name := by
    refine Text.takeWhile_append_of_head? (fun p hp ↦ ?_) fun
      | _, rfl => rfl
    obtain ⟨x, hx, rfl⟩ := List.mem_map.mp hp
    simpa [Piece.avoids, Piece.satisfies] using List.any_eq_false.mp hname x hx
  have hbegins : Pieces.beginsWith (·.satisfies Char.isAlpha)
      (Pieces.ofText name ++ .char '>' :: s) = true := by rw [hcons]; exact hc
  have hlength : (Pieces.ofText name).length = name.length := List.length_map _
  have htext : Pieces.ofText ('<' :: (slash ++ name ++ ['>'])) ++ s =
      .char '<' :: (Pieces.ofText slash ++ (Pieces.ofText name ++ .char '>' :: s)) := by
    simp [Pieces.ofText]
  have hslashes : (if Pieces.beginsWith (·.is '/')
      (Pieces.ofText slash ++ (Pieces.ofText name ++ .char '>' :: s)) then 1 else 0) =
        slash.length := by
    rcases hslash with rfl | rfl
    · have hne : c ≠ '/' := ne_of_isAlpha hc rfl
      simp [hcons, Pieces.ofText, Pieces.beginsWith, Piece.is, hne]
    · rfl
  have hafter : (Pieces.ofText slash ++ (Pieces.ofText name ++ .char '>' :: s)).drop
      slash.length = Pieces.ofText name ++ .char '>' :: s :=
    List.drop_left' (List.length_map _)
  have hend : (Pieces.ofText slash ++ (Pieces.ofText name ++ .char '>' :: s)).drop
      (slash.length + name.length) = .char '>' :: s := by
    rw [← List.drop_drop, hafter, List.drop_left' hlength]
  have hblank : blankCount (.char '>' :: s) = 0 := rfl
  have hclose : Pieces.beginsWith (·.is '/') (.char '>' :: s) = false := rfl
  rw [htext, Rule.rawMarkup?]
  simp only [hslashes, hafter, hbegins, if_true, htake, hlength, hend, tagAttributes_eq_zero hblank,
    Nat.add_zero, hblank, hclose, Bool.false_eq_true, if_false]
  rfl

theorem rawText_ofText : Pieces.rawText (Pieces.ofText t) = t := by
  induction t with
  | nil => rfl
  | cons c t ih => exact congrArg (c :: ·) ih

/-- Characters that open no tag are passed by. -/
theorem pass_inlineTag_ofText (ht : '<' ∉ t)
    (hs : ∀ previous,
      pass setting Rule.inlineTag inside previous .nothing s trace = (rest, after)) :
    pass setting Rule.inlineTag inside previous .nothing (Pieces.ofText t ++ s) trace =
      (Pieces.ofText t ++ rest, after) := by
  induction t generalizing previous with
  | nil => exact hs previous
  | cons c t ih =>
    have hc : c ≠ '<' := fun heq ↦ ht (heq ▸ List.mem_cons_self)
    have hnone (later : Pieces) : Rule.rawMarkup? (.char c :: later) = none := by
      rw [Rule.rawMarkup?.eq_def]
      split
      · next heq => exact absurd (Piece.char.inj (List.cons.inj heq).1) hc
      · rfl
    have hrest := @ih (some (.char c)) (mt (List.mem_cons_of_mem _) ht)
    rw [Pieces.ofText, List.map_cons, List.cons_append, ← Pieces.ofText, pass]
    · simp only [Rule.inlineTag, hnone, hrest]
      rfl
    · simp
    · simp

/-- A tag is set aside, and a mark stands in its place. -/
theorem pass_inlineTag_tag (hne : u ≠ [])
    (hu : Rule.rawMarkup? (Pieces.ofText u ++ s) = some u.length)
    (hs : ∀ previous, pass setting Rule.inlineTag inside previous .nothing s
      ⟨trace.rawHtml ++ [u], trace.names, trace.next + 1⟩ = (rest, after)) :
    pass setting Rule.inlineTag inside previous .nothing (Pieces.ofText u ++ s) trace =
      (.literal trace.next (Mark.rawHtml trace.rawHtml.length) :: rest, after) := by
  have htake : (Pieces.ofText u ++ s).take u.length = Pieces.ofText u :=
    List.take_left' (List.length_map _)
  have hrule : Rule.inlineTag setting trace previous (Pieces.ofText u ++ s) =
      (.literal u.length (Mark.rawHtml trace.rawHtml.length),
        { trace with rawHtml := trace.rawHtml ++ [u] }) := by
    rw [Rule.inlineTag, hu]
    simp only [Rule.setAside, htake, rawText_ofText]
  obtain ⟨c, u, rfl⟩ := List.exists_cons_of_ne_nil hne
  have hcons : Pieces.ofText (c :: u) ++ s = .char c :: (Pieces.ofText u ++ s) := rfl
  have hlength : (c :: u).length - 1 = (Pieces.ofText u).length := (List.length_map _).symm
  rw [hcons] at hrule ⊢
  rw [pass]
  · simp only [hrule, hlength, pass_taken, hs]
  · simp
  · simp

end Tags

end ApiSite.Markup.Inline

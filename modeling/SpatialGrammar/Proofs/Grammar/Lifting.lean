import SpatialGrammar.Grammar.Definition
import SpatialGrammar.Proofs.Grammar.Acceptance

/-!
# Definitions in place

A definition in place is only shorthand: it can be lifted out of the definition around it, which
then refers to it by its name (`outline`). `lift` does so with all definitions in place that are
read, at any depth. Main statements: `load_iff_lift`, a definition gives the patterns of what has
been lifted out of it, one after the other, `outline_lift`, nothing is left to be lifted then, and
`grammarOf_liftAll`, the definitions give the same grammar, whatever their order.
-/

namespace SpatialGrammar

open Definition (inlineName)

variable {α : Type}

/-- The item with its name in place of its definition. -/
def ItemDefinition.outline (parent : Name) : ItemDefinition α → ItemDefinition α
  | .inline _ => .named (inlineName parent "item")
  | item => item

/-- The component with the name of its pattern in place of the definition, unless the component
names another pattern. -/
def ComponentDefinition.outline (parent : Name) : ComponentDefinition α → ComponentDefinition α
  | .inline name fields definition =>
    match fields.pattern with
    | some _ => .inline name fields definition
    | none => .named name { fields with pattern := some (inlineName parent name) }
  | .named name fields => .named name fields

/-- The components with names in place of definitions. -/
def ComponentSection.outline (parent : Name) : ComponentSection α → ComponentSection α
  | .nil => .nil
  | .cons component rest => .cons (component.outline parent) (rest.outline parent)
  | .broken error => .broken error

namespace Definition

/-- The definition with names in place of the definitions that are read within it. -/
def outline (name : Name) : PatternDefinition α → PatternDefinition α
  | .mk fields item inner outer =>
    match kindWord name fields (!item.isMissing) (!inner.isEmpty) with
    | .error _ | .ok .unknown => .mk fields item inner outer
    | .ok (.array _) => .mk fields (item.outline name) (inner.outline name) (outer.outline name)
    | .ok .cell | .ok .general | .ok .area =>
      .mk fields item (inner.outline name) (outer.outline name)

mutual

/-- A definition behind all definitions in place that are read within it, at any depth, each by
itself under the name that refers to it. -/
def lift (name : Name) : PatternDefinition α → List (Name × PatternDefinition α)
  | .mk fields item inner outer =>
    let lifted :=
      match kindWord name fields (!item.isMissing) (!inner.isEmpty) with
      | .error _ | .ok .unknown => []
      | .ok (.array _) => liftItem name item ++ (liftSection name inner ++ liftSection name outer)
      | .ok .cell | .ok .general | .ok .area => liftSection name inner ++ liftSection name outer
    lifted ++ [(name, outline name (.mk fields item inner outer))]

/-- The definitions that are lifted out of an item. -/
def liftItem (parent : Name) : ItemDefinition α → List (Name × PatternDefinition α)
  | .inline definition => lift (inlineName parent "item") definition
  | .missing | .named _ => []

/-- The definitions that are lifted out of a section. -/
def liftSection (parent : Name) : ComponentSection α → List (Name × PatternDefinition α)
  | .nil | .broken _ => []
  | .cons component rest => liftComponent parent component ++ liftSection parent rest

/-- The definitions that are lifted out of a component. -/
def liftComponent (parent : Name) : ComponentDefinition α → List (Name × PatternDefinition α)
  | .inline name fields definition =>
    if fields.pattern.isSome then [] else lift (inlineName parent name) definition
  | .named .. => []

end

/-- All definitions with the definitions in place lifted out of them. -/
def liftAll (definitions : List (Name × PatternDefinition α)) : List (Name × PatternDefinition α) :=
  definitions.flatMap fun entry => lift entry.1 entry.2

/-- The grammar that definitions give, if they can be read and their patterns fit together. -/
def grammarOf [Score α] (root : Name) (cellTypes : CellTypeTable)
    (definitions : List (Name × PatternDefinition α)) : Except GrammarError (Grammar α) := do
  let patterns ← loadAll definitions
  Grammar.build root patterns cellTypes

section outline

variable {name parent : Name} {item : ItemDefinition α} {s : ComponentSection α}

@[simp] lemma isMissing_outline : (item.outline parent).isMissing = item.isMissing := by
  cases item <;> rfl

@[simp] lemma isEmpty_outline : (s.outline parent).isEmpty = s.isEmpty := by cases s <;> rfl

@[simp] lemma error?_outline : ∀ {s : ComponentSection α}, (s.outline parent).error? = s.error?
  | .nil | .broken _ => rfl
  | .cons _ rest => error?_outline (s := rest)

lemma outline_outline_item : (item.outline parent).outline parent = item.outline parent := by
  cases item <;> rfl

lemma outline_outline_component (c : ComponentDefinition α) :
    (c.outline parent).outline parent = c.outline parent := by
  cases c with
  | named => rfl
  | inline name fields definition =>
    simp only [ComponentDefinition.outline]
    cases e : fields.pattern <;> simp only [e]

lemma outline_outline_section :
    ∀ s : ComponentSection α, (s.outline parent).outline parent = s.outline parent
  | .nil | .broken _ => rfl
  | .cons c rest => by
    simp only [ComponentSection.outline, outline_outline_component, outline_outline_section rest]

/-- Once names stand in place of definitions, nothing is left to be lifted. -/
lemma outline_outline (name : Name) (d : PatternDefinition α) :
    outline name (outline name d) = outline name d := by
  obtain ⟨fields, item, inner, outer⟩ := d
  cases kind : kindWord name fields (!item.isMissing) (!inner.isEmpty) with
  | error e => simp only [outline, kind]
  | ok word =>
    cases word <;> simp only [outline, kind, isMissing_outline, isEmpty_outline,
      outline_outline_item, outline_outline_section]

end outline

section load

open Outcome (bind_eq_ok pure_eq_ok)

variable [Score α] {β γ δ : Type} {name parent : Name} {fields : PatternFields} {kind : PatternKind}
variable {xs ys zs : List (Name × PatternDefinition α)} {ps itemPatterns : List (Pattern α)}

lemma loadAll_cons {d : PatternDefinition α} : loadAll ((name, d) :: xs) = .ok ps ↔
    ∃ first rest, load name d = .ok first ∧ loadAll xs = .ok rest ∧ first ++ rest = ps := by
  simp only [loadAll, bind_eq_ok, pure_eq_ok]
  exact ⟨fun ⟨first, h, rest, h', eq⟩ => ⟨first, rest, h, h', eq⟩,
    fun ⟨first, rest, h, h', eq⟩ => ⟨first, h, rest, h', eq⟩⟩

lemma loadAll_append : loadAll (xs ++ ys) = .ok ps ↔
    ∃ first rest, loadAll xs = .ok first ∧ loadAll ys = .ok rest ∧ first ++ rest = ps := by
  induction xs generalizing ps with
  | nil => simp [loadAll]
  | cons x xs ih =>
    obtain ⟨name, d⟩ := x
    simp only [List.cons_append, loadAll_cons, ih]
    constructor
    · rintro ⟨first, _, h, ⟨middle, rest, h', h'', rfl⟩, rfl⟩
      exact ⟨first ++ middle, rest, ⟨first, middle, h, h', rfl⟩, h'', List.append_assoc ..⟩
    · rintro ⟨_, rest, ⟨first, middle, h, h', rfl⟩, h'', rfl⟩
      exact ⟨first, middle ++ rest, h, ⟨middle, rest, h', h'', rfl⟩, (List.append_assoc ..).symm⟩

lemma loadAll_singleton {d : PatternDefinition α} :
    loadAll [(name, d)] = .ok ps ↔ load name d = .ok ps := by
  rw [loadAll_cons]
  simp [loadAll]

/-- A reading that gives patterns beside its result gives those of the lifted definitions, and the
reading of what remains gives the same result without patterns. -/
structure Lifts (loaded : Except GrammarError (β × List (Pattern α)))
    (lifted : List (Name × PatternDefinition α))
    (remaining : Except GrammarError (β × List (Pattern α))) : Prop where
  eq_ok_iff : ∀ b ps, loaded = .ok (b, ps) ↔ loadAll lifted = .ok ps ∧ remaining = .ok (b, [])
  eq_nil : ∀ b ps, remaining = .ok (b, ps) → ps = []

variable {loaded remaining : Except GrammarError (β × List (Pattern α))}
variable {loaded' remaining' : Except GrammarError (γ × List (Pattern α))}

/-- Where there is nothing to be lifted, everything remains. -/
lemma Lifts.refl (h : ∀ b ps, loaded = .ok (b, ps) → ps = []) : Lifts loaded [] loaded where
  eq_ok_iff b ps := by
    rw [loadAll, Except.ok.injEq]
    constructor
    · intro eq
      obtain rfl := h b ps eq
      exact ⟨rfl, eq⟩
    · rintro ⟨rfl, eq⟩
      exact eq
  eq_nil := h

/-- Readings one after the other. -/
lemma Lifts.seq (h : Lifts loaded xs remaining) (h' : Lifts loaded' ys remaining')
    (f : β → γ → δ) :
    Lifts (do let (b, ps) ← loaded; let (c, qs) ← loaded'; return (f b c, ps ++ qs)) (xs ++ ys)
      (do let (b, ps) ← remaining; let (c, qs) ← remaining'; return (f b c, ps ++ qs)) where
  eq_ok_iff d ps := by
    simp only [bind_eq_ok, pure_eq_ok, loadAll_append, Prod.exists, Prod.mk.injEq]
    constructor
    · rintro ⟨b, first, hb, c, rest, hc, rfl, rfl⟩
      obtain ⟨lifted, remains⟩ := (h.eq_ok_iff b first).1 hb
      obtain ⟨lifted', remains'⟩ := (h'.eq_ok_iff c rest).1 hc
      exact ⟨⟨first, rest, lifted, lifted', rfl⟩, b, [], remains, c, [], remains', rfl, rfl⟩
    · rintro ⟨⟨first, rest, lifted, lifted', rfl⟩, b, qs, remains, c, qs', remains', rfl, -⟩
      obtain rfl := h.eq_nil b qs remains
      obtain rfl := h'.eq_nil c qs' remains'
      exact ⟨b, first, (h.eq_ok_iff b first).2 ⟨lifted, remains⟩, c, rest,
        (h'.eq_ok_iff c rest).2 ⟨lifted', remains'⟩, rfl, rfl⟩
  eq_nil d ps := by
    simp only [bind_eq_ok, pure_eq_ok, Prod.exists, Prod.mk.injEq]
    rintro ⟨b, qs, remains, c, qs', remains', -, rfl⟩
    rw [h.eq_nil b qs remains, h'.eq_nil c qs' remains', List.append_nil]

lemma Lifts.sectionOf {loaded remaining : Except GrammarError (Loaded α)}
    (h : Lifts loaded xs remaining) (parent : Name) (error : Option SectionError) :
    Lifts (sectionOf parent error loaded) xs (sectionOf parent error remaining) := by
  cases error with
  | none => exact h
  | some e => exact ⟨fun _ _ => ⟨nofun, nofun⟩, nofun⟩

section body

variable {inner outer inner' outer' : Except GrammarError (Loaded α)}
variable (hi : Lifts inner xs inner') (ho : Lifts outer ys outer')

include hi ho

/-- A pattern comes behind what is lifted out of its sections. -/
lemma bodyOf_eq_ok : bodyOf name fields kind itemPatterns inner outer = .ok ps ↔
    ∃ lifted own, loadAll (xs ++ ys) = .ok lifted ∧
      bodyOf name fields kind [] inner' outer' = .ok own ∧
      itemPatterns ++ (lifted ++ own) = ps := by
  simp only [bodyOf, bind_eq_ok, pure_eq_ok, loadAll_append, Prod.exists]
  constructor
  · rintro ⟨constraints, hc, count, hn, is, first, read, os, rest, read', rfl⟩
    obtain ⟨lifted, remains⟩ := (hi.eq_ok_iff is first).1 read
    obtain ⟨lifted', remains'⟩ := (ho.eq_ok_iff os rest).1 read'
    refine ⟨first ++ rest, _, ⟨first, rest, lifted, lifted', rfl⟩,
      ⟨constraints, hc, count, hn, is, [], remains, os, [], remains', rfl⟩, ?_⟩
    simp only [List.append_assoc, List.nil_append]
  · rintro ⟨_, _, ⟨first, rest, lifted, lifted', rfl⟩,
      ⟨constraints, hc, count, hn, is, qs, remains, os, qs', remains', rfl⟩, rfl⟩
    obtain rfl := hi.eq_nil is qs remains
    obtain rfl := ho.eq_nil os qs' remains'
    refine ⟨constraints, hc, count, hn, is, first, (hi.eq_ok_iff is first).2 ⟨lifted, remains⟩, os,
      rest, (ho.eq_ok_iff os rest).2 ⟨lifted', remains'⟩, ?_⟩
    simp only [List.append_assoc, List.nil_append]

/-- An array comes behind what is lifted out of its item and its sections. -/
lemma array_eq_ok {item item' : Except GrammarError (Name × List (Pattern α))}
    (h : Lifts item zs item') (kindOf : ArrayShape → PatternKind) :
    (∃ read, item = .ok read ∧ ∃ shape, shapeOf name fields read.1 = .ok shape ∧
      bodyOf name fields (kindOf shape) read.2 inner outer = .ok ps) ↔
    ∃ lifted own, loadAll (zs ++ (xs ++ ys)) = .ok lifted ∧
      (∃ read, item' = .ok read ∧ ∃ shape, shapeOf name fields read.1 = .ok shape ∧
        bodyOf name fields (kindOf shape) read.2 inner' outer' = .ok own) ∧ lifted ++ own = ps := by
  constructor
  · rintro ⟨⟨n, first⟩, read, shape, hshape, body⟩
    obtain ⟨lifted, remains⟩ := (h.eq_ok_iff n first).1 read
    obtain ⟨rest, own, lifted', remains', rfl⟩ := (bodyOf_eq_ok hi ho).1 body
    exact ⟨first ++ rest, own, loadAll_append.2 ⟨first, rest, lifted, lifted', rfl⟩,
      ⟨(n, []), remains, shape, hshape, remains'⟩, List.append_assoc ..⟩
  · rintro ⟨_, own, both, ⟨⟨n, qs⟩, remains, shape, hshape, remains'⟩, rfl⟩
    obtain rfl := h.eq_nil n qs remains
    obtain ⟨first, rest, lifted, lifted', rfl⟩ := loadAll_append.1 both
    exact ⟨(n, first), (h.eq_ok_iff n first).2 ⟨lifted, remains⟩, shape, hshape,
      (bodyOf_eq_ok hi ho).2 ⟨rest, own, lifted', remains', (List.append_assoc ..).symm⟩⟩

end body

/-- A definition gives what is lifted out of its parts, and then its own pattern. -/
lemma load_mk_iff {item : ItemDefinition α} {inner outer : ComponentSection α}
    (hitem : Lifts (loadItem name item) (liftItem name item) (loadItem name (item.outline name)))
    (hinner : Lifts (loadComponents name false inner) (liftSection name inner)
      (loadComponents name false (inner.outline name)))
    (houter : Lifts (loadComponents name true outer) (liftSection name outer)
      (loadComponents name true (outer.outline name))) :
    load name (.mk fields item inner outer) = .ok ps ↔
      loadAll (lift name (.mk fields item inner outer)) = .ok ps := by
  have hi := hinner.sectionOf name inner.error?
  have ho := houter.sectionOf name outer.error?
  rw [lift, loadAll_append]
  simp only [loadAll_singleton]
  -- what is read depends on the kind, which is the same for what remains
  cases word : kindWord name fields (!item.isMissing) (!inner.isEmpty) with
  | error e => simp [load, outline, word, bind, Except.bind]
  | ok w =>
    cases w with
    | unknown => simp [load, outline, word, bind, Except.bind, loadAll]
    | general | area =>
      simp only [load, outline, word, bind, Except.bind, isEmpty_outline, error?_outline,
        bodyOf_eq_ok hi ho, List.nil_append]
    | cell =>
      simp only [load, outline, word, bind, Except.bind, isEmpty_outline, error?_outline]
      cases fields.contentType with
      | none => simp [throw, throwThe, MonadExceptOf.throw]
      | some contentType => simp only [bodyOf_eq_ok hi ho, List.nil_append]
    | array inContext =>
      simp only [load, outline, word, isMissing_outline, isEmpty_outline, error?_outline,
        bind_eq_ok, Except.ok.injEq, exists_eq_left']
      exact array_eq_ok hi ho hitem fun shape =>
        if inContext then .arrayInContext shape else .array shape

omit [Score α] in
lemma eq_nil_of_bind (result : Except GrammarError β) {b : β}
    (h : (do return (← result, [])) = (.ok (b, ps) : Except GrammarError (β × List (Pattern α)))) :
    ps = [] := by
  simp only [bind_eq_ok, pure_eq_ok, Prod.mk.injEq] at h
  obtain ⟨_, -, -, rfl⟩ := h
  rfl

/-- A definition in place is lifted as a whole. -/
lemma Lifts.inline {d : PatternDefinition α}
    (whole : ∀ ps, load name d = .ok ps ↔ loadAll (lift name d) = .ok ps)
    (result : Except GrammarError β) :
    Lifts (do let ps ← load name d; return (← result, ps)) (lift name d)
      (do return (← result, [])) where
  eq_ok_iff b ps := by
    simp only [bind_eq_ok, pure_eq_ok, Prod.mk.injEq, ← whole]
    constructor
    · rintro ⟨_, loaded, _, made, rfl, rfl⟩
      exact ⟨loaded, _, made, rfl, trivial⟩
    · rintro ⟨loaded, _, made, rfl, -⟩
      exact ⟨ps, loaded, _, made, rfl, rfl⟩
  eq_nil _ _ := eq_nil_of_bind result

mutual

/-- A definition gives what is lifted out of it, at any depth, and then its own pattern. -/
theorem load_iff_lift (name : Name) : ∀ (d : PatternDefinition α) (ps : List (Pattern α)),
    load name d = .ok ps ↔ loadAll (lift name d) = .ok ps
  | .mk _ item inner outer, _ =>
    load_mk_iff (lifts_item name item) (lifts_section name false inner)
      (lifts_section name true outer)

theorem lifts_item (name : Name) : ∀ item : ItemDefinition α,
    Lifts (loadItem name item) (liftItem name item) (loadItem name (item.outline name))
  | .missing => .refl nofun
  | .named item => .refl fun _ _ => eq_nil_of_bind (.ok item)
  | .inline d => .inline (load_iff_lift _ d) (.ok (inlineName name "item"))

theorem lifts_section (parent : Name) (isOuter : Bool) : ∀ s : ComponentSection α,
    Lifts (loadComponents parent isOuter s) (liftSection parent s)
      (loadComponents parent isOuter (s.outline parent))
  | .nil | .broken _ => .refl fun _ _ => eq_nil_of_bind (.ok [])
  | .cons c rest => (lifts_component parent isOuter c).seq (lifts_section parent isOuter rest) _

theorem lifts_component (parent : Name) (isOuter : Bool) : ∀ c : ComponentDefinition α,
    Lifts (loadComponent parent isOuter c) (liftComponent parent c)
      (loadComponent parent isOuter (c.outline parent))
  | .named name fields => by
    refine .refl fun b ps h => ?_
    rw [loadComponent] at h
    split at h
    next => cases h
    next => exact eq_nil_of_bind _ h
  | .inline name fields d => by
    rw [liftComponent, ComponentDefinition.outline]
    cases named : fields.pattern with
    | some pattern =>
      refine .refl fun b ps h => ?_
      simp only [loadComponent, named] at h
      exact eq_nil_of_bind _ h
    | none =>
      simp only [loadComponent, named]
      exact .inline (load_iff_lift _ d) _

end

/-- All definitions give what they give when everything is lifted out of them. -/
lemma loadAll_liftAll : loadAll (liftAll xs) = .ok ps ↔ loadAll xs = .ok ps := by
  induction xs generalizing ps with
  | nil => rfl
  | cons x xs ih =>
    obtain ⟨name, d⟩ := x
    have both : liftAll ((name, d) :: xs) = lift name d ++ liftAll xs := List.flatMap_cons
    simp only [both, loadAll_append, loadAll_cons, ← load_iff_lift, ih]

/-- In another order, definitions give the same patterns in another order. -/
lemma loadAll_perm (h : xs.Perm ys) (loaded : loadAll xs = .ok ps) :
    ∃ qs, loadAll ys = .ok qs ∧ ps.Perm qs := by
  induction h generalizing ps with
  | nil => exact ⟨ps, loaded, .refl ps⟩
  | cons x _ ih =>
    obtain ⟨first, rest, head, tail, rfl⟩ := loadAll_cons.1 loaded
    obtain ⟨qs, tail', perm⟩ := ih tail
    exact ⟨first ++ qs, loadAll_cons.2 ⟨first, qs, head, tail', rfl⟩, perm.append_left first⟩
  | swap x y zs =>
    obtain ⟨first, _, head, tail, rfl⟩ := loadAll_cons.1 loaded
    obtain ⟨second, rest, head', tail', rfl⟩ := loadAll_cons.1 tail
    refine ⟨second ++ (first ++ rest), ?_, List.perm_append_comm_assoc ..⟩
    exact loadAll_cons.2 ⟨second, _, head', loadAll_cons.2 ⟨first, rest, head, tail', rfl⟩, rfl⟩
  | trans _ _ ih ih' =>
    obtain ⟨qs, loaded', perm⟩ := ih loaded
    obtain ⟨rs, loaded'', perm'⟩ := ih' loaded'
    exact ⟨rs, loaded'', perm.trans perm'⟩

/-- Definitions in another order give the same grammar. -/
lemma grammarOf_perm {root : Name} {cellTypes : CellTypeTable} {g : Grammar α} (h : xs.Perm ys)
    (built : grammarOf root cellTypes xs = .ok g) : grammarOf root cellTypes ys = .ok g := by
  rw [grammarOf, bind_eq_ok] at built ⊢
  obtain ⟨ps, loaded, built⟩ := built
  obtain ⟨qs, loaded', perm⟩ := loadAll_perm h loaded
  exact ⟨qs, loaded', Grammar.build_perm perm built⟩

end load

mutual

/-- Nothing is left to be lifted out of what has been lifted. -/
theorem outline_lift (name : Name) : ∀ d : PatternDefinition α,
    ∀ entry ∈ lift name d, outline entry.1 entry.2 = entry.2
  | .mk fields item inner outer, entry, mem => by
    rw [lift, List.mem_append, List.mem_singleton] at mem
    rcases mem with mem | rfl
    · split at mem
      · cases mem
      · cases mem
      · simp only [List.mem_append] at mem
        rcases mem with mem | mem | mem
        · exact outline_liftItem name item entry mem
        · exact outline_liftSection name inner entry mem
        · exact outline_liftSection name outer entry mem
      all_goals
        rcases List.mem_append.1 mem with mem | mem
        · exact outline_liftSection name inner entry mem
        · exact outline_liftSection name outer entry mem
    · exact outline_outline name (.mk fields item inner outer)

theorem outline_liftItem (parent : Name) : ∀ item : ItemDefinition α,
    ∀ entry ∈ liftItem parent item, outline entry.1 entry.2 = entry.2
  | .missing, _, mem | .named _, _, mem => nomatch mem
  | .inline d, entry, mem => outline_lift _ d entry mem

theorem outline_liftSection (parent : Name) : ∀ s : ComponentSection α,
    ∀ entry ∈ liftSection parent s, outline entry.1 entry.2 = entry.2
  | .nil, _, mem | .broken _, _, mem => nomatch mem
  | .cons c rest, entry, mem => by
    cases List.mem_append.1 mem with
    | inl mem => exact outline_liftComponent parent c entry mem
    | inr mem => exact outline_liftSection parent rest entry mem

theorem outline_liftComponent (parent : Name) : ∀ c : ComponentDefinition α,
    ∀ entry ∈ liftComponent parent c, outline entry.1 entry.2 = entry.2
  | .named .., _, mem => nomatch mem
  | .inline _ fields d, entry, mem => by
    rw [liftComponent] at mem
    split at mem
    · cases mem
    · exact outline_lift _ d entry mem

end

/-- Definitions in place are only shorthand. If each of them that is read, at any depth, is written
by itself under the name that is made of the name of its parent and its own one, and the parent
refers to it by this name, then no definition in place is left that would be read; and whatever the
order of the definitions, they give a grammar exactly if they did so before, and the same one. -/
theorem grammarOf_liftAll [Score α] (root : Name) (cellTypes : CellTypeTable)
    (definitions lifted : List (Name × PatternDefinition α))
    (h : lifted.Perm (liftAll definitions)) :
    (∀ entry ∈ lifted, outline entry.1 entry.2 = entry.2) ∧
      ∀ g, grammarOf root cellTypes definitions = .ok g ↔
        grammarOf root cellTypes lifted = .ok g := by
  constructor
  · intro entry mem
    obtain ⟨⟨name, d⟩, -, mem⟩ := List.mem_flatMap.1 (h.mem_iff.1 mem)
    exact outline_lift name d entry mem
  · intro g
    calc grammarOf root cellTypes definitions = .ok g
        ↔ grammarOf root cellTypes (liftAll definitions) = .ok g := by
          simp only [grammarOf, Outcome.bind_eq_ok, loadAll_liftAll]
      _ ↔ grammarOf root cellTypes lifted = .ok g := ⟨grammarOf_perm h.symm, grammarOf_perm h⟩

/-- The fields of a definition of which only the cell type is given. -/
def bare (contentType : Option Name) : PatternFields :=
  ⟨none, [], none, .none, contentType, none, none, none, false⟩

/-- A sheet with a row of digits, all of them defined in place. -/
def nestedSheet : PatternDefinition Rat :=
  let digit := .mk (bare (some "digit")) .missing .nil .nil
  let row := .mk (bare none) (.inline digit) .nil .nil
  .mk (bare none) .missing (.cons (.inline "row" ⟨none, none, none, .none⟩ row) .nil) .nil

/-- The same definitions one by one. -/
def flatSheet : List (Name × PatternDefinition Rat) :=
  [("sheet", .mk (bare none) .missing
      (.cons (.named "row" ⟨some "sheet.row", none, none, .none⟩) .nil) .nil),
    ("sheet.row", .mk (bare none) (.named "sheet.row.item") .nil .nil),
    ("sheet.row.item", .mk (bare (some "digit")) .missing .nil .nil)]

/-- The cell type of the digits. -/
def digitTable : CellTypeTable := .ofList [("digit", ["[0-9]"])]

theorem grammarOf_flatSheet :
    flatSheet.Perm (liftAll [("sheet", nestedSheet)]) ∧
      ∃ g, grammarOf "sheet" digitTable [("sheet", nestedSheet)] = .ok g ∧
        grammarOf "sheet" digitTable flatSheet = .ok g := by
  have lifted : liftAll [("sheet", nestedSheet)] = flatSheet.reverse := rfl
  have perm : flatSheet.Perm (liftAll [("sheet", nestedSheet)]) :=
    lifted ▸ flatSheet.reverse_perm.symm
  have built : (grammarOf "sheet" digitTable flatSheet).toOption.isSome = true := by
    decide +kernel
  obtain ⟨g, built⟩ := Option.isSome_iff_exists.1 built
  have given := Outcome.toOption_eq_some.1 built
  have same := (grammarOf_liftAll "sheet" digitTable [("sheet", nestedSheet)] flatSheet perm).2
  exact ⟨perm, g, (same g).2 given, given⟩

example : (grammarOf "sheet" digitTable [("sheet", nestedSheet)]).toOption.map Grammar.waves =
    some [["sheet.row.item"], ["sheet.row"], ["sheet"]] := by
  decide +kernel

end Definition

end SpatialGrammar

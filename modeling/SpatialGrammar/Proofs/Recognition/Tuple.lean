import SpatialGrammar.Proofs.Recognition.Evaluability

/-!
# Structures as tuples of matches

A structure each component of which binds exactly one match is a tuple of matches, one for each
component. Such a tuple is a match of the pattern if its matches do not overlap and all constraints
are true on them and the least box around the inner ones (`Tuple.toMatch?`). Main statements:
`Tuple.toMatch?_eq_none_of_allows`, what is dropped on the way is not part of any such tuple, and
`Tuple.eq_toMatch?_of_finish?`, the final check tells these tuples from the other ones.
-/

namespace SpatialGrammar.Recognition

variable {α : Type}

/-- Some components, and a match for each of them. -/
abbrev Tuple (α : Type) := List (Component α × Match α)

namespace Tuple

/-- The least box around the matches for the inner components. -/
def hull? (t : Tuple α) : Option Box :=
  Box.hull? ((t.filter fun e => !e.1.isOuter).map fun e => e.2.box)

/-- No two of the matches occupy the same grid point. -/
def IsApart (t : Tuple α) : Prop := t.Pairwise fun d e => d.2.Apart e.2

instance (t : Tuple α) : Decidable t.IsApart :=
  inferInstanceAs (Decidable (t.Pairwise fun d e => d.2.Apart e.2))

/-- The boxes of the matches under the names of the components, and the own box. -/
def boxes (t : Tuple α) (own : Box) : Name → Option Box :=
  ((NameMap.ofList (t.map fun e => (e.1.name, e.2.box))).insert Name.own own).get?

/-- All constraints are true on the boxes of the matches and the own box. -/
def Satisfies (t : Tuple α) (constraints : List Constraint) (own : Box) : Prop :=
  ∀ c ∈ constraints, c.value? (Assignment.ofBoxes (t.boxes own)) = some true

instance (t : Tuple α) (constraints : List Constraint) (own : Box) :
    Decidable (t.Satisfies constraints own) :=
  inferInstanceAs (Decidable (∀ c ∈ constraints, _ = _))

/-- The match of a pattern that binds the matches of a tuple. -/
def toMatch (p : Pattern α) (t : Tuple α) (own : Box) : Match α :=
  Match.ofComponents p.name own (NameMap.ofList (t.map fun e => (e.1.name, [e.2])))
    (componentWeights p.components)

/-- The match of a pattern that a tuple is, if its matches are apart and all constraints are true on
them and the least box around the inner ones. -/
def toMatch? (p : Pattern α) (constraints : List Constraint) (t : Tuple α) : Option (Match α) :=
  (t.hull?.filter fun own => decide (t.IsApart ∧ t.Satisfies constraints own)).map (t.toMatch p)

variable {p : Pattern α} {constraints : List Constraint} {t : Tuple α} {own : Box} {m : Match α}

lemma toMatch?_eq_some_iff : t.toMatch? p constraints = some m ↔
    ∃ own, t.hull? = some own ∧ t.IsApart ∧ t.Satisfies constraints own ∧ t.toMatch p own = m := by
  simp only [toMatch?, Option.map_eq_some_iff, Option.filter_eq_some_iff, decide_eq_true_eq,
    and_assoc]

section lookup

variable (names : (t.map fun e => e.1.name).Nodup)

include names

lemma get?_ofList_iff {β : Type} (f : Match α → β) {name : Name} {value : β} :
    (NameMap.ofList (t.map fun e => (e.1.name, f e.2))).get? name = some value ↔
      ∃ e ∈ t, e.1.name = name ∧ f e.2 = value := by
  rw [NameMap.get?_ofList (by simpa [Function.comp_def] using names), List.mem_map]
  simp only [Prod.mk.injEq]

lemma boxes_eq_some (free : ∀ e ∈ t, ¬ e.1.name.IsReserved) {e : Component α × Match α} (mem : e ∈ t) :
    t.boxes own e.1.name = some e.2.box := by
  rw [boxes, NameMap.get?_insert_of_ne _ (Name.ne_own_of_not_isReserved (free e mem))]
  exact (get?_ofList_iff names Match.box).2 ⟨e, mem, rfl, rfl⟩

end lookup

section draft

variable [Score α]

/-- The draft that has bound the matches of a tuple one after the other. -/
def draft (t : Tuple α) : Draft α := t.foldl (fun d e => d.bind e.1 [Candidate.of e.2]) Draft.empty

lemma draft_concat (t : Tuple α) (e : Component α × Match α) :
    Tuple.draft (t ++ [e]) = t.draft.bind e.1 [Candidate.of e.2] := by
  rw [draft, List.foldl_concat, draft]

lemma bound_draft (t : Tuple α) :
    t.draft.bound = NameMap.ofList (t.map fun e => (e.1.name, [e.2])) := by
  induction t using List.reverseRecOn with
  | nil => rfl
  | append_singleton t e ih =>
    rw [draft_concat, List.map_append, List.map_singleton, NameMap.ofList_concat, ← ih]
    rfl

lemma boxes_draft (t : Tuple α) :
    t.draft.boxes = NameMap.ofList (t.map fun e => (e.1.name, [e.2.box])) := by
  induction t using List.reverseRecOn with
  | nil => rfl
  | append_singleton t e ih =>
    rw [draft_concat, List.map_append, List.map_singleton, NameMap.ofList_concat, ← ih]
    rfl

lemma occupied_draft (t : Tuple α) : t.draft.occupied = t.flatMap fun e => e.2.points := by
  induction t using List.reverseRecOn with
  | nil => rfl
  | append_singleton t e ih =>
    rw [draft_concat, List.flatMap_append, ← ih]
    rfl

end draft

section whole

variable [Score α] {u w : Tuple α} {c : Component α}
variable (names : (u.map fun e => e.1.name).Nodup)

include names

/-- The box of a tuple is the one around what is bound to the inner components. -/
lemma innerBox?_draft (covers : u.map (·.1) = p.components) :
    innerBox? p.components u.draft.boxes = u.hull? := by
  have each : ∀ e ∈ u.filter fun e => !e.1.isOuter,
      (u.draft.boxes.get? e.1.name).getD [] = [e.2.box] := by
    intro e he
    have found := (get?_ofList_iff names fun m => [m.box]).2 ⟨e, List.mem_of_mem_filter he, rfl, rfl⟩
    rw [boxes_draft, found, Option.getD_some]
  rw [innerBox?, innerBoxes, ← covers, List.filter_map, List.flatMap_map, hull?, List.map_eq_flatMap]
  exact congrArg Box.hull? (List.flatMap_congr each)

lemma absentNames_draft (covers : u.map (·.1) = p.components) :
    absentNames p.components u.draft.bound = [] := by
  rw [absentNames, List.map_eq_nil_iff, List.filter_eq_nil_iff, ← covers]
  refine List.forall_mem_map.2 fun e he => ?_
  have found := (get?_ofList_iff names fun m => [m]).2 ⟨e, he, rfl, rfl⟩
  simpa [bound_draft] using NameMap.contains_iff.2 ⟨[e.2], found⟩

variable (free : ∀ e ∈ u, ¬ e.1.name.IsReserved)

include free

/-- What is bound on the way to a tuple are some of its boxes. -/
lemma oneEach_draft (part : t.Sublist u) : OneEach t.draft.boxes (u.boxes own) := by
  intro name bs eq
  rw [boxes_draft] at eq
  have fewer : (t.map fun e => e.1.name).Nodup := names.sublist (part.map _)
  obtain ⟨e, mem, rfl, rfl⟩ := (get?_ofList_iff fewer fun m => [m.box]).1 eq
  exact ⟨e.2.box, rfl, boxes_eq_some names free (part.subset mem)⟩

/-- What the final check of a tuple looks at are its boxes. -/
lemma oneEach_whole : OneEach (u.draft.boxes.insert Name.own [own]) (u.boxes own) := by
  intro name bs eq
  rw [NameMap.get?_insert] at eq
  split at eq
  next is_own => exact ⟨own, (Option.some.inj eq).symm, is_own ▸ NameMap.get?_insert_self _ _ _⟩
  next => exact oneEach_draft names free (List.Sublist.refl u) name bs eq

section mentions

variable {k : Constraint}
variable (mentions : ∀ v ∈ k.mentions, v.component = Name.own ∨ ∃ e ∈ u, e.1.name = v.component)

include mentions

/-- There is a box for whatever a constraint mentions. -/
lemma picks_whole : Picks (u.draft.boxes.insert Name.own [own]) (u.boxes own) k.componentNames := by
  intro name mem
  obtain ⟨v, hv, rfl⟩ := exists_of_mem_componentNames mem
  obtain is_own | ⟨e, he, same⟩ := mentions v hv
  · rw [is_own]
    exact ⟨[own], NameMap.get?_insert_self _ _ _, own, List.mem_singleton_self own,
      NameMap.get?_insert_self _ _ _⟩
  · have found := (get?_ofList_iff names fun m => [m.box]).2 ⟨e, he, rfl, rfl⟩
    refine ⟨[e.2.box], ?_, e.2.box, List.mem_singleton_self _, same ▸ boxes_eq_some names free he⟩
    rw [← same, NameMap.get?_insert_of_ne _ (Name.ne_own_of_not_isReserved (free e he)), boxes_draft,
      found]

omit [Score α] names in
/-- Every constraint applies to a whole tuple. -/
lemma isVacuous_whole : isVacuous [] k = false := by
  refine isVacuous_eq_false_iff.2 fun v hv => ⟨List.not_mem_nil, ?_⟩
  obtain is_own | ⟨e, he, same⟩ := mentions v hv
  · rw [is_own]
    decide
  · exact same ▸ Name.ne_parent_of_not_isReserved (free e he)

end mentions

variable (lawful : ∀ c ∈ constraints, c.IsLawful)

include lawful

/-- A match that may not be bound on the way to a tuple keeps the tuple from being a match. -/
theorem toMatch?_eq_none_of_allows (split : u = t ++ (c, m) :: w)
    (h : t.draft.allows constraints c.name (Candidate.of m) = .ok false) :
    u.toMatch? p constraints = none := by
  refine Option.eq_none_iff_forall_ne_some.2 fun n eq => ?_
  obtain ⟨own, -, apart, satisfied, -⟩ := toMatch?_eq_some_iff.1 eq
  unfold Assembly.allows at h
  split at h
  next clear =>
    -- the constraint that rules the match out is false on the boxes of the whole tuple, too
    have grown : t.draft.boxes.insert c.name [m.box] = (Tuple.draft (t ++ [(c, m)])).boxes := by
      rw [draft_concat]
      rfl
    have part : (t ++ [(c, m)]).Sublist u := by
      rw [split.trans (List.append_cons t (c, m) w)]
      exact List.sublist_append_left _ w
    have single : OneEach _ (u.boxes own) := oneEach_draft names free part
    rw [← grown] at single
    obtain ⟨k, hk, violated⟩ := single.exists_violated lawful h
    rw [satisfied k hk] at violated
    cases violated
  next overlapping =>
    simp only [Candidate.isClearOf_iff, occupied_draft, not_forall, not_not] at overlapping
    obtain ⟨q, hq, taken⟩ := overlapping
    obtain ⟨e, he, hq'⟩ := List.mem_flatMap.1 taken
    rw [IsApart, split] at apart
    exact (List.pairwise_append.1 apart).2.2 e he (c, m) List.mem_cons_self hq' hq

variable (mentions : ∀ k ∈ constraints, ∀ v ∈ k.mentions,
  v.component = Name.own ∨ ∃ e ∈ u, e.1.name = v.component)

include mentions

/-- The final check of a tuple tells whether all constraints are true on it. -/
lemma holds_whole_iff {verdict : Bool}
    (h : holds constraints (u.draft.boxes.insert Name.own [own]) [] = .ok verdict) :
    verdict = true ↔ u.Satisfies constraints own :=
  (oneEach_whole names free).holds_iff lawful (fun k hk => isVacuous_whole free (mentions k hk))
    (fun k hk => picks_whole names free (mentions k hk)) h

/-- The attempt to finish a tuple whose matches are apart tells whether it is a match. -/
theorem eq_toMatch?_of_finish? {accepts : Box → Bool} {found : Option (Match α)}
    (covers : u.map (·.1) = p.components) (apart : u.IsApart)
    (accepted : ∀ own, u.hull? = some own → accepts own = true)
    (h : u.draft.finish? p constraints accepts = .ok found) : found = u.toMatch? p constraints := by
  obtain ⟨-, -, h⟩ := Outcome.bind_eq_ok.1 h
  rw [innerBox?_draft names covers, absentNames_draft names covers] at h
  cases hull : u.hull? with
  | none =>
    simp only [hull, Option.filter_none, Outcome.pure_eq_ok] at h
    simp [toMatch?, hull, ← h]
  | some own =>
    simp only [hull, Option.filter_some, accepted own hull, if_true, Outcome.bind_eq_ok] at h
    obtain ⟨verdict, checked, h⟩ := h
    have decides := holds_whole_iff names free lawful mentions checked
    have result : u.toMatch? p constraints = if verdict then some (u.toMatch p own) else none := by
      simp [toMatch?, hull, apart, Option.filter_some, decides]
    rw [result]
    cases verdict with
    | true => rw [← Outcome.pure_eq_ok.1 h, toMatch, bound_draft, if_pos rfl]
    | false => rw [← Outcome.pure_eq_ok.1 h, if_neg Bool.false_ne_true]

end whole

end Tuple

end SpatialGrammar.Recognition

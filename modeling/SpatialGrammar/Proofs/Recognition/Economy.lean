import Mathlib
import SpatialGrammar.Proofs.Grammar.Build
import SpatialGrammar.Proofs.Recognition.Areas

/-!
# What the search for areas saves

The search for areas is not made when a required component has no candidates, and it stops at a
limit of complete drafts. Main statements: `searchedMatches_hopeless`, the search would not find
anything without candidates for a required component, unless the component binds an array that is
recognised again when others have been bound, and `complete_take`, the limit cuts off the rest of the
drafts and changes nothing else.
-/

namespace SpatialGrammar.Recognition

variable {α : Type} {s : Scene α} {p : Pattern α} {region : Option Region}
variable {slot first : Slot α} {slots rest : List (Slot α)}

lemma isHopeless_iff :
    slot.isHopeless = true ↔ slot.component.isOptional = false ∧ slot.candidates = [] := by
  simp [Slot.isHopeless]

lemma pairwise_areaSlots (h : areaSlots s p region = .ok slots) :
    slots.Pairwise fun a b => a.notAfter b = true := by
  simp only [areaSlots, Outcome.bind_eq_ok, Outcome.pure_eq_ok] at h
  obtain ⟨made, -, rfl⟩ := h
  refine List.pairwise_mergeSort (fun a b c => ?_) (fun a b => ?_) made
  · simp only [Slot.notAfter, Bool.or_eq_true, Bool.and_eq_true, decide_eq_true_eq]
    omega
  · simp only [Slot.notAfter, Bool.or_eq_true, Bool.and_eq_true, decide_eq_true_eq]
    omega

/-- What is bound before a slot without candidates has none, either, unless it is an inner component
before an outer one. -/
lemma isHopeless_of_notAfter (h : first.notAfter slot = true)
    (hopeless : slot.isHopeless = true)
    (early : slot.component.isOuter = false ∨
      (first.component.isOptional = false → first.component.isOuter = true)) :
    first.isHopeless = true := by
  obtain ⟨required, none⟩ := isHopeless_iff.1 hopeless
  simp only [Slot.notAfter, required, none, Bool.or_eq_true, Bool.and_eq_true, decide_eq_true_eq,
    List.length_nil, Nat.le_zero, List.length_eq_zero_iff] at h
  rw [isHopeless_iff]
  cases optional : first.component.isOptional with
  | true =>
    have rank := Bool.toNat_le slot.component.isOuter
    simp only [optional, Bool.toNat_true, Bool.toNat_false] at h
    omega
  | false =>
    have outer : slot.component.isOuter.toNat ≤ first.component.isOuter.toNat := by
      obtain inner | outer := early
      · simp [inner]
      · simp [outer optional, Bool.toNat_le]
    refine ⟨rfl, ?_⟩
    simp only [optional] at h
    obtain before | ⟨-, few⟩ := h
    · omega
    · exact few

lemma choicesOf_nil (c : Component α) (range : Region) :
    choicesOf c range ([] : List (Offer α)) = [] := by
  unfold choicesOf
  split <;> rfl

variable [Score α] {constraints : List Constraint} {d e : AreaDraft α} {out : List (AreaDraft α)}

section hopeless

lemma offers_nil (component : Name) : offers constraints component d [] = .ok [] := by
  rw [offers, List.mapM_nil]
  refine Outcome.bind_eq_ok.2 ⟨[], rfl, ?_⟩
  rw [List.filterMap_nil, List.mergeSort_nil]
  rfl

/-- Nothing can be bound to a component without candidates. -/
lemma bindNearest_nil (h : candidatesFor s slot d = .ok []) :
    bindNearest s constraints slot d = .ok [] := by
  rw [bindNearest, h]
  refine Outcome.bind_eq_ok.2 ⟨[], rfl, ?_⟩
  refine Outcome.bind_eq_ok.2 ⟨[], offers_nil _, ?_⟩
  rw [choicesOf_nil]
  rfl

/-- An array in context is found again within what is known of an area. -/
def Slot.IsRematched (s : Scene α) (slot : Slot α) (d : AreaDraft α) : Prop :=
  ∃ q shape found, slot.inContext = some (q, shape) ∧ d.range.minimal?.isSome = true ∧
    arrayMatches s q shape true (some d.range) = .ok found ∧ found ≠ []

/-- Only an array that is found again can be bound to a required component without candidates. -/
lemma Deals.rematched (h : Deals s constraints slot d e) (hopeless : slot.isHopeless = true) :
    slot.IsRematched s d := by
  obtain ⟨required, none⟩ := isHopeless_iff.1 hopeless
  obtain ⟨next, bound, he⟩ | ⟨optional, -⟩ := h
  · obtain ⟨ks, searched, -⟩ := Outcome.bind_eq_ok.1 bound
    have some_candidate : ks ≠ [] := by
      rintro rfl
      rw [bindNearest_nil searched, Except.ok.injEq] at bound
      rw [← bound] at he
      cases he
    obtain rfl | ⟨q, shape, found, inContext, definite, matched, floating⟩ :=
      candidatesFor_cases searched
    · exact absurd none some_candidate
    · refine ⟨q, shape, found, inContext, definite, matched, ?_⟩
      rintro rfl
      exact some_candidate (Outcome.within_eq_ok.1 floating).2.symm
  · rw [required] at optional
    cases optional

lemma Leads.deals (h : Leads s constraints slots d e) (mem : slot ∈ slots) :
    ∃ earlier later f g, slots = earlier ++ slot :: later ∧ Leads s constraints earlier d f ∧
      Deals s constraints slot f g := by
  obtain ⟨earlier, later, rfl⟩ := List.append_of_mem mem
  obtain ⟨f, g, before, dealt, -⟩ := h.split
  exact ⟨earlier, later, f, g, rfl, before, dealt⟩

/-- The search for areas ends at once when the first slot has no candidates. -/
lemma searchArea_hopeless (hopeless : first.isHopeless = true) :
    searchArea s p region (first :: rest) = .ok [] := by
  obtain ⟨required, none⟩ := isHopeless_iff.1 hopeless
  -- nothing is known of the area yet, so that no array is recognised again
  have searched : candidatesFor s first AreaDraft.empty = .ok [] := by
    unfold candidatesFor
    split
    next => rw [none]
    next eq =>
      obtain ⟨-, definite⟩ := Option.filter_eq_some_iff.1 eq
      cases definite
  have drafts : completeDrafts s (compositeConstraints s.grammar p) (first :: rest) = .ok [] := by
    refine Outcome.bind_eq_ok.2 ⟨[], bindNearest_nil searched, ?_⟩
    rw [required]
    rfl
  rw [searchArea, drafts]
  rfl

lemma areaMatches_hopeless (made : areaSlots s p region = .ok slots) (mem : slot ∈ slots)
    (hopeless : slot.isHopeless = true) : areaMatches s p region = .ok [] := by
  have answered : slots.any Slot.isHopeless = true := List.any_eq_true.2 ⟨slot, mem, hopeless⟩
  rw [areaMatches, areaCandidates, made]
  refine Outcome.bind_eq_ok.2 ⟨[], ?_, rfl⟩
  refine Outcome.bind_eq_ok.2 ⟨slots, rfl, ?_⟩
  rw [answered]
  rfl

/-- The matches of an area pattern when the search is made in any case. -/
def searchedMatches (s : Scene α) (p : Pattern α) (region : Option Region) :
    Except Fault (List (Match α)) := do
  return arbitrate s.options.elementLimit (← searchArea s p region (← areaSlots s p region))

/-- When a required component has no candidates, then the search does not find anything, either, if
the component is inner or no inner component is required. In any case a match is only found if the
component binds an array that is recognised again: what is known of the area has a certain part when
the slots before are dealt with, and there are matches of the array within. -/
theorem searchedMatches_hopeless (made : areaSlots s p region = .ok slots) (mem : slot ∈ slots)
    (hopeless : slot.isHopeless = true) :
    areaMatches s p region = .ok [] ∧
    (slot.component.isOuter = false ∨
        (∀ c ∈ p.components, c.isOptional = false → c.isOuter = true) →
      searchedMatches s p region = .ok []) ∧
    (∀ ms, searchedMatches s p region = .ok ms → ms ≠ [] →
      ∃ earlier later d, slots = earlier ++ slot :: later ∧
        Leads s (compositeConstraints s.grammar p) earlier AreaDraft.empty d ∧
        slot.IsRematched s d) := by
  refine ⟨?_, fun early => ?_, fun ms searched some_match => ?_⟩
  · exact areaMatches_hopeless made mem hopeless
  · have listed : ∀ slot ∈ slots, slot.component ∈ p.components := fun slot hs =>
      (areaSlots_spec made).1.subset (List.mem_map_of_mem hs)
    have ordered := pairwise_areaSlots made
    rw [searchedMatches, made]
    refine Outcome.bind_eq_ok.2 ⟨slots, rfl, ?_⟩
    cases slots with
    | nil => cases mem
    | cons first rest =>
      have first_hopeless : first.isHopeless = true := by
        cases mem with
        | head => exact hopeless
        | tail _ mem =>
          have before := List.rel_of_pairwise_cons ordered mem
          exact isHopeless_of_notAfter before hopeless
            (early.imp_right fun outer => outer _ (listed first List.mem_cons_self))
      rw [searchArea_hopeless first_hopeless]
      rfl
  · simp only [searchedMatches, made, Outcome.bind_eq_ok, Outcome.pure_eq_ok] at searched
    obtain ⟨_, eq, candidates, searched, rfl⟩ := searched
    cases eq
    obtain ⟨m, hm⟩ := List.exists_mem_of_ne_nil _ some_match
    obtain ⟨drafts, completed, e, he, -⟩ :=
      exists_draft_of_searchArea searched (arbitrate_subset _ _ hm)
    have led := leads_of_completeDrafts completed he
    obtain ⟨earlier, later, d, g, split, before, dealt⟩ := led.deals mem
    exact ⟨earlier, later, d, split, before, dealt.rematched hopeless⟩

end hopeless

section line

/-- Two digits next to each other; a digit may also be one step away from the next one. -/
def digitPair : Pattern ℚ where
  name := "pair"
  kind := .arrayInContext { item := "digit", layout := .row, gap := Region.between 0 1 }
  constraints := [.extent (.ofSizes (some (Interval.exact 2)) (some (Interval.exact 1)))]

/-- A letter in the corner of an area, with a pair of digits in the area or around it. -/
def lettered (isOuter : Bool) : Pattern ℚ where
  name := "table"
  kind := .area
  components := [
    { name := "head", pattern := "letter", weight := 1
      constraints := [.placement (.ofSides
        ((SideMap.set {} .left (Interval.exact 0)).set .top (Interval.exact 0)) {} true)] },
    { name := "row", pattern := "pair", isOuter, weight := 1 }]

/-- A digit, a letter and two more digits in a row. No pair has been found without a context: the
three digits are too many, and the first two of them are too far apart. -/
def fourCells (isOuter : Bool) : Scene ℚ where
  grammar := {
    patterns := ⟨[("digit", { name := "digit", kind := .cell "d" }),
      ("letter", { name := "letter", kind := .cell "l" }), ("pair", digitPair),
      ("table", lettered isOuter)]⟩
    root := "table"
    cellTypes := ⟨[("d", ["[0-9]"]), ("l", ["[a-z]"])]⟩
    options := Options.standard
    ancestors := ⟨[("digit", []), ("letter", []), ("pair", []), ("table", [])]⟩
    waves := [["digit", "letter"], ["pair"], ["table"]] }
  options := Options.standard
  cells := []
  registry := ([0, 2, 3].foldl
    (fun r x => r.register (.cell "digit" (Box.unit x 0) "1" "d" 1) [])
    Registry.empty).register (.cell "letter" (Box.unit 1 0) "a" "l" 1) []

lemma hopeless_row (isOuter : Bool) : ∃ slots slot,
    areaSlots (fourCells isOuter) (lettered isOuter) none = .ok slots ∧ slot ∈ slots ∧
      slot.isHopeless = true := by
  have found : (areaSlots (fourCells isOuter) (lettered isOuter) none).toOption.any
      (·.any Slot.isHopeless) = true := by
    cases isOuter <;> cbv
  obtain ⟨slots, made, found⟩ := Outcome.exists_of_any_toOption found
  obtain ⟨slot, mem, hopeless⟩ := List.any_eq_true.1 found
  exact ⟨slots, slot, made, mem, hopeless⟩

/-- The search binds the letter and the pair to the right of it. -/
lemma completeDrafts_row :
    let constraints := compositeConstraints (fourCells true).grammar (lettered true)
    ∃ slots d, areaSlots (fourCells true) (lettered true) none = .ok slots ∧
      completeDrafts (fourCells true) constraints slots = .ok [d] ∧
      d.boxes = ⟨[("head", [Box.unit 1 0]), ("row", [⟨2, 0, 2, 1⟩])]⟩ ∧
      absentNames (lettered true).components d.bound = [] ∧
      d.range.admits (Box.unit 1 0) = true := by
  intro constraints
  have found : (areaSlots (fourCells true) (lettered true) none).toOption.any (fun slots =>
      (completeDrafts (fourCells true) constraints slots).toOption.any fun drafts =>
        drafts.map (fun d => (d.boxes.entries, absentNames (lettered true).components d.bound,
          d.range.admits (Box.unit 1 0))) ==
        [([("head", [Box.unit 1 0]), ("row", [⟨2, 0, 2, 1⟩])], [], true)]) = true := by
    cbv
  obtain ⟨slots, made, found⟩ := Outcome.exists_of_any_toOption found
  obtain ⟨drafts, completed, found⟩ := Outcome.exists_of_any_toOption found
  obtain ⟨d, rfl, known⟩ := List.map_eq_singleton_iff.1 (eq_of_beq found)
  simp only [Prod.mk.injEq] at known
  obtain ⟨boxes, absent, admitted⟩ := known
  exact ⟨slots, d, made, completed, congrArg NameMap.mk boxes, absent, admitted⟩

lemma searchedMatches_row : ∃ m,
    searchedMatches (fourCells true) (lettered true) none = .ok [m] ∧ m.box = Box.unit 1 0 := by
  obtain ⟨slots, d, made, completed, boxes, absent, admitted⟩ := completeDrafts_row
  let m := Match.ofComponents "table" (Box.unit 1 0) d.bound
    (componentWeights (lettered true).components)
  have inner : (innerBox? (lettered true).components d.boxes).filter
      (fun b => mayLieIn none b && d.range.admits b) = some (Box.unit 1 0) := by
    rw [boxes]
    exact Option.filter_eq_some_iff.2 ⟨rfl, admitted⟩
  have finished : d.finish? (lettered true)
      (compositeConstraints (fourCells true).grammar (lettered true))
      (fun b => mayLieIn none b && d.range.admits b) = .ok (some m) := by
    rw [Assembly.finish?, inner, absent, boxes]
    rfl
  have searched : searchArea (fourCells true) (lettered true) none slots = .ok [m] := by
    rw [searchArea, completed]
    refine Outcome.bind_eq_ok.2 ⟨[d], rfl, ?_⟩
    exact Outcome.bind_eq_ok.2 ⟨[some m], Outcome.mapM_eq_ok.2 (.cons finished .nil), rfl⟩
  refine ⟨m, ?_, rfl⟩
  rw [searchedMatches, made]
  refine Outcome.bind_eq_ok.2 ⟨slots, rfl, ?_⟩
  rw [searched]
  rfl

/-- There is no pair. If it should lie in the area, then nothing can be found; if it lies around the
area, then a pair is found within what is known of the area from the letter. -/
theorem searchedMatches_hopeless_row :
    (∃ slots slot, areaSlots (fourCells false) (lettered false) none = .ok slots ∧ slot ∈ slots ∧
      slot.isHopeless = true ∧ slot.component.isOuter = false ∧
      searchedMatches (fourCells false) (lettered false) none = .ok []) ∧
    ∃ slots slot earlier later d, areaSlots (fourCells true) (lettered true) none = .ok slots ∧
      slot ∈ slots ∧ slot.isHopeless = true ∧ slots = earlier ++ slot :: later ∧
      Leads (fourCells true) (compositeConstraints (fourCells true).grammar (lettered true)) earlier
        AreaDraft.empty d ∧
      slot.IsRematched (fourCells true) d := by
  refine ⟨?_, ?_⟩
  · obtain ⟨slots, slot, made, mem, hopeless⟩ := hopeless_row false
    have all_inner : ∀ c ∈ (lettered false).components, c.isOuter = false := by decide
    have inner := all_inner _ ((areaSlots_spec made).1.subset (List.mem_map_of_mem mem))
    obtain ⟨-, nothing, -⟩ := searchedMatches_hopeless made mem hopeless
    exact ⟨slots, slot, made, mem, hopeless, inner, nothing (.inl inner)⟩
  · obtain ⟨slots, slot, made, mem, hopeless⟩ := hopeless_row true
    obtain ⟨m, searched, -⟩ := searchedMatches_row
    obtain ⟨-, -, rematched⟩ := searchedMatches_hopeless made mem hopeless
    obtain ⟨earlier, later, d, split, led, found⟩ :=
      rematched [m] searched (List.cons_ne_nil m [])
    exact ⟨slots, slot, earlier, later, d, made, mem, hopeless, split, led, found⟩

/-- If the pair lies around the area, then the search finds an area, although there is no pair. -/
theorem table_found_without_pair :
    (fourCells true).grammar.IsBuilt ∧
      (fourCells true).grammar.pattern? "table" = some (lettered true) ∧
      (∃ slots slot, areaSlots (fourCells true) (lettered true) none = .ok slots ∧ slot ∈ slots ∧
        slot.isHopeless = true) ∧
      areaMatches (fourCells true) (lettered true) none = .ok [] ∧
      ∃ m, searchedMatches (fourCells true) (lettered true) none = .ok [m] ∧
        m.box = Box.unit 1 0 := by
  have built : (fourCells true).grammar.IsBuilt :=
    Grammar.isBuilt_of_build (by with_unfolding_all rfl)
  obtain ⟨slots, slot, made, mem, hopeless⟩ := hopeless_row true
  exact ⟨built, rfl, ⟨slots, slot, made, mem, hopeless⟩, areaMatches_hopeless made mem hopeless,
    searchedMatches_row⟩

end line

section limit

variable {budget more : Nat}

/-- Less is collected by leaving out the end, if this is so for each member of the list. -/
lemma collect_take {β γ ε : Type} {f : Nat → β → Except ε (List γ)} {xs : List β} {ys : List γ}
    (each : ∀ x more zs, f more x = .ok zs → ∀ budget ≤ more, f budget x = .ok (zs.take budget))
    (le : budget ≤ more) (h : collect f more xs = .ok ys) :
    collect f budget xs = .ok (ys.take budget) := by
  induction xs generalizing budget more ys with
  | nil =>
    rw [collect, Except.ok.injEq] at h
    rw [← h, List.take_nil, collect]
  | cons x xs ih =>
    rw [collect] at h ⊢
    obtain rfl | pos := Nat.eq_zero_or_pos budget
    · rw [if_pos rfl, List.take_zero]
      rfl
    rw [if_neg (by omega)] at h ⊢
    simp only [Outcome.bind_eq_ok, Outcome.pure_eq_ok] at h ⊢
    obtain ⟨first, found, rest, later, rfl⟩ := h
    refine ⟨first.take budget, each x more first found budget le, rest.take (budget - first.length),
      ?_, (List.take_append ..).symm⟩
    -- what the first member leaves of the smaller limit is not more than it leaves of the larger one
    have left : budget - (first.take budget).length = budget - first.length := by
      rw [List.length_take]
      omega
    rw [left]
    exact ih (by omega) later

/-- A limit for the complete drafts cuts off the rest of what is found with a larger limit. -/
theorem complete_take (le : budget ≤ more) (h : complete s constraints slots more d = .ok out) :
    complete s constraints slots budget d = .ok (out.take budget) := by
  induction slots generalizing budget more d out with
  | nil =>
    rw [complete, Except.ok.injEq] at h ⊢
    rw [← h]
    split
    next none => rw [none, List.take_zero]
    next some_left =>
      rw [if_neg (by omega), List.take_of_length_le]
      rw [List.length_singleton]
      omega
  | cons slot slots ih =>
    rw [complete] at h ⊢
    obtain rfl | pos := Nat.eq_zero_or_pos budget
    · rw [if_pos rfl, List.take_zero]
      rfl
    rw [if_neg (by omega)] at h ⊢
    obtain ⟨next, bound, h⟩ := Outcome.bind_eq_ok.1 h
    refine Outcome.bind_eq_ok.2 ⟨next, bound, ?_⟩
    split at h
    next =>
      split at h
      next optional =>
        rw [if_pos optional]
        exact ih le h
      next required =>
        rw [if_neg required, ← Outcome.pure_eq_ok.1 h, List.take_nil]
        rfl
    next => exact collect_take (fun d more zs found budget le => ih le found) le h

/-- A letter and a digit close to it. -/
def flanked : Pattern ℚ where
  name := "table"
  kind := .area
  components := [{ name := "head", pattern := "letter", weight := 1 },
    { name := "digit", pattern := "digit", weight := 1 }]

/-- All three digits are close enough to the letter; two of them are found if two are wanted. -/
theorem complete_take_two : ∃ slots out,
    areaSlots (fourCells true) flanked none = .ok slots ∧
      complete (fourCells true) [] slots 5 AreaDraft.empty = .ok out ∧ out.length = 3 ∧
      complete (fourCells true) [] slots 2 AreaDraft.empty = .ok (out.take 2) := by
  have found : (areaSlots (fourCells true) flanked none).toOption.any (fun slots =>
      (complete (fourCells true) [] slots 5 AreaDraft.empty).toOption.any fun out =>
        out.length == 3) = true := by
    cbv
  obtain ⟨slots, made, found⟩ := Outcome.exists_of_any_toOption found
  obtain ⟨out, completed, three⟩ := Outcome.exists_of_any_toOption found
  exact ⟨slots, out, made, completed, eq_of_beq three, complete_take (by omega) completed⟩

end limit

end SpatialGrammar.Recognition

import Mathlib
import SpatialGrammar.Proofs.Plane.Box
import SpatialGrammar.Proofs.Recognition.Arrays
import SpatialGrammar.Proofs.Recognition.Binding
import SpatialGrammar.Proofs.Registry

/-!
# Arrays keep their limits

A cluster becomes an array as it is, trimmed, sliced or split. On each of these ways it is tested
last whether it fits the limits of the array. Main statements: `fit_of_mem_accept`, whatever is
accepted fits, and `arrayMatches_sound`, what the matches of an array pattern are.
-/

namespace SpatialGrammar.Recognition

variable {α : Type} {shape : ArrayShape} {size : Option Extent} {limits : Extent}
variable {region : Option Region} {items piece : Items α} {s : Scene α} {inContext : Bool}

/-- What fits has an admissible number of items and a hull of an admissible size. -/
lemma fitOf_eq_fits {count : Interval} {n : Nat} {hull : Option Box}
    (h : fitOf count size n hull = .fits) : count.contains n = true ∧
      ∃ b, hull = some b ∧ ∀ e ∈ size, e.admits b = true := by
  unfold fitOf at h
  split at h
  next => cases h
  next =>
    split at h
    next => cases h
    next b =>
      split at h
      next => cases h
      next =>
        split at h
        next => cases h
        next sized =>
          split at h
          next => cases h
          next counted =>
            refine ⟨by simpa using counted, b, rfl, fun e he => ?_⟩
            rw [Option.mem_def.1 he] at sized
            simpa using sized

section accept

lemma fit_of_trim? (h : trim? shape size region items = some piece) :
    fit shape size piece = .fits := by
  simp only [trim?, Option.ite_none_right_eq_some] at h
  exact Option.some.inj h.2 ▸ h.1

/-- A slice of a raster is only used if all slices of that raster fit. -/
lemma fit_of_mem_fittingSlices {hull : Box} {field : Int × Int} {numbers : List Nat}
    (h : numbers ∈ fittingSlices shape limits hull items field) :
    fit shape (some limits) (pick items numbers) = .fits := by
  obtain ⟨offset, -, mem⟩ := List.mem_flatMap.1 (Distinct.mem_ofList.1 h)
  dsimp only at mem
  split at mem
  next all => exact of_decide_eq_true (List.all_eq_true.1 all numbers mem)
  next => cases mem

lemma fit_of_mem_rasterPieces {limit : Option Nat}
    (h : piece ∈ rasterPieces limit shape limits items) :
    fit shape (some limits) piece = .fits := by
  obtain ⟨hull, size, slice, mem, rfl⟩ := mem_fittingSlices_of_mem_rasterPieces h
  exact fit_of_mem_fittingSlices mem

lemma fit_of_mem_countPieces (h : piece ∈ countPieces shape items) :
    fit shape none piece = .fits := by
  unfold countPieces at h
  split at h
  · cases h
  · exact of_decide_eq_true (List.mem_filter.1 h).2

/-- Whatever becomes of a cluster fits the limits. -/
theorem fit_of_mem_accept (h : piece ∈ accept s shape inContext size region items) :
    fit shape size piece = .fits := by
  unfold accept at h
  split at h
  next fits => exact List.mem_singleton.1 h ▸ fits
  next => cases h
  next =>
    split at h
    next => exact fit_of_trim? (Option.mem_toList.1 h)
    next =>
      split at h
      next =>
        split at h
        next => exact fit_of_mem_rasterPieces h
        next => exact fit_of_mem_countPieces h
      next => cases h

end accept

section found

variable {p : Pattern α} {ms : List (Match α)} {m : Match α} {b : Box}

/-- A box by itself, seen from its own constraints. -/
def ownBox (b : Box) (name : Name) : Option Box := if name = Name.own then some b else none

/-- The choices among the boxes of a match by itself are its own box. -/
lemma box?_of_mem_choicesFor {choice : Choice} {names : List Name}
    (h : choice ∈ choicesFor (ownBoxes b) names) :
    ∀ name ∈ names, choice.box? name = ownBox b name := by
  have drawn := drawn_of_mem_choicesFor h
  intro name mem
  unfold ownBox
  split
  next own =>
    have bound : (ownBoxes b).get? name = some [b] := own ▸ NameMap.get?_insert_self _ _ _
    obtain ⟨b', eq⟩ := drawn.total name mem _ bound (List.cons_ne_nil b [])
    obtain ⟨-, bs, found, hb⟩ := drawn.taken name b' eq
    rw [bound, Option.some.injEq] at found
    rw [← found] at hb
    rw [eq, List.mem_singleton.1 hb]
  next other =>
    have unbound : (ownBoxes b).get? name = none := by
      rw [ownBoxes, NameMap.get?_insert_of_ne _ other, NameMap.get?_empty]
    rw [Option.eq_none_iff_forall_ne_some]
    intro b' eq
    obtain ⟨-, bs, found, -⟩ := drawn.taken name b' eq
    rw [unbound] at found
    cases found

/-- The own constraints that have been checked on a box are satisfied by it. -/
lemma checkAt_ownBox (h : holds p.ownConstraints (ownBoxes b) [] = .ok true) :
    ∀ c ∈ p.ownConstraints, c.checkAt (ownBox b) = .ok true := by
  intro c hc
  have applies : isVacuous [] c = false := by
    have own := (List.mem_filter.1 hc).2
    simpa [isVacuous, Pattern.mentionsParent] using own
  have one := Outcome.allM_eq_ok.1 h c hc
  rw [applies, if_neg Bool.false_ne_true] at one
  obtain ⟨choice, hch⟩ := exists_mem_choicesFor (ownBoxes b) c.componentNames
  have checked := Outcome.allM_eq_ok.1 one choice hch
  rwa [Constraint.checkAt_congr fun v hv =>
    box?_of_mem_choicesFor hch v.component (mem_componentNames hv)] at checked

/-- What a match of an array pattern is: it consists of matches of the item pattern within the
region, none of which it uses more often than it is registered, as many as there should be. Its box
is the least one around the items, has an admissible size and satisfies the own constraints. -/
structure IsArrayOf (s : Scene α) (p : Pattern α) (shape : ArrayShape) (region : Option Region)
    (m : Match α) : Prop where
  array : m = .array p.name m.box m.items
  candidates : m.items.Subperm (s.registry.namedIn shape.item region)
  inside : ∀ i ∈ m.items, i ∈ s.registry.named shape.item ∧ mayLieIn region i.box = true
  counted : shape.itemCount.contains m.items.length = true
  least : m.box.IsLeastAround (m.items.map Match.box)
  sized : ∀ e ∈ p.size?, e.admits m.box = true
  satisfied : ∀ c ∈ p.ownConstraints, c.checkAt (ownBox m.box) = .ok true

lemma mem_namedIn {i : Match α} {name : Name} (h : i ∈ s.registry.namedIn name region) :
    i ∈ s.registry.named name ∧ mayLieIn region i.box = true := by
  refine ⟨(Registry.namedIn_sublist _ _ _).subset h, ?_⟩
  cases region with
  | none => rfl
  | some r => exact Registry.mayContain_of_mem_namedIn h

/-- A cluster that fits and satisfies the own constraints makes an array of its pattern. -/
lemma isArrayOf_ofItems (part : items.Subperm (s.registry.namedIn shape.item region))
    (fits : fit shape p.size? items = .fits)
    (satisfied : holds p.ownConstraints (ownBoxes (Match.ofItems p.name items).box) [] = .ok true) :
    IsArrayOf s p shape region (Match.ofItems p.name items) := by
  have perm : (Match.inRowOrder items).Perm items := List.mergeSort_perm _ _
  obtain ⟨counted, b, hull, sized⟩ := fitOf_eq_fits fits
  have hull' : Match.hull? (Match.inRowOrder items) = some b :=
    (Box.hull?_perm (perm.map Match.box)).trans hull
  have box : (Match.ofItems p.name items).box = b := by
    rw [Match.ofItems, Match.box, hull', Option.getD_some]
  have candidates : (Match.inRowOrder items).Subperm (s.registry.namedIn shape.item region) :=
    perm.subperm.trans part
  exact {
    array := rfl
    candidates
    inside := fun i hi => mem_namedIn (candidates.subset hi)
    counted := by
      rw [← perm.length_eq] at counted
      exact counted
    least := box ▸ Box.isLeastAround_hull hull'
    sized := box ▸ sized
    satisfied := checkAt_ownBox satisfied }

/-- Whatever is found for an array pattern is an array of the pattern. -/
theorem arrayMatches_sound [Score α] (h : arrayMatches s p shape inContext region = .ok ms)
    (hm : m ∈ ms) : IsArrayOf s p shape region m := by
  simp only [arrayMatches, arrayCandidates, Outcome.bind_eq_ok, Outcome.pure_eq_ok] at h
  obtain ⟨-, ⟨-, -, -, -, all, h, rfl⟩, rfl⟩ := h
  obtain ⟨items, mem, eq⟩ := Outcome.exists_of_mapM_option h (arbitrate_subset _ _ hm)
  obtain ⟨cluster, inside, accepted⟩ := List.mem_flatMap.1 mem
  obtain ⟨satisfied, eq⟩ := Outcome.ite_eq_ok_some.1 eq
  have part := (subperm_of_mem_accept accepted).trans (subperm_of_mem_clusters inside)
  have sound := isArrayOf_ofItems part (fit_of_mem_accept accepted) satisfied
  exact Option.some.inj (Outcome.pure_eq_ok.1 eq) ▸ sound

end found

section witness

/-- A row of at most three digits. -/
def threeDigits : Pattern ℚ where
  name := "row"
  kind := .arrayInContext { item := "digit", layout := .row, itemCount := Interval.atMost 3 }
  constraints := [.extent (.ofSizes none (some (Interval.exact 1))),
    .formula (.compare (.var ⟨Name.own, .left⟩) .ge (.number 0))]

/-- A scene with five digits in a row. -/
def fiveDigits : Scene ℚ where
  grammar := {
    patterns := ⟨[("digit", { name := "digit", kind := .cell "d" }), ("row", threeDigits)]⟩
    root := "row"
    cellTypes := ⟨[("d", ["[0-9]"])]⟩
    options := Options.standard
    ancestors := ⟨[("digit", []), ("row", [])]⟩
    waves := [["digit"], ["row"]] }
  options := Options.standard
  cells := []
  registry := [0, 1, 2, 3, 4].foldl
    (fun r x => r.register (.cell "digit" (Box.unit x 0) "1" "d" 1) []) Registry.empty

/-- Four digits that may lie in a region are trimmed to three, which make up a row. -/
theorem arrayMatches_sound_row :
    let shape := { item := "digit", layout := .row, itemCount := Interval.atMost 3 }
    let region := some (Region.ofExtents ⟨0, 0, 2, 1⟩ ⟨0, 0, 4, 1⟩)
    ∃ ms m, arrayMatches fiveDigits threeDigits shape true region = .ok ms ∧ m ∈ ms ∧
      m.box = ⟨0, 0, 3, 1⟩ ∧ IsArrayOf fiveDigits threeDigits shape region m := by
  intro shape region
  have found : ((arrayMatches fiveDigits threeDigits shape true region).toOption.bind fun ms =>
      ms.head?.map Match.box) = some ⟨0, 0, 3, 1⟩ := by
    cbv
  obtain ⟨ms, matched, found⟩ := Option.bind_eq_some_iff.1 found
  obtain ⟨m, first, box⟩ := Option.map_eq_some_iff.1 found
  have matched := Outcome.toOption_eq_some.1 matched
  have mem := List.mem_of_mem_head? first
  exact ⟨ms, m, matched, mem, box, arrayMatches_sound matched mem⟩

end witness

end SpatialGrammar.Recognition

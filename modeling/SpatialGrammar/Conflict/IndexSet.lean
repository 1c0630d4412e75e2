import SpatialGrammar.Conflict.Block

/-!
# Sets of indices

Sets of natural numbers below a fixed bound, the universe, in blocks with a place for each of them.
The view of a set is `contains`; equal views are equal sets (`ext`), since the places outside the
universe hold zeros.
-/

namespace SpatialGrammar

namespace Block

variable {as bs : List Block} {op : Block → Block → Block} {on : Bool → Bool → Bool}
variable {i j : Nat}

/-- Whether the place of an index holds a one, in blocks one after the other. -/
def holdsAt (bs : List Block) (i : Nat) : Bool := bs[i / 64]?.any fun b => b.holds (i % 64)

/-- An operation on blocks works on each place by itself, and makes no ones of zeros. -/
structure Placewise (op : Block → Block → Block) (on : Bool → Bool → Bool) : Prop where
  getLsbD : ∀ a b k, k < 64 → (op a b).getLsbD k = on (a.getLsbD k) (b.getLsbD k)
  zeros : on false false = false

theorem holdsAt_eq (bs : List Block) (i : Nat) :
    holdsAt bs i = bs[i / 64]?.any fun b => b.getLsbD (i % 64) := by
  simp only [holdsAt, holds_eq _ (Nat.mod_lt i (by decide : 0 < 64))]

theorem holdsAt_replicate (n i : Nat) : holdsAt (List.replicate n 0#64) i = false := by
  rw [holdsAt_eq, List.getElem?_replicate]
  split <;> simp

/-- Setting the place of an index sets no other place. -/
theorem holdsAt_set (bs : List Block) (i j : Nat) :
    holdsAt (bs.modify (i / 64) (· ||| BitVec.twoPow 64 (i % 64))) j =
      (holdsAt bs j || (decide (i = j) && decide (j / 64 < bs.length))) := by
  have hk := Nat.mod_lt i (by decide : 0 < 64)
  have same : i = j ↔ i / 64 = j / 64 ∧ i % 64 = j % 64 := by omega
  rw [holdsAt_eq, holdsAt_eq, List.getElem?_modify]
  by_cases lt : j / 64 < bs.length
  · by_cases block : i / 64 = j / 64 <;> simp [lt, block, same, BitVec.getLsbD_twoPow, hk]
  · simp [lt]

/-- Clearing the place of an index clears no other place. -/
theorem holdsAt_clear (bs : List Block) (i j : Nat) :
    holdsAt (bs.modify (i / 64) (· &&& ~~~BitVec.twoPow 64 (i % 64))) j =
      (holdsAt bs j && !decide (i = j)) := by
  have hk := Nat.mod_lt j (by decide : 0 < 64)
  have same : i = j ↔ i / 64 = j / 64 ∧ j % 64 = i % 64 := by omega
  rw [holdsAt_eq, holdsAt_eq, List.getElem?_modify]
  cases bs[j / 64]? with
  | none => rfl
  | some b =>
    by_cases block : i / 64 = j / 64 <;> simp [block, same, hk]

/-- Joining blocks one by one joins them place by place. -/
theorem holdsAt_zipWith (h : Placewise op on) (len : as.length = bs.length) (i : Nat) :
    holdsAt (List.zipWith op as bs) i = on (holdsAt as i) (holdsAt bs i) := by
  have hk := Nat.mod_lt i (by decide : 0 < 64)
  simp only [holdsAt_eq, List.getElem?_zipWith]
  by_cases lt : i / 64 < as.length
  · simp [lt, len ▸ lt, h.getLsbD _ _ _ hk]
  · simp [List.getElem?_eq_none (Nat.le_of_not_lt lt),
      List.getElem?_eq_none (len ▸ Nat.le_of_not_lt lt), h.zeros]

theorem placewise_or : Placewise (· ||| ·) (· || ·) := ⟨fun _ _ _ _ => BitVec.getLsbD_or, rfl⟩

theorem placewise_and : Placewise (· &&& ·) (· && ·) := ⟨fun _ _ _ _ => BitVec.getLsbD_and, rfl⟩

theorem placewise_without : Placewise (fun a b => a &&& ~~~b) (fun x y => x && !y) :=
  ⟨fun _ _ _ hk => by simp [hk], rfl⟩

end Block

/-- A set of indices below `n`. -/
structure IndexSet (n : Nat) where
  blocks : List Block
  length_blocks : blocks.length = (n + 63) / 64
  holdsAt_of_le : ∀ i, n ≤ i → Block.holdsAt blocks i = false
  deriving DecidableEq

namespace IndexSet

variable {n : Nat}

/-- Whether an index belongs to the set. -/
def contains (s : IndexSet n) (i : Nat) : Bool := Block.holdsAt s.blocks i

/-- The set without members. -/
def empty : IndexSet n where
  blocks := List.replicate ((n + 63) / 64) 0#64
  length_blocks := List.length_replicate
  holdsAt_of_le i _ := Block.holdsAt_replicate _ i

instance : Inhabited (IndexSet n) := ⟨empty⟩

theorem div_lt_length_blocks (s : IndexSet n) {i : Nat} (h : i < n) : i / 64 < s.blocks.length := by
  rw [s.length_blocks]
  omega

/-- The set with an index added; an index outside the universe adds nothing. -/
def insert (s : IndexSet n) (i : Nat) : IndexSet n :=
  if h : i < n then
    { blocks := s.blocks.modify (i / 64) (· ||| BitVec.twoPow 64 (i % 64))
      length_blocks := by rw [List.length_modify, s.length_blocks]
      holdsAt_of_le := fun j hj => by
        have ne : i ≠ j := Nat.ne_of_lt (Nat.lt_of_lt_of_le h hj)
        simp [Block.holdsAt_set, s.holdsAt_of_le j hj, ne] }
  else s

/-- The set with an index taken away. -/
def erase (s : IndexSet n) (i : Nat) : IndexSet n :=
  if s.contains i then
    { blocks := s.blocks.modify (i / 64) (· &&& ~~~BitVec.twoPow 64 (i % 64))
      length_blocks := by rw [List.length_modify, s.length_blocks]
      holdsAt_of_le := fun j hj => by
        rw [Block.holdsAt_clear, s.holdsAt_of_le j hj, Bool.false_and] }
  else s

/-- Adds an index, and tells whether it is new. -/
def add (s : IndexSet n) (i : Nat) : Bool × IndexSet n := (!s.contains i, s.insert i)

/-- Takes an index away, and tells whether it was there. -/
def remove (s : IndexSet n) (i : Nat) : Bool × IndexSet n := (s.contains i, s.erase i)

/-- Two sets joined block by block. -/
def join {op : Block → Block → Block} {on : Bool → Bool → Bool} (h : Block.Placewise op on)
    (s t : IndexSet n) : IndexSet n where
  blocks := List.zipWith op s.blocks t.blocks
  length_blocks := by rw [List.length_zipWith, s.length_blocks, t.length_blocks, Nat.min_self]
  holdsAt_of_le i hi := by
    rw [Block.holdsAt_zipWith h (s.length_blocks.trans t.length_blocks.symm),
      s.holdsAt_of_le i hi, t.holdsAt_of_le i hi, h.zeros]

/-- The members of either set; joining in place comes to the same. -/
def union (s t : IndexSet n) : IndexSet n := s.join Block.placewise_or t

/-- The members of both sets. -/
def inter (s t : IndexSet n) : IndexSet n := s.join Block.placewise_and t

/-- The members of the first set that the second lacks. -/
def diff (s t : IndexSet n) : IndexSet n := s.join Block.placewise_without t

/-- The members in ascending order. -/
def toList (s : IndexSet n) : List Nat :=
  s.blocks.zipIdx.flatMap fun (b, w) => b.places.map fun k => w * 64 + k

/-- The number of members. -/
def size (s : IndexSet n) : Nat := s.blocks.foldr (fun b more => b.count + more) 0

/-- Whether the set has no members. -/
def isEmpty (s : IndexSet n) : Bool := s.blocks.all fun b => b == 0#64

/-- The least member, which belongs to the first block with a one. -/
def first? (s : IndexSet n) : Option Nat :=
  (s.blocks.zipIdx.find? fun (b, _) => b != 0#64).map fun (b, w) => w * 64 + b.lowest

/-- Whether two sets have no member in common. -/
def isDisjoint (s t : IndexSet n) : Bool :=
  (s.blocks.zip t.blocks).all fun (a, b) => a &&& b == 0#64

/-- Whether every member of the first set belongs to the second. -/
def isSubset (s t : IndexSet n) : Bool :=
  (s.blocks.zip t.blocks).all fun (a, b) => a &&& ~~~b == 0#64

/-- Whether the first set is contained in the second and smaller. -/
def isStrictSubset (s t : IndexSet n) : Bool := s != t && s.isSubset t

/-- The set of the indices on a list, as far as they belong to the universe. -/
def ofList (indices : List Nat) : IndexSet n := indices.foldl insert empty

/-- The set of the indices on a list, all of which have to belong to the universe. -/
def ofList? (indices : List Nat) : Option (IndexSet n) :=
  if indices.all fun i => decide (i < n) then some (ofList indices) else none

/-- The set of all indices of the universe. -/
def full : IndexSet n := ofList (List.range n)

/-- The indices of the universe that satisfy a test. -/
def ofTest (p : Nat → Bool) : IndexSet n := ofList ((List.range n).filter p)

/-- The members as they are shown in messages. -/
def text (s : IndexSet n) : String :=
  "\x7b" ++ String.intercalate ", " (s.toList.map toString) ++ "\x7d"

theorem ext {s t : IndexSet n} (h : ∀ i, s.contains i = t.contains i) : s = t := by
  have same : s.blocks = t.blocks := by
    apply List.ext_getElem (s.length_blocks.trans t.length_blocks.symm)
    intro w hs ht
    apply BitVec.eq_of_getLsbD_eq
    intro k hk
    have at_place := h (w * 64 + k)
    have div : (w * 64 + k) / 64 = w := by omega
    have mod : (w * 64 + k) % 64 = k := by omega
    simpa [contains, Block.holdsAt_eq, div, mod, hs, ht] using at_place
  cases s
  cases t
  cases same
  rfl

theorem lt_of_contains {s : IndexSet n} {i : Nat} (h : s.contains i = true) : i < n := by
  apply Nat.lt_of_not_le
  intro le
  rw [contains, s.holdsAt_of_le i le] at h
  cases h

@[simp] theorem contains_empty (i : Nat) : (empty : IndexSet n).contains i = false :=
  Block.holdsAt_replicate _ i

@[simp] theorem contains_insert (s : IndexSet n) (i j : Nat) :
    (s.insert i).contains j = (s.contains j || (decide (i = j) && decide (j < n))) := by
  rw [insert]
  split
  next hi =>
    have inside : i = j → (decide (j / 64 < s.blocks.length) = decide (j < n)) := by
      rintro rfl
      simp [s.div_lt_length_blocks hi, hi]
    by_cases e : i = j
    · rw [contains, Block.holdsAt_set, inside e, contains]
    · simp [contains, Block.holdsAt_set, e]
  next hi =>
    have out : (decide (i = j) && decide (j < n)) = false := by
      simp only [Bool.and_eq_false_imp, decide_eq_true_eq, decide_eq_false_iff_not]
      rintro rfl
      exact hi
    rw [out, Bool.or_false]

@[simp] theorem contains_erase (s : IndexSet n) (i j : Nat) :
    (s.erase i).contains j = (s.contains j && !decide (i = j)) := by
  rw [erase]
  split
  next => exact Block.holdsAt_clear s.blocks i j
  next missing =>
    by_cases e : i = j
    · subst e
      simp [missing]
    · simp [e]

@[simp] theorem contains_join {op : Block → Block → Block} {on : Bool → Bool → Bool}
    (h : Block.Placewise op on) (s t : IndexSet n) (i : Nat) :
    (s.join h t).contains i = on (s.contains i) (t.contains i) :=
  Block.holdsAt_zipWith h (s.length_blocks.trans t.length_blocks.symm) i

@[simp] theorem contains_union (s t : IndexSet n) (i : Nat) :
    (s.union t).contains i = (s.contains i || t.contains i) :=
  contains_join Block.placewise_or s t i

@[simp] theorem contains_inter (s t : IndexSet n) (i : Nat) :
    (s.inter t).contains i = (s.contains i && t.contains i) :=
  contains_join Block.placewise_and s t i

@[simp] theorem contains_diff (s t : IndexSet n) (i : Nat) :
    (s.diff t).contains i = (s.contains i && !t.contains i) :=
  contains_join Block.placewise_without s t i

theorem mem_toList {s : IndexSet n} {i : Nat} : i ∈ s.toList ↔ s.contains i = true := by
  simp only [toList, List.mem_flatMap, List.mem_map, Prod.exists, Block.mem_places,
    List.mk_mem_zipIdx_iff_getElem?, contains, Block.holdsAt_eq, Option.any_eq_true]
  constructor
  · rintro ⟨b, w, block, k, one, rfl⟩
    have hk := BitVec.lt_of_getLsbD one
    have div : (w * 64 + k) / 64 = w := by omega
    have mod : (w * 64 + k) % 64 = k := by omega
    exact ⟨b, by rw [div, block], by rwa [mod]⟩
  · rintro ⟨b, block, one⟩
    exact ⟨b, i / 64, block, i % 64, one, by omega⟩

end IndexSet

end SpatialGrammar

/-! Finite maps from text to values, held in key order.

Keys are ordered by code point. The order is part of the type, so two
dictionaries with the same answers to every lookup are equal.
-/

set_option autoImplicit false

namespace TraceAgent

variable {β : Type}

def lookup (key : String) : List (String × β) → Option β
  | [] => none
  | (k, v) :: rest => if k = key then some v else lookup key rest

def insertPair (key : String) (value : β) : List (String × β) → List (String × β)
  | [] => [(key, value)]
  | (k, v) :: rest =>
      if key < k then (key, value) :: (k, v) :: rest
      else if k = key then (key, value) :: rest
      else (k, v) :: insertPair key value rest

def erasePair (key : String) : List (String × β) → List (String × β)
  | [] => []
  | (k, v) :: rest => if k = key then rest else (k, v) :: erasePair key rest

/-- Strictly increasing keys. -/
def Ordered (pairs : List (String × β)) : Prop :=
  pairs.Pairwise (fun first second => first.1 < second.1)

theorem mem_of_mem_insertPair {key : String} {value : β} {pair : String × β}
    {pairs : List (String × β)} (member : pair ∈ insertPair key value pairs) :
    pair = (key, value) ∨ pair ∈ pairs := by
  induction pairs with
  | nil => simpa [insertPair] using member
  | cons head rest ih =>
    obtain ⟨k, v⟩ := head
    unfold insertPair at member
    split at member
    · simpa using member
    · split at member
      · rcases List.mem_cons.mp member with same | member
        · exact .inl same
        · exact .inr (List.mem_cons_of_mem _ member)
      · rcases List.mem_cons.mp member with same | member
        · exact .inr (same ▸ List.mem_cons_self)
        · exact (ih member).imp_right (List.mem_cons_of_mem _)

theorem mem_of_mem_erasePair {key : String} {pair : String × β} {pairs : List (String × β)}
    (member : pair ∈ erasePair key pairs) : pair ∈ pairs := by
  induction pairs with
  | nil => exact member
  | cons head rest ih =>
    unfold erasePair at member
    split at member
    · exact List.mem_cons_of_mem _ member
    · rcases List.mem_cons.mp member with same | member
      · exact same ▸ List.mem_cons_self
      · exact List.mem_cons_of_mem _ (ih member)

theorem ordered_insertPair {pairs : List (String × β)} (key : String) (value : β)
    (ordered : Ordered pairs) : Ordered (insertPair key value pairs) := by
  induction pairs with
  | nil => simp [insertPair, Ordered]
  | cons head rest ih =>
    obtain ⟨k, v⟩ := head
    obtain ⟨least, ordered⟩ := List.pairwise_cons.mp ordered
    unfold insertPair
    split
    next before =>
      refine List.pairwise_cons.mpr ⟨?_, List.pairwise_cons.mpr ⟨least, ordered⟩⟩
      intro pair member
      rcases List.mem_cons.mp member with same | member
      · exact same ▸ before
      · exact String.lt_trans before (least pair member)
    next notBefore =>
      split
      next same =>
        subst same
        exact List.pairwise_cons.mpr ⟨least, ordered⟩
      next different =>
        refine List.pairwise_cons.mpr ⟨?_, ih ordered⟩
        intro pair member
        rcases mem_of_mem_insertPair member with same | member
        · subst same
          have atMost : k ≤ key := String.not_lt.mp notBefore
          exact String.not_le.mp fun back => different (String.le_antisymm atMost back)
        · exact least pair member

theorem ordered_erasePair {pairs : List (String × β)} (key : String) (ordered : Ordered pairs) :
    Ordered (erasePair key pairs) := by
  induction pairs with
  | nil => exact ordered
  | cons head rest ih =>
    obtain ⟨least, ordered⟩ := List.pairwise_cons.mp ordered
    unfold erasePair
    split
    · exact ordered
    · exact List.pairwise_cons.mpr
        ⟨fun pair member => least pair (mem_of_mem_erasePair member), ih ordered⟩

structure Dictionary (β : Type) where
  pairs : List (String × β)
  ordered : Ordered pairs

namespace Dictionary

instance [DecidableEq β] : DecidableEq (Dictionary β) := fun first second =>
  if same : first.pairs = second.pairs then
    isTrue (by cases first; cases second; cases same; rfl)
  else isFalse fun equal => same (congrArg pairs equal)

instance [Repr β] : Repr (Dictionary β) where
  reprPrec dictionary := reprPrec dictionary.pairs

def empty : Dictionary β := ⟨[], List.Pairwise.nil⟩

instance : Inhabited (Dictionary β) := ⟨empty⟩

def get? (dictionary : Dictionary β) (key : String) : Option β :=
  lookup key dictionary.pairs

def contains (dictionary : Dictionary β) (key : String) : Bool :=
  (dictionary.get? key).isSome

def insert (dictionary : Dictionary β) (key : String) (value : β) : Dictionary β :=
  ⟨insertPair key value dictionary.pairs, ordered_insertPair key value dictionary.ordered⟩

def erase (dictionary : Dictionary β) (key : String) : Dictionary β :=
  ⟨erasePair key dictionary.pairs, ordered_erasePair key dictionary.ordered⟩

def ofPairs (pairs : List (String × β)) : Dictionary β :=
  pairs.foldl (fun dictionary pair => dictionary.insert pair.1 pair.2) empty

def size (dictionary : Dictionary β) : Nat := dictionary.pairs.length

def isEmpty (dictionary : Dictionary β) : Bool := dictionary.pairs.isEmpty

end Dictionary

theorem lookup_insertPair (key other : String) (value : β) (pairs : List (String × β)) :
    lookup other (insertPair key value pairs)
      = if key = other then some value else lookup other pairs := by
  induction pairs with
  | nil => simp [insertPair, lookup]
  | cons head rest ih =>
    obtain ⟨k, v⟩ := head
    unfold insertPair
    split
    · simp [lookup]
    · split
      next same =>
        subst same
        by_cases equal : k = other <;> simp [lookup, equal]
      next different =>
        by_cases equal : k = other
        · subst equal
          simp [lookup, Ne.symm different]
        · simp [lookup, equal, ih]

@[simp] theorem Dictionary.get?_insert (dictionary : Dictionary β) (key other : String) (value : β) :
    (dictionary.insert key value).get? other
      = if key = other then some value else dictionary.get? other :=
  lookup_insertPair key other value dictionary.pairs

end TraceAgent

import TraceAgent.Dictionary

/-! What is found in a dictionary, and how it grows.

A key that is put in is new, and then there is one pair more, or it has a pair
already, and then their number stays. A dictionary is all that can be found in it.
-/

set_option autoImplicit false

namespace TraceAgent

variable {β : Type} {key : String} {value : β} {pairs : List (String × β)}

theorem lookup_eq_none : lookup key pairs = none ↔ ∀ pair ∈ pairs, pair.1 ≠ key := by
  induction pairs with
  | nil => simp [lookup]
  | cons head rest ih =>
    unfold lookup
    by_cases same : head.1 = key <;> simp [same, ih]

theorem mem_of_lookup (found : lookup key pairs = some value) : (key, value) ∈ pairs := by
  induction pairs with
  | nil => cases found
  | cons head rest ih =>
    unfold lookup at found
    split at found
    next same =>
      cases found
      rw [← same]
      exact List.mem_cons_self
    next => exact List.mem_cons_of_mem _ (ih found)

theorem lookup_of_mem (ordered : Ordered pairs) (member : (key, value) ∈ pairs) :
    lookup key pairs = some value := by
  induction pairs with
  | nil => cases member
  | cons head rest ih =>
    obtain ⟨least, ordered⟩ := List.pairwise_cons.mp ordered
    unfold lookup
    rcases List.mem_cons.mp member with same | later
    · rw [← same, if_pos rfl]
    · have other : head.1 ≠ key := fun same =>
        String.lt_irrefl key (same ▸ least (key, value) later)
      rw [if_neg other]
      exact ih ordered later

theorem insertPair_of_behind (behind : ∀ pair ∈ pairs, pair.1 < key) :
    insertPair key value pairs = pairs ++ [(key, value)] := by
  induction pairs with
  | nil => rfl
  | cons head rest ih =>
    have before := behind head List.mem_cons_self
    have other : head.1 ≠ key := fun same => String.lt_irrefl key (same ▸ before)
    unfold insertPair
    rw [if_neg (String.lt_asymm before), if_neg other,
      ih fun pair member => behind pair (List.mem_cons_of_mem _ member)]
    rfl

theorem Ordered.nodup (ordered : Ordered pairs) : pairs.Nodup := by
  refine List.Pairwise.imp ?_ ordered
  rintro first _ before rfl
  exact String.lt_irrefl _ before

/-- Pairs in key order are told apart by what is found in them. -/
theorem Ordered.ext {other : List (String × β)} (ordered : Ordered pairs)
    (otherOrdered : Ordered other) (same : ∀ key, lookup key pairs = lookup key other) :
    pairs = other := by
  have perm : pairs.Perm other := by
    refine (List.perm_ext_iff_of_nodup ordered.nodup otherOrdered.nodup).mpr ?_
    intro ⟨key, value⟩
    constructor
    · intro member
      exact mem_of_lookup (same key ▸ lookup_of_mem ordered member)
    · intro member
      exact mem_of_lookup ((same key).symm ▸ lookup_of_mem otherOrdered member)
  refine perm.eq_of_pairwise ?_ ordered otherOrdered
  intro first second _ _ before after
  exact absurd after (String.lt_asymm before)

/-- What is found among the pairs whose values are wanted. -/
theorem lookup_filter (ordered : Ordered pairs) (wanted : β → Bool) :
    lookup key (pairs.filter fun pair => wanted pair.2) = (lookup key pairs).filter wanted := by
  induction pairs with
  | nil => rfl
  | cons head rest ih =>
    obtain ⟨least, ordered⟩ := List.pairwise_cons.mp ordered
    by_cases same : head.1 = key
    · have later : lookup key rest = none := lookup_eq_none.mpr fun pair member equal =>
        String.lt_irrefl pair.1 ((same.trans equal.symm) ▸ least pair member)
      cases keeps : wanted head.2 <;> simp [lookup, same, keeps, ih ordered, later, Option.filter]
    · cases keeps : wanted head.2 <;> simp [lookup, same, keeps, ih ordered]

theorem length_insertPair (ordered : Ordered pairs) :
    (insertPair key value pairs).length =
      if (lookup key pairs).isSome then pairs.length else pairs.length + 1 := by
  induction pairs with
  | nil => rfl
  | cons head rest ih =>
    obtain ⟨least, ordered⟩ := List.pairwise_cons.mp ordered
    unfold insertPair lookup
    by_cases before : key < head.1
    · -- a key before the first one is none of the keys
      have absent : lookup key rest = none := lookup_eq_none.mpr fun pair member same =>
        String.lt_asymm before (same ▸ least pair member)
      have other : head.1 ≠ key := fun same => String.lt_irrefl key (same ▸ before)
      rw [if_pos before, if_neg other, absent]
      rfl
    · rw [if_neg before]
      by_cases same : head.1 = key
      · rw [if_pos same, if_pos same]
        rfl
      · rw [if_neg same, if_neg same, List.length_cons, ih ordered]
        split <;> rfl

theorem length_erasePair_le (key : String) (pairs : List (String × β)) :
    (erasePair key pairs).length ≤ pairs.length := by
  induction pairs with
  | nil => simp [erasePair]
  | cons head rest ih =>
    unfold erasePair
    split
    · simp
    · simpa using ih

/-! Entries under any keys, where those of one key are taken out. -/

theorem lookup_filter_self {α β : Type} [DecidableEq α] (entries : List (α × β)) (key : α) :
    (entries.filter (·.1 != key)).lookup key = none := by
  refine List.lookup_eq_none_iff.mpr fun entry member => ?_
  have apart := (List.mem_filter.mp member).2
  rwa [bne_comm]

theorem lookup_filter_ne {α β : Type} [DecidableEq α] {key other : α} (entries : List (α × β))
    (apart : other ≠ key) :
    (entries.filter (·.1 != key)).lookup other = entries.lookup other := by
  induction entries with
  | nil => rfl
  | cons entry rest ih =>
    obtain ⟨name, value⟩ := entry
    by_cases same : name = key
    · rw [List.filter_cons_of_neg (by simp [same]), ih, List.lookup_cons,
        show (other == name) = false by simp [same, apart]]
    · rw [List.filter_cons_of_pos (by simp [same]), List.lookup_cons, List.lookup_cons, ih]

namespace Dictionary

theorem contains_eq_false {dictionary : Dictionary β} :
    dictionary.contains key = false ↔ ∀ pair ∈ dictionary.pairs, pair.1 ≠ key := by
  unfold contains get?
  rw [Option.isSome_eq_false_iff, Option.isNone_iff_eq_none, lookup_eq_none]

theorem size_insert (dictionary : Dictionary β) (key : String) (value : β) :
    (dictionary.insert key value).size =
      if dictionary.contains key then dictionary.size else dictionary.size + 1 :=
  length_insertPair dictionary.ordered

theorem pairs_inj {first second : Dictionary β} : first.pairs = second.pairs ↔ first = second := by
  constructor
  · intro same
    cases first
    cases second
    cases same
    rfl
  · exact congrArg pairs

theorem insert_of_get? {dictionary : Dictionary β} (found : dictionary.get? key = some value) :
    dictionary.insert key value = dictionary := by
  refine pairs_inj.mp ?_
  apply (dictionary.insert key value).ordered.ext dictionary.ordered
  intro other
  change (dictionary.insert key value).get? other = dictionary.get? other
  rw [get?_insert]
  split
  next same => rw [← same, found]
  next => rfl

end Dictionary

end TraceAgent

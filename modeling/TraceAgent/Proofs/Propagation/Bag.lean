import Mathlib.Data.List.Dedup
import TraceAgent.Proofs.Dictionary
import TraceAgent.Proofs.Propagation.Headers

/-! What a carrier keeps in its bag, across the headers of a message.

The headers of a backend are spelled so that neither the lower case of a message
nor the three parts of a carrier interfere with them. A carrier that asks for
them by name finds in the message what another had in its bag.
-/

set_option autoImplicit false

namespace TraceAgent.Propagation

/-- Names of headers in lower case, none of which is a name of the three parts. -/
structure Headers.Apart (names : List String) : Prop where
  lowered : ∀ name ∈ names, LowerCase.lower name = name
  parts : ∀ header ∈ [Origin.header, Correlation.header, Extension.header], ∀ name ∈ names,
    LowerCase.lower header ≠ name

theorem Headers.Apart.ne_part {names : List String} (apart : Headers.Apart names)
    {header name : String} (part : header ∈ [Origin.header, Correlation.header, Extension.header])
    (listed : name ∈ names) : name ≠ header := by
  intro same
  refine apart.parts header part name listed ?_
  rw [← same]
  exact apart.lowered name listed

namespace Carrier

variable {carrier : Carrier} {names : List String} {name : String}

theorem stored?_store (carrier : Carrier) (name value other : String) :
    (carrier.store name value).stored? other =
      if name = other then some value else carrier.stored? other := by
  unfold store stored?
  dsimp only
  rw [Option.bind_some, Dictionary.get?_insert]
  cases carrier.bag <;> rfl

theorem stored?_storeAll {pairs : List (String × String)} (nodup : (pairs.map (·.1)).Nodup)
    (carrier : Carrier) (name : String) :
    (carrier.storeAll pairs).stored? name = (lookup name pairs).or (carrier.stored? name) := by
  induction pairs generalizing carrier with
  | nil => rfl
  | cons pair rest ih =>
    obtain ⟨fresh, nodup⟩ := List.nodup_cons.mp nodup
    change ((carrier.store pair.1 pair.2).storeAll rest).stored? name = _
    rw [ih nodup, stored?_store, lookup]
    by_cases same : pair.1 = name
    · have absent : lookup name rest = none := lookup_eq_none.mpr fun other member equal =>
        fresh (List.mem_map.mpr ⟨other, member, equal.trans same.symm⟩)
      rw [if_pos same, if_pos same, absent]
      rfl
    · rw [if_neg same, if_neg same]

theorem stored?_eq_lookup (carrier : Carrier) (name : String) :
    carrier.stored? name = lookup name carrier.bagPairs := by
  unfold stored? bagPairs
  cases carrier.bag <;> rfl

/-- A message holds the headers of the bag that have a value. -/
theorem Crosses.read?_bag (crosses : carrier.Crosses names) (listed : name ∈ names) :
    (Headers.writeAll .empty carrier.outgoing).read? name =
      (lookup name carrier.bagPairs).filter (· != "") := by
  cases found : lookup name carrier.bagPairs with
  | some value =>
    have member : (name, value) ∈ carrier.allItems := by
      simp [allItems, mem_of_lookup found]
    rw [crosses.read?_sent member]
    by_cases blank : value = "" <;> simp [sent, Option.filter, blank]
  | none =>
    rw [outgoing_eq]
    refine Headers.read?_writeAll .empty fun item member same => ?_
    have listedPart := crosses.parts name listed
    have member := (List.mem_filter.mp member).1
    simp only [allItems, List.mem_cons] at member
    rcases member with rfl | rfl | rfl | member
    · exact listedPart (by simp [← same, lower_header])
    · exact listedPart (by simp [← same, lower_header])
    · exact listedPart (by simp [← same, lower_header])
    · exact lookup_eq_none.mp found item member
        (crosses.lower_inj (crosses.listed item member) listed same)

theorem Crosses.of_apart (apart : Headers.Apart names)
    (listed : ∀ pair ∈ carrier.bagPairs, pair.1 ∈ names) : carrier.Crosses names.dedup where
  listed pair member := List.mem_dedup.mpr (listed pair member)
  apart := by
    have lowered : names.dedup.map LowerCase.lower = names.dedup :=
      (List.map_congr_left fun name member => apart.lowered name (List.mem_dedup.mp member)).trans
        (List.map_id _)
    rw [lowered]
    exact names.nodup_dedup
  parts name member := by
    have member := List.mem_dedup.mp member
    rw [apart.lowered name member]
    exact fun part => apart.ne_part part member rfl

/-- A message holds what the bag of its carrier holds. -/
theorem read?_outgoing_bag (apart : Headers.Apart names)
    (plain : ∀ pair ∈ carrier.bagPairs, pair.1 ∈ names ∧ pair.2 ≠ "") (listed : name ∈ names) :
    (Headers.writeAll .empty carrier.outgoing).read? name = carrier.stored? name := by
  have crosses := Crosses.of_apart apart fun pair member => (plain pair member).1
  rw [crosses.read?_bag (List.mem_dedup.mpr listed), stored?_eq_lookup]
  cases found : lookup name carrier.bagPairs with
  | none => rfl
  | some value => simp [Option.filter, (plain _ (mem_of_lookup found)).2]

theorem stored?_receiveItem {value : String}
    (other : name ∉ [Origin.header, Correlation.header, Extension.header]) (header : String)
    (carrier : Carrier) :
    (carrier.receiveItem header value).stored? name =
      if header = name then some value else carrier.stored? name := by
  have part : ∀ known ∈ [Origin.header, Correlation.header, Extension.header],
      header = known → header ≠ name := by
    rintro known member rfl rfl
    exact other member
  unfold receiveItem
  split
  next same => rw [if_neg (part _ (by simp) same)]; rfl
  split
  next same => rw [if_neg (part _ (by simp) same)]; rfl
  split
  next same => rw [if_neg (part _ (by simp) same)]; rfl
  next => exact stored?_store carrier header value name

/-- The bag never keeps a header of one of the three parts. -/
theorem stored?_receiveAll_part
    (part : name ∈ [Origin.header, Correlation.header, Extension.header])
    (headers : List (String × String)) (carrier : Carrier) :
    (carrier.receiveAll headers).stored? name = carrier.stored? name := by
  induction headers generalizing carrier with
  | nil => rfl
  | cons header rest ih =>
    refine (ih (carrier.receiveItem header.1 header.2)).trans ?_
    unfold receiveItem
    split
    next => rfl
    split
    next => rfl
    split
    next => rfl
    next first second third =>
      rw [stored?_store, if_neg]
      rintro rfl
      simp [first, second, third] at part

theorem stored?_receiveAll {read? : String → Option String} {headers : List (String × String)}
    (told : ∀ header ∈ headers, read? header.1 = some header.2)
    (other : name ∉ [Origin.header, Correlation.header, Extension.header]) (carrier : Carrier) :
    (carrier.receiveAll headers).stored? name =
      if name ∈ headers.map (·.1) then read? name else carrier.stored? name := by
  induction headers generalizing carrier with
  | nil => rfl
  | cons header rest ih =>
    change ((carrier.receiveItem header.1 header.2).receiveAll rest).stored? name = _
    rw [ih fun later member => told later (List.mem_cons_of_mem _ member),
      stored?_receiveItem other]
    have first := told header List.mem_cons_self
    by_cases later : name ∈ rest.map (·.1)
    · simp [later]
    · by_cases same : header.1 = name
      · rw [same] at first
        simp [same, first]
      · simp [later, same, Ne.symm same]

theorem asked_told (carrier : Carrier) (read? : String → Option String) :
    ∀ header ∈ carrier.asked read?,
      header.1 ∈ carrier.items.map (·.1) ∧ read? header.1 = some header.2 := by
  intro header member
  obtain ⟨item, listed, named⟩ := List.mem_filterMap.mp member
  obtain ⟨value, found, rfl⟩ := Option.map_eq_some_iff.mp named
  exact ⟨List.mem_map.mpr ⟨item, listed, rfl⟩, found⟩

theorem stored?_receive (fresh : carrier.bag = none) (expects : carrier.expected = some names)
    (apart : Headers.Apart names) (read? : String → Option String) (name : String) :
    (carrier.receive read?).stored? name = if name ∈ names then read? name else none := by
  have blank : carrier.stored? name = none := by
    unfold stored?
    rw [fresh]
    rfl
  have items : carrier.items.map (·.1) =
      Origin.header :: Correlation.header :: Extension.header :: names := by
    simp [Carrier.items, ownItems, fresh, expects, Function.comp_def]
  by_cases part : name ∈ [Origin.header, Correlation.header, Extension.header]
  · -- A header of one of the three parts is never kept in the bag.
    have unlisted : name ∉ names := fun listed => apart.ne_part part listed rfl
    rw [if_neg unlisted, ← blank]
    exact stored?_receiveAll_part part _ carrier
  · have told := carrier.asked_told read?
    unfold receive
    rw [stored?_receiveAll (fun header member => (told header member).2) part, blank]
    by_cases listed : name ∈ names
    · rw [if_pos listed]
      split
      next => rfl
      next missing =>
        cases found : read? name with
        | none => rfl
        | some value =>
          have item : name ∈ carrier.items.map (·.1) := by simp [items, listed]
          obtain ⟨own, member, rfl⟩ := List.mem_map.mp item
          refine absurd (List.mem_map.mpr ⟨(own.1, value), ?_, rfl⟩) missing
          exact List.mem_filterMap.mpr ⟨own, member, by simp [found]⟩
    · rw [if_neg listed]
      split
      next asked =>
        obtain ⟨header, member, rfl⟩ := List.mem_map.mp asked
        have item := (told header member).1
        rw [items] at item
        exact absurd item (by simpa [listed] using part)
      next => rfl

end Carrier

end TraceAgent.Propagation

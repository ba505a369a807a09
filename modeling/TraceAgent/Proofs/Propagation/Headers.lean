import Mathlib.Data.List.Nodup
import TraceAgent.Propagation.Carrier
import TraceAgent.Propagation.Headers
import TraceAgent.Proofs.Propagation.Correlation
import TraceAgent.Proofs.Text.LowerCase
import TraceAgent.Proofs.Text.Numeral

/-! What a carrier says, across the headers of a message.

An origin is read back from its header as it was written. The headers of a
carrier reach the part that wrote them, and no other header changes the origin
or the correlation.
-/

set_option autoImplicit false

namespace TraceAgent.Propagation

namespace Origin

theorem ofFields?_fields {origin : Origin} (fits : Numeral.InWidth 32 origin.spanId) :
    ofFields? origin.fields = some origin := by
  simp [ofFields?, fields, Base64.decodeText?_encodeText, Numeral.signed?_ofInt fits]

theorem dash_not_mem_fields {origin : Origin} (natural : 0 ≤ origin.spanId) :
    ∀ field ∈ origin.fields, '-' ∉ field := by
  have encoded : ∀ text : String, '-' ∉ Base64.encodeText text := fun text =>
    Base64.divider_not_mem_encode (by decide) _
  have number := Numeral.dash_not_mem_ofInt natural
  intro field member
  simp only [fields, List.mem_cons, List.not_mem_nil, or_false] at member
  -- The first field is the sampling flag, one is a number, and the others are encoded.
  rcases member with rfl | rfl | rfl | rfl | rfl | rfl | rfl | rfl
  · decide
  all_goals first | exact number | exact encoded _

theorem spanId_of_isValid {origin : Origin} (valid : origin.isValid) : 0 ≤ origin.spanId := by
  simp only [isValid, Bool.and_eq_true, decide_eq_true_eq] at valid
  omega

/-- A valid origin is read back as it was written. -/
theorem read?_write {origin : Origin} (valid : origin.isValid)
    (fits : Numeral.InWidth 32 origin.spanId) : read? origin.write = some origin := by
  have natural := spanId_of_isValid valid
  unfold read? write
  rw [if_pos valid, String.toList_ofList,
    List.splitOn_intercalate '-' (dash_not_mem_fields natural) (List.cons_ne_nil _ _),
    ofFields?_fields fits]

theorem write_ne_empty {origin : Origin} (valid : origin.isValid)
    (fits : Numeral.InWidth 32 origin.spanId) : origin.write ≠ "" := by
  intro empty
  have back := read?_write valid fits
  rw [empty] at back
  cases back

end Origin

/-- What a message says of a part that has this text. The empty text is not sent. -/
def sent (text : String) : Option String := if text = "" then none else some text

theorem sent_of_ne {text : String} (written : text ≠ "") : sent text = some text := if_neg written

namespace Headers

theorem read?_write (headers : Headers) (name value : String) :
    (headers.write name value).read? name = some value := by
  unfold read? write
  rw [Dictionary.get?_insert, if_pos rfl]

theorem read?_writeAll {pairs : List (String × String)} {name : String} (headers : Headers)
    (others : ∀ pair ∈ pairs, LowerCase.lower pair.1 ≠ LowerCase.lower name) :
    (headers.writeAll pairs).read? name = headers.read? name := by
  induction pairs generalizing headers with
  | nil => rfl
  | cons pair rest ih =>
    have kept : (headers.write pair.1 pair.2).read? name = headers.read? name := by
      unfold read? write
      rw [Dictionary.get?_insert, if_neg (others pair List.mem_cons_self)]
    rw [← kept]
    exact ih _ fun other member => others other (List.mem_cons_of_mem _ member)

theorem read?_writeAll_of_mem {pairs : List (String × String)} {name value : String}
    (headers : Headers)
    (apart : pairs.Pairwise fun first second => LowerCase.lower first.1 ≠ LowerCase.lower second.1)
    (member : (name, value) ∈ pairs) : (headers.writeAll pairs).read? name = some value := by
  induction pairs generalizing headers with
  | nil => cases member
  | cons pair rest ih =>
    obtain ⟨least, apart⟩ := List.pairwise_cons.mp apart
    change ((headers.write pair.1 pair.2).writeAll rest).read? name = _
    rcases List.mem_cons.mp member with rfl | later
    · rw [read?_writeAll _ fun other member => (least other member).symm, read?_write]
    · exact ih _ apart later

theorem read?_sent {items : List (String × String)} {name text : String}
    (apart : (items.map fun item => LowerCase.lower item.1).Nodup) (member : (name, text) ∈ items) :
    (Headers.writeAll .empty (items.filter fun item => item.2 != "")).read? name = sent text := by
  unfold sent
  split
  next blank =>
    refine read?_writeAll .empty fun item listed same => ?_
    obtain ⟨listed, written⟩ := List.mem_filter.mp listed
    -- Only the header itself has its name, and that one is left out.
    have equal := List.inj_on_of_nodup_map apart listed member same
    simp [equal, blank] at written
  next written =>
    have pairwise := (List.pairwise_map.mp apart).filter fun item => item.2 != ""
    exact read?_writeAll_of_mem .empty pairwise
      (List.mem_filter.mpr ⟨member, by simpa using written⟩)

theorem writeAll_of_lower {pairs : List (String × String)} (headers : Headers)
    (plain : ∀ pair ∈ pairs, LowerCase.lower pair.1 = pair.1) :
    headers.writeAll pairs =
      pairs.foldl (fun headers pair => headers.insert pair.1 pair.2) headers := by
  induction pairs generalizing headers with
  | nil => rfl
  | cons pair rest ih =>
    change (headers.write pair.1 pair.2).writeAll rest = _
    rw [ih _ fun other member => plain other (List.mem_cons_of_mem _ member)]
    unfold write
    rw [plain pair List.mem_cons_self]
    rfl

end Headers

namespace Carrier

/-- A carrier reads the headers that it asks for and no others. -/
theorem receive_congr {carrier : Carrier} {read? other? : String → Option String}
    (same : ∀ item ∈ carrier.items, read? item.1 = other? item.1) :
    carrier.receive read? = carrier.receive other? := by
  unfold receive asked
  congr 1
  apply List.filterMap_congr
  intro item member
  rw [same item member]

/-- Where all names are plain, a message is read as it was written. -/
theorem receive_writeAll_of_isPlain {fresh : Carrier} {pairs : List (String × String)}
    (written : pairs.all (LowerCase.isPlain ·.1))
    (asked : fresh.items.all (LowerCase.isPlain ·.1)) :
    fresh.receive (Headers.read? (Headers.writeAll .empty pairs)) =
      fresh.receive (pairs.foldl (fun headers pair => headers.insert pair.1 pair.2)
        (Dictionary.empty : Headers)).get? := by
  rw [List.all_eq_true] at written asked
  rw [Headers.writeAll_of_lower _ fun pair member =>
    LowerCase.lower_of_isPlain (written pair member)]
  apply receive_congr
  intro item member
  unfold Headers.read?
  rw [LowerCase.lower_of_isPlain (asked item member)]

theorem origin_receiveItem {name : String} (carrier : Carrier) (value : String)
    (other : name ≠ Origin.header) : (carrier.receiveItem name value).origin = carrier.origin := by
  unfold receiveItem
  rw [if_neg other]
  split
  · rfl
  · split <;> rfl

theorem origin_receiveAll {headers : List (String × String)} (carrier : Carrier)
    (others : ∀ header ∈ headers, header.1 ≠ Origin.header) :
    (carrier.receiveAll headers).origin = carrier.origin := by
  induction headers generalizing carrier with
  | nil => rfl
  | cons header rest ih =>
    rw [← carrier.origin_receiveItem header.2 (others header List.mem_cons_self)]
    exact ih _ fun other member => others other (List.mem_cons_of_mem _ member)

theorem lower_header : ∀ header ∈ [Origin.header, Correlation.header, Extension.header],
    LowerCase.lower header = header := by
  have plain : ∀ header ∈ [Origin.header, Correlation.header, Extension.header],
      LowerCase.isPlain header := by decide
  exact fun header member => LowerCase.lower_of_isPlain (plain header member)

/-- Names under which the bag of a carrier can cross a message: all that it has are among them,
and without regard to case they differ from each other and from those of the three parts. -/
structure Crosses (carrier : Carrier) (names : List String) : Prop where
  listed : ∀ pair ∈ carrier.bagPairs, pair.1 ∈ names
  apart : (names.map LowerCase.lower).Nodup
  parts : ∀ name ∈ names,
    LowerCase.lower name ∉ [Origin.header, Correlation.header, Extension.header]

variable {carrier : Carrier} {names : List String} {name text : String}

theorem ordered_bagPairs (carrier : Carrier) : Ordered carrier.bagPairs := by
  unfold bagPairs
  cases carrier.bag with
  | none => exact .nil
  | some bag => exact bag.ordered

def allItems (carrier : Carrier) : List (String × String) :=
  (Origin.header, carrier.origin.write)
    :: (Correlation.header, carrier.correlation.write)
    :: (Extension.header, carrier.extension.write)
    :: carrier.bagPairs

theorem outgoing_eq (carrier : Carrier) :
    carrier.outgoing = carrier.allItems.filter fun item => item.2 != "" := by
  have own : carrier.ownItems.filter (fun item => item.2 != "") =
      carrier.bagPairs.filter fun item => item.2 != "" := by
    unfold ownItems bagPairs
    cases carrier.bag with
    | none => simp [List.filter_map, Function.comp_def]
    | some bag => rfl
  simp only [outgoing, items, allItems, List.filter_cons, own]

namespace Crosses

variable (crosses : carrier.Crosses names)
include crosses

theorem lower_inj {other : String} (member : name ∈ names) (listed : other ∈ names)
    (same : LowerCase.lower name = LowerCase.lower other) : name = other :=
  List.inj_on_of_nodup_map crosses.apart member listed same

theorem others : ∀ name ∈ names, name ∉ [Origin.header, Correlation.header, Extension.header] := by
  intro name listed part
  exact crosses.parts name listed ((lower_header name part).symm ▸ part)

theorem nodup : (carrier.allItems.map fun item => LowerCase.lower item.1).Nodup := by
  have keys : carrier.bagPairs.Nodup := carrier.ordered_bagPairs.nodup
  have bag : (carrier.bagPairs.map fun item => LowerCase.lower item.1).Nodup := by
    refine keys.map_on fun first member second listed same => ?_
    -- Two pairs of the bag with one name are the same pair.
    have equal := crosses.lower_inj (crosses.listed first member) (crosses.listed second listed) same
    have found := lookup_of_mem carrier.ordered_bagPairs member
    rw [equal, lookup_of_mem carrier.ordered_bagPairs listed] at found
    exact Prod.ext equal (Option.some.inj found).symm
  have outside : ∀ header ∈ [Origin.header, Correlation.header, Extension.header],
      header ∉ carrier.bagPairs.map fun item => LowerCase.lower item.1 := by
    intro header part member
    obtain ⟨pair, listed, rfl⟩ := List.mem_map.mp member
    exact crosses.parts pair.1 (crosses.listed pair listed) part
  have lowered := lower_header
  simp only [List.forall_mem_cons] at outside lowered
  obtain ⟨origin, correlation, extension, -⟩ := outside
  simp only [allItems, List.map_cons, lowered, List.nodup_cons, List.mem_cons]
  refine ⟨?_, ?_, extension, bag⟩
  · rintro (same | same | member)
    · exact absurd same (by decide)
    · exact absurd same (by decide)
    · exact origin member
  · rintro (same | member)
    · exact absurd same (by decide)
    · exact correlation member

/-- What a carrier says under one of its names is what a message has there. -/
theorem read?_sent (member : (name, text) ∈ carrier.allItems) :
    (Headers.writeAll .empty carrier.outgoing).read? name = sent text := by
  rw [outgoing_eq]
  exact Headers.read?_sent crosses.nodup member

end Crosses

theorem Crosses.of_plain (plain : carrier.bag = none) : carrier.Crosses [] where
  listed := by simp [bagPairs, plain]
  apart := List.nodup_nil
  parts := by simp

/-- A message has the header of the origin as it was written, unless the bag has a header of that
name. -/
theorem read?_origin
    (others : ∀ pair ∈ carrier.bagPairs, LowerCase.lower pair.1 ≠ Origin.header) :
    (Headers.writeAll .empty carrier.outgoing).read? Origin.header = sent carrier.origin.write := by
  have lowered := lower_header
  simp only [List.forall_mem_cons] at lowered
  obtain ⟨origin, correlation, extension, -⟩ := lowered
  -- No item behind the first one has its name.
  have later : ∀ pair ∈ ((Correlation.header, carrier.correlation.write)
      :: (Extension.header, carrier.extension.write) :: carrier.bagPairs).filter
        fun item => item.2 != "", LowerCase.lower pair.1 ≠ LowerCase.lower Origin.header := by
    intro pair listed
    rw [origin]
    rcases List.mem_cons.mp (List.mem_of_mem_filter listed) with rfl | listed
    · exact fun same => absurd (correlation.symm.trans same) (by decide)
    rcases List.mem_cons.mp listed with rfl | listed
    · exact fun same => absurd (extension.symm.trans same) (by decide)
    · exact others pair listed
  rw [outgoing_eq, allItems]
  by_cases blank : carrier.origin.write = ""
  · rw [List.filter_cons_of_neg (by simp [blank]), Headers.read?_writeAll _ later, sent,
      if_pos blank]
    rfl
  · rw [List.filter_cons_of_pos (by simp [blank]), sent_of_ne blank]
    change ((Headers.write .empty Origin.header carrier.origin.write).writeAll _).read? _ = _
    rw [Headers.read?_writeAll _ later, Headers.read?_write]

theorem read?_outgoing (plain : carrier.bag = none) (valid : carrier.isValid)
    (fits : Numeral.InWidth 32 carrier.origin.spanId) :
    (Headers.writeAll .empty carrier.outgoing).read? Origin.header = some carrier.origin.write := by
  rw [read?_origin (by simp [bagPairs, plain])]
  exact sent_of_ne (Origin.write_ne_empty valid fits)

theorem read?_outgoing_correlation (plain : carrier.bag = none) :
    (Headers.writeAll .empty carrier.outgoing).read? Correlation.header =
      if carrier.correlation.write = "" then none else some carrier.correlation.write :=
  (Crosses.of_plain plain).read?_sent (by simp [allItems])

theorem origin_receive_eq (carrier : Carrier) (read? : String → Option String)
    (apart : ∀ item ∈ carrier.ownItems, item.1 ≠ Origin.header) :
    (carrier.receive read?).origin = carrier.origin.receive (read? Origin.header) := by
  have later : ∀ header ∈ ((Correlation.header, carrier.correlation.write)
      :: (Extension.header, carrier.extension.write) :: carrier.ownItems).filterMap fun item =>
        (read? item.1).map fun value => (item.1, value), header.1 ≠ Origin.header := by
    intro header member
    obtain ⟨item, listed, named⟩ := List.mem_filterMap.mp member
    obtain ⟨value, _, rfl⟩ := Option.map_eq_some_iff.mp named
    rcases List.mem_cons.mp listed with rfl | listed
    · exact show Correlation.header ≠ Origin.header by decide
    rcases List.mem_cons.mp listed with rfl | own
    · exact show Extension.header ≠ Origin.header by decide
    · exact apart item own
  unfold receive asked items
  -- The origin is asked for first, and what is received after it goes elsewhere.
  cases found : read? Origin.header with
  | none =>
    rw [List.filterMap_cons_none (by simp [found]), origin_receiveAll _ later]
    rfl
  | some value =>
    rw [List.filterMap_cons_some (b := (Origin.header, value)) (by simp [found])]
    exact origin_receiveAll _ later

/-- A carrier reads the origin of another from the headers of a message. -/
theorem origin_receive {carrier fresh : Carrier} (plain : carrier.bag = none)
    (valid : carrier.isValid) (fits : Numeral.InWidth 32 carrier.origin.spanId)
    (apart : ∀ item ∈ fresh.ownItems, item.1 ≠ Origin.header) :
    (fresh.receive (Headers.read? (Headers.writeAll .empty carrier.outgoing))).origin =
      carrier.origin := by
  rw [origin_receive_eq _ _ apart, read?_outgoing plain valid fits]
  change (Option.bind (some carrier.origin.write) Origin.read?).getD _ = _
  rw [Option.bind_some, Origin.read?_write valid fits, Option.getD_some]

theorem correlation_receiveItem {name : String} (carrier : Carrier) (value : String)
    (other : name ≠ Correlation.header) :
    (carrier.receiveItem name value).correlation = carrier.correlation := by
  unfold receiveItem
  rw [if_neg other]
  split
  · rfl
  · split <;> rfl

theorem correlation_receiveAll {headers : List (String × String)} (carrier : Carrier)
    (others : ∀ header ∈ headers, header.1 ≠ Correlation.header) :
    (carrier.receiveAll headers).correlation = carrier.correlation := by
  induction headers generalizing carrier with
  | nil => rfl
  | cons header rest ih =>
    rw [← carrier.correlation_receiveItem header.2 (others header List.mem_cons_self)]
    exact ih _ fun other member => others other (List.mem_cons_of_mem _ member)

theorem receiveAll_append (carrier : Carrier) (first second : List (String × String)) :
    carrier.receiveAll (first ++ second) = (carrier.receiveAll first).receiveAll second :=
  List.foldl_append

theorem correlation_receive (carrier : Carrier) (read? : String → Option String)
    (apart : ∀ item ∈ carrier.ownItems, item.1 ≠ Correlation.header) :
    (carrier.receive read?).correlation =
      carrier.correlation.receive (read? Correlation.header) := by
  -- The header of the origin comes first, that of the correlation second.
  have first : ∀ header ∈ [(Origin.header, carrier.origin.write)].filterMap fun item =>
      (read? item.1).map fun value => (item.1, value), header.1 ≠ Correlation.header := by
    intro header member
    obtain ⟨item, listed, named⟩ := List.mem_filterMap.mp member
    obtain ⟨value, _, rfl⟩ := Option.map_eq_some_iff.mp named
    rw [List.mem_singleton.mp listed]
    exact show Origin.header ≠ Correlation.header by decide
  have later : ∀ header ∈ ((Extension.header, carrier.extension.write)
      :: carrier.ownItems).filterMap fun item =>
        (read? item.1).map fun value => (item.1, value), header.1 ≠ Correlation.header := by
    intro header member
    obtain ⟨item, listed, named⟩ := List.mem_filterMap.mp member
    obtain ⟨value, _, rfl⟩ := Option.map_eq_some_iff.mp named
    rcases List.mem_cons.mp listed with rfl | own
    · exact show Extension.header ≠ Correlation.header by decide
    · exact apart item own
  have split : carrier.items = [(Origin.header, carrier.origin.write)] ++
      ([(Correlation.header, carrier.correlation.write)] ++
        ((Extension.header, carrier.extension.write) :: carrier.ownItems)) := rfl
  unfold receive asked
  rw [split, List.filterMap_append, List.filterMap_append, receiveAll_append, receiveAll_append,
    correlation_receiveAll _ later, ← correlation_receiveAll carrier first]
  generalize carrier.receiveAll _ = reached
  cases found : read? Correlation.header with
  | none => rw [List.filterMap_cons_none (by simp [found])]; rfl
  | some value =>
    rw [List.filterMap_cons_some (b := (Correlation.header, value)) (by simp [found])]
    rfl

end Carrier

end TraceAgent.Propagation

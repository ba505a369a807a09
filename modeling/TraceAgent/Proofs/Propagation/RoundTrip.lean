import TraceAgent.Proofs.Propagation.Bag

/-! A carrier across the headers of a message, as a whole.

Of each part a message has the header, unless there is nothing to say. Whoever
asks for all of them, with names that no spelling confuses, has the carrier
again: an origin that is not valid and headers without a value stay behind.
-/

set_option autoImplicit false

namespace TraceAgent.Propagation

namespace Extension

variable {extension : Extension}

/-- Flags are read back as they were written, as long as the time has no sign: a dash divides the
header. -/
theorem read?_write
    (times : ∀ time, extension.sentAt = some time → 0 ≤ time ∧ Numeral.InWidth 64 time) :
    read? extension.write = some extension := by
  obtain ⟨skip, sentAt⟩ := extension
  have flag : '-' ∉ [if skip then '1' else '0'] ∧
      readFlag? [if skip then '1' else '0'] = some skip := by
    cases skip <;> decide
  have divided : ∀ time : List Char, '-' ∉ time →
      ((if skip then '1' else '0') :: '-' :: time).splitOn '-' =
        [[if skip then '1' else '0'], time] := by
    intro time undivided
    have fields : ∀ field ∈ [[if skip then '1' else '0'], time], '-' ∉ field := by
      simp [undivided, flag.1]
    have back := List.splitOn_intercalate '-' fields (by simp)
    simpa [List.intercalate] using back
  cases sentAt with
  | none => simp [read?, write, divided, flag.2, readTime?]
  | some time =>
    obtain ⟨unsigned, fits⟩ := times time rfl
    have digits := Numeral.signed?_ofInt fits
    have readable : readTime? [Numeral.ofInt time] = some (some time) := by
      unfold readTime?
      split
      next none => cases none
      next blank =>
        rw [(List.cons.inj blank).1] at digits
        cases digits
      next same =>
        rw [← (List.cons.inj same).1, digits]
        rfl
    simp [read?, write, divided _ (Numeral.dash_not_mem_ofInt unsigned), flag.2, readable]

theorem write_ne_empty (extension : Extension) : extension.write ≠ "" := by
  intro blank
  have blank := congrArg String.toList blank
  simp [write] at blank

end Extension

theorem Origin.receive_sent {origin : Origin} (fits : Numeral.InWidth 32 origin.spanId) :
    Origin.receive {} (sent origin.write) = if origin.isValid then origin else {} := by
  by_cases valid : origin.isValid
  · simp [sent_of_ne (write_ne_empty valid fits), receive, read?_write valid fits, valid]
  · simp [write, valid, sent, receive]

theorem Correlation.receive_sent {correlation : Correlation} {limits : CorrelationLimits}
    (fits : (Correlation.mk correlation.pairs limits).Bounded) :
    (Correlation.receive { limits } (sent correlation.write)).pairs = correlation.pairs := by
  have said : Correlation.receive { limits } (sent correlation.write) =
      Correlation.receive { limits } (some correlation.write) := by
    by_cases blank : correlation.write = ""
    · rw [blank]
      rfl
    · rw [sent_of_ne blank]
  have back := congrArg pairs fits.receive_write
  rw [said]
  exact back

theorem Extension.receive_sent {extension : Extension}
    (times : ∀ time, extension.sentAt = some time → 0 ≤ time ∧ Numeral.InWidth 64 time) :
    Extension.receive {} (sent extension.write) = extension := by
  have written := extension.write_ne_empty
  simp [sent_of_ne written, receive, stated, Option.filter, written, read?_write times]

namespace Carrier

variable {carrier : Carrier} {names : List String} {name : String}

theorem lookup_found (read? : String → Option String) (names : List String) (name : String) :
    lookup name (names.filterMap fun name => (read? name).map (name, ·)) =
      if name ∈ names then read? name else none := by
  induction names with
  | nil => rfl
  | cons first rest ih =>
    by_cases same : first = name
    · cases found : read? name <;> simp [same, found, lookup, ih]
    · have other : ¬ name = first := fun equal => same equal.symm
      cases found : read? first <;> simp [same, other, found, lookup, ih]

theorem nodup_found (read? : String → Option String) (nodup : names.Nodup) :
    ((names.filterMap fun name => (read? name).map (name, ·)).map (·.1)).Nodup := by
  refine nodup.sublist ?_
  clear nodup
  induction names with
  | nil => exact .slnil
  | cons first rest ih =>
    cases found : read? first with
    | none => simpa [found] using ih.cons first
    | some value => simpa [found] using ih.cons_cons first

theorem receiveAll_eq_storeAll {headers : List (String × String)}
    (others : ∀ header ∈ headers,
      header.1 ∉ [Origin.header, Correlation.header, Extension.header]) (carrier : Carrier) :
    carrier.receiveAll headers = carrier.storeAll headers := by
  induction headers generalizing carrier with
  | nil => rfl
  | cons header rest ih =>
    have other := others header List.mem_cons_self
    simp only [List.mem_cons, List.not_mem_nil, or_false, not_or] at other
    have stores : carrier.receiveItem header.1 header.2 = carrier.store header.1 header.2 := by
      simp [receiveItem, other]
    change (carrier.receiveItem header.1 header.2).receiveAll rest = _
    rw [stores, ih fun later member => others later (List.mem_cons_of_mem _ member)]
    rfl

theorem storeAll_eq (carrier : Carrier) (pairs : List (String × String)) :
    carrier.storeAll pairs = { carrier with bag := (carrier.storeAll pairs).bag } := by
  induction pairs generalizing carrier with
  | nil => rfl
  | cons pair rest ih => exact ih (carrier.store pair.1 pair.2)

/-- Without a bag, a carrier hands each part what it finds under its name, and puts what it finds
under the names that it expects into the bag. -/
theorem receive_expecting (read? : String → Option String)
    (others : ∀ name ∈ names, name ∉ [Origin.header, Correlation.header, Extension.header]) :
    receive { expected := some names } read? =
      storeAll
        { origin := Origin.receive {} (read? Origin.header)
          correlation := Correlation.receive {} (read? Correlation.header)
          extension := Extension.receive {} (read? Extension.header)
          expected := some names }
        (names.filterMap fun name => (read? name).map (name, ·)) := by
  have stored : ∀ header ∈ names.filterMap fun name => (read? name).map (name, ·),
      header.1 ∉ [Origin.header, Correlation.header, Extension.header] := by
    intro header member
    obtain ⟨name, listed, named⟩ := List.mem_filterMap.mp member
    obtain ⟨value, _, rfl⟩ := Option.map_eq_some_iff.mp named
    exact others name listed
  rw [← receiveAll_eq_storeAll stored]
  unfold receive asked items ownItems
  simp only [Option.getD_some, List.filterMap_cons, List.filterMap_map]
  cases origin : read? Origin.header <;> cases correlation : read? Correlation.header <;>
    cases extension : read? Extension.header <;> rfl

/-- What a fresh carrier that expects these names has after it received the headers of another. -/
def receivedBy (carrier : Carrier) (names : List String) : Carrier :=
  receive { expected := some names } (Headers.read? (Headers.writeAll .empty carrier.outgoing))

/-- The bag that is received is the one that was sent, without the headers that have no value. -/
theorem Crosses.bagPairs_receivedBy (crosses : carrier.Crosses names) :
    (carrier.receivedBy names).bagPairs = carrier.bagPairs.filter fun pair => pair.2 != "" := by
  refine Ordered.ext (ordered_bagPairs _) (carrier.ordered_bagPairs.filter _) fun name => ?_
  rw [receivedBy, receive_expecting _ crosses.others, ← stored?_eq_lookup,
    stored?_storeAll (nodup_found _ (crosses.apart.of_map _)), lookup_found,
    lookup_filter carrier.ordered_bagPairs (· != "")]
  by_cases listed : name ∈ names
  · simp [listed, crosses.read?_bag listed, stored?]
  · have absent : lookup name carrier.bagPairs = none := lookup_eq_none.mpr fun pair member same =>
      listed (same ▸ crosses.listed pair member)
    simp [listed, absent, stored?]

/-- A carrier crosses the headers of a message. Whatever it says, if its correlation fits the limits
of a fresh carrier, its time is no negative number, and the receiver expects names under which its
bag can cross, then the receiver has its origin if that is valid, its correlation, its flags, and
those headers of its bag that have a value. -/
theorem receivedBy_eq_sent (crosses : carrier.Crosses names)
    (spanId : Numeral.InWidth 32 carrier.origin.spanId)
    (fits : (Correlation.mk carrier.correlation.pairs {}).Bounded)
    (times : ∀ time, carrier.extension.sentAt = some time → 0 ≤ time ∧ Numeral.InWidth 64 time) :
    (carrier.receivedBy names).origin = (if carrier.isValid then carrier.origin else {}) ∧
      (carrier.receivedBy names).correlation.pairs = carrier.correlation.pairs ∧
      (carrier.receivedBy names).extension = carrier.extension ∧
      (carrier.receivedBy names).bagPairs =
        carrier.bagPairs.filter fun pair => pair.2 != "" := by
  have said : ∀ item ∈ carrier.allItems,
      (Headers.writeAll .empty carrier.outgoing).read? item.1 = sent item.2 :=
    fun _ member => crosses.read?_sent member
  simp only [allItems, List.forall_mem_cons] at said
  obtain ⟨origin, correlation, extension, -⟩ := said
  have received := receive_expecting (Headers.writeAll .empty carrier.outgoing).read? crosses.others
  rw [storeAll_eq, origin, correlation, extension] at received
  refine ⟨?_, ?_, ?_, crosses.bagPairs_receivedBy⟩
  all_goals rw [receivedBy, received]
  · exact Origin.receive_sent spanId
  · exact Correlation.receive_sent fits
  · exact Extension.receive_sent times

def fullCall : Carrier where
  origin :=
    { traceId := "trace", segmentId := "segment", spanId := 2, service := "order",
      instanceName := "order-1", endpoint := "/order", address := "stock:80" }
  correlation := { pairs := .ofPairs [("user", "vip"), ("région", "île,de:France")] }
  extension := { skipAnalysis := true, sentAt := some 1700000000000 }
  bag := some (.ofPairs [("X-Tenant", "blue"), ("debug", "")])

theorem fullCall_crosses : fullCall.Crosses ["É", "X-Tenant", "debug"] :=
  ⟨by decide +kernel, by decide +kernel, by decide +kernel⟩

theorem fullCall_received :
    (fullCall.receivedBy ["É", "X-Tenant", "debug"]).origin = fullCall.origin ∧
      (fullCall.receivedBy ["É", "X-Tenant", "debug"]).correlation.pairs =
        fullCall.correlation.pairs ∧
      (fullCall.receivedBy ["É", "X-Tenant", "debug"]).extension = fullCall.extension ∧
      (fullCall.receivedBy ["É", "X-Tenant", "debug"]).bagPairs = [("X-Tenant", "blue")] := by
  obtain ⟨origin, correlation, extension, bag⟩ :=
    receivedBy_eq_sent fullCall_crosses (by decide)
      ⟨by decide +kernel, by decide +kernel, by decide +kernel⟩ (by rintro _ ⟨⟩; decide)
  have valid : fullCall.isValid := by decide
  exact ⟨origin.trans (if_pos valid), correlation, extension, bag.trans (by decide +kernel)⟩

end Carrier

end TraceAgent.Propagation

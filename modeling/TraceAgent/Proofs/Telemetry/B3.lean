import TraceAgent.Proofs.Telemetry.Propagator
import TraceAgent.Proofs.Text.Hexadecimal

/-! Reading an identity from the headers that were written for it.

Whatever encodings the writer and the reader have, the reader finds the span: a
single header that it can read names the same ids as the separate ones, which
are always written.
-/

set_option autoImplicit false

namespace TraceAgent.Telemetry.B3

variable {identity received : Identity} {reader writer : Encoding} {name : String}

theorem readTraceId?_traceText (identity : Identity) :
    readTraceId? identity.traceText.toList = some identity.traceId := by
  have small : identity.traceId.toNat % 16 ^ 32 = identity.traceId.toNat :=
    Nat.mod_eq_of_lt identity.traceId.isLt
  unfold readTraceId? Identity.traceText
  rw [String.toList_ofList, Hexadecimal.length_ofNat, if_pos (.inr rfl),
    Hexadecimal.toNat?_ofNat, small, Option.map_some, BitVec.ofNat_toNat, BitVec.setWidth_eq]

theorem readSpanId?_spanText (identity : Identity) :
    readSpanId? identity.spanText.toList = some identity.spanId := by
  have small : identity.spanId.toNat % 16 ^ 16 = identity.spanId.toNat :=
    Nat.mod_eq_of_lt identity.spanId.isLt
  unfold readSpanId? Identity.spanText
  rw [String.toList_ofList, Hexadecimal.length_ofNat, if_pos rfl, Hexadecimal.toNat?_ofNat,
    small, Option.map_some, BitVec.ofNat_toNat, BitVec.setWidth_eq]

theorem sameSpan_of_received? {traceId : BitVec 128} {spanId : BitVec 64} {flags : BitVec 8}
    (found : received? traceId spanId flags = some received) :
    received.traceId = traceId ∧ received.spanId = spanId := by
  unfold received? at found
  dsimp only at found
  split at found
  next => cases found; exact ⟨rfl, rfl⟩
  next => cases found

theorem received?_remote {traceId : BitVec 128} {spanId : BitVec 64} {flags : BitVec 8}
    (found : received? traceId spanId flags = some received) : received.remote := by
  unfold received? at found
  dsimp only at found
  split at found
  next => cases found; rfl
  next => cases found

theorem readSingle?_remote {text : String} (found : readSingle? reader text = some received) :
    received.remote := by
  unfold readSingle? at found
  split at found
  -- However many parts there are, the ids come from the first two.
  · simp only [Option.bind_eq_bind, Option.bind_eq_some_iff] at found
    obtain ⟨traceId, _, spanId, _, received⟩ := found
    exact received?_remote received
  · simp only [Option.bind_eq_bind, Option.bind_eq_some_iff] at found
    obtain ⟨traceId, _, spanId, _, flags, _, received⟩ := found
    exact received?_remote received
  · simp only [Option.bind_eq_bind, Option.bind_eq_some_iff] at found
    obtain ⟨_, _, traceId, _, spanId, _, flags, _, received⟩ := found
    exact received?_remote received
  · cases found

theorem readMulti?_remote {read? : String → Option String}
    (found : readMulti? reader read? = some received) : received.remote := by
  unfold readMulti? at found
  simp only [Option.bind_eq_bind, Option.bind_eq_some_iff] at found
  obtain ⟨traceId, _, spanId, _, flags, _, received⟩ := found
  exact received?_remote received

theorem read_remote {read? : String → Option String} (found : read reader read? = some received) :
    received.remote := by
  unfold read at found
  split at found
  next single => cases found; exact readSingle?_remote single
  next => exact readMulti?_remote found

theorem readsRemote (encoding : Encoding) : (propagator encoding).ReadsRemote := by
  intro read? valid
  change Context.identity ⟨(read encoding read?).map _⟩ |>.isValid at valid
  change (Context.identity ⟨(read encoding read?).map _⟩).remote
  cases found : read encoding read? with
  | none =>
    rw [found] at valid
    cases valid
  | some received => exact read_remote found

theorem received?_of_valid (valid : identity.isValid) (flags : BitVec 8) :
    received? identity.traceId identity.spanId flags =
      some ⟨identity.traceId, identity.spanId, flags, true⟩ := if_pos valid

theorem stateSuffix_cases (identity : Identity) :
    stateSuffix identity = "" ∨
      ∃ state, state ≠ '-' ∧ stateSuffix identity = String.ofList ['-', state] := by
  unfold stateSuffix
  split
  · exact .inl rfl
  split
  · exact .inr ⟨'d', by decide, rfl⟩
  split
  · exact .inr ⟨'1', by decide, rfl⟩
  · exact .inr ⟨'0', by decide, rfl⟩

theorem dash_not_mem_texts (identity : Identity) :
    '-' ∉ identity.traceText.toList ∧ '-' ∉ identity.spanText.toList := by
  unfold Identity.traceText Identity.spanText
  rw [String.toList_ofList, String.toList_ofList]
  exact ⟨fun member => (Hexadecimal.plain_of_mem_ofNat member).2 rfl,
    fun member => (Hexadecimal.plain_of_mem_ofNat member).2 rfl⟩

theorem parts_intercalate {text : String} (list : List (List Char)) {last : List Char}
    (written : text.toList = ['-'].intercalate (list ++ [last]))
    (plain : ∀ part ∈ list ++ [last], '-' ∉ part) (nonempty : last ≠ []) :
    parts text = list ++ [last] := by
  have split : text.toList.splitOn '-' = list ++ [last] := by
    rw [written]
    exact List.splitOn_intercalate '-' plain (List.append_ne_nil_of_right_ne_nil _ (by simp))
  unfold parts
  dsimp only
  rw [split, List.getLast?_concat, if_neg]
  exact fun same => nonempty (Option.some.inj same)

theorem parts_single (identity : Identity) :
    ∃ states, states.length ≤ 1 ∧
      parts (identity.traceText ++ "-" ++ identity.spanText ++ stateSuffix identity) =
        identity.traceText.toList :: identity.spanText.toList :: states := by
  obtain ⟨trace, span⟩ := dash_not_mem_texts identity
  have nonempty : identity.spanText.toList ≠ [] := by
    unfold Identity.spanText
    rw [String.toList_ofList, ← List.length_pos_iff, Hexadecimal.length_ofNat]
    decide
  rcases stateSuffix_cases identity with none | ⟨state, other, some⟩
  · refine ⟨[], Nat.zero_le 1,
      parts_intercalate [identity.traceText.toList] ?_ ?_ nonempty⟩
    · simp [none, List.intercalate]
    · simp [trace, span]
  · refine ⟨[[state]], Nat.le_refl 1,
      parts_intercalate [identity.traceText.toList, identity.spanText.toList] ?_ ?_ (by simp)⟩
    · simp [some, List.intercalate]
    · simp [trace, span, other.symm]

/-- A single header that can be read names the span. -/
theorem readSingle?_sameSpan {text : String} {states : List (List Char)}
    (few : states.length ≤ 1)
    (same : parts text = identity.traceText.toList :: identity.spanText.toList :: states)
    (found : readSingle? reader text = some received) : received.SameSpan identity := by
  unfold readSingle? at found
  rw [same] at found
  cases states with
  | nil =>
    dsimp only at found
    rw [readTraceId?_traceText, readSpanId?_spanText] at found
    obtain ⟨trace, span⟩ := sameSpan_of_received? found
    exact ⟨trace, span⟩
  | cons state rest =>
    obtain rfl : rest = [] :=
      List.length_eq_zero_iff.mp (Nat.le_zero.mp (Nat.le_of_succ_le_succ few))
    dsimp only at found
    rw [readTraceId?_traceText, readSpanId?_spanText] at found
    simp only [Option.bind_eq_bind, Option.bind_some, Option.bind_eq_some_iff] at found
    obtain ⟨flags, _, received⟩ := found
    obtain ⟨trace, span⟩ := sameSpan_of_received? received
    exact ⟨trace, span⟩

theorem lookup_write (writer : Encoding) (identity : Identity) :
    lookup single (write writer identity) = (if writer.hasSingle then
        some (identity.traceText ++ "-" ++ identity.spanText ++ stateSuffix identity) else none) ∧
      lookup traceIdHeader (write writer identity) = some identity.traceText ∧
      lookup spanIdHeader (write writer identity) = some identity.spanText ∧
      lookup flagsHeader (write writer identity) = (if isDebug identity then some "1" else none) ∧
      lookup sampledHeader (write writer identity) =
        (if isDebug identity ∨ isDeferred identity then none
          else some (if identity.isSampled then "1" else "0")) := by
  unfold write writeSingle writeMulti stateHeaders
  cases writer.hasSingle <;> cases isDebug identity <;> cases isDeferred identity <;>
    simp [lookup, single, traceIdHeader, spanIdHeader, flagsHeader, sampledHeader]

theorem texts_ne_empty (identity : Identity) :
    identity.traceText ≠ "" ∧ identity.spanText ≠ "" := by
  have written : ∀ width n, String.ofList (Hexadecimal.ofNat (width + 1) n) ≠ "" := by
    intro width n empty
    have length := congrArg (·.toList.length) empty
    rw [String.toList_ofList, Hexadecimal.length_ofNat] at length
    cases length
  exact ⟨written 31 _, written 15 _⟩

theorem mem_write {pair : String × String} (member : pair ∈ write writer identity) :
    pair.1 ∈ headers ∧ pair.2 ≠ "" := by
  obtain ⟨trace, span⟩ := texts_ne_empty identity
  unfold write writeMulti at member
  rcases List.mem_append.mp member with whole | member
  · split at whole
    · rw [List.mem_singleton.mp whole]
      exact ⟨(by decide : single ∈ headers), by simp [trace]⟩
    · cases whole
  rcases List.mem_cons.mp member with rfl | member
  · exact ⟨(by decide : traceIdHeader ∈ headers), trace⟩
  rcases List.mem_cons.mp member with rfl | member
  · exact ⟨(by decide : spanIdHeader ∈ headers), span⟩
  · unfold stateHeaders at member
    split at member
    · rw [List.mem_singleton.mp member]
      decide
    split at member
    · cases member
    · rw [List.mem_singleton.mp member]
      cases identity.isSampled <;> decide

theorem nodup_write (writer : Encoding) (identity : Identity) :
    ((write writer identity).map (·.1)).Nodup := by
  unfold write writeSingle writeMulti stateHeaders
  cases writer.hasSingle <;> cases isDebug identity <;> cases isDeferred identity <;>
    simp [single, traceIdHeader, spanIdHeader, flagsHeader, sampledHeader]

theorem writesB3 (encoding : Encoding) : (propagator encoding).WritesB3 :=
  ⟨fun _ _ => mem_write, nodup_write encoding⟩

section Read

variable {read? : String → Option String}
  (told : ∀ name ∈ headers, read? name = lookup name (write writer identity))

include told

theorem readMulti?_write (valid : identity.isValid) (reader : Encoding) :
    ∃ received, readMulti? reader read? = some received ∧ received.SameSpan identity := by
  obtain ⟨_, traceId, spanId, flags, sampled⟩ := lookup_write writer identity
  rw [← told _ (by decide)] at traceId spanId flags sampled
  have state : ∃ state, readStateHeaders? reader read? = some state := by
    unfold readStateHeaders?
    rw [flags, sampled]
    cases isDebug identity <;> cases isDeferred identity <;> cases identity.isSampled <;>
      exact ⟨_, rfl⟩
  obtain ⟨state, read⟩ := state
  unfold readMulti?
  rw [traceId, spanId, read, Option.getD_some, Option.getD_some, readTraceId?_traceText,
    readSpanId?_spanText]
  exact ⟨_, received?_of_valid valid state, rfl, rfl⟩

/-- The identity of a span is read as that of the same span in another process. -/
theorem read_write (valid : identity.isValid) (reader : Encoding) :
    ∃ received, read reader read? = some received ∧ received.SameSpan identity := by
  have single := (lookup_write writer identity).1
  rw [← told _ (by decide)] at single
  unfold read
  cases found : readSingle? reader ((read? B3.single).getD "") with
  | none => exact readMulti?_write told valid reader
  | some received =>
    refine ⟨received, rfl, ?_⟩
    rw [single] at found
    split at found
    next =>
      obtain ⟨states, few, same⟩ := parts_single identity
      exact readSingle?_sameSpan few same found
    next => cases found

end Read

theorem recovers (reader writer : Encoding) : (propagator reader).Recovers (propagator writer) := by
  intro identity valid
  obtain ⟨received, found, same⟩ :=
    @read_write identity writer (lookup · (write writer identity)) (fun _ _ => rfl) valid reader
  have reads : (propagator reader).read (fun name => lookup name ((propagator writer).write identity)) =
      ⟨some ⟨received, none⟩⟩ :=
    congrArg (fun identity? : Option Identity => (⟨identity?.map (⟨·, none⟩)⟩ : Context)) found
  rw [reads]
  exact ⟨same, read_remote found⟩

end TraceAgent.Telemetry.B3

import TraceAgent.Proofs.Telemetry.Provider
import TraceAgent.Telemetry.Sdk

/-! The provider that draws its ids meets what is asked of a provider.

It has fresh ids for as many spans as its sequences have ids that differ. The
rest holds whatever ids it draws.
-/

set_option autoImplicit false

namespace TraceAgent.Telemetry

def Recording.afterCall (number : Nat) (recording : Recording) : Call → Recording
  | .change other change => if other = number then recording.change change else recording
  | .finish other _ | .drop other _ =>
      if other = number then { recording with ended := true } else recording
  | .start _ | .shutDown => recording

namespace Recording

variable {recording : Recording} {number : Nat}

theorem change_of_ended (ended : recording.ended = true) (change : Change) :
    recording.change change = recording := if_pos ended

theorem ended_change (recording : Recording) (change : Change) :
    (recording.change change).ended = recording.ended := by
  unfold Recording.change
  split
  · rfl
  · split
    · unfold addAttribute
      split <;> rfl
    · unfold addEvent
      split <;> rfl
    · rfl
    · rfl

structure SameStart (first second : Recording) : Prop where
  identity : second.identity = first.identity
  parentId : second.parentId = first.parentId
  parentRemote : second.parentRemote = first.parentRemote

theorem Under.of_sameStart {later : Recording} {parent : Option Identity}
    (under : recording.Under parent) (same : recording.SameStart later) : later.Under parent := by
  cases parent with
  | none => exact same.parentId.trans under
  | some parent =>
    exact ⟨same.parentId.trans under.1, (congrArg Identity.traceId same.identity).trans under.2⟩

theorem sameStart_change (recording : Recording) (change : Change) :
    recording.SameStart (recording.change change) := by
  unfold Recording.change
  split
  · exact ⟨rfl, rfl, rfl⟩
  · split
    · unfold addAttribute
      split <;> exact ⟨rfl, rfl, rfl⟩
    · unfold addEvent
      split <;> exact ⟨rfl, rfl, rfl⟩
    · exact ⟨rfl, rfl, rfl⟩
    · exact ⟨rfl, rfl, rfl⟩

theorem sameStart_afterCall (number : Nat) (recording : Recording) (call : Call) :
    recording.SameStart (recording.afterCall number call) := by
  unfold afterCall
  split
  · split
    · exact recording.sameStart_change _
    · exact ⟨rfl, rfl, rfl⟩
  · split <;> exact ⟨rfl, rfl, rfl⟩
  · split <;> exact ⟨rfl, rfl, rfl⟩
  · exact ⟨rfl, rfl, rfl⟩
  · exact ⟨rfl, rfl, rfl⟩

theorem sameStart_run (number : Nat) (recording : Recording) (calls : List Call) :
    recording.SameStart (calls.foldl (afterCall number) recording) := by
  induction calls generalizing recording with
  | nil => exact ⟨rfl, rfl, rfl⟩
  | cons call rest ih =>
    have first := recording.sameStart_afterCall number call
    have later := ih (recording.afterCall number call)
    exact ⟨later.identity.trans first.identity, later.parentId.trans first.parentId,
      later.parentRemote.trans first.parentRemote⟩

theorem afterCall_of_ended (ended : recording.ended = true) (call : Call) :
    (recording.afterCall number call).ended = true := by
  unfold afterCall
  split
  · split
    · rw [change_of_ended ended]
      exact ended
    · exact ended
  · split <;> first | rfl | exact ended
  · split <;> first | rfl | exact ended
  · exact ended
  · exact ended

end Recording

namespace Sdk

variable {sdk current : Sdk} {number : Nat} {total : Nat}

theorem recorded?_finish (sdk : Sdk) (number : Nat) (now : Int) (other : Nat) :
    (sdk.finish number now).recorded? other =
      (sdk.recorded? other).map fun recording =>
        if number = other then { recording with ended := true } else recording := by
  by_cases same : number = other
  · subst same
    simp only [if_true]
    unfold finish
    cases found : sdk.recorded? number with
    | none =>
      dsimp only
      exact found
    | some recording =>
      dsimp only
      cases ended : recording.ended with
      | true =>
        rw [if_pos rfl, found, Option.map_some, ← ended]
      | false =>
        unfold recorded? at found ⊢
        have within : number < sdk.recordings.length := by
          by_contra beyond
          rw [List.getElem?_eq_none (Nat.le_of_not_lt beyond)] at found
          cases found
        simp [List.getElem?_set_self within]
  · simp only [if_neg same, Option.map_id']
    unfold finish
    split
    · rfl
    · split
      · rfl
      · exact congrArg Option.join (List.getElem?_set_ne same)

/-- A call changes no recording but that of its span. -/
theorem recorded?_step (within : number < sdk.recordings.length) (call : Call) :
    (sdk.step call).recorded? number =
      (sdk.recorded? number).map (·.afterCall number call) := by
  cases call with
  | start start =>
    rw [show (fun recording : Recording => recording.afterCall number (.start start)) = id from rfl,
      Option.map_id_fun, id]
    exact congrArg Option.join (List.getElem?_append_left within)
  | change other change =>
    change ((sdk.recordings.modify other _)[number]?).join = (sdk.recordings[number]?).join.map _
    rw [List.getElem?_modify]
    unfold Recording.afterCall
    cases sdk.recordings[number]? with
    | none => rfl
    | some recorded =>
      by_cases same : other = number
      · simp [same]
      · simp [same]
  | finish other now => exact sdk.recorded?_finish other now number
  | drop other now => exact sdk.recorded?_finish other now number
  | shutDown =>
    rw [show (fun recording : Recording => recording.afterCall number .shutDown) = id from rfl,
      Option.map_id_fun, id]
    rfl

theorem length_finish (sdk : Sdk) (number : Nat) (now : Int) :
    (sdk.finish number now).recordings.length = sdk.recordings.length := by
  unfold finish
  split
  · rfl
  · split
    · rfl
    · exact List.length_set

theorem finish_eq (sdk : Sdk) (number : Nat) (now : Int) :
    ∃ recordings exports, sdk.finish number now = { sdk with recordings, exports } := by
  unfold finish
  split
  · exact ⟨sdk.recordings, sdk.exports, rfl⟩
  · split
    · exact ⟨sdk.recordings, sdk.exports, rfl⟩
    · exact ⟨_, _, rfl⟩

theorem length_step (sdk : Sdk) (call : Call) :
    (sdk.step call).recordings.length = sdk.recordings.length + call.starts := by
  cases call with
  | start start => exact List.length_append
  | change other change => exact List.length_modify ..
  | finish other now => exact sdk.length_finish other now
  | drop other now => exact sdk.length_finish other now
  | shutDown => rfl

theorem after_provider (sdk : Sdk) (call : Call) :
    sdk.provider.after call = (sdk.step call).provider := by
  unfold Provider.after provider
  rw [length_step]
  rfl

theorem run_provider (sdk : Sdk) (calls : List Call) :
    sdk.provider.run calls = (calls.foldl step sdk).provider := by
  induction calls generalizing sdk with
  | nil => rfl
  | cons call rest ih =>
    change (sdk.provider.after call).run rest = _
    rw [after_provider]
    exact ih (sdk.step call)

theorem recorded?_run (within : number < sdk.recordings.length) (calls : List Call) :
    (calls.foldl step sdk).recorded? number =
      (sdk.recorded? number).map fun recording =>
        calls.foldl (Recording.afterCall number) recording := by
  induction calls generalizing sdk with
  | nil => exact Option.map_id'.symm
  | cons call rest ih =>
    have grown : number < (sdk.step call).recordings.length := by
      rw [length_step]
      exact Nat.lt_add_right _ within
    rw [List.foldl_cons, ih grown, recorded?_step within, Option.map_map]
    rfl

theorem startsLocal (sdk : Sdk) : sdk.provider.StartsLocal := by
  intro calls start
  rw [run_provider]
  change (identityUnder _ _).remote = false
  unfold identityUnder
  split <;> rfl

theorem recorded?_begin (sdk : Sdk) (start : Start) :
    (sdk.begin start).recorded? sdk.recordings.length = sdk.recordingOf? start :=
  congrArg Option.join List.getElem?_concat_length

theorem recordingOf?_sampled (sdk : Sdk) {start : Start} (serves : sdk.isShutDown = false)
    (samples : sdk.sampler.samples start.parent = true) :
    ∃ recording, sdk.recordingOf? start = some recording ∧
      recording.identity = sdk.identityUnder start.parent ∧
      recording.parentId = start.parent.identity.spanId ∧ recording.ended = false := by
  unfold recordingOf?
  rw [serves, samples]
  exact ⟨_, rfl, rfl, rfl, rfl⟩

theorem makesChildren (sdk : Sdk) : sdk.provider.MakesChildren where
  trace calls start known valid := by
    rw [run_provider] at valid ⊢
    generalize calls.foldl step sdk = sdk at valid ⊢
    change (sdk.identityUnder start.parent).traceId = start.parent.identity.traceId
    change (sdk.identityUnder start.parent).isValid = true at valid
    unfold identityUnder at valid ⊢
    split at valid
    · cases valid
    next serves =>
      rw [if_neg serves]
      change sdk.traceIdUnder start.parent = _
      unfold traceIdUnder Context.identity
      unfold Context.identity at known
      cases parent : start.parent.span with
      | none =>
        rw [parent] at known
        cases known
      | some span => rfl
  recorded calls start more recording found := by
    rw [run_provider, after_provider, run_provider] at found
    rw [run_provider]
    generalize calls.foldl step sdk = sdk at found ⊢
    change ((more.foldl step (sdk.step (.start start))).recorded? sdk.recordings.length) =
      some recording at found
    have within : sdk.recordings.length < (sdk.step (.start start)).recordings.length := by
      rw [length_step]
      exact Nat.lt_succ_self _
    rw [recorded?_run within, show (sdk.step (.start start)).recorded? _ = _ from
      sdk.recorded?_begin start, Option.map_eq_some_iff] at found
    obtain ⟨first, recorded, rfl⟩ := found
    have same := Recording.sameStart_run sdk.recordings.length first more
    unfold recordingOf? at recorded
    split at recorded
    · cases recorded
    · cases recorded
      exact ⟨same.identity, same.parentId, same.parentRemote⟩

theorem finish_of_running {recording : Recording} (found : sdk.recorded? number = some recording)
    (runs : recording.ended = false) (now : Int) :
    (sdk.finish number now).exports =
      if sdk.isShutDown then sdk.exports else sdk.exports ++ [⟨recording, now⟩] := by
  unfold finish
  rw [found]
  dsimp only
  rw [runs, if_neg Bool.false_ne_true]

theorem finish_of_spent (spent : sdk.provider.Spent number) (now : Int) :
    sdk.finish number now = sdk := by
  unfold finish
  split
  · rfl
  next recording found => exact if_pos (spent recording found)

theorem endsOnce (sdk : Sdk) : sdk.provider.EndsOnce where
  ends calls number now recording found runs := by
    rw [run_provider] at found ⊢
    rw [after_provider]
    generalize calls.foldl step sdk = sdk at found ⊢
    change sdk.recorded? number = some recording at found
    constructor
    · change (sdk.finish number now).recorded? number = _
      rw [recorded?_finish, found, Option.map_some, if_pos rfl]
    · change (sdk.finish number now).exports =
        if (!sdk.isShutDown) = true then sdk.exports ++ [⟨recording, now⟩] else sdk.exports
      rw [finish_of_running found runs]
      cases sdk.isShutDown <;> rfl
  again calls number now _ spent := by
    rw [run_provider] at spent ⊢
    rw [after_provider]
    exact congrArg provider (finish_of_spent spent now)
  lasts calls number call within spent := by
    rw [run_provider] at within spent ⊢
    rw [after_provider]
    generalize calls.foldl step sdk = sdk at within spent ⊢
    intro recording found
    change (sdk.step call).recorded? number = some recording at found
    rw [recorded?_step within, Option.map_eq_some_iff] at found
    obtain ⟨before, recorded, rfl⟩ := found
    exact Recording.afterCall_of_ended (spent before recorded) call

/-- The sequences have fresh ids for so many more spans and traces, and the spans are sampled. -/
structure Fresh (sdk : Sdk) (total : Nat) : Prop where
  serves : sdk.isShutDown = false
  samples : sdk.sampler ≠ .alwaysOff
  spans : ∀ n < total, sdk.spanIds (sdk.drawnSpans + n) ≠ 0
  apart : ∀ second < total, ∀ first < second,
    sdk.spanIds (sdk.drawnSpans + first) ≠ sdk.spanIds (sdk.drawnSpans + second)
  traces : ∀ n < total, sdk.traceIds (sdk.drawnTraces + n) ≠ 0

structure Kept (sdk current : Sdk) (ended : List Nat) (place : Nat) (begun : Provider.Begun)
    (recording : Recording) : Prop where
  recorded : current.recorded? (sdk.recordings.length + place) = some recording
  identity : recording.identity = begun.identity
  under : recording.Under begun.parent
  ended : recording.ended = decide (place ∈ ended)
  spanId : begun.identity.spanId = sdk.spanIds (sdk.drawnSpans + place)
  traceId : begun.identity.traceId ≠ 0
  sampled : begun.identity.isSampled

/-- What some work with a provider leaves. -/
structure Worked (sdk : Sdk) (spans : List Provider.Begun) (ended : List Nat) (current : Sdk) :
    Prop where
  serves : current.isShutDown = sdk.isShutDown
  sampler : current.sampler = sdk.sampler
  spanIds : current.spanIds = sdk.spanIds
  traceIds : current.traceIds = sdk.traceIds
  drawnSpans : current.drawnSpans = sdk.drawnSpans + spans.length
  drawnTraces : ∃ few ≤ spans.length, current.drawnTraces = sdk.drawnTraces + few
  places : current.recordings.length = sdk.recordings.length + spans.length
  kept : ∀ place begun, spans[place]? = some begun →
    ∃ recording, Kept sdk current ended place begun recording
  below : ∀ place ∈ ended, place < spans.length

variable {spans : List Provider.Begun} {ended after : List Nat} {start : Start} {place : Nat}
  {begun : Provider.Begun} {recording : Recording}

theorem Kept.step (kept : Kept sdk current ended place begun recording)
    (within : sdk.recordings.length + place < current.recordings.length) (call : Call)
    (ends : (recording.afterCall (sdk.recordings.length + place) call).ended =
      decide (place ∈ after)) :
    Kept sdk (current.step call) after place begun
      (recording.afterCall (sdk.recordings.length + place) call) := by
  have same := recording.sameStart_afterCall (sdk.recordings.length + place) call
  refine ⟨?_, same.identity.trans kept.identity, kept.under.of_sameStart same, ends, kept.spanId,
    kept.traceId, kept.sampled⟩
  rw [recorded?_step within, kept.recorded]
  rfl

theorem isSampled_or_one (flags : BitVec 8) : (flags ||| 1) &&& 1 ≠ 0 := by
  intro zero
  have bit := congrArg (BitVec.getLsbD · 0) zero
  simp at bit

namespace Worked

theorem begin (sdk : Sdk) : sdk.Worked [] [] sdk :=
  ⟨rfl, rfl, rfl, rfl, rfl, ⟨0, Nat.le_refl 0, rfl⟩, rfl, nofun, nofun⟩

variable (worked : sdk.Worked spans ended current)
include worked

theorem parent (under : ∀ span, start.parent.span = some span →
      span.identity ∈ spans.map (·.identity)) {span : Span}
    (found : start.parent.span = some span) :
    span.identity.traceId ≠ 0 ∧ span.identity.isSampled := by
  obtain ⟨begun, member, same⟩ := List.mem_map.mp (under span found)
  obtain ⟨place, _, there⟩ := List.getElem_of_mem member
  obtain ⟨recording, kept⟩ := worked.kept place begun (List.getElem?_eq_some_iff.mpr ⟨_, there⟩)
  rw [← same]
  exact ⟨kept.traceId, kept.sampled⟩

theorem samples (fresh : sdk.Fresh total) (under : ∀ span, start.parent.span = some span →
      span.identity ∈ spans.map (·.identity)) : current.sampler.samples start.parent = true := by
  have on := fresh.samples
  rw [← worked.sampler] at on
  unfold Sampler.samples
  split
  · rfl
  next off => exact absurd off on
  next span _ found => exact (worked.parent under found).2
  · rfl

/-- The identity of the next span has the next span id, and is in the trace of the parent. -/
theorem identityUnder (fresh : sdk.Fresh total) (room : spans.length < total)
    (under : ∀ span, start.parent.span = some span →
      span.identity ∈ spans.map (·.identity)) :
    (current.identityUnder start.parent).spanId = sdk.spanIds (sdk.drawnSpans + spans.length) ∧
      (current.identityUnder start.parent).traceId ≠ 0 ∧
      (current.identityUnder start.parent).isSampled ∧
      ∀ parent, start.parent.span.map (·.identity) = some parent →
        (current.identityUnder start.parent).traceId = parent.traceId := by
  have serves : ¬current.isShutDown = true := by
    rw [worked.serves, fresh.serves]
    exact Bool.false_ne_true
  unfold Sdk.identityUnder
  rw [if_neg serves, if_pos (worked.samples fresh under)]
  refine ⟨?_, ?_, bne_iff_ne.mpr (isSampled_or_one _), ?_⟩
  · dsimp only
    rw [worked.spanIds, worked.drawnSpans]
  · change current.traceIdUnder start.parent ≠ 0
    unfold traceIdUnder
    split
    next span found => exact (worked.parent under found).1
    next =>
      obtain ⟨few, bound, drawn⟩ := worked.drawnTraces
      rw [worked.traceIds, drawn]
      exact fresh.traces few (Nat.lt_of_le_of_lt bound room)
  · intro parent named
    change current.traceIdUnder start.parent = _
    obtain ⟨span, found, rfl⟩ := Option.map_eq_some_iff.mp named
    unfold traceIdUnder
    rw [found]

/-- The span that starts next is kept in the next place. -/
theorem keeps_begun (fresh : sdk.Fresh total) (room : spans.length < total)
    (under : ∀ span, start.parent.span = some span →
      span.identity ∈ spans.map (·.identity)) :
    ∃ recording, Kept sdk (current.step (.start start)) ended spans.length
      (current.provider.begin start) recording := by
  obtain ⟨spanId, traceId, sampled, trace⟩ := worked.identityUnder fresh room under
  have serves : current.isShutDown = false := worked.serves.trans fresh.serves
  have unended : spans.length ∉ ended := fun member =>
    Nat.lt_irrefl _ (worked.below _ member)
  obtain ⟨recording, recorded, identity, parentId, runs⟩ :=
    current.recordingOf?_sampled serves (worked.samples fresh under)
  refine ⟨recording, ⟨?_, identity, ?_, runs.trans (decide_eq_false unended).symm, spanId,
    traceId, sampled⟩⟩
  · rw [← worked.places]
    exact (current.recorded?_begin start).trans recorded
  · change recording.Under (start.parent.span.map (·.identity))
    unfold Context.identity at parentId
    cases found : start.parent.span with
    | none =>
      rw [found] at parentId
      exact parentId
    | some span =>
      rw [found] at parentId trace
      exact ⟨parentId, (congrArg Identity.traceId identity).trans (trace _ rfl)⟩

theorem starting (fresh : sdk.Fresh total) (room : spans.length < total)
    (under : ∀ span, start.parent.span = some span →
      span.identity ∈ spans.map (·.identity)) :
    sdk.Worked (spans ++ [current.provider.begin start]) ended (current.step (.start start)) := by
  have serves : ¬current.isShutDown = true := by
    rw [worked.serves, fresh.serves]
    exact Bool.false_ne_true
  have length : (spans ++ [current.provider.begin start]).length = spans.length + 1 :=
    List.length_append
  refine ⟨worked.serves, worked.sampler, worked.spanIds, worked.traceIds, ?_, ?_, ?_, ?_, ?_⟩
  · change current.drawnSpans + (if current.isShutDown then 0 else 1) = _
    rw [if_neg serves, worked.drawnSpans, length, Nat.add_assoc]
  · obtain ⟨few, bound, drawn⟩ := worked.drawnTraces
    rw [length]
    refine ⟨few + if start.parent.span.isNone then 1 else 0, ?_, ?_⟩
    · split <;> omega
    · change current.drawnTraces + (if _ then (if current.isShutDown then 0 else 1) else 0) = _
      rw [if_neg serves, drawn, Nat.add_assoc]
  · rw [length_step, worked.places, length, Nat.add_assoc]
    rfl
  · intro place begun found
    rcases Nat.lt_or_ge place spans.length with within | beyond
    · rw [List.getElem?_append_left within] at found
      obtain ⟨recording, kept⟩ := worked.kept place begun found
      have there : sdk.recordings.length + place < current.recordings.length := by
        rw [worked.places]
        omega
      exact ⟨recording, kept.step there (.start start) kept.ended⟩
    · obtain ⟨bound, same⟩ := List.getElem?_eq_some_iff.mp found
      obtain rfl : place = spans.length := by omega
      rw [List.getElem_append_right (Nat.le_refl _)] at same
      simp only [Nat.sub_self, List.getElem_cons_zero] at same
      subst same
      exact worked.keeps_begun fresh room under
  · intro place member
    rw [length]
    exact Nat.lt_succ_of_lt (worked.below place member)

theorem of_recordings {recordings : List (Option Recording)} {exports : List Export}
    (places : recordings.length = current.recordings.length)
    (kept : ∀ place begun recording, place < spans.length →
      Kept sdk current ended place begun recording →
      ∃ later, Kept sdk { current with recordings, exports } after place begun later)
    (below : ∀ place ∈ after, place < spans.length) :
    sdk.Worked spans after { current with recordings, exports } := by
  refine ⟨worked.serves, worked.sampler, worked.spanIds, worked.traceIds, worked.drawnSpans,
    worked.drawnTraces, places.trans worked.places, ?_, below⟩
  intro place begun found
  obtain ⟨within, _⟩ := List.getElem?_eq_some_iff.mp found
  obtain ⟨recording, was⟩ := worked.kept place begun found
  exact kept place begun recording within was

theorem there (within : place < spans.length) :
    sdk.recordings.length + place < current.recordings.length := by
  rw [worked.places]
  omega

theorem changing (number : Nat) (change : Change) :
    sdk.Worked spans ended (current.step (.change number change)) := by
  refine worked.of_recordings (List.length_modify ..) ?_ worked.below
  intro place begun recording within kept
  refine ⟨_, kept.step (worked.there within) (.change number change) ?_⟩
  rw [← kept.ended]
  unfold Recording.afterCall
  dsimp only
  split
  · exact recording.ended_change change
  · rfl

theorem finishing (own : place < spans.length) (now : Int) :
    sdk.Worked spans (ended ++ [place])
      (current.step (.finish (sdk.recordings.length + place) now)) := by
  obtain ⟨recordings, exports, same⟩ := current.finish_eq (sdk.recordings.length + place) now
  have places := current.length_finish (sdk.recordings.length + place) now
  change sdk.Worked spans _ (current.finish (sdk.recordings.length + place) now)
  rw [same] at places ⊢
  refine worked.of_recordings places ?_ ?_
  · intro other begun recording within kept
    rw [← same]
    refine ⟨_, kept.step (worked.there within) (.finish (sdk.recordings.length + place) now) ?_⟩
    unfold Recording.afterCall
    dsimp only
    by_cases here : place = other
    · rw [here, if_pos rfl]
      simp
    · have apart : sdk.recordings.length + place ≠ sdk.recordings.length + other := by omega
      rw [if_neg apart, kept.ended]
      simp [Ne.symm here]
  · intro other member
    rcases List.mem_append.mp member with before | last
    · exact worked.below other before
    · rw [List.mem_singleton.mp last]
      exact own

end Worked

theorem Fresh.worked (fresh : sdk.Fresh total) {provider : Provider}
    (works : sdk.provider.Works spans ended provider) (enough : spans.length ≤ total) :
    ∃ current : Sdk, provider = current.provider ∧ sdk.Worked spans ended current := by
  induction works with
  | begin => exact ⟨sdk, rfl, .begin sdk⟩
  | start start _ under ih =>
    rw [List.length_append] at enough
    obtain ⟨current, rfl, worked⟩ := ih (Nat.le_of_succ_le enough)
    exact ⟨_, after_provider _ _, worked.starting fresh enough under⟩
  | change change _ own ih =>
    obtain ⟨current, rfl, worked⟩ := ih enough
    exact ⟨_, after_provider _ _, worked.changing _ change⟩
  | finish now _ own ih =>
    obtain ⟨current, rfl, worked⟩ := ih enough
    exact ⟨_, after_provider _ _, worked.finishing own now⟩

theorem supplies (fresh : sdk.Fresh total) : sdk.provider.Supplies total where
  fresh works room start under := by
    obtain ⟨current, rfl, worked⟩ := fresh.worked works (Nat.le_of_lt room)
    obtain ⟨spanId, traceId, _⟩ := worked.identityUnder fresh room under
    change (current.identityUnder start.parent).isValid ∧ current.identityUnder start.parent ∉ _
    constructor
    · unfold Identity.isValid
      rw [Bool.and_eq_true, bne_iff_ne, bne_iff_ne, spanId]
      exact ⟨traceId, fresh.spans _ room⟩
    · intro member
      obtain ⟨begun, member, same⟩ := List.mem_map.mp member
      obtain ⟨place, within, there⟩ := List.getElem_of_mem member
      obtain ⟨recording, kept⟩ := worked.kept place begun (List.getElem?_eq_some_iff.mpr ⟨_, there⟩)
      rw [← same, kept.spanId] at spanId
      exact fresh.apart _ room place within spanId
  records works enough place begun found := by
    obtain ⟨current, rfl, worked⟩ := fresh.worked works enough
    obtain ⟨recording, kept⟩ := worked.kept place begun found
    exact ⟨recording, kept.recorded, kept.identity, kept.under⟩
  quiet works enough := by
    obtain ⟨current, rfl, _⟩ := fresh.worked works enough
    exact ⟨fun start => rfl, fun place change => rfl⟩
  exports works enough place begun found unended now := by
    obtain ⟨current, rfl, worked⟩ := fresh.worked works enough
    obtain ⟨recording, kept⟩ := worked.kept place begun found
    refine ⟨recording, kept.identity, ?_⟩
    change (current.finish (sdk.recordings.length + place) now).exports = current.exports ++ _
    rw [finish_of_running kept.recorded (kept.ended.trans (decide_eq_false unended)),
      worked.serves, fresh.serves, if_neg Bool.false_ne_true]
  once works enough place member now := by
    obtain ⟨current, rfl, worked⟩ := fresh.worked works enough
    have within := worked.below place member
    obtain ⟨recording, kept⟩ := worked.kept place _ (List.getElem?_eq_getElem within)
    have spent : current.provider.Spent (sdk.recordings.length + place) := by
      intro other found
      cases kept.recorded.symm.trans found
      exact kept.ended.trans (decide_eq_true member)
    exact congrArg exports (finish_of_spent spent now)

end Sdk

end TraceAgent.Telemetry

import Mathlib.Data.List.Induction
import Mathlib.Data.List.Nodup
import TraceAgent.Proofs.General
import TraceAgent.Telemetry.Recorder

/-! What is asked of a provider, and what becomes of the providers of a process.

Each demand is about what a provider shows after any calls. No other way to
change a provider exists than to call it, so a provider that met a demand once
meets it ever after.
-/

set_option autoImplicit false

namespace TraceAgent.Telemetry

def Recording.Under (recording : Recording) : Option Identity → Prop
  | some parent =>
      recording.parentId = parent.spanId ∧ recording.identity.traceId = parent.traceId
  | .none => recording.parentId = 0

namespace Provider

variable {provider current : Provider} {number : Nat} {now : Int}

@[simp] theorem run_nil (provider : Provider) : provider.run [] = provider := rfl

theorem run_append (provider : Provider) (calls more : List Call) :
    provider.run (calls ++ more) = (provider.run calls).run more := List.foldl_append

theorem after_run (provider : Provider) (calls : List Call) (call : Call) :
    (provider.run calls).after call = provider.run (calls ++ [call]) :=
  (provider.run_append calls [call]).symm

theorem started_run (provider : Provider) (calls : List Call) :
    provider.started ≤ (provider.run calls).started := by
  induction calls generalizing provider with
  | nil => exact Nat.le_refl _
  | cons call rest ih => exact Nat.le_trans (Nat.le_add_right _ _) (ih (provider.after call))

/-- A new span is one of this process. -/
def StartsLocal (provider : Provider) : Prop :=
  ∀ calls start, ((provider.run calls).view.identity start).remote = false

theorem StartsLocal.run (starts : provider.StartsLocal) (calls : List Call) :
    (provider.run calls).StartsLocal := by
  intro more start
  rw [← run_append]
  exact starts (calls ++ more) start

/-- A span that starts under another one is in its trace, and is recorded as its child, whatever
happens later. -/
structure MakesChildren (provider : Provider) : Prop where
  trace : ∀ calls start, start.parent.identity.isValid →
    ((provider.run calls).view.identity start).isValid →
    ((provider.run calls).view.identity start).traceId = start.parent.identity.traceId
  recorded : ∀ calls start more recording,
    (((provider.run calls).after (.start start)).run more).view.recorded
      (provider.run calls).started = some recording →
    recording.identity = (provider.run calls).view.identity start ∧
      recording.parentId = start.parent.identity.spanId ∧
      recording.parentRemote = (start.parent.identity.isValid && start.parent.identity.remote)

theorem MakesChildren.run (makes : provider.MakesChildren) (calls : List Call) :
    (provider.run calls).MakesChildren where
  trace more := by
    rw [← run_append]
    exact makes.trace (calls ++ more)
  recorded more := by
    rw [← run_append]
    exact makes.recorded (calls ++ more)

/-- If the span is recorded, it has ended. -/
def Spent (provider : Provider) (number : Nat) : Prop :=
  ∀ recording, provider.view.recorded number = some recording → recording.ended

/-- A span that is recorded is exported as it ends, while the provider is open. Ending a span again
has no effect, now or later. -/
structure EndsOnce (provider : Provider) : Prop where
  ends : ∀ calls number now recording,
    (provider.run calls).view.recorded number = some recording → recording.ended = false →
    ((provider.run calls).after (.finish number now)).view.recorded number =
        some { recording with ended := true } ∧
      ((provider.run calls).after (.finish number now)).view.exports =
        if (provider.run calls).view.isOpen then
          (provider.run calls).view.exports ++ [⟨recording, now⟩]
        else (provider.run calls).view.exports
  again : ∀ calls number now, number < (provider.run calls).started →
    (provider.run calls).Spent number →
    (provider.run calls).after (.finish number now) = provider.run calls
  lasts : ∀ calls number call, number < (provider.run calls).started →
    (provider.run calls).Spent number → ((provider.run calls).after call).Spent number

theorem EndsOnce.spent_run (once : provider.EndsOnce) (started : number < provider.started)
    (spent : provider.Spent number) (calls : List Call) : (provider.run calls).Spent number := by
  induction calls using List.reverseRecOn with
  | nil => exact spent
  | append_singleton calls call ih =>
    rw [← after_run]
    exact once.lasts calls number call (Nat.lt_of_lt_of_le started (provider.started_run calls)) ih

/-- A span that was just ended has ended, recorded or not. -/
theorem EndsOnce.spent_finish (once : provider.EndsOnce) (started : number < provider.started)
    (now : Int) : (provider.after (.finish number now)).Spent number := by
  by_cases spent : provider.Spent number
  · have again := once.again [] number now started spent
    rw [run_nil] at again
    rwa [again]
  · intro later found
    obtain ⟨recording, unended⟩ := Classical.not_forall.mp spent
    obtain ⟨recorded, runs⟩ := Classical.not_imp.mp unended
    have ends := (once.ends [] number now recording recorded (Bool.not_eq_true _ ▸ runs)).1
    cases ends.symm.trans found
    rfl

theorem EndsOnce.run (once : provider.EndsOnce) (calls : List Call) :
    (provider.run calls).EndsOnce where
  ends more := by
    rw [← run_append]
    exact once.ends (calls ++ more)
  again more := by
    rw [← run_append]
    exact once.again (calls ++ more)
  lasts more := by
    rw [← run_append]
    exact once.lasts (calls ++ more)

structure Begun where
  identity : Identity
  parent : Option Identity

def begin (provider : Provider) (start : Start) : Begun where
  identity := provider.view.identity start
  parent := start.parent.span.map (·.identity)

/-- Work on spans of its own: each of them is started under none or under another of them, and no
others are changed or ended. The spans are listed as they were started, and known by their places
in the list where they end. -/
inductive Works (provider : Provider) : List Begun → List Nat → Provider → Prop where
  | begin : Works provider [] [] provider
  | start {spans : List Begun} {ended : List Nat} {current : Provider} (start : Start)
      (work : Works provider spans ended current)
      (under : ∀ span, start.parent.span = some span → span.identity ∈ spans.map (·.identity)) :
      Works provider (spans ++ [current.begin start]) ended (current.after (.start start))
  | change {spans : List Begun} {ended : List Nat} {current : Provider} {place : Nat}
      (change : Change) (work : Works provider spans ended current) (own : place < spans.length) :
      Works provider spans ended (current.after (.change (provider.started + place) change))
  | finish {spans : List Begun} {ended : List Nat} {current : Provider} {place : Nat}
      (now : Int) (work : Works provider spans ended current) (own : place < spans.length) :
      Works provider spans (ended ++ [place])
        (current.after (.finish (provider.started + place) now))

/-- The provider has fresh valid ids for so many more spans. It records them, as children of the
spans that they are started under, and exports each of them as it ends, for the first time only. -/
structure Supplies (provider : Provider) (total : Nat) : Prop where
  fresh : ∀ {spans ended current}, provider.Works spans ended current → spans.length < total →
    ∀ start : Start,
      (∀ span, start.parent.span = some span → span.identity ∈ spans.map (·.identity)) →
      (current.begin start).identity.isValid ∧
        (current.begin start).identity ∉ spans.map (·.identity)
  records : ∀ {spans ended current}, provider.Works spans ended current → spans.length ≤ total →
    ∀ place begun, spans[place]? = some begun → ∃ recording,
      current.view.recorded (provider.started + place) = some recording ∧
        recording.identity = begun.identity ∧ recording.Under begun.parent
  quiet : ∀ {spans ended current}, provider.Works spans ended current → spans.length ≤ total →
    (∀ start, (current.after (.start start)).view.exports = current.view.exports) ∧
      ∀ place change,
        (current.after (.change (provider.started + place) change)).view.exports =
          current.view.exports
  exports : ∀ {spans ended current}, provider.Works spans ended current → spans.length ≤ total →
    ∀ place begun, spans[place]? = some begun → place ∉ ended → ∀ now, ∃ recording,
      recording.identity = begun.identity ∧
        (current.after (.finish (provider.started + place) now)).view.exports =
          current.view.exports ++ [⟨recording, now⟩]
  once : ∀ {spans ended current}, provider.Works spans ended current → spans.length ≤ total →
    ∀ place ∈ ended, ∀ now,
      (current.after (.finish (provider.started + place) now)).view.exports =
        current.view.exports

section Works

variable {spans : List Begun} {ended : List Nat} {total place : Nat} {begun : Begun}

theorem Works.started (works : provider.Works spans ended current) :
    current.started = provider.started + spans.length := by
  induction works with
  | begin => rfl
  | start start _ _ ih =>
    rw [List.length_append]
    exact (congrArg (· + 1) ih).trans (Nat.add_assoc ..)
  | change change _ _ ih => exact ih
  | finish now _ _ ih => exact ih

theorem Supplies.start_changes (supplies : provider.Supplies total)
    (works : provider.Works spans ended current) (room : spans.length < total) {start : Start}
    (under : ∀ span, start.parent.span = some span → span.identity ∈ spans.map (·.identity))
    (changes : List Change) {later : Provider}
    (same : later = (current.after (.start start)).run (changes.map (.change current.started))) :
    provider.Works (spans ++ [current.begin start]) ended later ∧
      later.view.exports = current.view.exports ∧
      ∃ recording, later.view.recorded current.started = some recording ∧
        recording.identity = (current.begin start).identity ∧
        recording.Under (current.begin start).parent := by
  subst same
  have started : provider.Works (spans ++ [current.begin start]) ended
      (current.after (.start start)) := works.start start under
  have enough : (spans ++ [current.begin start]).length ≤ total := by
    rw [List.length_append]
    exact room
  have own : spans.length < (spans ++ [current.begin start]).length := by
    rw [List.length_append]
    exact Nat.lt_succ_self _
  have number : current.started = provider.started + spans.length := works.started
  have changed : ∀ middle, provider.Works (spans ++ [current.begin start]) ended middle →
      middle.view.exports = current.view.exports →
      provider.Works (spans ++ [current.begin start]) ended
          (middle.run (changes.map (.change current.started))) ∧
        (middle.run (changes.map (.change current.started))).view.exports =
          current.view.exports := by
    induction changes with
    | nil => exact fun middle works quiet => ⟨works, quiet⟩
    | cons change rest ih =>
      intro middle works quiet
      refine ih _ ?_ ?_
      · rw [number]
        exact works.change change own
      · rw [number]
        exact ((supplies.quiet works enough).2 spans.length change).trans quiet
  obtain ⟨later, quiet⟩ := changed _ started ((supplies.quiet works (Nat.le_of_lt room)).1 start)
  obtain ⟨recording, found, known⟩ :=
    supplies.records later enough spans.length _ List.getElem?_concat_length
  rw [← number] at found
  exact ⟨later, quiet, recording, found, known⟩

/-- The spans have identities of their own. -/
theorem Supplies.identities (supplies : provider.Supplies total)
    (works : provider.Works spans ended current) (enough : spans.length ≤ total) :
    (spans.map (·.identity)).Nodup ∧ ∀ begun ∈ spans, begun.identity.isValid := by
  induction works with
  | begin => exact ⟨List.nodup_nil, nofun⟩
  | start start works under ih =>
    rw [List.length_append] at enough
    obtain ⟨nodup, valid⟩ := ih (Nat.le_of_succ_le enough)
    obtain ⟨known, fresh⟩ := supplies.fresh works enough start under
    constructor
    · rw [List.map_append]
      exact List.Nodup.append nodup (List.nodup_singleton _) (List.disjoint_singleton.mpr fresh)
    · intro begun member
      rcases List.mem_append.mp member with before | last
      · exact valid begun before
      · rw [List.mem_singleton.mp last]
        exact known
  | change change _ _ ih => exact ih enough
  | finish now _ _ ih => exact ih enough

end Works

end Provider

namespace Recorder

variable {recorder later last : Recorder} {index : Nat} {scope name : String} {now : Int}
  {kind : Kind} {parent : Context} {span : Span}

/-- Every provider is there later on, and was called at most. -/
def Evolves (recorder later : Recorder) : Prop :=
  ∀ (index : Nat) (provider : Provider), recorder.providers[index]? = some provider →
    ∃ calls, later.providers[index]? = some (provider.run calls)

theorem Evolves.of_grown (grown : recorder.providers <+: later.providers) :
    recorder.Evolves later := by
  obtain ⟨rest, grown⟩ := grown
  intro index provider found
  obtain ⟨within, _⟩ := List.getElem?_eq_some_iff.mp found
  refine ⟨[], ?_⟩
  rw [← grown, List.getElem?_append_left within]
  exact found

theorem Evolves.refl (recorder : Recorder) : recorder.Evolves recorder :=
  .of_grown (List.prefix_refl _)

theorem Evolves.trans (first : recorder.Evolves later) (second : later.Evolves last) :
    recorder.Evolves last := by
  intro index provider found
  obtain ⟨calls, there⟩ := first index provider found
  obtain ⟨more, here⟩ := second index _ there
  exact ⟨calls ++ more, by rw [here, provider.run_append]⟩

theorem Evolves.of_modify (index : Nat) (call : Call)
    (changed : later.providers = recorder.providers.modify index (·.after call)) :
    recorder.Evolves later := by
  intro other provider found
  rw [changed, List.getElem?_modify, found]
  by_cases same : index = other
  · exact ⟨[call], by simp [same, Provider.run]⟩
  · exact ⟨[], by simp [same]⟩

theorem evolves_start (recorder : Recorder) (index : Nat) (scope : String) (now : Int) (kind : Kind)
    (name : String) (parent : Context) :
    recorder.Evolves (recorder.start index scope now kind name parent).1 := by
  unfold start
  split
  · exact .refl recorder
  next provider found =>
    exact .of_modify index (.start ⟨scope, now, kind, name, parent⟩)
      (modify_eq_set found (·.after (.start ⟨scope, now, kind, name, parent⟩))).symm

theorem evolves_call (recorder : Recorder) (span : Span) (about : Nat → Call) :
    recorder.Evolves (recorder.call span about) := by
  unfold call
  split
  · exact .refl recorder
  next handle _ => exact .of_modify handle.provider (about handle.number) rfl

theorem evolves_shutDown (recorder : Recorder) (index : Nat) :
    recorder.Evolves (recorder.shutDown index).1 := .of_modify index .shutDown rfl

/-- A span that starts comes from a provider, or has no identity. -/
theorem start_cases (recorder : Recorder) (index : Nat) (scope : String) (now : Int) (kind : Kind)
    (name : String) (parent : Context) :
    recorder.start index scope now kind name parent = (recorder, ⟨.none, none⟩) ∨
      ∃ provider, recorder.providers[index]? = some provider ∧
        recorder.start index scope now kind name parent =
          ({ providers := recorder.providers.set index
                (provider.after (.start ⟨scope, now, kind, name, parent⟩)) },
            ⟨provider.view.identity ⟨scope, now, kind, name, parent⟩,
              some ⟨index, provider.started⟩⟩) := by
  unfold start
  cases found : recorder.providers[index]? with
  | none => exact .inl rfl
  | some provider => exact .inr ⟨provider, rfl, rfl⟩

theorem start_not_remote (recorder : Recorder) (index : Nat) (scope : String) (now : Int)
    (kind : Kind) (name : String) (parent : Context)
    (starts : ∀ provider, recorder.providers[index]? = some provider → provider.StartsLocal) :
    (recorder.start index scope now kind name parent).2.identity.remote = false := by
  rcases recorder.start_cases index scope now kind name parent with none | ⟨provider, found, some⟩
  · rw [none]
    rfl
  · rw [some]
    exact starts provider found [] _

end Recorder

/-- A span is a child of another: it is in the same trace, and its recording names the other. -/
structure Span.ChildOf (span : Span) (recorder : Recorder) (parent : Identity) : Prop where
  trace : span.identity.traceId = parent.traceId
  recorded : ∀ recording, recorder.recorded? span = some recording →
    recording.identity = span.identity ∧ recording.parentId = parent.spanId ∧
      recording.parentRemote = parent.remote

/-- A span that starts under a span is a child of it from then on. -/
theorem Recorder.start_childOf {recorder later : Recorder} {index : Nat} {scope name : String}
    {now : Int} {kind : Kind} {parent : Context} (known : parent.identity.isValid)
    (makes : ∀ provider, recorder.providers[index]? = some provider → provider.MakesChildren)
    (valid : (recorder.start index scope now kind name parent).2.identity.isValid)
    (evolves : (recorder.start index scope now kind name parent).1.Evolves later) :
    (recorder.start index scope now kind name parent).2.ChildOf later parent.identity := by
  rcases recorder.start_cases index scope now kind name parent with none | ⟨provider, found, some⟩
  · rw [none] at valid
    cases valid
  · have children := makes provider found
    rw [some] at valid evolves ⊢
    obtain ⟨within, _⟩ := List.getElem?_eq_some_iff.mp found
    refine ⟨children.trace [] _ known valid, fun recording listed => ?_⟩
    obtain ⟨more, there⟩ := evolves index _ (List.getElem?_set_self within)
    unfold recorded? at listed
    rw [Option.bind_some, there, Option.bind_some] at listed
    obtain ⟨identity, parentId, remote⟩ := children.recorded [] _ more recording listed
    rw [known, Bool.true_and] at remote
    exact ⟨identity, parentId, remote⟩

end TraceAgent.Telemetry

import TraceAgent.Proofs.Native.Run

/-! The account of the spans and the segments of a native context.

A journal watches a context from outside: which segments it opened, which spans
were created, prepared for asynchronous completion and completed, and which
segments were reported. In every run each span has exactly one place, the open
segment or the report of the segment that was open when the span was created,
and a segment with spans is reported by the step after which nothing in it is
left to wait for.
-/

set_option autoImplicit false

namespace TraceAgent.Native

open Segment Propagation

/-- A span that was created, and the place of its segment in the order in which the segments
were opened. -/
structure Birth where
  key : SpanKey
  home : Nat
  deriving DecidableEq, Repr

namespace Birth

def place (birth : Birth) : Nat × Int := (birth.home, birth.key.index)

end Birth

/-- A context and what was seen of its run: the ids of the segments in the order in which they
were opened, the spans that were created, prepared and completed, and the segments that were
reported. -/
structure Journal where
  context : Context
  openings : List String
  births : List Birth := []
  prepared : List SpanKey := []
  completed : List SpanKey := []
  reports : List Segment := []

namespace Context

variable {context : Context} {moment : Moment} {key : SpanKey}

def standing (context : Context) : List Nat :=
  (context.current.map fun opened => opened.active ++ opened.finished).getD []

def openId? (context : Context) : Option String := context.current.map (·.segment.id)

@[simp] theorem standing_modifySpan (change : Span → Span) :
    (context.modifySpan key change).standing = context.standing := by
  unfold standing
  rw [current_modifySpan]
  split
  · cases context.current <;> rfl
  · rfl

@[simp] theorem openId?_modifySpan (change : Span → Span) :
    (context.modifySpan key change).openId? = context.openId? := by
  unfold openId?
  rw [current_modifySpan]
  split
  · cases context.current <;> rfl
  · rfl

theorem standing_opened (context : Context) (moment : Moment) :
    (context.opened moment).active ++ (context.opened moment).finished = context.standing := by
  unfold opened standing
  cases context.current <;> rfl

theorem standing_join (pending : Pending) (correlation : Correlation) (extension : Extension) :
    (context.join moment pending correlation extension).standing = context.standing := by
  change ((context.opened moment).link _ _ _).active ++ ((context.opened moment).link _ _ _).finished
    = context.standing
  rw [OpenSegment.link_eq, ← context.standing_opened moment]
  split <;> rfl

theorem openId?_join (pending : Pending) (correlation : Correlation) (extension : Extension)
    {id : String} (openId : context.openId? = some id) :
    (context.join moment pending correlation extension).openId? = some id := by
  rw [← openId]
  unfold openId? join opened at *
  cases current : context.current with
  | none => rw [current] at openId; cases openId
  | some opened =>
    refine congrArg some ?_
    change (opened.link _ _ pending).segment.id = _
    rw [OpenSegment.segment_link, Segment.id_link]

theorem openId?_createSpan (moment : Moment) (role : Role) (name peer : String) {id : String}
    (openId : context.openId? = some id) :
    (context.createSpan moment role name peer).1.openId? = some id := by
  rw [← openId]
  unfold openId? createSpan opened at *
  cases current : context.current with
  | none => rw [current] at openId; cases openId
  | some opened =>
    exact congrArg (fun segment => some segment.id) (opened.segment_enter _ _ role name peer)

theorem completion?_fresh (context : Context) :
    context.completion? (context.keyOf context.spans.length) = none := by
  simp [completion?, span?_eq, keyOf]

/-- A segment is handed over only when nothing is left to wait for. -/
theorem Change.done {paired : Bool} {after : Context} {report : Segment}
    (change : Change context moment paired after (some report)) : after.IsDone := by
  obtain ⟨before, same, settled⟩ := change.settles
  obtain ⟨opened, _, done, _, past⟩ := settle_eq_some settled
  rw [same, past]
  exact ⟨rfl, done.2⟩

/-- What happens to the count of completions and to the spans that are awaited. -/
inductive Tally (before after : Context) : Prop where
  | kept (outstanding : after.outstanding = before.outstanding)
      (same : ∀ key, after.completion? key = some .awaited ↔
        before.completion? key = some .awaited)
  | more (key : SpanKey) (outstanding : after.outstanding = before.outstanding + 1)
      (absent : before.completion? key ≠ some .awaited)
      (added : after.completion? key = some .awaited)
      (same : ∀ other, key ≠ other → after.completion? other = before.completion? other)
  | fewer (key : SpanKey) (outstanding : after.outstanding = before.outstanding - 1)
      (present : before.completion? key = some .awaited)
      (removed : after.completion? key ≠ some .awaited)
      (same : ∀ other, key ≠ other → before.completion? other = after.completion? other)

theorem Change.tally {after : Context} {report : Option Segment}
    (change : Change context moment true after report) : Tally context after := by
  cases change with
  | stay => exact .kept rfl fun _ => Iff.rfl
  | create role name peer =>
    refine .kept rfl fun key => ?_
    rw [completion?_createSpan]
    split
    · rfl
    · -- the new span ends as it is stopped
      dsimp only
      split
      next fresh => simp [fresh, completion?, span?_eq, keyOf]
      next => rfl
  | @leave _ opened index rest current active =>
    -- A reported segment keeps its spans where they can be looked up, so reporting
    -- it changes no completion.
    refine .kept (outstanding_settle _) fun key => ?_
    have before : { context with current := some opened } = context := by rw [← current]
    change (Context.settle _).1.completion? key = _ ↔ _
    rw [completion?_settle, completion?_leave, before]
  | join pending correlation extension =>
    refine .kept rfl fun key => ?_
    rw [completion?_join]
  | edit key depth completion _ _ =>
    refine .kept (outstanding_modifySpan _) fun other => ?_
    rw [completion?_edit context key completion]
  | prepare key ready =>
    have marks := completion?_mark (·.awaiting) (fun _ => rfl) ready
    refine .more key (congrArg (· + 1) (outstanding_modifySpan _)) ?_ ?_ ?_
    · rw [ready]; decide
    · exact (marks key).trans (if_pos rfl)
    · exact fun other different => (marks other).trans (if_neg different)
  | finish key awaited =>
    -- Completing may report the segment, after which the mark is looked up in the past.
    have marks := completion?_mark (·.completedAt moment.now) (fun _ => rfl) awaited
    have counts : ∀ other,
        (context.modifySpan key (·.completedAt moment.now)).complete.1.completion? other =
          if key = other then some .completed else context.completion? other := fun other =>
      (congrFun (completion?_settle _) other).trans (marks other)
    refine .fewer key ?_ awaited ?_ ?_
    · exact (outstanding_settle _).trans (congrArg (· - 1) (outstanding_modifySpan _))
    · rw [counts, if_pos rfl]; decide
    · exact fun other different => ((counts other).trans (if_neg different)).symm

end Context

namespace Journal

def begin (config : AgentConfig) (moment : Moment) : Journal where
  context := .begin config moment
  openings := [moment.segmentId]

def opening (before after : Context) : List String :=
  if before.openId?.isSome then [] else after.openId?.toList

@[simp] def born (births : List Birth) (openings : List String) : Except TraceError Output → List Birth
  | .ok (.span key) => if key ∈ births.map Birth.key then [] else [⟨key, openings.length - 1⟩]
  | _ => []

@[simp] def preparedBy : Operation → Except TraceError Output → List SpanKey
  | .prepare key, .ok _ => [key]
  | _, _ => []

@[simp] def completedBy : Operation → Except TraceError Output → List SpanKey
  | .finish key, .ok _ => [key]
  | _, _ => []

def step (journal : Journal) (step : Step) : Journal :=
  let effect := journal.context.perform step.1 step.2
  let openings := journal.openings ++ opening journal.context effect.context
  { context := effect.context
    openings
    births := journal.births ++ born journal.births openings effect.result
    prepared := journal.prepared ++ preparedBy step.2 effect.result
    completed := journal.completed ++ completedBy step.2 effect.result
    reports := journal.reports ++ effect.report.toList }

def run (journal : Journal) (steps : List Step) : Journal := steps.foldl step journal

/-- The spans that were prepared for asynchronous completion and have not completed yet. -/
def awaited (journal : Journal) : List Birth :=
  journal.births.filter fun birth => birth.key ∈ journal.prepared ∧ birth.key ∉ journal.completed

def archived (journal : Journal) : List (Nat × Int) :=
  journal.reports.zipIdx.flatMap fun entry => entry.1.spans.map fun record => (entry.2, record.id)

def standing (journal : Journal) : List (Nat × Int) :=
  journal.context.standing.map fun (index : Nat) => (journal.reports.length, (index : Int))

/-- What ties a journal to its context, apart from the count of completions. -/
structure Consistent (journal : Journal) : Prop where
  shape : ∀ opened, journal.context.current = some opened → opened.Sound
  ordinal : journal.context.past.length = journal.reports.length
  order : journal.openings = journal.reports.map (·.id) ++ journal.context.openId?.toList
  homes : ∀ birth ∈ journal.births, birth.home = birth.key.segment
  distinct : (journal.births.map Birth.key).Nodup
  known : ∀ key, (journal.context.completion? key).isSome ↔ key ∈ journal.births.map Birth.key
  prepared : ∀ key, key ∈ journal.prepared ↔
    journal.context.completion? key = some .awaited ∨
      journal.context.completion? key = some .completed
  completed : ∀ key, key ∈ journal.completed ↔
    journal.context.completion? key = some .completed
  placed : (journal.births.map Birth.place).Perm (journal.archived ++ journal.standing)

/-- The spans with an open completion are those that the journal awaits. -/
theorem Consistent.awaited_iff {journal : Journal} (consistent : journal.Consistent)
    (key : SpanKey) :
    key ∈ journal.awaited.map Birth.key ↔ journal.context.completion? key = some .awaited := by
  have known := consistent.known key
  have prepared := consistent.prepared key
  have completed := consistent.completed key
  simp only [awaited, List.mem_map, List.mem_filter, decide_eq_true_eq]
  constructor
  · rintro ⟨birth, ⟨_, isPrepared, notCompleted⟩, rfl⟩
    exact (prepared.mp isPrepared).resolve_right fun done => notCompleted (completed.mpr done)
  · intro awaits
    obtain ⟨birth, member, rfl⟩ := List.mem_map.mp (known.mp (by rw [awaits]; rfl))
    refine ⟨birth, ⟨member, prepared.mpr (.inl awaits), fun done => ?_⟩, rfl⟩
    rw [completed.mp done] at awaits
    cases awaits

theorem Consistent.awaited_nodup {journal : Journal} (consistent : journal.Consistent) :
    (journal.awaited.map Birth.key).Nodup :=
  consistent.distinct.sublist (List.filter_sublist.map _)

theorem archived_append (reports : List Segment) (report : Segment) :
    ((reports ++ [report]).zipIdx.flatMap fun entry =>
        entry.1.spans.map fun record => (entry.2, record.id)) =
      (reports.zipIdx.flatMap fun entry => entry.1.spans.map fun record => (entry.2, record.id)) ++
        report.spans.map fun record => (reports.length, record.id) := by
  simp [List.zipIdx_append]

theorem close_ids {opened : OpenSegment} (sound : opened.Sound) :
    opened.close.spans.map (·.id) = opened.finished.map fun (index : Nat) => (index : Int) := by
  change (opened.finished.filterMap _).map _ = _
  have present : ∀ index ∈ opened.finished, index < opened.spans.length := fun index member =>
    sound.mem_lt (List.mem_append_right _ member)
  generalize opened.finished = finished at present
  induction finished with
  | nil => rfl
  | cons index rest ih =>
    have here := present index List.mem_cons_self
    rw [List.filterMap_cons, List.getElem?_eq_getElem here]
    exact congrArg (_ :: ·) (ih fun other member => present other (List.mem_cons_of_mem _ member))

/-- Reporting moves the spans of the open segment to the archive. -/
theorem Consistent.settle {journal : Journal} (consistent : journal.Consistent) :
    { journal with
      context := journal.context.settle.1
      reports := journal.reports ++ journal.context.settle.2.toList }.Consistent := by
  by_cases done : journal.context.IsDone
  · cases current : journal.context.current with
    | none =>
      rw [Context.settle_of_none current]
      simpa using consistent
    | some opened =>
      have sound := consistent.shape opened current
      have idle : opened.active = [] := by
        rw [← Context.active_of_current current]; exact done.1
      have completion := journal.context.completion?_settle
      rw [Context.settle_of_done current done] at completion ⊢
      constructor
      · exact fun _ => (nomatch ·)
      · simpa using consistent.ordinal
      · have order := consistent.order
        rw [Context.openId?, current] at order
        simpa [Context.openId?, OpenSegment.close] using order
      · exact consistent.homes
      · exact consistent.distinct
      · rw [completion]; exact consistent.known
      · rw [completion]; exact consistent.prepared
      · rw [completion]; exact consistent.completed
      -- No span is active, so those that stood in the segment are the finished ones, which
      -- the report lists in the same order.
      · have placed := consistent.placed
        simp only [archived, standing, Context.standing, current, idle, Option.map_some,
          Option.getD_some, List.nil_append] at placed
        simp only [archived, standing, Context.standing, Option.toList_some, archived_append,
          Option.map_none, Option.getD_none, List.map_nil, List.append_nil]
        have ids := congrArg (List.map fun id => (journal.reports.length, id))
          (close_ids sound)
        rw [List.map_map, List.map_map] at ids
        exact placed.trans (.of_eq (congrArg (_ ++ ·) ids.symm))
  · rw [Context.settle_of_not_done done]
    simpa using consistent

theorem opening_eq_nil {before after : Context}
    (opens : before.openId? = none → after.openId? = none) : opening before after = [] := by
  unfold opening
  cases openId : before.openId? with
  | none => rw [opens openId]; rfl
  | some id => rfl

theorem Consistent.order_opening {journal : Journal} (consistent : journal.Consistent)
    {after : Context} (kept : ∀ id, journal.context.openId? = some id → after.openId? = some id) :
    journal.openings ++ opening journal.context after =
      journal.reports.map (·.id) ++ after.openId?.toList := by
  rw [consistent.order, opening]
  cases openId : journal.context.openId? with
  | none => simp
  | some id => simp [kept id openId]

theorem Consistent.frame {journal : Journal} (consistent : journal.Consistent) (after : Context)
    (shape : ∀ opened, after.current = some opened → opened.Sound)
    (past : after.past.length = journal.context.past.length)
    (kept : ∀ id, journal.context.openId? = some id → after.openId? = some id)
    (completion : after.completion? = journal.context.completion?)
    (standing : after.standing.Perm journal.context.standing) :
    { journal with
      context := after
      openings := journal.openings ++ opening journal.context after }.Consistent where
  shape := shape
  ordinal := past.trans consistent.ordinal
  order := consistent.order_opening kept
  homes := consistent.homes
  distinct := consistent.distinct
  known := by rw [completion]; exact consistent.known
  prepared := by rw [completion]; exact consistent.prepared
  completed := by rw [completion]; exact consistent.completed
  placed := consistent.placed.trans ((standing.symm.map _).append_left _)

theorem Consistent.last_opening {journal : Journal} (consistent : journal.Consistent)
    {after : Context} (kept : ∀ id, journal.context.openId? = some id → after.openId? = some id)
    (isOpen : after.openId?.isSome) :
    (journal.openings ++ opening journal.context after).length - 1 =
      journal.context.past.length := by
  obtain ⟨id, openId⟩ := Option.isSome_iff_exists.mp isOpen
  rw [consistent.order_opening kept, openId, consistent.ordinal]
  simp

theorem Consistent.placed_push {journal : Journal} (consistent : journal.Consistent)
    {key : SpanKey} (home : key.segment = journal.context.past.length) {after : List Nat}
    (standing : after.Perm (key.index :: journal.context.standing)) :
    ((journal.births ++ [Birth.mk key key.segment]).map Birth.place).Perm
      (journal.archived ++
        after.map fun (index : Nat) => (journal.reports.length, (index : Int))) := by
  have ordinal : journal.reports.length = key.segment := by rw [home, consistent.ordinal]
  have stands := standing.map fun (index : Nat) => (journal.reports.length, (index : Int))
  rw [List.map_cons] at stands
  have placed := consistent.placed.append_right [(key.segment, (key.index : Int))]
  rw [List.append_assoc] at placed
  rw [List.map_append]
  refine placed.trans (List.Perm.append_left _ ?_)
  refine (List.perm_append_singleton _ _).trans (.trans ?_ stands.symm)
  rw [← ordinal]
  exact .refl _

theorem Consistent.push {journal : Journal} (consistent : journal.Consistent) {after : Context}
    {key : SpanKey} (shape : ∀ opened, after.current = some opened → opened.Sound)
    (past : after.past.length = journal.context.past.length)
    (kept : ∀ id, journal.context.openId? = some id → after.openId? = some id)
    (isOpen : after.openId?.isSome)
    (home : key.segment = journal.context.past.length)
    (fresh : journal.context.completion? key = none)
    (completion : after.completion? = fun other =>
      if other = key then some .onStop else journal.context.completion? other)
    (standing : after.standing.Perm (key.index :: journal.context.standing)) :
    { journal with
      context := after
      openings := journal.openings ++ opening journal.context after
      births := journal.births ++
        born journal.births (journal.openings ++ opening journal.context after)
          (.ok (.span key)) }.Consistent := by
  -- A key that the context does not know was never seen, and its home is the last opening.
  have unknown : key ∉ journal.births.map Birth.key := by
    rw [← consistent.known key, fresh]
    exact Bool.false_ne_true
  have last := consistent.last_opening kept isOpen
  rw [born, if_neg unknown, last, ← home]
  constructor
  · exact shape
  · exact past.trans consistent.ordinal
  · exact consistent.order_opening kept
  · intro birth member
    rcases List.mem_append.mp member with member | member
    · exact consistent.homes birth member
    · rw [List.mem_singleton.mp member]
  · rw [List.map_append]
    refine List.nodup_append.mpr ⟨consistent.distinct, List.pairwise_singleton _ _, ?_⟩
    intro other member added here same
    rw [List.map_singleton, List.mem_singleton] at here
    rw [same, here] at member
    exact unknown member
  · intro other
    have known := consistent.known other
    rw [completion]
    by_cases same : other = key
    · simp [same]
    · simpa [same] using known
  · intro other
    have prepared := consistent.prepared other
    rw [completion]
    by_cases same : other = key
    · subst same
      simpa [fresh] using prepared
    · simpa [same] using prepared
  · intro other
    have completed := consistent.completed other
    rw [completion]
    by_cases same : other = key
    · subst same
      simpa [fresh] using completed
    · simpa [same] using completed
  · exact consistent.placed_push home standing

/-- Marks on a span, and what the journal notes of them. -/
theorem Consistent.edit {journal : Journal} (consistent : journal.Consistent) (key : SpanKey)
    (change : Span → Span) (depth : ∀ span, (change span).depth = span.depth)
    (morePrepared moreCompleted : List SpanKey)
    (prepared : ∀ other, other ∈ journal.prepared ++ morePrepared ↔
      (journal.context.modifySpan key change).completion? other = some .awaited ∨
        (journal.context.modifySpan key change).completion? other = some .completed)
    (completed : ∀ other, other ∈ journal.completed ++ moreCompleted ↔
      (journal.context.modifySpan key change).completion? other = some .completed) :
    { journal with
      context := journal.context.modifySpan key change
      prepared := journal.prepared ++ morePrepared
      completed := journal.completed ++ moreCompleted }.Consistent where
  shape := by
    intro opened current
    rw [Context.current_modifySpan] at current
    split at current
    · obtain ⟨before, here, rfl⟩ := Option.map_eq_some_iff.mp current
      exact (consistent.shape before here).modifySpan fun span positive => by rwa [depth span]
    · exact consistent.shape opened current
  ordinal := by simpa using consistent.ordinal
  order := by simpa using consistent.order
  homes := consistent.homes
  distinct := consistent.distinct
  known := by
    intro other
    rw [← consistent.known other, Context.completion?_modifySpan]
    split
    · unfold Context.completion?
      rw [Option.isSome_map, Option.isSome_map]
    · rfl
  prepared := prepared
  completed := completed
  placed := by
    have placed := consistent.placed
    unfold standing at placed ⊢
    rwa [Context.standing_modifySpan]

theorem Consistent.opened {journal : Journal} (consistent : journal.Consistent)
    (moment : Moment) : (journal.context.opened moment).Sound := by
  unfold Context.opened
  cases current : journal.context.current with
  | none => exact .begin moment
  | some opened => exact consistent.shape opened current

theorem Consistent.known_shared {journal : Journal} (consistent : journal.Consistent)
    {moment : Moment} {role : Role} {index : Nat}
    (shares : (journal.context.opened moment).shared? role = some index) :
    journal.context.keyOf index ∈ journal.births.map Birth.key := by
  obtain ⟨span, top, _⟩ := OpenSegment.shared?_eq_some.mp shares
  obtain ⟨rest, _, lookup⟩ := OpenSegment.top?_eq_some.mp top
  rw [Context.spans_opened] at lookup
  rw [← consistent.known, Context.completion?, Context.span?_eq]
  simp [Context.keyOf, lookup]

theorem Consistent.create {journal : Journal} (consistent : journal.Consistent) (moment : Moment)
    (role : Role) (name peer : String) :
    (journal.step (moment, .create role name peer)).Consistent := by
  have step : journal.step (moment, .create role name peer) =
      { journal with
        context := (journal.context.createSpan moment role name peer).1
        openings := journal.openings ++
          opening journal.context (journal.context.createSpan moment role name peer).1
        births := journal.births ++ born journal.births
          (journal.openings ++
            opening journal.context (journal.context.createSpan moment role name peer).1)
          (.ok (.span (journal.context.createSpan moment role name peer).2)) } := by
    simp [Journal.step, Context.perform]
  have shape := (consistent.opened moment).enter moment.now journal.context.extension role name peer
  have completion := journal.context.completion?_createSpan moment role name peer
  have kept : ∀ id, journal.context.openId? = some id →
      (journal.context.createSpan moment role name peer).1.openId? = some id :=
    fun _ => Context.openId?_createSpan moment role name peer
  have standing := journal.context.standing_opened moment
  rw [step]
  cases shares : (journal.context.opened moment).shared? role with
  | some index =>
    have created := Context.createSpan_of_shared name peer shares
    -- The span that is shared was created before, so the journal does not note it again.
    have known := consistent.known_shared shares
    rw [shares] at completion
    have unseen : born journal.births (journal.openings ++
        opening journal.context (journal.context.createSpan moment role name peer).1)
        (.ok (.span (journal.context.createSpan moment role name peer).2)) = [] := by
      rw [created]
      exact if_pos known
    rw [unseen, List.append_nil]
    refine consistent.frame _ (fun _ current => Option.some.inj current ▸ shape) rfl kept
      completion ?_
    rw [created, ← standing]
    exact List.Perm.refl _
  | none =>
    have created := Context.createSpan_of_not_shared name peer shares
    have key : (journal.context.createSpan moment role name peer).2 =
        journal.context.keyOf journal.context.spans.length := by rw [created]
    rw [shares] at completion
    rw [key]
    refine consistent.push (fun _ current => Option.some.inj current ▸ shape) rfl kept rfl rfl
      journal.context.completion?_fresh completion ?_
    rw [created, ← standing, ← journal.context.spans_opened moment]
    exact List.Perm.refl _

theorem Consistent.join {journal : Journal} (consistent : journal.Consistent) (moment : Moment)
    (pending : Pending) (correlation : Correlation) (extension : Extension) :
    { journal with
      context := journal.context.join moment pending correlation extension
      openings := journal.openings ++
        opening journal.context
          (journal.context.join moment pending correlation extension) }.Consistent := by
  refine consistent.frame _ ?_ rfl (fun id => Context.openId?_join pending correlation extension)
    (Context.completion?_join pending correlation extension)
    (.of_eq (Context.standing_join pending correlation extension))
  rintro _ ⟨⟩
  exact (consistent.opened moment).link

/-- Leaving a span keeps it in its segment, which may then be reported. -/
theorem Consistent.leave {journal : Journal} (consistent : journal.Consistent) (now : Int)
    {opened : OpenSegment} {index : Nat} {rest : List Nat}
    (current : journal.context.current = some opened) (active : opened.active = index :: rest) :
    { journal with
      context := (journal.context.leaveTop now opened index).context
      reports := journal.reports ++
        (journal.context.leaveTop now opened index).report.toList }.Consistent := by
  have sound := consistent.shape opened current
  obtain ⟨span, lookup, _⟩ := sound.entered index (active ▸ List.mem_cons_self)
  have before : { journal.context with current := some opened } = journal.context := by
    rw [← current]
  have openId : journal.context.openId? = some opened.segment.id := by
    rw [Context.openId?, current]; rfl
  have left := consistent.frame
    { journal.context with current := some (opened.leave now index) }
    (fun _ here => Option.some.inj here ▸ sound.leave active) rfl
    (fun id same => by
      rw [openId] at same
      rw [← same, Context.openId?]
      exact congrArg (fun segment => some segment.id) OpenSegment.segment_leave)
    (by rw [Context.completion?_leave, before])
    (by
      rw [Context.standing, Context.standing, current]
      exact OpenSegment.leave_perm active lookup)
  rw [opening_eq_nil (by rw [openId]; exact (nomatch ·)), List.append_nil] at left
  exact left.settle

theorem Consistent.counting {journal : Journal} (consistent : journal.Consistent)
    (outstanding : Nat) :
    { journal with context := { journal.context with outstanding } }.Consistent :=
  ⟨consistent.shape, consistent.ordinal, consistent.order, consistent.homes, consistent.distinct,
    consistent.known, consistent.prepared, consistent.completed, consistent.placed⟩

theorem Consistent.complete {journal : Journal} (consistent : journal.Consistent) :
    { journal with
      context := journal.context.complete.1
      reports := journal.reports ++ journal.context.complete.2.toList }.Consistent :=
  (consistent.counting (journal.context.outstanding - 1)).settle

@[simp] theorem opening_self (context : Context) : opening context context = [] := opening_eq_nil id

@[simp] theorem opening_modifySpan (context : Context) (key : SpanKey) (change : Span → Span) :
    opening context (context.modifySpan key change) = [] :=
  opening_eq_nil fun openId => by rw [Context.openId?_modifySpan, openId]

theorem opening_settle {before after : Context} (same : after.openId? = before.openId?) :
    opening before after.settle.1 = [] := by
  refine opening_eq_nil fun openId => ?_
  rw [← same] at openId
  have none : after.current = none := Option.map_eq_none_iff.mp openId
  rw [Context.settle_of_none none, openId]

theorem Consistent.prepare {journal : Journal} (consistent : journal.Consistent) {key : SpanKey}
    (ready : journal.context.completion? key = some .onStop) :
    { journal with
      context := (journal.context.modifySpan key (·.awaiting)).awaitCompletion
      prepared := journal.prepared ++ [key] }.Consistent := by
  have completion := Context.completion?_mark (·.awaiting) (fun _ => rfl) ready
  have marked := consistent.edit key (·.awaiting) (fun _ => rfl) [key] [] ?_ ?_
  · rw [List.append_nil] at marked
    exact marked.counting _
  · intro other
    rw [completion, List.mem_append, List.mem_singleton, consistent.prepared]
    by_cases same : key = other
    · simp [← same]
    · simp [same, eq_comm]
  · intro other
    rw [completion, List.append_nil, consistent.completed]
    by_cases same : key = other
    · simp [← same, ready]
    · simp [same]

theorem Consistent.finish {journal : Journal} (consistent : journal.Consistent) {key : SpanKey}
    (now : Int) (awaited : journal.context.completion? key = some .awaited) :
    { journal with
      context := (journal.context.modifySpan key (·.completedAt now)).complete.1
      completed := journal.completed ++ [key]
      reports := journal.reports ++
        (journal.context.modifySpan key (·.completedAt now)).complete.2.toList }.Consistent := by
  have completion := Context.completion?_mark (·.completedAt now) (fun _ => rfl) awaited
  have marked := consistent.edit key (·.completedAt now) (fun _ => rfl) [] [key] ?_ ?_
  · rw [List.append_nil] at marked
    exact marked.complete
  · intro other
    rw [completion, List.append_nil, consistent.prepared]
    by_cases same : key = other
    · simp [← same, awaited]
    · simp [same]
  · intro other
    rw [completion, List.mem_append, List.mem_singleton, consistent.completed]
    by_cases same : key = other
    · simp [← same]
    · simp [same, eq_comm]

theorem Consistent.retouch {journal : Journal} (consistent : journal.Consistent) (key : SpanKey)
    {change : Span → Span} (depth : ∀ span, (change span).depth = span.depth)
    (completion : ∀ span, (change span).completion = span.completion) :
    { journal with context := journal.context.modifySpan key change }.Consistent := by
  have same := journal.context.completion?_edit key completion
  have marked := consistent.edit key change depth [] []
    (by rw [same, List.append_nil]; exact consistent.prepared)
    (by rw [same, List.append_nil]; exact consistent.completed)
  rwa [List.append_nil, List.append_nil] at marked

/-- Every operation keeps a journal consistent. -/
theorem Consistent.step {journal : Journal} (consistent : journal.Consistent) (step : Step) :
    (journal.step step).Consistent := by
  obtain ⟨moment, operation⟩ := step
  cases operation with
  | create role name peer => exact consistent.create moment role name peer
  | stop span =>
    cases stopped : journal.context.stopSpan moment.now span with
    | error =>
      simpa [Journal.step, Context.perform, stopped] using consistent
    | ok after =>
      obtain ⟨opened, index, rest, current, active, _, rfl⟩ := Context.stopSpan_eq_ok.mp stopped
      -- A segment is open before the stop, so none is opened by it.
      have none : opening journal.context
          (journal.context.leaveTop moment.now opened index).context = [] := by
        refine opening_eq_nil fun openId => ?_
        rw [Context.openId?, current] at openId
        cases openId
      have left := consistent.leave moment.now current active
      simpa [Journal.step, Context.perform, stopped, none] using left
  | inject carrier =>
    cases injected : journal.context.inject moment.now carrier <;>
      simpa [Journal.step, Context.perform, injected, Except.map] using consistent
  | extract carrier =>
    by_cases valid : carrier.isValid
    · have joined := consistent.join moment ⟨.ofCarrier carrier, true⟩ carrier.correlation
        carrier.extension
      simpa [Journal.step, Context.perform, Context.extract, valid] using joined
    · simpa [Journal.step, Context.perform, Context.extract, valid] using consistent
  | capture =>
    cases captured : journal.context.capture <;>
      simpa [Journal.step, Context.perform, captured, Except.map] using consistent
  | resume snapshot =>
    cases anchored : snapshot.anchor with
    | none =>
      simpa [Journal.step, Context.perform, Context.resume, anchored] using consistent
    | some anchor =>
      by_cases valid : anchor.isValid
      · have joined := consistent.join moment
          ⟨.ofAnchor anchor journal.context.service journal.context.instanceName, false⟩
          snapshot.correlation snapshot.extension
        simpa [Journal.step, Context.perform, Context.resume, anchored, valid] using joined
      · simpa [Journal.step, Context.perform, Context.resume, anchored, valid] using consistent
  | prepare key =>
    cases prepared : journal.context.prepareAsync key with
    | error =>
      simpa [Journal.step, Context.perform, Context.attempt, prepared, Except.map] using consistent
    | ok after =>
      obtain ⟨ready, rfl⟩ := Context.prepareAsync_eq_ok.mp prepared
      have none : opening journal.context
          (journal.context.modifySpan key (·.awaiting)).awaitCompletion = [] :=
        opening_modifySpan journal.context key _
      have marked := consistent.prepare ready
      simpa [Journal.step, Context.perform, Context.attempt, prepared, Except.map, none]
        using marked
  | finish key =>
    cases finished : journal.context.finishAsync moment.now key with
    | error =>
      simpa [Journal.step, Context.perform, Context.attempt, finished] using consistent
    | ok after =>
      obtain ⟨awaited, rfl⟩ := Context.finishAsync_eq_ok.mp finished
      have none : opening journal.context
          (journal.context.modifySpan key (·.completedAt moment.now)).complete.1 = [] :=
        opening_settle (Context.openId?_modifySpan _)
      have marked := consistent.finish moment.now awaited
      simpa [Journal.step, Context.perform, Context.attempt, finished, none] using marked
  | annotate key remark =>
    have touched := consistent.retouch key (fun span => span.annotate_depth moment.now remark)
      (fun span => span.annotate_completion moment.now remark)
    simpa [Journal.step, Context.perform, Context.annotate] using touched
  | applyFlags key extension =>
    have touched := consistent.retouch key
      (fun span => span.applyFlags_depth extension moment.now)
      (fun span => span.applyFlags_completion extension moment.now)
    simpa [Journal.step, Context.perform] using touched
  | awaitCompletion =>
    have none : opening journal.context journal.context.awaitCompletion = [] :=
      opening_self journal.context
    have counted : { journal with context := journal.context.awaitCompletion }.Consistent :=
      consistent.counting _
    simpa [Journal.step, Context.perform, none] using counted
  | asyncStop span =>
    have none : opening journal.context journal.context.complete.1 = [] := opening_settle rfl
    cases span with
    | foreign =>
      simpa [Journal.step, Context.perform, Context.attempt, Context.asyncStop] using consistent
    | own key =>
      simpa [Journal.step, Context.perform, Context.attempt, Context.asyncStop, none]
        using consistent.complete
    | other spanId =>
      simpa [Journal.step, Context.perform, Context.attempt, Context.asyncStop, none]
        using consistent.complete

theorem completion?_begin (config : AgentConfig) (moment : Moment) (key : SpanKey) :
    (Journal.begin config moment).context.completion? key = none :=
  Context.completion?_begin config moment key

theorem Consistent.begin (config : AgentConfig) (moment : Moment) :
    (Journal.begin config moment).Consistent where
  shape := by
    rintro _ ⟨⟩
    exact .begin moment
  ordinal := rfl
  order := rfl
  homes := fun _ => (nomatch ·)
  distinct := .nil
  known := fun key => by
    rw [completion?_begin]
    exact ⟨(nomatch ·), (nomatch ·)⟩
  prepared := fun key => by
    rw [completion?_begin]
    exact ⟨(nomatch ·), fun marked => by rcases marked with marked | marked <;> cases marked⟩
  completed := fun key => by
    rw [completion?_begin]
    exact ⟨(nomatch ·), (nomatch ·)⟩
  placed := List.Perm.refl _

theorem Consistent.run {journal : Journal} (consistent : journal.Consistent)
    (steps : List Step) : (journal.run steps).Consistent := by
  induction steps generalizing journal with
  | nil => exact consistent
  | cons step steps ih => exact ih (consistent.step step)

theorem Consistent.awaited_length {before after : Journal} (first : before.Consistent)
    (second : after.Consistent)
    (same : ∀ key, after.context.completion? key = some .awaited ↔
      before.context.completion? key = some .awaited) :
    after.awaited.length = before.awaited.length := by
  have perm : (after.awaited.map Birth.key).Perm (before.awaited.map Birth.key) := by
    -- Both lists have no duplicates, so the same members in them are the same number.
    refine (List.perm_ext_iff_of_nodup second.awaited_nodup first.awaited_nodup).mpr ?_
    intro key
    rw [second.awaited_iff, first.awaited_iff, same]
  simpa using perm.length_eq

theorem Consistent.awaited_length_succ {fewer more : Journal} (first : fewer.Consistent)
    (second : more.Consistent) {key : SpanKey}
    (added : more.context.completion? key = some .awaited)
    (absent : fewer.context.completion? key ≠ some .awaited)
    (same : ∀ other, key ≠ other →
      more.context.completion? other = fewer.context.completion? other) :
    more.awaited.length = fewer.awaited.length + 1 := by
  have unlisted : key ∉ fewer.awaited.map Birth.key := fun member =>
    absent ((first.awaited_iff key).mp member)
  have perm : (more.awaited.map Birth.key).Perm (key :: fewer.awaited.map Birth.key) := by
    refine (List.perm_ext_iff_of_nodup second.awaited_nodup
      (List.nodup_cons.mpr ⟨unlisted, first.awaited_nodup⟩)).mpr ?_
    intro other
    rw [List.mem_cons, second.awaited_iff, first.awaited_iff]
    by_cases equal : key = other
    · simp [← equal, added]
    · simp [same other equal, Ne.symm equal]
  simpa using perm.length_eq

/-- The count of outstanding completions is that of the spans that are awaited. -/
def Counted (journal : Journal) : Prop := journal.context.outstanding = journal.awaited.length

/-- The count stays right under operations that count through spans. -/
theorem Counted.step {journal : Journal} (counted : journal.Counted)
    (consistent : journal.Consistent) {step : Step} (paired : step.2.countsThroughSpans) :
    (journal.step step).Counted := by
  have next := consistent.step step
  have change := journal.context.perform_change step.1 step.2
  rw [paired] at change
  unfold Counted at counted ⊢
  cases Context.Change.tally change with
  | kept outstanding same =>
    exact outstanding.trans (counted.trans (consistent.awaited_length next same).symm)
  | more key outstanding absent added same =>
    have grown := consistent.awaited_length_succ next added absent same
    exact outstanding.trans (by rw [grown, counted])
  | fewer key outstanding present removed same =>
    have shrunk := next.awaited_length_succ consistent present removed same
    exact outstanding.trans (by rw [counted, shrunk, Nat.add_sub_cancel])

/-- A segment with a span that is not reported yet has something left to wait for. -/
theorem Consistent.waiting {journal : Journal} (consistent : journal.Consistent)
    (sound : journal.context.Sound) {birth : Birth} (member : birth ∈ journal.births)
    (home : birth.home = journal.reports.length) : ¬ journal.context.IsDone := by
  have placed := consistent.placed.mem_iff.mp (List.mem_map_of_mem (f := Birth.place) member)
  rcases List.mem_append.mp placed with reported | stands
  · obtain ⟨entry, listed, here⟩ := List.mem_flatMap.mp reported
    obtain ⟨record, _, same⟩ := List.mem_map.mp here
    -- The place of a report is before the number of reports, where the span is not at home.
    have earlier := List.snd_lt_of_mem_zipIdx listed
    have at_home : entry.2 = birth.home := congrArg Prod.fst same
    omega
  · refine sound.waiting ?_
    obtain ⟨index, standing, _⟩ := List.mem_map.mp stands
    unfold Context.standing at standing
    cases current : journal.context.current with
    | none =>
      rw [current] at standing
      cases standing
    | some opened =>
      rw [current] at standing
      have bound := (consistent.shape opened current).mem_lt standing
      rw [Context.spans_of_current current]
      exact List.ne_nil_of_length_pos (Nat.zero_lt_of_lt bound)

theorem perform_span {context : Context} {moment : Moment} {operation : Operation} {key : SpanKey}
    (result : (context.perform moment operation).result = .ok (.span key)) :
    (context.perform moment operation).report = none ∧
      (context.perform moment operation).context.openId?.isSome := by
  cases operation with
  | create role name peer => exact ⟨rfl, rfl⟩
  | stop span =>
    unfold Context.perform at result
    dsimp only at result
    split at result <;> cases result
  | inject carrier =>
    unfold Context.perform at result
    cases injected : context.inject moment.now carrier <;> simp [injected, Except.map] at result
  | capture =>
    unfold Context.perform at result
    cases captured : context.capture <;> simp [captured, Except.map] at result
  | prepare key =>
    unfold Context.perform Context.attempt at result
    dsimp only at result
    split at result <;> cases result
  | finish key =>
    unfold Context.perform Context.attempt at result
    dsimp only at result
    split at result <;> cases result
  | asyncStop span =>
    unfold Context.perform Context.attempt at result
    dsimp only at result
    split at result <;> cases result
  | _ => cases result

/-- A new span is at home in the segment that is open then, behind those reported so far. -/
theorem Consistent.home_of_born {journal : Journal} (consistent : journal.Consistent)
    {step : Step} {birth : Birth} (member : birth ∈ (journal.step step).births)
    (new : birth ∉ journal.births) : birth.home = journal.reports.length := by
  have order := (consistent.step step).order
  have added := (List.mem_append.mp member).resolve_left new
  unfold born at added
  split at added
  next key result =>
    obtain ⟨report, isOpen⟩ := perform_span result
    obtain ⟨id, openId⟩ := Option.isSome_iff_exists.mp isOpen
    have same : (journal.step step).context.openId? = some id := openId
    have kept : (journal.step step).reports = journal.reports := by
      change journal.reports ++ _ = _
      rw [report, Option.toList_none, List.append_nil]
    rw [same, kept] at order
    split at added
    next => cases added
    next =>
      rw [List.mem_singleton.mp added]
      change (journal.step step).openings.length - 1 = _
      simp [order]
  next => cases added

/-- The account of a run: the count of outstanding completions is that of the spans that were
prepared and did not complete; the segments that were opened are those reported, in order, and
the open one; each span has one place, among the finished and active spans of the open segment
or in the report of the segment that was open when it was created; and an operation hands a
segment with spans over exactly if it leaves nothing to wait for. -/
structure Accounted (journal : Journal) : Prop where
  outstanding : journal.context.outstanding = journal.awaited.length
  order : journal.openings = journal.reports.map (·.id) ++ journal.context.openId?.toList
  distinct : (journal.births.map Birth.place).Nodup
  placed : (journal.births.map Birth.place).Perm (journal.archived ++ journal.standing)
  home : ∀ step : Step, ∀ birth ∈ (journal.step step).births, birth ∉ journal.births →
    birth.home = journal.reports.length
  timely : ∀ step : Step, step.2.countsThroughSpans → ∀ birth ∈ (journal.step step).births,
    birth.home = journal.reports.length →
      ((journal.step step).reports.length = journal.reports.length + 1 ↔
        (journal.step step).context.IsDone)

theorem Consistent.places_nodup {journal : Journal} (consistent : journal.Consistent) :
    (journal.births.map Birth.place).Nodup := by
  have distinct := consistent.distinct
  unfold List.Nodup at distinct ⊢
  rw [List.pairwise_map] at distinct ⊢
  -- Two spans at one place have one key, since the home of a span is the segment of its key.
  refine distinct.imp_of_mem fun {first second} inBirths alsoInBirths different same => ?_
  obtain ⟨home, index⟩ := Prod.mk.inj same
  rw [consistent.homes first inBirths, consistent.homes second alsoInBirths] at home
  have key : first.key = second.key := by
    rw [SpanKey.mk.injEq]
    exact ⟨home, Int.ofNat.inj index⟩
  exact different key

theorem Consistent.accounted {journal : Journal} (consistent : journal.Consistent)
    (sound : journal.context.Sound) (counted : journal.Counted) : journal.Accounted where
  outstanding := counted
  order := consistent.order
  distinct := consistent.places_nodup
  placed := consistent.placed
  home := fun _ _ member new => consistent.home_of_born member new
  timely := by
    intro step _ birth member home
    have change := journal.context.perform_change step.1 step.2
    have reports : (journal.step step).reports =
      journal.reports ++ (journal.context.perform step.1 step.2).report.toList := rfl
    cases handed : (journal.context.perform step.1 step.2).report with
    | none =>
      rw [handed, Option.toList_none, List.append_nil] at reports
      -- Nothing was handed over, so the span still stands in the open segment.
      have waits := (consistent.step step).waiting (sound.change change) member
        (by rw [reports, home])
      rw [reports]
      exact ⟨fun grown => by omega, fun done => absurd done waits⟩
    | some report =>
      rw [handed] at reports change
      rw [reports]
      exact ⟨fun _ => change.done, fun _ => by simp⟩

theorem Counted.begin (config : AgentConfig) (moment : Moment) :
    (Journal.begin config moment).Counted := rfl

theorem Consistent.counted_run {journal : Journal} (consistent : journal.Consistent)
    (counted : journal.Counted) {steps : List Step}
    (paired : ∀ step ∈ steps, step.2.countsThroughSpans) : (journal.run steps).Counted := by
  induction steps generalizing journal with
  | nil => exact counted
  | cons step steps ih =>
    exact ih (consistent.step step)
      (counted.step consistent (paired step List.mem_cons_self))
      fun later member => paired later (List.mem_cons_of_mem _ member)

theorem context_run (journal : Journal) (steps : List Step) :
    (journal.run steps).context = journal.context.run steps := by
  induction steps generalizing journal with
  | nil => rfl
  | cons step steps ih => exact ih (journal.step step)

/-- Every run that counts its completions through spans is accounted for. -/
theorem run_accounted (config : AgentConfig) (moment : Moment) (steps : List Step)
    (paired : ∀ step ∈ steps, step.2.countsThroughSpans) :
    ((Journal.begin config moment).run steps).Accounted := by
  have consistent := Consistent.begin config moment
  refine (consistent.run steps).accounted ?_
    (consistent.counted_run (Counted.begin config moment) paired)
  rw [context_run]
  exact (Context.Sound.begin config moment).run steps

def asyncRun : List Step :=
  let moment : Moment := ⟨1, "second", "trace"⟩
  [.create .entry "/outer" "", .create .entry "/inner" "", .create .inner "work" "",
    .prepare ⟨0, 1⟩, .stop (.own ⟨0, 1⟩), .stop (.own ⟨0, 0⟩), .stop (.own ⟨0, 0⟩),
    .finish ⟨0, 1⟩].map (moment, ·)

theorem asyncRun_accounted :
    let journal := (Journal.begin { instanceName := "instance" } ⟨0, "first", "trace"⟩).run asyncRun
    journal.Accounted ∧ journal.archived = [(0, 1), (0, 0)] ∧ journal.awaited = [] :=
  ⟨run_accounted _ _ asyncRun (by decide), by decide, by decide⟩

end Journal

end TraceAgent.Native

import TraceAgent.Proofs.Application.CrossProcess
import TraceAgent.Proofs.Application.ThreadScopes
import TraceAgent.Proofs.Telemetry.B3
import TraceAgent.Proofs.Telemetry.Sdk

/-! An entry span that is created and stopped again, on either backend.

On a native context the span from before is the active one again. On a Zipkin
context the scope of a continued call stays open after the entry span that
received it, and hides the span from before.
-/

set_option autoImplicit false

namespace TraceAgent.Application

open Propagation

variable {app entered left : Application} {thread agent id index : Nat} {name : String}
  {carrier : Carrier} {state : Zipkin.State} {active entry : SpanRef}

/-- A Zipkin context, and what its operations work on when a thread calls them. -/
structure Works (app : Application) (thread id : Nat) (state : Zipkin.State) : Prop where
  found : app.contexts[id]? = some (.zipkin state.context)
  whole : app.zipkinState thread state.context = state

theorem Works.commit (works : app.Works thread id state) (next : Zipkin.State) :
    (app.commitZipkin thread id next).Works thread id next where
  found := by
    obtain ⟨bound, _⟩ := List.getElem?_eq_some_iff.mp works.found
    rw [contexts_commitZipkin, List.getElem?_set_self bound]
  whole := by
    unfold zipkinState
    rw [thread_commitZipkin]
    rfl

theorem Works.scopes (works : app.Works thread id state) :
    (app.thread thread).scopes = state.scopes := congrArg Zipkin.State.scopes works.whole

theorem Works.activeSpan (works : app.Works thread id state) :
    app.activeSpan thread id = state.activeSpan.map .zipkin := by
  unfold Application.activeSpan
  rw [works.found]
  dsimp only
  rw [works.whole]

structure Tracing (app : Application) (thread id : Nat) (state : Zipkin.State) : Prop
    extends app.Works thread id state where
  bound : app.bound thread = some id

namespace Tracing

theorem of_found {context : Zipkin.Context} (bound : app.bound thread = some id)
    (found : app.contexts[id]? = some (.zipkin context)) :
    app.Tracing thread id (app.zipkinState thread context) := ⟨⟨found, rfl⟩, bound⟩

theorem commit (tracing : app.Tracing thread id state) (next : Zipkin.State) :
    (app.commitZipkin thread id next).Tracing thread id next :=
  ⟨tracing.toWorks.commit next,
    (congrFun (bound_commitZipkin next) thread).trans tracing.bound⟩

theorem note (tracing : app.Tracing thread id state) (diagnostics : List Diagnostic) :
    (app.note diagnostics).Tracing thread id state :=
  ⟨⟨tracing.found, tracing.whole⟩, tracing.bound⟩

theorem activeBound (tracing : app.Tracing thread id state) :
    app.activeBound thread = state.activeSpan.map .zipkin := by
  unfold Application.activeBound
  rw [tracing.bound]
  exact tracing.activeSpan

theorem extract (tracing : app.Tracing thread id state) (carrier : Carrier) :
    app.extract thread id carrier =
      ((app.commitZipkin thread id (state.extract carrier).1).note
        (state.extractDiagnostics carrier), (state.extract carrier).2) := by
  unfold Application.extract
  rw [tracing.found]
  dsimp only
  rw [tracing.whole]

theorem enterEntry {returned : Option Carrier} (tracing : app.Tracing thread id state)
    (enters : app.enterEntry thread agent name (some carrier) = (entered, returned, .ok entry)) :
    ∃ now started nested,
      (state.extract carrier).1.startEntry now (cutName name) = (started, .ok nested) ∧
      entered.Tracing thread id started := by
  have linked := (tracing.commit (state.extract carrier).1).note
    (state.extractDiagnostics carrier)
  obtain ⟨_, creates⟩ := enterEntry_eq_ok.mp enters
  rw [obtain_of_bound agent tracing.bound] at creates
  dsimp only at creates
  rw [tracing.extract] at creates
  generalize (app.commitZipkin thread id (state.extract carrier).1).note
    (state.extractDiagnostics carrier) = continued at creates linked
  unfold createSpan at creates
  rw [linked.found] at creates
  dsimp only at creates
  rw [linked.whole] at creates
  obtain ⟨rfl, outcome⟩ := Prod.mk.inj creates
  obtain ⟨nested, started, rfl⟩ := eq_ok_of_map outcome
  exact ⟨continued.clock, _, nested, Prod.ext rfl started, linked.commit _⟩

/-- Stopping the active span while others run. -/
theorem stopActive (tracing : app.Tracing thread id state) (active : state.activeSpan = .ok index)
    (busy : (state.stopSpan app.clock index).2 = false) :
    app.stopActive thread =
      (app.commitZipkin thread id (state.stopSpan app.clock index).1, .ok ()) := by
  unfold Application.stopActive running
  rw [tracing.bound]
  dsimp only
  rw [tracing.activeSpan, active]
  unfold Except.map finishSpan stopSpan
  dsimp only
  rw [tracing.found]
  dsimp only
  rw [tracing.whole, busy]

end Tracing

/-- The active span of a thread, as the context knows it that the thread is bound to. -/
inductive Active (app : Application) (thread id : Nat) : SpanRef → Prop where
  | native {owner : Nat} {context : Native.Context} {key : Native.SpanKey}
      (bound : app.bound thread = some id)
      (found : app.contexts[id]? = some (.native owner context))
      (top : context.activeSpan = .ok key) : Active app thread id (.native id key)
  | zipkin {state : Zipkin.State} {index : Nat} (tracing : app.Tracing thread id state)
      (top : state.activeSpan = .ok index) : Active app thread id (.zipkin index)

theorem Active.activeSpan (runs : app.Active thread id active) :
    app.activeSpan thread id = .ok active := by
  cases runs with
  | native bound found top => rw [activeSpan_native found, top]; rfl
  | zipkin tracing top => rw [tracing.activeSpan, top]; rfl

theorem Active.bound (runs : app.Active thread id active) : app.bound thread = some id := by
  cases runs with
  | native bound found top => exact bound
  | zipkin tracing top => exact tracing.bound

theorem activeBound_eq_ok :
    app.activeBound thread = .ok active ↔ ∃ id, app.Active thread id active := by
  constructor
  · intro runs
    unfold activeBound at runs
    split at runs
    next id bound =>
      refine ⟨id, ?_⟩
      cases found : app.contexts[id]? with
      | none =>
        unfold activeSpan at runs
        rw [found] at runs
        cases runs
      | some held =>
        cases held with
        | native owner context =>
          rw [activeSpan_native found] at runs
          obtain ⟨key, top, rfl⟩ := eq_ok_of_map runs
          exact .native bound found top
        | zipkin context =>
          have tracing := Tracing.of_found bound found
          rw [tracing.activeSpan] at runs
          obtain ⟨index, top, rfl⟩ := eq_ok_of_map runs
          exact .zipkin tracing top
    next => cases runs
  · rintro ⟨id, runs⟩
    unfold activeBound
    rw [runs.bound]
    exact runs.activeSpan

theorem stopSpan_native {owner : Nat} {context : Native.Context} {key : Native.SpanKey}
    {stopped : Native.Context.Stopped}
    (found : app.contexts[id]? = some (.native owner context))
    (stops : context.stopSpan app.now (.own key) = .ok stopped) :
    app.stopSpan thread id (.native id key) =
      ((app.setContext id (.native owner stopped.context)).report owner stopped.report,
        .ok stopped.idle) := by
  unfold stopSpan
  rw [found]
  unfold stopNative argument
  dsimp only
  rw [if_pos rfl, stops]

theorem Active.stopActive (runs : app.Active thread id active) :
    app.stopActive thread = app.finishSpan thread id active := by
  unfold Application.stopActive running
  rw [runs.bound]
  dsimp only
  rw [runs.activeSpan]

theorem Active.stopBound (runs : app.Active thread id active) :
    app.stopBound thread active = app.finishSpan thread id active := by
  unfold Application.stopBound running
  rw [runs.bound]

theorem Active.finishSpan_ok (runs : app.Active thread id active) :
    (app.finishSpan thread id active).2 = .ok () := by
  have stopped : ∃ idle, (app.stopSpan thread id active).2 = .ok idle := by
    cases runs with
    | @native owner context key bound found top =>
      obtain ⟨stopped, stops⟩ := context.stopSpan_active app.now top
      rw [stopSpan_native found stops]
      exact ⟨_, rfl⟩
    | zipkin tracing top =>
      unfold stopSpan
      rw [tracing.found]
      exact ⟨_, rfl⟩
  obtain ⟨idle, stops⟩ := stopped
  unfold Application.finishSpan
  generalize app.stopSpan thread id active = outcome at stops
  obtain ⟨after, result⟩ := outcome
  cases stops
  cases idle <;> rfl

/-- The carrier names no span that the Zipkin backend could find in it, or names the active span
itself. Native contexts find no spans in that way. -/
def Restores (app : Application) (thread : Nat) (carrier : Carrier) (active : SpanRef) : Prop :=
  ∀ id context received, app.bound thread = some id →
    app.contexts[id]? = some (.zipkin context) → context.received? carrier = some received →
    (context.running.lookup received.identity).map SpanRef.zipkin = some active

/-- What a Zipkin context asks of telemetry to tell the spans of other processes from its own: those
that are read are remote, and those that start are not. The stack of a thread shows the context
that was attached last. -/
structure TellsRemote (app : Application) (context : Zipkin.Context) : Prop where
  stack : app.stack.ShowsLatest
  reads : context.propagator.ReadsRemote
  starts : ∀ provider, app.recorder.providers[context.provider]? = some provider →
    provider.StartsLocal

theorem bracketed_native {owner : Nat} {context : Native.Context} {key : Native.SpanKey}
    {returned : Option Carrier} (reachable : app.Reachable) (bound : app.bound thread = some id)
    (found : app.contexts[id]? = some (.native owner context))
    (top : context.activeSpan = .ok key)
    (enters : app.enterEntry thread agent name (some carrier) = (entered, returned, .ok entry))
    (stops : entered.stopActive thread = (left, .ok ())) :
    left.Active thread id (.native id key) := by
  have obtained := obtain_of_bound agent bound
  have served : (app.obtain thread agent).app.contexts[(app.obtain thread agent).id]? =
      some (.native owner context) := by
    rw [obtained]
    exact found
  obtain ⟨received, moment, later, creates, boundAfter, stored, _⟩ :=
    enterEntry_native name carrier served
  rw [creates] at enters
  cases enters
  rw [obtained] at boundAfter stored
  have sound := (reachable.native found).sound
  -- The stack of the segment is as it was before the call was continued.
  obtain ⟨nested, stopped, leaves, busy, again⟩ :=
    (sound.extract moment carrier).stopSpan_createSpan later .entry (cutName name) ""
      entered.now (sound.activeSpan_extract moment carrier top)
  have inside : entered.Active thread id _ := .native boundAfter stored nested
  rw [inside.stopActive] at stops
  unfold finishSpan at stops
  rw [stopSpan_native stored leaves, busy] at stops
  cases stops
  obtain ⟨within, _⟩ := List.getElem?_eq_some_iff.mp stored
  have kept : ((entered.setContext id (.native owner stopped.context)).report owner
      stopped.report).contexts[id]? = some (.native owner stopped.context) := by
    rw [contexts_report]
    exact List.getElem?_set_self within
  refine .native ?_ kept again
  rw [bound_report]
  exact boundAfter

/-- On a Zipkin context the span from before is active again exactly if the call that was continued
did not take its place. -/
theorem bracketed_zipkin {returned : Option Carrier} (reachable : app.Reachable)
    (tracing : app.Tracing thread id state) (tells : app.TellsRemote state.context)
    (top : state.activeSpan = .ok index)
    (enters : app.enterEntry thread agent name (some carrier) = (entered, returned, .ok entry))
    (stops : entered.stopActive thread = (left, .ok ())) :
    left.activeBound thread = .ok (.zipkin index) ↔
      ∀ received, state.context.received? carrier = some received →
        state.context.running.lookup received.identity = some index := by
  obtain ⟨now, started, entry, starts, inside⟩ := tracing.enterEntry enters
  have nested : state.scopes.Nested :=
    tracing.scopes ▸ reachable.nested tells.stack thread
  have recorder : app.recorder = state.recorder := congrArg Zipkin.State.recorder tracing.whole
  have own : state.StartsLocal := fun provider found => tells.starts provider (recorder ▸ found)
  obtain ⟨nestedTop, busy, sameContext, sameScopes⟩ :=
    Zipkin.State.stop_entry nested tells.reads own top starts entered.clock
  -- The nested span has left, so what is active is up to the scope of the call.
  rw [inside.stopActive nestedTop busy] at stops
  have outside := inside.commit (started.stopSpan entered.clock entry).1
  rw [(Prod.mk.inj stops).1] at outside
  rw [← Zipkin.State.activeSpan_extract nested top, outside.activeBound,
    Zipkin.State.activeSpan_congr sameScopes sameContext]
  constructor
  · intro mapped
    obtain ⟨found, same, ⟨⟩⟩ := eq_ok_of_map mapped
    exact same
  · intro same
    rw [same]
    rfl

/-- The span from before is active again exactly if the carrier restores it. -/
theorem active_after_entry {returned : Option Carrier} (reachable : app.Reachable)
    (tells : ∀ id context, app.bound thread = some id →
      app.contexts[id]? = some (.zipkin context) → app.TellsRemote context)
    (runs : app.Active thread id active)
    (enters : app.enterEntry thread agent name (some carrier) = (entered, returned, .ok entry))
    (stops : entered.stopActive thread = (left, .ok ())) :
    left.activeBound thread = .ok active ↔ app.Restores thread carrier active := by
  cases runs with
  | native bound found top =>
    have again := bracketed_native reachable bound found top enters stops
    refine ⟨fun _ other tracer received same here => ?_,
      fun _ => activeBound_eq_ok.mpr ⟨id, again⟩⟩
    -- A native context is no Zipkin context, so there is nothing to be named.
    cases bound.symm.trans same
    cases found.symm.trans here
  | @zipkin state index tracing top =>
    have telling := tells id state.context tracing.bound tracing.found
    rw [bracketed_zipkin reachable tracing telling top enters stops]
    constructor
    · intro named other tracer received same here found
      cases tracing.bound.symm.trans same
      cases tracing.found.symm.trans here
      rw [named received found]
      rfl
    · intro restores received found
      have named := restores id state.context received tracing.bound tracing.found found
      obtain ⟨found, lookup, ⟨⟩⟩ := Option.map_eq_some_iff.mp named
      exact lookup

/-- Entry spans are bracketed unless a scope hides the span from before. Whatever is active, if
an entry span with a carrier is created and the active span is stopped right after it, then the
span from before is active again, and the next stop stops it, exactly if the carrier names no
other span to the backend. -/
theorem entry_bracketed_iff {returned : Option Carrier} (reachable : app.Reachable)
    (tells : ∀ id context, app.bound thread = some id →
      app.contexts[id]? = some (.zipkin context) → app.TellsRemote context)
    (runs : app.activeBound thread = .ok active)
    (enters : app.enterEntry thread agent name (some carrier) = (entered, returned, .ok entry))
    (stops : entered.stopActive thread = (left, .ok ())) :
    (left.activeBound thread = .ok active ∧
      left.stopActive thread = left.stopBound thread active ∧
      (left.stopActive thread).2 = .ok ()) ↔ app.Restores thread carrier active := by
  obtain ⟨id, before⟩ := activeBound_eq_ok.mp runs
  have returns := active_after_entry reachable tells before enters stops
  constructor
  · exact fun bracketed => returns.mp bracketed.1
  · intro restores
    have again := returns.mpr restores
    obtain ⟨_, after⟩ := activeBound_eq_ok.mp again
    rw [after.stopActive, after.stopBound]
    exact ⟨again, rfl, after.finishSpan_ok⟩

def tracedWork : Application :=
  [Event.addZipkin { service := "traced", instanceName := "instance" }
      (Telemetry.B3.propagator .single) (.counting .parentBased 1 1 1),
    .perform 0 (.thread 0) (.create .inner "work" "" none)].foldl after (.begin 0 0)

def remoteCall : Carrier :=
  (tracedWork.newCarrier 0).store Telemetry.B3.single
    "000000000000000000000000000000ab-00000000000000cd-1"

def nested (received : Carrier) : Application :=
  (tracedWork.enterEntry 0 0 "/nested" (some received)).1

def unnested (received : Carrier) : Application := ((nested received).stopActive 0).1

theorem tracedWork_reachable : tracedWork.Reachable := ⟨0, 0, _, _, rfl⟩

/-- A received call hides the span from before when its entry span has ended. That span runs all
the same. -/
theorem remote_call_hides_work :
    tracedWork.Reachable ∧ tracedWork.activeBound 0 = .ok (.zipkin 0) ∧
      (tracedWork.enterEntry 0 0 "/nested" (some remoteCall)).2.2 = .ok (.zipkin 1) ∧
      ((nested remoteCall).stopActive 0).2 = .ok () ∧
      (unnested remoteCall).runningCount? 0 = some 1 ∧
      (unnested remoteCall).activeBound 0 = .error .noActiveSpan ∧
      ((unnested remoteCall).stopActive 0).2 = .error .noActiveSpan :=
  ⟨tracedWork_reachable, by decide +kernel⟩

theorem enterEntry_tracedWork :
    tracedWork.enterEntry 0 0 "/nested" (some {}) =
      (nested {}, (tracedWork.enterEntry 0 0 "/nested" (some {})).2.1, .ok (.zipkin 1)) :=
  Prod.ext rfl (Prod.ext rfl (by decide +kernel))

theorem stopActive_nested : (nested {}).stopActive 0 = (unnested {}, .ok ()) :=
  Prod.ext rfl (by decide +kernel)

theorem restores_tracedWork : tracedWork.Restores 0 {} (.zipkin 0) := by
  intro id context received bound found named
  obtain rfl : (0 : Nat) = id := Option.some.inj bound
  have nothing : context.received? {} = none := by
    cases found
    decide +kernel
  rw [nothing] at named
  cases named

theorem tellsRemote_tracedWork (id : Nat) (context : Zipkin.Context)
    (bound : tracedWork.bound 0 = some id)
    (found : tracedWork.contexts[id]? = some (.zipkin context)) :
    tracedWork.TellsRemote context := by
  obtain rfl : (0 : Nat) = id := Option.some.inj bound
  cases found
  refine ⟨Telemetry.ContextStack.holding_showsLatest, Telemetry.B3.readsRemote .single, ?_⟩
  rintro _ ⟨⟩
  exact (Telemetry.Sdk.startsLocal _).run [_]

theorem empty_call_leaves_work :
    (unnested {}).activeBound 0 = .ok (.zipkin 0) ∧
      (unnested {}).stopActive 0 = (unnested {}).stopBound 0 (.zipkin 0) ∧
      ((unnested {}).stopActive 0).2 = .ok () :=
  (entry_bracketed_iff tracedWork_reachable tellsRemote_tracedWork (by decide +kernel)
    enterEntry_tracedWork
    stopActive_nested).mpr restores_tracedWork

end TraceAgent.Application

import TraceAgent.Application.Contexts

/-! What the application can do with a span that it has at hand. -/

set_option autoImplicit false

namespace TraceAgent.Application

open Propagation
open Segment (Remark)

/-- What a span tells about itself. A Zipkin span cannot be read before it ends, so its id and
name are blank. -/
structure SpanView where
  id : Int
  name : String
  isEntry : Bool
  isExit : Bool
  deriving DecidableEq, Repr

def nativeSpan? (app : Application) (id : Nat) (key : Native.SpanKey) : Option Native.Span :=
  match app.contexts[id]? with
  | some (.native _ context) => context.span? key
  | some (.zipkin _) | none => none

def view? (app : Application) : SpanRef → Option SpanView
  | .native id key => (app.nativeSpan? id key).map fun span =>
      { id := key.index, name := span.name, isEntry := span.role == .entry,
        isExit := span.role == .exit }
  | .zipkin index => (app.zipkinSpans[index]?).map fun span =>
      { id := 0, name := "", isEntry := span.isEntry, isExit := span.isExit }

def editNative (app : Application) (id : Nat) (key : Native.SpanKey)
    (edit : Native.Span → Native.Span) : Application :=
  match app.contexts[id]? with
  | some (.native agent context) =>
      app.setContext id (.native agent (context.modifySpan key edit))
  | some (.zipkin _) | none => app

def changeZipkin (app : Application) (index : Nat) (change : Telemetry.Change) : Application :=
  match (app.zipkinSpans[index]?).bind (·.context.span) with
  | some span => { app with recorder := app.recorder.change span change }
  | none => app

def annotate (app : Application) (span : SpanRef) (remark : Remark) :
    Application × Except TraceError Unit :=
  match span with
  | .native id key => (app.editNative id key (·.annotate app.now remark), .ok ())
  | .zipkin index =>
      match Zipkin.refusal? remark with
      | some error => (app, .error error)
      | none =>
          (((Zipkin.changes app.clock remark).foldl (·.changeZipkin index ·) app).note
            (Zipkin.remarkDiagnostics remark), .ok ())

def applyFlags (app : Application) (span : SpanRef) (extension : Extension) : Application :=
  match span with
  | .native id key => app.editNative id key (·.applyFlags extension app.now)
  | .zipkin index =>
      match extension.latency? app.now with
      | some latency =>
          app.changeZipkin index (.attribute Extension.latencyTag (Numeral.text latency))
      | none => app

/-- Let a span outlive its stop. The context of a native span has to be alive. -/
def prepareAsync (app : Application) (span : SpanRef) : Application × Except TraceError Unit :=
  match span with
  | .native id key =>
      if !app.isAlive id then (app, .error .noRunningContext)
      else
        match app.contexts[id]? with
        | some (.native agent context) =>
            match context.prepareAsync key with
            | .error error => (app, .error error)
            | .ok prepared => (app.setContext id (.native agent prepared), .ok ())
        | some (.zipkin _) | none => (app, .error .noRunningContext)
  | .zipkin index =>
      ({ app with
          zipkinSpans := app.zipkinSpans.modify index ({ · with isAsync := true }) }, .ok ())

def finishZipkin (app : Application) (index : Nat) : Application :=
  match (app.zipkinSpans[index]?).bind (·.context.span) with
  | some span => { app with recorder := app.recorder.finish span app.clock }
  | none => app

def finishAsync (app : Application) (span : SpanRef) : Application × Except TraceError Unit :=
  match span with
  | .native id key =>
      match app.contexts[id]? with
      | some (.native agent context) =>
          match context.finishAsync app.now key with
          | .error error => (app, .error error)
          | .ok (finished, segment) =>
              (((app.setContext id (.native agent finished)).note
                (context.asyncStopDiagnostics (.own key))).report agent segment, .ok ())
      | some (.zipkin _) | none => (app, .error .noRunningContext)
  | .zipkin index => (app.finishZipkin index, .ok ())

end TraceAgent.Application

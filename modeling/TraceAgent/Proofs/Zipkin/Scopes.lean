import Mathlib.Data.List.InsertIdx
import TraceAgent.Zipkin.Scopes

/-! What the scopes of a thread show.

It is asked of the stack of a thread that the context attached last is current,
and that dropping a guard detaches its context and no other. The scopes are then
a list of contexts, in which a scope that closes leaves the others in place.
-/

set_option autoImplicit false

namespace TraceAgent

open Telemetry (Context ContextStack Identity)

/-- The current context is the latest of those whose guards were not dropped. -/
def Telemetry.ContextStack.ShowsLatest (stack : ContextStack) : Prop :=
  ∀ calls, stack.currentAfter calls = ContextStack.latest (calls.foldl ContextStack.nest [])

theorem Telemetry.ContextStack.holding_showsLatest :
    (ContextStack.holding []).ShowsLatest := fun _ => rfl

namespace Zipkin.Scopes

variable {scopes : Scopes}

def of (contexts : List Context) : Scopes where
  opened := contexts.map (·.identity)
  stack := .holding contexts

theorem of_nil {stack : ContextStack} (shows : stack.ShowsLatest) :
    (⟨[], stack⟩ : Scopes) = of [] := by
  obtain ⟨currentAfter⟩ := stack
  exact congrArg (fun currentAfter => Scopes.mk [] ⟨currentAfter⟩) (funext shows)

theorem current_of (contexts : List Context) :
    (of contexts).current = contexts.head?.getD .empty := rfl

theorem attach_of (contexts : List Context) (context : Context) :
    (of contexts).attach context = of (context :: contexts) := rfl

theorem openFor_of (contexts : List Context) (context : Context) :
    (of contexts).openFor context =
      if (of contexts).current.identity = context.identity then of contexts
      else of (context :: contexts) := rfl

theorem close_of (contexts : List Context) (identity : Identity) :
    (of contexts).close identity = of (contexts.eraseP (·.identity == identity)) := by
  unfold close
  have place : (of contexts).opened.findIdx? (· == identity) =
      contexts.findIdx? (·.identity == identity) := List.findIdx?_map
  rw [place]
  cases found : contexts.findIdx? (·.identity == identity) with
  | none =>
    have absent : ∀ scope ∈ contexts, ¬(scope.identity == identity) = true := by
      intro scope member same
      rw [List.findIdx?_eq_none_iff.mp found scope member] at same
      cases same
    rw [List.eraseP_of_forall_not absent]
  | some index =>
    have erased : contexts.eraseP (·.identity == identity) = contexts.eraseIdx index := by
      rw [List.eraseP_eq_eraseIdx, found]
    rw [erased]
    exact congrArg (Scopes.mk · _) (List.eraseIdx_map ..)

theorem closeAll_of (contexts : List Context) : (of contexts).closeAll = of [] := by
  have detached : ∀ attached : List Context,
      (attached.map (·.identity)).foldl (fun stack _ => stack.after (.drop 0))
        (ContextStack.holding attached) = .holding [] := by
    intro attached
    induction attached with
    | nil => rfl
    | cons context rest ih => exact ih
  exact congrArg (Scopes.mk []) (detached contexts)

/-- Each scope has its context attached, and nothing else is. -/
def Nested (scopes : Scopes) : Prop := ∃ contexts, scopes = of contexts

namespace Nested

theorem attach (nested : scopes.Nested) (context : Context) : (scopes.attach context).Nested := by
  obtain ⟨contexts, rfl⟩ := nested
  exact ⟨context :: contexts, attach_of contexts context⟩

theorem openFor (nested : scopes.Nested) (context : Context) :
    (scopes.openFor context).Nested := by
  unfold Scopes.openFor
  split
  · exact nested
  · exact nested.attach context

theorem close (nested : scopes.Nested) (identity : Identity) : (scopes.close identity).Nested := by
  obtain ⟨contexts, rfl⟩ := nested
  exact ⟨_, close_of contexts identity⟩

theorem closeAll (nested : scopes.Nested) : scopes.closeAll.Nested := by
  obtain ⟨contexts, rfl⟩ := nested
  exact ⟨[], closeAll_of contexts⟩

theorem closeAll_eq (nested : scopes.Nested) : scopes.closeAll = of [] := by
  obtain ⟨contexts, rfl⟩ := nested
  exact closeAll_of contexts

theorem current_attach (nested : scopes.Nested) (context : Context) :
    (scopes.attach context).current = context := by
  obtain ⟨contexts, rfl⟩ := nested
  rfl

/-- A scope that closes while it is the latest leaves the others as they were. -/
theorem close_attach (nested : scopes.Nested) (context : Context) :
    (scopes.attach context).close context.identity = scopes := by
  obtain ⟨contexts, rfl⟩ := nested
  rw [attach_of, close_of]
  exact congrArg of (List.eraseP_cons_of_pos (beq_self_eq_true context.identity))

theorem of_opened (nested : scopes.Nested) (closed : scopes.opened = []) : scopes = of [] := by
  obtain ⟨contexts, rfl⟩ := nested
  rw [List.map_eq_nil_iff.mp closed]

end Nested

end Zipkin.Scopes

end TraceAgent

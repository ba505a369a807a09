import TraceAgent.Application.Command

/-! What the commands of a thread are made of.

A command creates contexts and spans, stops spans, continues calls and captured
traces, binds its thread, and takes notes. A relation between a process and a
later one that links each of these steps, and passes along, links every command.
-/

set_option autoImplicit false

namespace TraceAgent.Application

open Propagation
open Segment (Role)

/-- A relation that every step of a thread is in, and that passes along. -/
structure LinksSteps (thread : Nat) (related : Application → Application → Prop) : Prop where
  refl : ∀ app, related app app
  trans : ∀ {app later last}, related app later → related later last → related app last
  note : ∀ app diagnostics, related app (app.note diagnostics)
  bind : ∀ app target, related app (app.bind thread target)
  createContext : ∀ app agent scope, related app (app.createContext thread agent scope)
  createSpan : ∀ app id role name peer, related app (app.createSpan thread id role name peer).1
  stopSpan : ∀ app id span, related app (app.stopSpan thread id span).1
  extract : ∀ app id carrier, related app (app.extract thread id carrier).1
  resume : ∀ app id snapshot, related app (app.resume thread id snapshot)

namespace LinksSteps

variable {thread : Nat} {related : Application → Application → Prop}
  (links : LinksSteps thread related) (app : Application)
include links

theorem obtain (agent : Nat) : related app (app.obtain thread agent).app := by
  unfold Application.obtain
  split
  · exact links.refl app
  · exact links.trans (links.createContext app agent _) (links.bind _ _)

theorem releaseUnused (id : Nat) (created : Bool) :
    related app (app.releaseUnused thread id created) := by
  unfold Application.releaseUnused
  split
  · split
    · exact links.bind app none
    · exact links.refl app
  · exact links.refl app

theorem createOrRelease (obtained : Obtained) (role : Role) (name peer : String) :
    related obtained.app (createOrRelease obtained thread role name peer).1 := by
  have created := links.createSpan obtained.app obtained.id role name peer
  unfold Application.createOrRelease
  generalize obtained.app.createSpan thread obtained.id role name peer = result at created
  split
  · exact created
  · exact links.trans created (links.releaseUnused _ obtained.id obtained.created)

theorem enterEntry (agent : Nat) (name : String) (carrier : Option Carrier) :
    related app (app.enterEntry thread agent name carrier).1 := by
  have obtained := links.obtain app agent
  unfold Application.enterEntry
  cases carrier with
  | none => exact links.trans obtained (links.createOrRelease _ _ _ _)
  | some carrier =>
    have extracted := links.extract (app.obtain thread agent).app (app.obtain thread agent).id carrier
    have created := links.createOrRelease
      { app.obtain thread agent with
        app := ((app.obtain thread agent).app.extract thread (app.obtain thread agent).id carrier).1 }
      .entry (cutName name) ""
    exact links.trans obtained (links.trans extracted created)

theorem finishSpan (id : Nat) (span : SpanRef) :
    related app (app.finishSpan thread id span).1 := by
  have stopped := links.stopSpan app id span
  unfold Application.finishSpan
  generalize app.stopSpan thread id span = result at stopped
  split
  · exact links.trans stopped (links.bind _ none)
  · exact stopped
  · exact stopped

theorem enterExit (agent : Nat) (name peer : String) (carrier : Option Carrier) :
    related app (app.enterExit thread agent name peer carrier).1 := by
  have created := links.trans (links.obtain app agent)
    (links.createOrRelease (app.obtain thread agent) .exit (cutName name) peer)
  unfold Application.enterExit
  dsimp only
  generalize Application.createOrRelease (app.obtain thread agent) thread .exit (cutName name) peer
    = result at created
  split
  · exact created
  · split
    · exact created
    · split
      · exact created
      · exact links.trans created (links.finishSpan _ _ _)

theorem enter (agent : Nat) (role : Role) (name peer : String) (carrier : Option Carrier) :
    related app (app.enter thread agent role name peer carrier).1 := by
  cases role with
  | entry => exact links.enterEntry app agent name carrier
  | exit => exact links.enterExit app agent name peer carrier
  | inner => exact links.trans (links.obtain app agent) (links.createOrRelease _ _ _ _)

theorem stopBound (span : SpanRef) : related app (app.stopBound thread span).1 := by
  unfold Application.stopBound
  split
  · exact links.refl app
  · exact links.finishSpan app _ span

theorem stopActive : related app (app.stopActive thread).1 := by
  unfold Application.stopActive
  split
  · exact links.refl app
  · split
    · exact links.refl app
    · exact links.finishSpan app _ _

theorem stopIn (id : Nat) (span : Option SpanRef) : related app (app.stopIn thread id span).1 := by
  unfold Application.stopIn
  split
  · exact links.stopSpan app id _
  · split
    · exact links.stopSpan app id _
    · exact links.refl app

theorem resumeBound (agent : Nat) (snapshot : Snapshot) :
    related app (app.resumeBound thread agent snapshot) := by
  unfold Application.resumeBound
  split
  · exact links.note app _
  · exact links.trans (links.obtain app agent) (links.resume _ _ snapshot)

theorem extractBound (carrier : Carrier) : related app (app.extractBound thread carrier).1 := by
  unfold Application.extractBound
  split
  · exact links.refl app
  · exact links.extract app _ carrier

theorem performIn (id : Nat) (command : Command) :
    related app (app.performIn thread id command).app := by
  cases command with
  | create role name peer carrier => exact links.createSpan app id role name peer
  | stop span => exact links.stopIn app id span
  | inject carrier =>
    unfold Application.performIn
    dsimp only
    split <;> exact links.refl app
  | extract carrier => exact links.extract app id carrier
  | resume snapshot => exact links.resume app id snapshot
  | _ => exact links.refl app

theorem performBound (agent : Nat) (command : Command) :
    related app (app.performBound thread agent command).app := by
  cases command with
  | create role name peer carrier => exact links.enter app agent role name peer carrier
  | stop span =>
    cases span with
    | some span => exact links.stopBound app span
    | none => exact links.stopActive app
  | inject carrier =>
    unfold Application.performBound
    dsimp only
    split <;> exact links.refl app
  | extract carrier => exact links.extractBound app carrier
  | resume snapshot => exact links.resumeBound app agent snapshot
  | _ => exact links.refl app

/-- The relation links what a thread had before a command and what it has after it. -/
theorem perform (target : Target) (command : Command) :
    related app (app.perform thread target command).app := by
  cases target with
  | context id => exact links.performIn app id command
  | thread agent => exact links.performBound app agent command

end LinksSteps

end TraceAgent.Application

import HttpDigest.Gateway

namespace HttpDigest

-- Why a request is neither answered nor handled: the framework is missing, the request could not
-- be processed, or the framework did not take what it was given
inductive Trouble (ε : Type) where
  | required (message : String)
  | processing (f : Failure)
  | framework (e : ε)
deriving Repr

inductive Turn (ρ : Type) where
  | answered (response : ρ)
  | handled
deriving Repr

structure Served (σ ν κ α ε : Type) where
  result : Except (Trouble ε) α
  kept : Option κ
  request : Request
  state : Gateway.State σ ν
  log : List Log.Line

-- The part of Flask that is used: a response of a body and a status, and a change of its headers
structure Flask (ρ ε : Type) where
  makeResponse : Value → Nat → Except ε ρ
  update : ρ → OrderedMap String String → Except ε ρ

namespace Flask

variable {σ ν ρ ε : Type}

structure Context where
  outcome : Outcome
  identity : Option Credential

def respond (flask : Flask ρ ε) (reply : Challenger.Reply) : Except ε ρ := do
  let response ← flask.makeResponse reply.body reply.status
  flask.update response reply.headers

-- A function to be called before each request. If it returns nothing the handler runs.
def beforeRequest (flask? : Option (Flask ρ ε)) (g : Gateway σ ν) (s : Gateway.State σ ν)
    (r : Request) (now : Int) : Served σ ν Context (Option ρ) ε :=
  match flask? with
  | none => {
      result := .error (.required "Flask is required for Flask middleware")
      kept := none
      request := r
      state := s
      log := [] }
  | some flask =>
    let p := g.process s r now
    let served : Served σ ν Context (Option ρ) ε :=
      { result := .ok none, kept := none, request := p.request, state := p.state, log := p.log }
    match p.ruling with
    | .error f => { served with result := .error (.processing f) }
    | .ok ruling => { served with
        kept := some {
          outcome := ruling.outcome
          identity := if ruling.outcome.isAuthenticated then ruling.outcome.credential else none }
        result := match ruling.reply with
          | none => .ok none
          | some reply => ((flask.respond reply).mapError .framework).map some }

def turn : Option ρ → Turn ρ
  | some response => .answered response
  | none => .handled

end Flask

structure Starlette (ρ ε : Type) where
  plainTextResponse : Value → Nat → OrderedMap String String → Except ε ρ

namespace Starlette

variable {σ ν ρ ε : Type}

-- A function that stands before the next one. The request is processed in another thread, which is
-- waited for. The outcome is kept in the state of the request.
def dispatch (starlette? : Option (Starlette ρ ε)) (g : Gateway σ ν) (s : Gateway.State σ ν)
    (r : Request) (now : Int) : Served σ ν Outcome (Turn ρ) ε :=
  match starlette? with
  | none => {
      result := .error (.required "FastAPI is required for FastAPI middleware")
      kept := none
      request := r
      state := s
      log := [] }
  | some starlette =>
    let p := g.process s r now
    let served : Served σ ν Outcome (Turn ρ) ε :=
      { result := .ok .handled, kept := none, request := p.request, state := p.state, log := p.log }
    match p.ruling with
    | .error f => { served with result := .error (.processing f) }
    | .ok ruling =>
      if !p.request.hasState then
        { served with result := .error (.processing (.fault .missingAttribute)) }
      else match ruling.reply with
        | none => { served with kept := some ruling.outcome }
        | some reply => { served with
            kept := some ruling.outcome
            result := match starlette.plainTextResponse reply.body reply.status reply.headers with
              | .ok response => .ok (.answered response)
              | .error e => .error (.framework e) }

end Starlette

structure Django (ρ ε : Type) where
  httpResponse : Value → Nat → Except ε ρ
  setItem : ρ → String → String → Except ε ρ

namespace Django

variable {σ ν ρ ε : Type}

def setAll (django : Django ρ ε) : ρ → OrderedMap String String → Except ε ρ
  | response, [] => .ok response
  | response, (name, value) :: rest => do
    let response ← django.setItem response name value
    setAll django response rest

def respond (django : Django ρ ε) (reply : Challenger.Reply) : Except ε ρ := do
  let response ← django.httpResponse reply.body reply.status
  django.setAll response reply.headers

-- A class of objects that are called with each request. The outcome is kept on the request. The
-- framework is only asked for where a request is refused.
def call (django? : Option (Django ρ ε)) (g : Gateway σ ν) (s : Gateway.State σ ν) (r : Request)
    (now : Int) : Served σ ν Outcome (Turn ρ) ε :=
  let p := g.process s r now
  let served : Served σ ν Outcome (Turn ρ) ε :=
    { result := .ok .handled, kept := none, request := p.request, state := p.state, log := p.log }
  match p.ruling with
  | .error f => { served with result := .error (.processing f) }
  | .ok ruling =>
    if p.request.frozenType.isSome then
      { served with result := .error (.processing (.fault .missingAttribute)) }
    else
      let served := { served with kept := some ruling.outcome }
      match ruling.reply, django? with
      | none, _ => served
      | some _, none =>
        { served with result := .error (.required "Django is required for Django middleware") }
      | some reply, some django => { served with
          result := ((django.respond reply).mapError .framework).map .answered }

end Django

end HttpDigest

import HttpDigest.Challenger
import HttpDigest.Request
import HttpDigest.Verifier

namespace HttpDigest

-- What stands before an application: a verifier with its store, and a challenger with its
-- supplier of nonces
structure Gateway (σ ν : Type) where
  config : Config
  store : Store σ
  challenger : Challenger
  supplier : Challenger.Supplier ν

namespace Gateway

structure State (σ ν : Type) where
  cache : Cache
  store : σ
  nonces : ν

structure Ruling where
  outcome : Outcome
  reply : Option Challenger.Reply
deriving BEq, Repr

def Ruling.rejects (r : Ruling) : Bool :=
  r.reply.isSome

structure Processed (σ ν : Type) where
  ruling : Except Failure Ruling
  request : Request
  state : State σ ν
  log : List Log.Line

structure Extract where
  authorization : Value
  method : String
  uri : Except Fault Value

def extract (r : Request) : Extract :=
  ⟨r.authorization, r.methodName, r.uri⟩

def note (message : String) : Log.Line where
  level := .debug
  logger := "digest_auth.verification.middleware"
  message := message

def attachLog (r : Request) : List Log.Line :=
  if r.acceptsIdentity then []
  else [note ("Cannot attach identity to request of type " ++ r.frozenType.getD "")]

-- What follows from an outcome: an accepted request carries its credential on, a refused one
-- loses what it carried and is answered, any other passes as it came
def rule {σ ν : Type} (g : Gateway σ ν) (s : State σ ν) (r : Request) (o : Outcome) :
    Processed σ ν :=
  match o.status with
  | .authenticated => {
      ruling := .ok ⟨o, none⟩
      request := r.attach o.credential
      state := s
      log := attachLog r }
  | .rejected | .error =>
    let (reply, nonces, lines) := g.challenger.commence g.supplier s.nonces o
    { ruling := reply.map fun reply => ⟨o, some reply⟩
      request := r.attach none
      state := { s with nonces }
      log := attachLog r ++ lines }
  | .unauthenticated => {
      ruling := .ok ⟨o, none⟩
      request := r
      state := s
      log := [] }

def process {σ ν : Type} (g : Gateway σ ν) (s : State σ ν) (r : Request) (now : Int) :
    Processed σ ν :=
  match r.uri with
  | .error f => { ruling := .error (.fault f), request := r, state := s, log := [] }
  | .ok uri =>
    let v := Verifier.verifyValue g.config g.store s.cache s.store r.authorization r.methodName
      uri (.int now)
    let after : State σ ν := { s with cache := v.cache, store := v.store }
    match v.outcome with
    | .error f => { ruling := .error f, request := r, state := after, log := v.log }
    | .ok outcome =>
      let p := rule g after r outcome
      { p with log := v.log ++ p.log }

end Gateway

end HttpDigest

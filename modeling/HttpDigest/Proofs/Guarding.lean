import HttpDigest.Adapters
import HttpDigest.Bytes.Base64
import HttpDigest.Proofs.Passage
import HttpDigest.Proofs.Results
import HttpDigest.Text.Utf8

namespace HttpDigest

-- A value that every framework sends as it is: on one line, within the first 256 characters
def Sendable (value : String) : Prop :=
  ∀ c ∈ value.toList, c.toNat < 256 ∧ c ≠ '\n' ∧ c ≠ '\r'

-- Headers with plain names, of which no two differ in case alone
structure Nameable (headers : OrderedMap String String) : Prop where
  plain : ∀ name ∈ OrderedMap.keys headers, ∀ c ∈ name.toList, c.isAlphanum ∨ c = '-'
  distinct : ((OrderedMap.keys headers).map Text.lower).Nodup

structure Challenger.Reply.Plain (reply : Reply) : Prop where
  status : 100 ≤ reply.status ∧ reply.status < 600
  body : ∃ text : String, reply.body = text
  headers : Nameable reply.headers

structure View (ρ : Type) where
  status : ρ → Nat
  body : ρ → String
  values : ρ → String → List String

namespace View

variable {ρ ε : Type} (view : View ρ)

-- The headers that a framework adds to describe the body
def own : List String := ["content-type", "content-length"]

structure Fresh (body : String) (status : Nat) (response : ρ) : Prop where
  status : view.status response = status
  body : view.body response = body
  absent : ∀ name, Text.lower name ∉ own → view.values response name = []

structure Updated (headers : OrderedMap String String) (before after : ρ) : Prop where
  status : view.status after = view.status before
  body : view.body after = view.body before
  present : ∀ name ∈ OrderedMap.keys headers, ∃ value, view.values after name = [value]
  kept : ∀ name, (∀ other ∈ OrderedMap.keys headers, Text.lower other ≠ Text.lower name) →
    view.values after name = view.values before name

-- A response with the status, the body and the names of the headers of a reply
structure Bears (reply : Challenger.Reply) (response : ρ) : Prop where
  status : view.status response = reply.status
  body : reply.body = view.body response
  present : ∀ name ∈ OrderedMap.keys reply.headers, ∃ value, view.values response name = [value]
  absent : ∀ name, Text.lower name ∉ own →
    (∀ other ∈ OrderedMap.keys reply.headers, Text.lower other ≠ Text.lower name) →
    view.values response name = []

def Exact (headers : OrderedMap String String) (response : ρ) : Prop :=
  ∀ entry ∈ headers, view.values response entry.1 = [entry.2]

-- A way to respond to a request by a reply, whose headers may be too much for it
structure Responds (reply : Challenger.Reply) (built : Except ε ρ) : Prop where
  bears : ∀ response, built = .ok response → view.Bears reply response
  exact : (∀ entry ∈ reply.headers, Sendable entry.2) →
    ∃ response, built = .ok response ∧ view.Exact reply.headers response

variable {view}

theorem Fresh.bears {body : String} {status : Nat} {headers : OrderedMap String String}
    {before after : ρ} (hf : view.Fresh body status before)
    (hu : view.Updated headers before after) : view.Bears ⟨status, headers, body⟩ after where
  status := hu.status.trans hf.status
  body := by rw [hu.body, hf.body]
  present := hu.present
  absent name hown hother := (hu.kept name hother).trans (hf.absent name hown)

end View

-- What is documented of a framework, as far as it is relied on
structure Flask.Lawful {ρ ε : Type} (flask : Flask ρ ε) (view : View ρ) : Prop where
  make : ∀ (body : String) (status : Nat), 100 ≤ status → status < 600 →
    ∃ response, flask.makeResponse body status = .ok response ∧ view.Fresh body status response
  updated : ∀ response headers after, Nameable headers →
    flask.update response headers = .ok after → view.Updated headers response after
  update : ∀ response headers, Nameable headers → (∀ entry ∈ headers, Sendable entry.2) →
    ∃ after, flask.update response headers = .ok after ∧ view.Exact headers after

structure Starlette.Lawful {ρ ε : Type} (starlette : Starlette ρ ε) (view : View ρ) : Prop where
  made : ∀ (body : String) (status : Nat) headers response, Nameable headers →
    starlette.plainTextResponse body status headers = .ok response →
    view.Bears ⟨status, headers, body⟩ response
  make : ∀ (body : String) (status : Nat) headers, 100 ≤ status → status < 600 →
    Nameable headers → (∀ entry ∈ headers, Sendable entry.2) →
    ∃ response, starlette.plainTextResponse body status headers = .ok response ∧
      view.Exact headers response

structure Django.Lawful {ρ ε : Type} (django : Django ρ ε) (view : View ρ) : Prop where
  make : ∀ (body : String) (status : Nat), 100 ≤ status → status < 600 →
    ∃ response, django.httpResponse body status = .ok response ∧ view.Fresh body status response
  updated : ∀ response name value after, Nameable [(name, value)] →
    django.setItem response name value = .ok after → view.Updated [(name, value)] response after
  set : ∀ response name value, Nameable [(name, value)] → Sendable value →
    ∃ after, django.setItem response name value = .ok after ∧ view.values after name = [value]

section Frameworks

variable {ρ ε : Type} {view : View ρ} {reply : Challenger.Reply}

-- A response is made of a body and a status, and then its headers are set
theorem View.responds_of_fresh {status : Nat} {headers : OrderedMap String String} {text : String}
    {made : Except ε ρ} {set : ρ → Except ε ρ}
    (hmade : ∃ fresh, made = .ok fresh ∧ view.Fresh text status fresh)
    (hupdated : ∀ before after, set before = .ok after → view.Updated headers before after)
    (hexact : (∀ entry ∈ headers, Sendable entry.2) →
      ∀ before, ∃ after, set before = .ok after ∧ view.Exact headers after) :
    view.Responds ⟨status, headers, text⟩ (made >>= set) := by
  obtain ⟨fresh, rfl, hfresh⟩ := hmade
  exact {
    bears := fun after hset => hfresh.bears (hupdated fresh after hset)
    exact := fun hs => hexact hs fresh }

theorem Flask.Lawful.responds {flask : Flask ρ ε} (h : flask.Lawful view) (hr : reply.Plain) :
    view.Responds reply (flask.respond reply) := by
  obtain ⟨status, headers, body⟩ := reply
  obtain ⟨text, rfl⟩ := hr.body
  exact View.responds_of_fresh (h.make text status hr.status.1 hr.status.2)
    (fun before after => h.updated before headers after hr.headers)
    fun hs before => h.update before headers hr.headers hs

theorem Starlette.Lawful.responds {starlette : Starlette ρ ε} (h : starlette.Lawful view)
    (hr : reply.Plain) :
    view.Responds reply (starlette.plainTextResponse reply.body reply.status reply.headers) := by
  obtain ⟨status, headers, body⟩ := reply
  obtain ⟨text, rfl⟩ := hr.body
  exact {
    bears := fun response => h.made text status headers response hr.headers
    exact := h.make text status headers hr.status.1 hr.status.2 hr.headers }

namespace Nameable

variable {name value : String} {rest : OrderedMap String String}

theorem head (h : Nameable ((name, value) :: rest)) : Nameable [(name, value)] where
  plain other hm := h.plain other (by simp_all)
  distinct := by simp

theorem tail (h : Nameable ((name, value) :: rest)) : Nameable rest where
  plain other hm := h.plain other (List.mem_cons_of_mem _ hm)
  distinct := (List.nodup_cons.mp h.distinct).2

theorem lower_ne (h : Nameable ((name, value) :: rest)) :
    ∀ other ∈ OrderedMap.keys rest, Text.lower other ≠ Text.lower name := fun other hm he =>
  (List.nodup_cons.mp h.distinct).1 (List.mem_map.mpr ⟨other, hm, he⟩)

theorem nil : Nameable [] where
  plain := List.forall_mem_nil _
  distinct := List.nodup_nil

theorem challenge (value : String) : Nameable [(Challenger.challengeHeader, value)] where
  plain := by
    refine List.forall_mem_singleton.mpr ?_
    simp [Challenger.challengeHeader]
  distinct := List.pairwise_singleton _ _

end Nameable

namespace Django

variable {django : Django ρ ε} {headers : OrderedMap String String} {before after : ρ}

-- The first header is not touched by those behind it, which have other names
theorem Lawful.updated_setAll (h : django.Lawful view) (hn : Nameable headers)
    (hs : django.setAll before headers = .ok after) : view.Updated headers before after := by
  induction headers generalizing before with
  | nil =>
      obtain rfl := Except.ok.inj hs
      exact ⟨rfl, rfl, fun _ hm => (nomatch hm), fun _ _ => rfl⟩
  | cons entry rest ih =>
      obtain ⟨name, value⟩ := entry
      obtain ⟨between, hset, hrest⟩ := exists_of_bind_eq_ok hs
      have hfirst := h.updated before name value between hn.head hset
      have hothers := ih hn.tail hrest
      refine ⟨hothers.status.trans hfirst.status, hothers.body.trans hfirst.body, ?_, ?_⟩
      · intro other hm
        rcases List.mem_cons.mp hm with rfl | hm
        · rw [hothers.kept _ hn.lower_ne]
          exact hfirst.present _ (List.mem_singleton.mpr rfl)
        · exact hothers.present other hm
      · intro other hother
        obtain ⟨hname, hrest⟩ := List.forall_mem_cons.mp hother
        rw [hothers.kept other hrest]
        exact hfirst.kept other (List.forall_mem_singleton.mpr hname)

theorem Lawful.exists_setAll (h : django.Lawful view) (hn : Nameable headers)
    (hv : ∀ entry ∈ headers, Sendable entry.2) (before : ρ) :
    ∃ after, django.setAll before headers = .ok after ∧ view.Exact headers after := by
  induction headers generalizing before with
  | nil => exact ⟨before, rfl, fun _ hm => nomatch hm⟩
  | cons entry rest ih =>
      obtain ⟨name, value⟩ := entry
      obtain ⟨hvalue, hrest⟩ := List.forall_mem_cons.mp hv
      obtain ⟨between, hset, hexact⟩ := h.set before name value hn.head hvalue
      obtain ⟨after, hall, hothers⟩ := ih hn.tail hrest between
      have hsteps : django.setAll before ((name, value) :: rest) = .ok after := by
        simp only [setAll, hset]
        exact hall
      refine ⟨after, hsteps, List.forall_mem_cons.mpr ⟨?_, hothers⟩⟩
      rw [(h.updated_setAll hn.tail hall).kept name hn.lower_ne]
      exact hexact

theorem Lawful.responds (h : django.Lawful view) (hr : reply.Plain) :
    view.Responds reply (django.respond reply) := by
  obtain ⟨status, headers, body⟩ := reply
  obtain ⟨text, rfl⟩ := hr.body
  exact View.responds_of_fresh (h.make text status hr.status.1 hr.status.2)
    (fun _ _ => h.updated_setAll hr.headers) fun hs => h.exists_setAll hr.headers hs

end Django

-- The reply to a refusal is plain
theorem Challenger.plain_of_commence {ν : Type} {c : Challenger} {supplier : Supplier ν}
    {nonces : ν} {o : Outcome} (hw : o.WellFormed) (hr : o.Refused)
    (h : (c.commence supplier nonces o).1 = .ok reply) : reply.Plain := by
  rcases hr with hs | hs
  · obtain ⟨reason, hreason, -⟩ := hw.rejected.mp hs
    obtain rfl := Except.ok.inj ((commence_of_rejected hs hreason).symm.trans h)
    obtain ⟨message, hmessage⟩ : ∃ text : String, o.message = text := by
      have hmessage := hw.message
      rwa [if_pos (.inl hs)] at hmessage
    refine ⟨⟨Nat.le_of_ble_eq_true rfl, Nat.le_of_ble_eq_true rfl⟩, ?_, .challenge _⟩
    simp only [challenge, hmessage, Value.orElse]
    split
    · exact ⟨_, rfl⟩
    · exact ⟨_, rfl⟩
  · obtain rfl := Except.ok.inj ((commence_of_error hs).symm.trans h)
    exact ⟨by decide, ⟨_, rfl⟩, .nil⟩

-- What a framework hands over can be read: a text for the authorization if there is one, and an
-- address
structure Request.Readable (r : Request) : Prop where
  authorization : ∃ authorization, r.authorization = .ofText? authorization
  uri : ∃ uri, r.uri = .ok uri

-- What an adapter does about an outcome. It has the handler run just if the outcome is no refusal,
-- and answers any other request by the reply of the challenger, as far as the framework can.
structure Gates (view : View ρ) (commenced : Except Failure Challenger.Reply) (o : Outcome)
    (result : Except (Trouble ε) (Turn ρ)) : Prop where
  handled : result = .ok .handled ↔ o.status = .authenticated ∨ o.status = .unauthenticated
  refused : o.Refused → ∃ reply, commenced = .ok reply ∧
    (o.status = .rejected ∧ reply.status = 401 ∧
        (∃ value, reply.headers = [("WWW-Authenticate", value)]) ∨
      o.status = .error ∧ reply.status = 500 ∧ reply.headers = []) ∧
    ((∃ response, result = .ok (.answered response) ∧ view.Bears reply response) ∨
      ∃ e, result = .error (.framework e)) ∧
    ((∀ entry ∈ reply.headers, Sendable entry.2) →
      ∃ response, result = .ok (.answered response) ∧ view.Exact reply.headers response)

section Adapters

variable {σ ν : Type} {g : Gateway σ ν} {s : Gateway.State σ ν} {r : Request} {now : Int}
  {o : Outcome}

theorem gates_of_passed (commenced : Except Failure Challenger.Reply) (hnot : ¬o.Refused) :
    Gates view commenced o (.ok .handled : Except (Trouble ε) (Turn ρ)) where
  handled := iff_of_true rfl (Outcome.not_refused_iff.mp hnot)
  refused hr := absurd hr hnot

theorem gates_of_reply {c : Challenger} {supplier : Challenger.Supplier ν} {nonces : ν}
    {built : Except ε ρ} (hr : o.Refused) (hc : (c.commence supplier nonces o).1 = .ok reply)
    (hb : view.Responds reply built) :
    Gates view (c.commence supplier nonces o).1 o
      ((built.mapError .framework).map Turn.answered) where
  handled := by
    refine iff_of_false ?_ fun h => Outcome.not_refused_iff.mpr h hr
    cases built <;> exact nofun
  refused _ := by
    refine ⟨reply, hc, Challenger.parts_of_commence hr hc, ?_, fun hs => ?_⟩
    · cases built with
      | ok response => exact .inl ⟨response, rfl, hb.bears response rfl⟩
      | error e => exact .inr ⟨e, rfl⟩
    · obtain ⟨response, rfl, hexact⟩ := hb.exact hs
      exact ⟨response, rfl, hexact⟩

theorem Gateway.kind_process (g : Gateway σ ν) (s : Gateway.State σ ν) (r : Request) (now : Int) :
    (g.process s r now).request.hasState = r.hasState ∧
      (g.process s r now).request.frozenType = r.frozenType := by
  have hattach : ∀ identity, (r.attach identity).hasState = r.hasState ∧
      (r.attach identity).frozenType = r.frozenType := by
    intro identity
    rw [Request.attach]
    split <;> exact ⟨rfl, rfl⟩
  have hcourse := g.process_course s r now
  generalize (g.process s r now).ruling = ruling, (g.process s r now).request = request,
    (g.process s r now).state.nonces = nonces, g.outcome s r now = result at hcourse ⊢
  cases hcourse with
  | failed f => exact ⟨rfl, rfl⟩
  | accepted o c hs hc => exact hattach _
  | challenged o reason hs hr => exact hattach _
  | errored o hs => exact hattach _
  | passed o hs => exact ⟨rfl, rfl⟩

theorem Flask.gates {flask : Flask ρ ε} (hl : flask.Lawful view)
    (ho : g.outcome s r now = .ok o) :
    (beforeRequest (some flask) g s r now).kept = some ⟨o, o.credential⟩ ∧
      Gates view (g.challenger.commence g.supplier s.nonces o).1 o
        ((beforeRequest (some flask) g s r now).result.map turn) := by
  have hw := Gateway.wellFormed_of_outcome ho
  have hidentity : (if o.isAuthenticated then o.credential else none) = o.credential := by
    split
    · rfl
    · rename_i hno
      have hnone := fun h => hno (decide_eq_true (hw.credential.mp h))
      exact (Option.not_isSome_iff_eq_none.mp hnone).symm
  rcases Gateway.ruling_of_outcome ho with ⟨hnot, hruling⟩ | ⟨hr, reply, hruling, hreply⟩
  · simp only [beforeRequest, hruling, hidentity]
    exact ⟨trivial, gates_of_passed _ hnot⟩
  · have hb := hl.responds (Challenger.plain_of_commence hw hr hreply)
    have hturn : (beforeRequest (some flask) g s r now).result.map turn
        = ((flask.respond reply).mapError .framework).map .answered := by
      simp only [beforeRequest, hruling]
      cases flask.respond reply <;> rfl
    rw [hturn]
    simp only [beforeRequest, hruling, hidentity]
    exact ⟨trivial, gates_of_reply hr hreply hb⟩

theorem Starlette.gates {starlette : Starlette ρ ε} (hl : starlette.Lawful view)
    (ho : g.outcome s r now = .ok o) (hstate : r.hasState = true) :
    (dispatch (some starlette) g s r now).kept = some o ∧
      Gates view (g.challenger.commence g.supplier s.nonces o).1 o
        (dispatch (some starlette) g s r now).result := by
  have hkind := (g.kind_process s r now).1.trans hstate
  rcases Gateway.ruling_of_outcome ho with ⟨hnot, hruling⟩ | ⟨hr, reply, hruling, hreply⟩
  · simp only [dispatch, hruling, hkind]
    exact ⟨rfl, gates_of_passed _ hnot⟩
  · have hb := hl.responds
      (Challenger.plain_of_commence (Gateway.wellFormed_of_outcome ho) hr hreply)
    have hresult : (dispatch (some starlette) g s r now).result
        = ((starlette.plainTextResponse reply.body reply.status reply.headers).mapError
            .framework).map .answered := by
      simp only [dispatch, hruling, hkind]
      cases starlette.plainTextResponse reply.body reply.status reply.headers <;> rfl
    rw [hresult]
    refine ⟨?_, gates_of_reply hr hreply hb⟩
    simp only [dispatch, hruling, hkind]
    rfl

theorem Django.result_of_reply (django : Django ρ ε) (hopen : r.frozenType = none)
    (hruling : (g.process s r now).ruling = .ok ⟨o, some reply⟩) :
    (call (some django) g s r now).result
      = ((django.respond reply).mapError .framework).map .answered := by
  have hkind := (g.kind_process s r now).2.trans hopen
  simp only [call, hruling, hkind]
  rfl

theorem Django.gates {django : Django ρ ε} (hl : django.Lawful view)
    (ho : g.outcome s r now = .ok o) (hopen : r.frozenType = none) :
    (call (some django) g s r now).kept = some o ∧
      Gates view (g.challenger.commence g.supplier s.nonces o).1 o
        (call (some django) g s r now).result := by
  have hkind := (g.kind_process s r now).2.trans hopen
  rcases Gateway.ruling_of_outcome ho with ⟨hnot, hruling⟩ | ⟨hr, reply, hruling, hreply⟩
  · simp only [call, hruling, hkind]
    exact ⟨rfl, gates_of_passed _ hnot⟩
  · have hb := hl.responds
      (Challenger.plain_of_commence (Gateway.wellFormed_of_outcome ho) hr hreply)
    rw [result_of_reply django hopen hruling]
    refine ⟨?_, gates_of_reply hr hreply hb⟩
    simp only [call, hruling, hkind]
    rfl

-- A readable request has an outcome, unless the store breaks its contract
theorem Request.Readable.exists_outcome (hr : r.Readable)
    (hstore : ∀ username e, g.store.reply s.store username ≠ .broken e) :
    ∃ authorization o, r.authorization = .ofText? authorization ∧
      (∀ uri, (Verifier.verify g.config g.store s.cache s.store
        ⟨authorization, r.methodName, uri, now⟩).outcome = .ok o) ∧
      g.outcome s r now = .ok o := by
  obtain ⟨authorization, ha⟩ := hr.authorization
  obtain ⟨uri, hu⟩ := hr.uri
  have hheader : Directives.headerText r.authorization = .ok authorization := by
    rw [ha, Directives.headerText_ofText?]
  rcases Verifier.wellFormed_or_broken g.config g.store s.cache s.store
      ⟨authorization, r.methodName, uri, now⟩ with ⟨o, ho, -⟩ | ⟨username, e, -, he⟩
  · refine ⟨authorization, o, ha, fun uri' => ?_, ?_⟩
    · rw [← ho]
      exact Verifier.outcome_uri_eq ..
    · exact Gateway.outcome_eq_ok_iff.mpr ⟨uri, authorization, hu, hheader, ho⟩
  · exact absurd he (hstore username e)

end Adapters

end Frameworks

-- In each framework the handler runs just if the outcome of the request is no refusal, and a
-- refusal is answered by the reply of the challenger
theorem Gateway.refused_never_handled {σ ν : Type} (g : Gateway σ ν) (s : State σ ν) (r : Request)
    (now : Int) (hr : r.Readable)
    (hstore : ∀ username e, g.store.reply s.store username ≠ .broken e) :
    ∃ authorization o,
      r.authorization = .ofText? authorization ∧
      (∀ uri, (Verifier.verify g.config g.store s.cache s.store ⟨authorization,
        Text.upper (r.method.getD (.text "GET")).plain, uri, now⟩).outcome = .ok o) ∧
      (o.credential.isSome ↔ o.status = .authenticated) ∧
      (∀ {ρ ε : Type} (flask : Flask ρ ε) (view : View ρ), flask.Lawful view →
        (Flask.beforeRequest (some flask) g s r now).kept = some ⟨o, o.credential⟩ ∧
        Gates view (g.challenger.commence g.supplier s.nonces o).1 o
          ((Flask.beforeRequest (some flask) g s r now).result.map Flask.turn)) ∧
      (r.hasState = true →
        ∀ {ρ ε : Type} (starlette : Starlette ρ ε) (view : View ρ), starlette.Lawful view →
        (Starlette.dispatch (some starlette) g s r now).kept = some o ∧
        Gates view (g.challenger.commence g.supplier s.nonces o).1 o
          (Starlette.dispatch (some starlette) g s r now).result) ∧
      (r.frozenType = none →
        ∀ {ρ ε : Type} (django : Django ρ ε) (view : View ρ), django.Lawful view →
        (Django.call (some django) g s r now).kept = some o ∧
        Gates view (g.challenger.commence g.supplier s.nonces o).1 o
          (Django.call (some django) g s r now).result) := by
  obtain ⟨authorization, o, ha, hv, ho⟩ := hr.exists_outcome hstore
  exact ⟨authorization, o, ha, hv, (wellFormed_of_outcome ho).credential,
    fun flask view hl => Flask.gates hl ho,
    fun hstate _ _ starlette view hl => Starlette.gates hl ho hstate,
    fun hopen _ _ django view hl => Django.gates hl ho hopen⟩

structure Sent where
  status : Nat
  body : String
  headers : OrderedMap String String

namespace Sent

def lookup (headers : OrderedMap String String) (name : String) : List String :=
  (headers.filter fun entry => Text.lower entry.1 = Text.lower name).map Prod.snd

def view : View Sent where
  status := status
  body := body
  values response := lookup response.headers

-- Headers take the place of those with their names
def put (headers : OrderedMap String String) (response : Sent) : Sent :=
  { response with headers := response.headers.filter (fun entry =>
      Text.lower entry.1 ∉ (OrderedMap.keys headers).map Text.lower) ++ headers }

def breaksLine (value : String) : Bool :=
  value.toList.any fun c => c = '\n' || c = '\r'

def isLatin (value : String) : Bool :=
  value.toList.all fun c => c.toNat < 256

def encoded (value : String) : String :=
  if isLatin value then value
  else "=?utf-8?b?" ++ .ofList (Base64.encode (Text.Utf8.encode value.toList)) ++ "?="

theorem isLatin_of_sendable {value : String} (h : Sendable value) : isLatin value = true :=
  List.all_eq_true.mpr fun c hc => decide_eq_true (h c hc).1

theorem encoded_of_sendable {value : String} (h : Sendable value) : encoded value = value :=
  if_pos (isLatin_of_sendable h)

theorem not_breaksLine_of_sendable {value : String} (h : Sendable value) :
    breaksLine value = false :=
  List.any_eq_false.mpr fun c hc => by simpa using (h c hc).2

variable {headers : OrderedMap String String} {response : Sent} {name : String}

theorem lookup_of_absent
    (h : ∀ other ∈ OrderedMap.keys headers, Text.lower other ≠ Text.lower name) :
    lookup headers name = [] := by
  have hnone : headers.filter (fun entry => Text.lower entry.1 = Text.lower name) = [] :=
    List.filter_eq_nil_iff.mpr fun entry hm => by
      simpa using h entry.1 (List.mem_map_of_mem hm)
  rw [lookup, hnone]
  rfl

theorem lookup_of_mem {entry : String × String} (hn : Nameable headers) (hm : entry ∈ headers) :
    lookup headers entry.1 = [entry.2] := by
  induction headers with
  | nil => cases hm
  | cons first rest ih =>
      rcases List.mem_cons.mp hm with rfl | hrest
      · have hothers : lookup rest entry.1 = [] := lookup_of_absent hn.lower_ne
        rw [lookup, List.filter_cons_of_pos (by simp), List.map_cons, ← lookup, hothers]
      · have hother := hn.lower_ne entry.1 (List.mem_map_of_mem hrest)
        rw [lookup, List.filter_cons_of_neg (by simpa using hother.symm), ← lookup,
          ih hn.tail hrest]

theorem lookup_put (name : String) :
    lookup (response.put headers).headers name
      = lookup (response.headers.filter fun entry =>
          Text.lower entry.1 ∉ (OrderedMap.keys headers).map Text.lower) name
        ++ lookup headers name := by
  simp only [lookup, put, List.filter_append, List.map_append]

theorem exact_put (hn : Nameable headers) : view.Exact headers (response.put headers) := by
  intro entry hm
  have hreplaced : lookup (response.headers.filter fun other =>
      Text.lower other.1 ∉ (OrderedMap.keys headers).map Text.lower) entry.1 = [] := by
    refine lookup_of_absent fun other hother he => ?_
    obtain ⟨kept, hkept, rfl⟩ := List.mem_map.mp hother
    have hnot := (List.mem_filter.mp hkept).2
    rw [he, decide_eq_true_iff] at hnot
    exact hnot (List.mem_map_of_mem (List.mem_map_of_mem hm))
  change lookup (response.put headers).headers entry.1 = _
  rw [lookup_put, hreplaced, lookup_of_mem hn hm, List.nil_append]

theorem updated_put (hn : Nameable headers) :
    view.Updated headers response (response.put headers) where
  status := rfl
  body := rfl
  present name hm := by
    obtain ⟨entry, hentry, rfl⟩ := List.mem_map.mp hm
    exact ⟨entry.2, exact_put hn entry hentry⟩
  kept name hother := by
    change lookup (response.put headers).headers name = lookup response.headers name
    rw [lookup_put, lookup_of_absent hother, List.append_nil, lookup, List.filter_filter, lookup]
    refine congrArg (List.map Prod.snd) (List.filter_congr fun entry _ => ?_)
    by_cases he : Text.lower entry.1 = Text.lower name
    · have hnot : Text.lower entry.1 ∉ (OrderedMap.keys headers).map Text.lower := by
        rw [he]
        intro hmem
        obtain ⟨other, hm, heq⟩ := List.mem_map.mp hmem
        exact hother other hm heq
      simp [he, he ▸ hnot]
    · simp [he]

theorem fresh_of_made (status : Nat) (body : String) : view.Fresh body status ⟨status, body, []⟩ :=
  ⟨rfl, rfl, fun _ _ => rfl⟩

end Sent

def sampleFlask : Flask Sent Unit where
  makeResponse body status := .ok ⟨status, body.plain, []⟩
  update response headers :=
    if headers.any fun entry => Sent.breaksLine entry.2 then .error ()
    else .ok (response.put headers)

def sampleStarlette : Starlette Sent Unit where
  plainTextResponse body status headers :=
    if headers.all fun entry => Sent.isLatin entry.2 then
      .ok (Sent.put headers ⟨status, body.plain, []⟩)
    else .error ()

def sampleDjango : Django Sent Unit where
  httpResponse body status := .ok ⟨status, body.plain, []⟩
  setItem response name value :=
    if Sent.breaksLine value then .error () else .ok (response.put [(name, Sent.encoded value)])

theorem sampleFlask_lawful : sampleFlask.Lawful Sent.view where
  make body status _ _ := ⟨_, rfl, Sent.fresh_of_made status body⟩
  updated response headers after hn h := by
    simp only [sampleFlask] at h
    split at h
    · cases h
    · obtain rfl := Except.ok.inj h
      exact Sent.updated_put hn
  update response headers hn hs := by
    have hline : (headers.any fun entry => Sent.breaksLine entry.2) = false :=
      List.any_eq_false.mpr fun entry hm => by
        simp [Sent.not_breaksLine_of_sendable (hs entry hm)]
    refine ⟨response.put headers, ?_, Sent.exact_put hn⟩
    simp only [sampleFlask, hline]
    rfl

theorem sampleStarlette_lawful : sampleStarlette.Lawful Sent.view where
  made body status headers response hn h := by
    simp only [sampleStarlette] at h
    split at h
    · obtain rfl := Except.ok.inj h
      exact (Sent.fresh_of_made status body).bears (Sent.updated_put hn)
    · cases h
  make body status headers _ _ hn hs := by
    have hlatin : (headers.all fun entry => Sent.isLatin entry.2) = true :=
      List.all_eq_true.mpr fun entry hm => Sent.isLatin_of_sendable (hs entry hm)
    refine ⟨Sent.put headers ⟨status, body, []⟩, ?_, Sent.exact_put hn⟩
    simp only [sampleStarlette, hlatin]
    rfl

theorem sampleDjango_respond (status : Nat) (name value : String) (body : Value) :
    sampleDjango.respond ⟨status, [(name, value)], body⟩
      = if Sent.breaksLine value then .error ()
        else .ok (Sent.put [(name, Sent.encoded value)] ⟨status, body.plain, []⟩) := by
  cases h : Sent.breaksLine value <;>
    simp [Django.respond, Django.setAll, sampleDjango, h, bind, Except.bind]

theorem sampleDjango_lawful : sampleDjango.Lawful Sent.view where
  make body status _ _ := ⟨_, rfl, Sent.fresh_of_made status body⟩
  updated response name value after hn h := by
    simp only [sampleDjango] at h
    split at h
    · cases h
    · obtain rfl := Except.ok.inj h
      have hput := @Sent.updated_put [(name, Sent.encoded value)] response
        ⟨hn.plain, hn.distinct⟩
      exact ⟨hput.status, hput.body, hput.present, hput.kept⟩
  set response name value hn hs := by
    refine ⟨response.put [(name, value)], ?_,
      Sent.exact_put hn (name, value) (List.mem_singleton.mpr rfl)⟩
    simp only [sampleDjango, Sent.not_breaksLine_of_sendable hs, Sent.encoded_of_sendable hs]
    rfl

open Gateway (gatewayOf fresh emptyRequest)

def plainRequest : Request :=
  { emptyRequest with hasState := true }

theorem plainRequest_readable : plainRequest.Readable :=
  ⟨⟨_, Gateway.authorization_emptyRequest⟩, _, rfl⟩

def Challenged (result : Except (Trouble Unit) (Turn Sent)) : Prop :=
  ∃ response, result = .ok (.answered response) ∧ response.status = 401 ∧
    Sent.view.values response "WWW-Authenticate"
      = ["Digest realm=\"lab\", qop=\"auth\", nonce=\"N\""]

theorem challenged_of_gates {o : Outcome} {result : Except (Trouble Unit) (Turn Sent)}
    (hs : o.status = .rejected) (hstale : o.isStale = false)
    (hg : Gates Sent.view ((gatewayOf "lab").challenger.commence (gatewayOf "lab").supplier
      fresh.nonces o).1 o result) : Challenged result := by
  obtain ⟨reply, hreply, -, hbears, hexact⟩ := hg.refused (.inl hs)
  obtain ⟨hstatus, hheaders⟩ := Challenger.Challenges.parts_eq (.refused hs hreply)
  have hplain : reply.headers
      = [("WWW-Authenticate", "Digest realm=\"lab\", qop=\"auth\", nonce=\"N\"")] := by
    rw [hheaders, hstale]
    decide +kernel
  rw [hplain] at hexact
  obtain ⟨response, hresult, hvalues⟩ := hexact (by simp [Sendable])
  have hvalue := hvalues (_, _) (List.mem_singleton.mpr rfl)
  rcases hbears with ⟨response', hresult', hb⟩ | ⟨e, he⟩
  · obtain rfl := Turn.answered.inj (Except.ok.inj (hresult.symm.trans hresult'))
    exact ⟨response, hresult, hb.status.trans hstatus, hvalue⟩
  · cases hresult.symm.trans he

theorem Gateway.refused_never_handled_sample :
    plainRequest.Readable ∧
    (∀ username e, (gatewayOf "lab").store.reply fresh.store username ≠ .broken e) ∧
    sampleFlask.Lawful Sent.view ∧ sampleStarlette.Lawful Sent.view ∧
    sampleDjango.Lawful Sent.view ∧
    Challenged ((Flask.beforeRequest (some sampleFlask) (gatewayOf "lab") fresh plainRequest
      0).result.map Flask.turn) ∧
    Challenged (Starlette.dispatch (some sampleStarlette) (gatewayOf "lab") fresh plainRequest
      0).result ∧
    Challenged (Django.call (some sampleDjango) (gatewayOf "lab") fresh plainRequest 0).result := by
  refine ⟨plainRequest_readable, contract_sampleStore, sampleFlask_lawful, sampleStarlette_lawful,
    sampleDjango_lawful, ?_⟩
  obtain ⟨authorization, o, ha, hv, -, hflask, hstarlette, hdjango⟩ :=
    Gateway.refused_never_handled (gatewayOf "lab") fresh plainRequest 0 plainRequest_readable
      contract_sampleStore
  obtain rfl : authorization = some (Directives.scheme ++ "x") := by
    have hboth := ha.symm.trans authorization_emptyRequest
    cases authorization <;> cases hboth
    rfl
  obtain ⟨o', ho, hs, hstale⟩ := verify_emptyRequest
  obtain rfl : o' = o := Except.ok.inj ((ho .null).symm.trans (hv .null))
  obtain ⟨-, hflaskGates⟩ := hflask sampleFlask Sent.view sampleFlask_lawful
  obtain ⟨-, hstarletteGates⟩ := hstarlette rfl sampleStarlette Sent.view sampleStarlette_lawful
  obtain ⟨-, hdjangoGates⟩ := hdjango rfl sampleDjango Sent.view sampleDjango_lawful
  exact ⟨challenged_of_gates hs hstale hflaskGates, challenged_of_gates hs hstale hstarletteGates,
    challenged_of_gates hs hstale hdjangoGates⟩

-- Every reply of the challenger reaches the client as it is
def SendsReplies {ρ ε : Type} (django : Django ρ ε) (view : View ρ) : Prop :=
  ∀ (g : Gateway Unit Unit) (s : Gateway.State Unit Unit) (r : Request) (now : Int) (o : Outcome)
    (reply : Challenger.Reply), r.Readable → r.frozenType = none →
    (∀ username e, g.store.reply s.store username ≠ .broken e) → g.outcome s r now = .ok o →
    (g.challenger.commence g.supplier s.nonces o).1 = .ok reply →
    ∃ response, (Django.call (some django) g s r now).result = .ok (.answered response) ∧
      view.Bears reply response ∧ view.Exact reply.headers response

-- A realm beyond the first 256 characters is encoded on the way, which is no breach of a law
theorem not_all_sendReplies :
    ¬∀ {ρ ε : Type} (django : Django ρ ε) (view : View ρ), django.Lawful view →
      SendsReplies django view := by
  intro hall
  obtain ⟨o, hv, hs, hstale⟩ := Gateway.verify_emptyRequest
  have ho := Gateway.outcome_emptyRequest "Łódź" hv
  rcases Gateway.ruling_of_outcome ho with ⟨hnot, -⟩ | ⟨-, reply, hruling, hreply⟩
  · exact hnot (.inl hs)
  obtain ⟨response, hresult, -, hexact⟩ := hall sampleDjango Sent.view sampleDjango_lawful
    (gatewayOf "Łódź") fresh emptyRequest 0 o reply
    ⟨⟨_, Gateway.authorization_emptyRequest⟩, _, rfl⟩ rfl Gateway.contract_sampleStore ho hreply
  obtain ⟨-, hheaders⟩ := Challenger.Challenges.parts_eq (.refused hs hreply)
  obtain ⟨status, headers, body⟩ := reply
  obtain rfl := hheaders
  rw [Django.result_of_reply sampleDjango rfl hruling, sampleDjango_respond, hstale] at hresult
  rw [hstale] at hexact
  split at hresult
  · cases hresult
  · obtain rfl := Turn.answered.inj (Except.ok.inj hresult)
    have hkept := hexact (_, _) (List.mem_singleton.mpr rfl)
    have hput := fun value => @Sent.exact_put _ ⟨status, body.plain, []⟩
      (.challenge (Sent.encoded value)) (_, _) (List.mem_singleton.mpr rfl)
    have hsame := (hput _).symm.trans hkept
    revert hsame
    decide +kernel

end HttpDigest

import HttpDigest.Proofs.Digits
import HttpDigest.Proofs.Examination
import HttpDigest.Proofs.Parts

namespace HttpDigest

theorem Response.exists_hex_of_compute {i : Input} {response : String}
    (h : compute i = .ok response) : ∃ text, response = Md5.hex text := by
  rw [compute] at h
  cases hs : subject i with
  | error e =>
      rw [hs] at h
      cases h
  | ok text =>
      rw [hs] at h
      exact ⟨text, (Except.ok.inj h).symm⟩

namespace Client

structure Texts where
  username : String
  realm : String
  password : String
  method : String
  uri : String
  qop : Option String := none
  nc : Option String := none
  cnonce : Option String := none
  opaqueText : Option String := none
  hashed : Bool := false

namespace Texts

def client (t : Texts) (token : String) : Client where
  username := t.username
  realm := t.realm
  password := t.password
  method := t.method
  uri := t.uri
  nonce := token
  qop := .ofText? t.qop
  nc := .ofText? t.nc
  cnonce := .ofText? t.cnonce
  opaqueText := .ofText? t.opaqueText
  hashed := t.hashed

def countText (t : Texts) : String :=
  t.nc.getD firstCount

-- What a response needs of the texts: no protection, or the one that is known with a client nonce
-- and a count that is written as it is
def Protects (t : Texts) : Prop :=
  t.qop = none ∨ t.qop = some Response.authQop ∧
    (∃ v, t.cnonce = some v) ∧ ∀ v, t.nc = some v → Directives.Plain v

-- The texts can be written: the quoted ones so that they end where their quotes do, the count
-- as it is. With a quality of protection there has to be a client nonce.
structure Writable (t : Texts) : Prop where
  username : Quotable t.username
  realm : Quotable t.realm
  uri : Quotable t.uri
  opaqueText : ∀ v, t.opaqueText = some v → Quotable v
  protection : t.qop = none ∨ t.qop = some Response.authQop ∧
    (∃ v, t.cnonce = some v ∧ Quotable v) ∧ ∀ v, t.nc = some v → Directives.Plain v

def written (t : Texts) (token response : String) : List String :=
  [quoted "username" t.username, quoted "realm" t.realm, quoted "nonce" token,
    quoted "uri" t.uri, quoted "response" response] ++
  (t.opaqueText.map (quoted "opaque")).toList ++
  match t.qop with
  | none => []
  | some qop => [bare "qop" qop, bare "nc" t.countText, quoted "cnonce" (t.cnonce.getD "")]

def entries (t : Texts) (token response : String) : OrderedMap String String :=
  [("username", t.username), ("realm", t.realm), ("nonce", token), ("uri", t.uri),
    ("response", response)] ++ (t.opaqueText.map fun v => ("opaque", v)).toList ++
    match t.qop with
    | none => []
    | some qop => [("qop", qop), ("nc", t.countText), ("cnonce", t.cnonce.getD "")]

def answer (t : Texts) (token response : String) : Authorization where
  username := t.username
  realm := t.realm
  nonce := token
  uri := t.uri
  response := response
  qop := t.qop
  nc := t.qop.map fun _ => t.countText
  cnonce := t.qop.map fun _ => t.cnonce.getD ""
  opaqueText := t.opaqueText
  algorithm := none

theorem nodup_entries (t : Texts) (token response : String) :
    (OrderedMap.keys (t.entries token response)).Nodup := by
  unfold entries
  cases t.opaqueText <;> cases t.qop <;> simp [OrderedMap.keys]

theorem readFrom_entries (t : Texts) (token response : String) :
    (t.answer token response).ReadFrom (t.entries token response) := by
  unfold entries answer
  cases t.opaqueText <;> cases t.qop <;> exact ⟨rfl, rfl, rfl, rfl, rfl, rfl, rfl, rfl, rfl, rfl⟩

theorem count_eq {t : Texts} {token : String} (hq : t.qop = some Response.authQop) :
    (t.client token).count = .text t.countText := by
  unfold count countText
  cases hn : t.nc <;> simp [client, hq, hn, Value.ofText?, Value.isText, Value.text?, Value.isNull]

section Protected

variable {t : Texts} {token : String} (h : t.Protects)
include h

theorem Protects.isProtected (token response : String) :
    (t.answer token response).Protected := by
  rcases h with hq | ⟨hq, -, -⟩
  · exact .inl hq
  · refine .inr ⟨hq, ?_, ?_⟩ <;> simp [answer, hq]

-- The response of the header is the one that its own directives call for
theorem Protects.compute_eq (token response : String) :
    Response.compute ((t.answer token response).input t.hashed t.password t.method)
      = Response.compute (t.client token).input := by
  rcases h with hq | ⟨hq, ⟨cnonce, hc⟩, -⟩
  · rw [Response.compute_of_null (congrArg Value.ofText? hq),
      Response.compute_of_null (congrArg Value.ofText? hq)]
    rfl
  · have hnc : ((t.answer token response).nc) = some t.countText := by simp [answer, hq]
    have hcnonce : (t.answer token response).cnonce = some cnonce := by simp [answer, hq, hc]
    rw [Response.compute_of_auth (congrArg Value.ofText? hq) (congrArg Value.ofText? hnc)
        (congrArg Value.ofText? hcnonce),
      Response.compute_of_auth (congrArg Value.ofText? hq) (count_eq hq)
        (congrArg Value.ofText? hc)]
    rfl

theorem Protects.exists_response (token : String) :
    ∃ response, Response.compute (t.client token).input = .ok response ∧ Quotable response := by
  obtain ⟨response, hr⟩ :=
    (h.isProtected token "").compute_eq_ok t.hashed t.password t.method
  rw [h.compute_eq] at hr
  refine ⟨response, hr, ?_⟩
  obtain ⟨text, rfl⟩ := Response.exists_hex_of_compute hr
  exact quotable_of_not_mem (Md5.not_mem_hex (by decide) text)

theorem Protects.plain_countText (hq : t.qop ≠ none) : Directives.Plain t.countText := by
  rcases h with hnone | ⟨-, -, hcount⟩
  · exact absurd hnone hq
  · unfold countText
    cases hn : t.nc with
    | none => exact (by decide : Directives.Plain firstCount)
    | some v => exact hcount v hn

theorem Protects.parts_eq (token response : String) :
    parts (t.client token) response = .ok (t.written token response) := by
  rcases h with hq | ⟨hq, ⟨cnonce, hc⟩, -⟩
  · cases ho : t.opaqueText <;>
      simp [parts, written, quoted, bare, client, hq, ho, Value.ofText?, quote?, bind,
        Except.bind, pure, Except.pure, Except.map]
  · have hcount : (t.client token).count.plain = t.countText := by
      rw [count_eq hq]
      rfl
    rw [parts, hcount]
    cases ho : t.opaqueText <;>
      simp [written, quoted, bare, client, hq, hc, ho, Value.ofText?, Value.plain, quote?, bind,
        Except.bind, pure, Except.pure, Except.map]

-- The header of such a client
theorem Protects.header_eq {response : String}
    (hr : Response.compute (t.client token).input = .ok response) :
    (t.client token).header
      = .ok (Directives.scheme ++ ", ".intercalate (t.written token response)) := by
  rw [Client.header, hr]
  simp only [h.parts_eq token response, Except.mapError, Except.map]

end Protected

theorem Writable.protects {t : Texts} (w : t.Writable) : t.Protects := by
  rcases w.protection with hq | ⟨hq, ⟨cnonce, hc, -⟩, hcount⟩
  · exact .inl hq
  · exact .inr ⟨hq, ⟨cnonce, hc⟩, hcount⟩

end Texts

end Client

end HttpDigest

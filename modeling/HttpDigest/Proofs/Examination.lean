import HttpDigest.Verifier
import Mathlib.Tactic.Common

namespace HttpDigest

theorem Value.isText_iff {v : Value} {s : String} : v.isText s = true ↔ v = .text s := by
  cases v <;> simp [isText, text?]

theorem Response.compute_of_null {i : Input} (hq : i.qop = .null) :
    compute i = .ok (Md5.hex (userHash i ++ ":" ++ i.nonce ++ ":" ++ ha2 i.method i.uri)) := by
  simp [compute, subject, form, hq, Value.isNull, Except.map]

theorem Response.compute_of_auth {i : Input} {nc cnonce : String} (hq : i.qop = .text authQop)
    (hn : i.nc = .text nc) (hc : i.cnonce = .text cnonce) :
    compute i = .ok (Md5.hex (userHash i ++ ":" ++ i.nonce ++ ":" ++ nc ++ ":" ++ cnonce ++ ":"
      ++ authQop ++ ":" ++ ha2 i.method i.uri)) := by
  simp [compute, subject, form, hq, hn, hc, Value.isNull, Value.isText, Value.text?, Value.plain,
    Except.map]

theorem Response.compute_of_incomplete {i : Input} (hq : i.qop = .text authQop)
    (h : i.nc = .null ∨ i.cnonce = .null) :
    compute i = .error (.incomplete i.nc i.cnonce) := by
  have hnull : (i.nc.isNull || i.cnonce.isNull) = true := by
    rcases h with h | h <;> simp [h, Value.isNull]
  have hgiven : i.qop.isNull = false := by
    rw [hq]
    rfl
  have hknown : i.qop.isText authQop = true := Value.isText_iff.mpr hq
  simp [compute, subject, form, hgiven, hknown, hnull, Except.map]

-- A header of the scheme is the scheme with something behind it
theorem Directives.body?_eq_some_iff {header body : String} :
    body? header = some body ↔ header = scheme ++ body := by
  simp only [body?, Option.map_eq_some_iff, Text.afterPrefix?_eq_some_iff]
  constructor
  · rintro ⟨rest, hrest, rfl⟩
    apply String.toList_inj.mp
    simp [hrest]
  · rintro rfl
    exact ⟨body.toList, by simp, by simp⟩

theorem Directives.bind_body?_scheme (body : String) :
    (some (scheme ++ body)).bind body? = some body :=
  (Option.bind_some _ _).trans (body?_eq_some_iff.mpr rfl)

theorem Directives.ofHeader?_scheme (body : String) :
    ofHeader? (scheme ++ body) = some (read body) := by
  rw [ofHeader?, body?_eq_some_iff.mpr rfl, Option.map_some]

def Nonce.DecodeError.plaintext : DecodeError → String
  | notBase64 _ => ""
  | notText _ => ""
  | malformed plaintext => plaintext
  | notNumeric plaintext => plaintext

def Reason.early : List Reason := [
  missingMandatoryField, missingAuthField, unsupportedQop, realmMismatch, nonceNotBase64,
  nonceMalformed, nonceNotNumeric, nonceSignatureInvalid]

namespace Authorization

variable {directives : OrderedMap String String} {a : Authorization}

structure ReadFrom (directives : OrderedMap String String) (a : Authorization) : Prop where
  username : directives.get? "username" = some a.username
  realm : directives.get? "realm" = some a.realm
  nonce : directives.get? "nonce" = some a.nonce
  uri : directives.get? "uri" = some a.uri
  response : directives.get? "response" = some a.response
  qop : directives.get? "qop" = a.qop
  nc : directives.get? "nc" = a.nc
  cnonce : directives.get? "cnonce" = a.cnonce
  opaqueText : directives.get? "opaque" = a.opaqueText
  algorithm : directives.get? "algorithm" = a.algorithm

theorem ofDirectives_eq_ok_iff : ofDirectives directives = .ok a ↔ ReadFrom directives a := by
  constructor
  · intro h
    unfold ofDirectives at h
    split at h
    · rename_i hu hr hn hi hp
      obtain rfl := Except.ok.inj h
      exact ⟨hu, hr, hn, hi, hp, rfl, rfl, rfl, rfl, rfl⟩
    · cases h
  · rintro ⟨hu, hr, hn, hi, hp, hq, hc, hk, ho, hg⟩
    simp only [ofDirectives, hu, hr, hn, hi, hp, hq, hc, hk, ho, hg]

-- Directives have one answer at most
theorem ReadFrom.unique {b : Authorization} (ha : a.ReadFrom directives)
    (hb : b.ReadFrom directives) : a = b :=
  Except.ok.inj ((ofDirectives_eq_ok_iff.mpr ha).symm.trans (ofDirectives_eq_ok_iff.mpr hb))

-- Without one of the mandatory directives there is no answer
theorem ofDirectives_of_missing {name : String} (hm : name ∈ mandatory)
    (hn : directives.get? name = none) :
    ofDirectives directives = .error (missingMandatory directives) := by
  unfold ofDirectives
  split
  · rename_i hu hr hn' hi hp
    simp only [mandatory, List.mem_cons, List.not_mem_nil, or_false] at hm
    rcases hm with rfl | rfl | rfl | rfl | rfl <;> simp_all
  · rfl

theorem exists_readFrom (h : ∀ name ∈ mandatory, directives.get? name ≠ none) :
    ∃ a, ReadFrom directives a := by
  simp only [mandatory, List.forall_mem_cons, Option.ne_none_iff_exists'] at h
  obtain ⟨⟨u, hu⟩, ⟨r, hr⟩, ⟨n, hn⟩, ⟨i, hi⟩, ⟨p, hp⟩, _⟩ := h
  exact ⟨⟨u, r, n, i, p, _, _, _, _, _⟩, ⟨hu, hr, hn, hi, hp, rfl, rfl, rfl, rfl, rfl⟩⟩

theorem missingForQop_eq_nil_iff (hr : a.ReadFrom directives) :
    missingForQop directives = [] ↔
      (a.qop = some Response.authQop → a.nc.isSome ∧ a.cnonce.isSome) := by
  unfold missingForQop
  rw [hr.qop]
  split
  · rename_i hq
    simp [missing, forAuth, OrderedMap.contains, hr.nc, hr.cnonce, hq,
      Option.isSome_iff_ne_none]
  · rename_i hq
    simp [hq]

-- The quality of protection is none, or the one that is known with all that it needs
def Protected (a : Authorization) : Prop :=
  a.qop = none ∨ a.qop = some Response.authQop ∧ a.nc.isSome ∧ a.cnonce.isSome

theorem Protected.missingForQop_eq_nil (hp : a.Protected) (hr : a.ReadFrom directives) :
    missingForQop directives = [] := by
  refine (missingForQop_eq_nil_iff hr).mpr fun hq => ?_
  rcases hp with hnone | ⟨_, hboth⟩
  · rw [hnone] at hq
    cases hq
  · exact hboth

theorem Protected.qop_known (hp : a.Protected) :
    ¬(a.qop ≠ none ∧ a.qop ≠ some Response.authQop) := by
  rcases hp with hnone | ⟨hauth, _⟩
  · exact fun h => h.1 hnone
  · exact fun h => h.2 hauth

-- A protected answer always has a digest to compare with
theorem Protected.compute_eq_ok (hp : a.Protected) (hashed : Bool) (secret method : String) :
    ∃ response, Response.compute (a.input hashed secret method) = .ok response := by
  rcases hp with hq | ⟨hq, hn, hc⟩
  · exact ⟨_, Response.compute_of_null (congrArg Value.ofText? hq)⟩
  · obtain ⟨nc, hn⟩ := Option.isSome_iff_exists.mp hn
    obtain ⟨cnonce, hc⟩ := Option.isSome_iff_exists.mp hc
    exact ⟨_, Response.compute_of_auth (congrArg Value.ofText? hq) (congrArg Value.ofText? hn)
      (congrArg Value.ofText? hc)⟩

end Authorization

namespace Verifier

variable {config : Config} {header : String} {a : Authorization} {n : Nonce} {t : Ticket}

-- What holds of an answer that passed every check before its credential is looked up
structure Examined (config : Config) (t : Ticket) : Prop where
  readFrom : t.answer.ReadFrom (Directives.read t.header)
  isProtected : t.answer.Protected
  realm : config.realm = .text t.answer.realm
  nonce : Nonce.decode t.answer.nonce = .ok t.nonce
  signed : t.nonce.isSignedWith config.secret.plain = true

theorem examine_of_missing {name : String} (hm : name ∈ Authorization.mandatory)
    (hn : (Directives.read header).get? name = none) :
    ∃ notes, examine config header = .error {
      reason := .missingMandatoryField
      username := (Directives.read header).get? "username"
      notes } := by
  simp only [examine, Authorization.ofDirectives_of_missing hm hn]
  exact ⟨_, rfl⟩

theorem examine_of_incomplete (hr : a.ReadFrom (Directives.read header))
    (hq : a.qop = some Response.authQop) (hn : ¬(a.nc.isSome ∧ a.cnonce.isSome)) :
    ∃ notes, examine config header = .error {
      reason := .missingAuthField
      username := some a.username
      notes } := by
  have hmissing : Authorization.missingForQop (Directives.read header) ≠ [] := fun he =>
    hn ((Authorization.missingForQop_eq_nil_iff hr).mp he hq)
  simp only [examine, Authorization.ofDirectives_eq_ok_iff.mpr hr, if_pos hmissing, hr.username]
  exact ⟨_, rfl⟩

theorem examine_of_unsupported (hr : a.ReadFrom (Directives.read header))
    (hq : a.qop ≠ none) (hauth : a.qop ≠ some Response.authQop) :
    examine config header = .error {
      reason := .unsupportedQop
      username := some a.username
      values := [("qop", .ofText? a.qop)] } := by
  have hmissing : Authorization.missingForQop (Directives.read header) = [] :=
    (Authorization.missingForQop_eq_nil_iff hr).mpr fun h => absurd h hauth
  simp [examine, Authorization.ofDirectives_eq_ok_iff.mpr hr, hmissing, hr.username, hq, hauth]

theorem examine_of_foreign (hr : a.ReadFrom (Directives.read header)) (hp : a.Protected)
    (hrealm : config.realm ≠ .text a.realm) :
    examine config header = .error {
      reason := .realmMismatch
      username := some a.username
      values := [("realm", .text a.realm), ("expected_realm", config.realm)] } := by
  have hnot : config.realm.isText a.realm = false :=
    Bool.eq_false_iff.mpr fun h => hrealm (Value.isText_iff.mp h)
  simp only [examine, Authorization.ofDirectives_eq_ok_iff.mpr hr, hp.missingForQop_eq_nil hr,
    hr.username, if_neg hp.qop_known, hnot]
  simp

theorem examine_of_undecodable {e : Nonce.DecodeError} (hr : a.ReadFrom (Directives.read header))
    (hp : a.Protected) (hrealm : config.realm = .text a.realm)
    (hd : Nonce.decode a.nonce = .error e) :
    examine config header = .error {
      reason := .ofDecodeError e
      username := some a.username
      values := [("nonce", .text a.nonce), ("plaintext", .text e.plaintext)] } := by
  simp only [examine, Authorization.ofDirectives_eq_ok_iff.mpr hr, hp.missingForQop_eq_nil hr,
    hr.username, if_neg hp.qop_known, Value.isText_iff.mpr hrealm, hd]
  cases e <;> simp [Nonce.DecodeError.plaintext]

theorem examine_of_decoded (hr : a.ReadFrom (Directives.read header))
    (hp : a.Protected) (hrealm : config.realm = .text a.realm)
    (hd : Nonce.decode a.nonce = .ok n) :
    examine config header =
      if n.isSignedWith config.secret.plain then .ok ⟨header, a, n⟩
      else .error {
        reason := .nonceSignatureInvalid
        username := some a.username
        values := [("plaintext", .text n.plaintext)] } := by
  simp only [examine, Authorization.ofDirectives_eq_ok_iff.mpr hr, hp.missingForQop_eq_nil hr,
    hr.username, if_neg hp.qop_known, Value.isText_iff.mpr hrealm, hd]
  simp

-- How far a header gets: up to the first of these checks that it fails, or to its signature
inductive Reach (config : Config) (header : String) : Prop where
  | missing (name : String) (hm : name ∈ Authorization.mandatory)
      (hn : (Directives.read header).get? name = none)
  | incomplete (a : Authorization) (hr : a.ReadFrom (Directives.read header))
      (hq : a.qop = some Response.authQop) (hn : ¬(a.nc.isSome ∧ a.cnonce.isSome))
  | unsupported (a : Authorization) (hr : a.ReadFrom (Directives.read header))
      (hq : a.qop ≠ none) (hauth : a.qop ≠ some Response.authQop)
  | foreign (a : Authorization) (hr : a.ReadFrom (Directives.read header)) (hp : a.Protected)
      (hrealm : config.realm ≠ .text a.realm)
  | undecodable (a : Authorization) (e : Nonce.DecodeError)
      (hr : a.ReadFrom (Directives.read header)) (hp : a.Protected)
      (hrealm : config.realm = .text a.realm) (hd : Nonce.decode a.nonce = .error e)
  | decoded (a : Authorization) (n : Nonce) (hr : a.ReadFrom (Directives.read header))
      (hp : a.Protected) (hrealm : config.realm = .text a.realm)
      (hd : Nonce.decode a.nonce = .ok n)

theorem reach (config : Config) (header : String) : Reach config header := by
  by_cases hm : ∀ name ∈ Authorization.mandatory, (Directives.read header).get? name ≠ none
  · obtain ⟨a, hr⟩ := Authorization.exists_readFrom hm
    by_cases hp : a.Protected
    · by_cases hrealm : config.realm = .text a.realm
      · cases hd : Nonce.decode a.nonce with
        | error e => exact .undecodable a e hr hp hrealm hd
        | ok n => exact .decoded a n hr hp hrealm hd
      · exact .foreign a hr hp hrealm
    · obtain ⟨hnone, hboth⟩ := not_or.mp hp
      by_cases hauth : a.qop = some Response.authQop
      · exact .incomplete a hr hauth fun hn => hboth ⟨hauth, hn⟩
      · exact .unsupported a hr hnone hauth
  · push Not at hm
    obtain ⟨name, hname, hn⟩ := hm
    exact .missing name hname hn

theorem reason_mem_early {refusal : Refusal} (h : examine config header = .error refusal) :
    refusal.reason ∈ Reason.early := by
  cases reach config header with
  | missing name hm hn =>
      obtain ⟨notes, he⟩ := @examine_of_missing config header name hm hn
      obtain rfl := Except.error.inj (h.symm.trans he)
      simp [Reason.early]
  | incomplete a hr hq hn =>
      obtain ⟨notes, he⟩ := @examine_of_incomplete config header a hr hq hn
      obtain rfl := Except.error.inj (h.symm.trans he)
      simp [Reason.early]
  | unsupported a hr hq hauth =>
      obtain rfl := Except.error.inj (h.symm.trans (examine_of_unsupported hr hq hauth))
      simp [Reason.early]
  | foreign a hr hp hrealm =>
      obtain rfl := Except.error.inj (h.symm.trans (examine_of_foreign hr hp hrealm))
      simp [Reason.early]
  | undecodable a e hr hp hrealm hd =>
      obtain rfl := Except.error.inj (h.symm.trans (examine_of_undecodable hr hp hrealm hd))
      cases e <;> simp [Reason.early, Reason.ofDecodeError]
  | decoded a n hr hp hrealm hd =>
      rw [examine_of_decoded hr hp hrealm hd] at h
      split at h
      · cases h
      · obtain rfl := Except.error.inj h
        simp [Reason.early]

-- A header yields a ticket exactly if it passes them all
theorem examine_eq_ok_iff :
    examine config header = .ok t ↔ t.header = header ∧ Examined config t := by
  constructor
  · intro h
    cases reach config header with
    | missing name hm hn =>
        obtain ⟨notes, he⟩ := @examine_of_missing config header name hm hn
        simp [he] at h
    | incomplete a hr hq hn =>
        obtain ⟨notes, he⟩ := @examine_of_incomplete config header a hr hq hn
        simp [he] at h
    | unsupported a hr hq hauth => simp [examine_of_unsupported hr hq hauth] at h
    | foreign a hr hp hrealm => simp [examine_of_foreign hr hp hrealm] at h
    | undecodable a e hr hp hrealm hd => simp [examine_of_undecodable hr hp hrealm hd] at h
    | decoded a n hr hp hrealm hd =>
        rw [examine_of_decoded hr hp hrealm hd] at h
        split at h
        · rename_i hs
          obtain rfl := Except.ok.inj h
          exact ⟨rfl, hr, hp, hrealm, hd, hs⟩
        · cases h
  · rintro ⟨rfl, hx⟩
    rw [examine_of_decoded hx.readFrom hx.isProtected hx.realm hx.nonce, if_pos hx.signed]

end Verifier

end HttpDigest

import HttpDigest.Challenger
import HttpDigest.Proofs.Parts
import HttpDigest.Proofs.Examination
import HttpDigest.Proofs.TokenRoundTrip

namespace HttpDigest

namespace Client

structure Unescaped (v : String) : Prop where
  noQuote : '"' ∉ v.toList
  closes : backslashes v.toList % 2 = 0

instance (v : String) : Decidable (Unescaped v) :=
  decidable_of_iff ('"' ∉ v.toList ∧ backslashes v.toList % 2 = 0)
    ⟨fun ⟨hq, hc⟩ => ⟨hq, hc⟩, fun ⟨hq, hc⟩ => ⟨hq, hc⟩⟩

theorem Unescaped.quotable {v : String} (h : Unescaped v) : Quotable v := by
  rintro before after hv (rfl | ⟨rest, rfl⟩)
  · rw [List.append_nil] at hv
    exact hv ▸ h.closes
  · have hm : '"' ∈ v.toList := hv ▸ List.mem_append_right before List.mem_cons_self
    exact absurd hm h.noQuote

def enclosed (name v : String) : String :=
  bare name ("\"" ++ v ++ "\"")

theorem toList_enclosed (name v : String) :
    (enclosed name v).toList = name.toList ++ '=' :: ('"' :: v.toList ++ ['"']) := by
  rw [enclosed, toList_bare]
  simp

end Client

theorem Nonce.unescaped_encode (expiry : Int) (secret : String) :
    Client.Unescaped (encode expiry secret) := by
  have hnot : ∀ c, Base64.value? c = none → c ≠ '=' → c ∉ (encode expiry secret).toList := by
    intro c hc hpad
    rw [encode, String.toList_ofList]
    exact Base64.not_mem_encode hc hpad _
  have hq := Client.quotable_of_not_mem (hnot '\\' (by decide) (by decide))
  exact ⟨hnot '"' (by decide) (by decide), hq _ [] (List.append_nil _).symm (.inl rfl)⟩

namespace Challenger

structure Texts where
  realm : String
  qop : Option String := none
  opaqueText : Option String := none

namespace Texts

def challenger (t : Texts) : Challenger where
  realm := t.realm
  qop := .ofText? t.qop
  opaqueText := .ofText? t.opaqueText

-- An empty text counts as not given
def given (v : Option String) : Option String :=
  v.filter (· ≠ "")

-- The texts can be written as they are, and no other quality of protection is asked for than the
-- one that is known
structure Writable (t : Texts) : Prop where
  realm : Client.Unescaped t.realm
  qop : given t.qop = none ∨ given t.qop = some Response.authQop
  opaqueText : ∀ v, t.opaqueText = some v → Client.Unescaped v

def parts (t : Texts) (token : String) (stale : Bool) : List String :=
  [Client.enclosed "realm" t.realm] ++ ((given t.qop).map (Client.enclosed "qop")).toList ++
    [Client.enclosed "nonce" token] ++
    ((given t.opaqueText).map (Client.enclosed "opaque")).toList ++
    if stale then [Client.bare "stale" "true"] else []

def entries (t : Texts) (token : String) (stale : Bool) : OrderedMap String String :=
  [("realm", t.realm)] ++ ((given t.qop).map fun v => ("qop", v)).toList ++
    [("nonce", token)] ++ ((given t.opaqueText).map fun v => ("opaque", v)).toList ++
    if stale then [("stale", "true")] else []

theorem nodup_entries (t : Texts) (token : String) (stale : Bool) :
    (OrderedMap.keys (t.entries token stale)).Nodup := by
  unfold entries
  cases given t.qop <;> cases given t.opaqueText <;> cases stale <;> simp [OrderedMap.keys]

variable (t : Texts) (token : String) (stale : Bool)

@[simp] theorem get?_entries_realm : (t.entries token stale).get? "realm" = some t.realm := rfl

@[simp] theorem get?_entries_qop : (t.entries token stale).get? "qop" = given t.qop := by
  unfold entries
  cases given t.qop <;> cases given t.opaqueText <;> cases stale <;> rfl

@[simp] theorem get?_entries_nonce : (t.entries token stale).get? "nonce" = some token := by
  unfold entries
  cases given t.qop <;> rfl

@[simp] theorem get?_entries_opaque :
    (t.entries token stale).get? "opaque" = given t.opaqueText := by
  unfold entries
  cases given t.qop <;> cases given t.opaqueText <;> cases stale <;> rfl

theorem given_eq_some_iff {v : Option String} {s : String} :
    given v = some s ↔ v = some s ∧ s ≠ "" := by
  simp [given, Option.filter_eq_some_iff]

theorem directive_ofText? (name : String) (v : Option String) :
    directive name (.ofText? v) = ((given v).map (Client.enclosed name)).toList := by
  cases v with
  | none => rfl
  | some s =>
      by_cases hs : s = ""
      · subst hs
        rfl
      · have hg : given (some s) = some s := given_eq_some_iff.mpr ⟨rfl, hs⟩
        have ht : (Value.text s).truthy = true := by simpa [Value.truthy] using hs
        have henclosed : Client.enclosed name s = name ++ "=\"" ++ s ++ "\"" := by
          apply String.toList_inj.mp
          rw [Client.toList_enclosed]
          simp
        rw [hg, Option.map_some, Option.toList_some, henclosed, directive, Value.ofText?, if_pos ht]
        rfl

theorem header_eq :
    t.challenger.header token stale
      = Directives.scheme ++ ", ".intercalate (t.parts token stale) := by
  rw [header, parts, challenger, directive_ofText?, directive_ofText?]
  rfl

variable {t} {token}

theorem Writable.given_opaque (w : t.Writable) {v : String} (h : given t.opaqueText = some v) :
    Client.Unescaped v :=
  w.opaqueText v (given_eq_some_iff.mp h).1

theorem Writable.given_qop (w : t.Writable) {v : String} (h : given t.qop = some v) :
    Client.Unescaped v := by
  rcases w.qop with hq | hq
  · cases hq.symm.trans h
  · obtain rfl := Option.some.inj (hq.symm.trans h)
    decide

end Texts

-- The replies that carry a challenge: one that is asked for outright, and one to an outcome that
-- was refused
inductive Challenges {ν : Type} (c : Challenger) (supplier : Supplier ν) (nonces : ν) :
    Bool → Reply → Prop
  | outright (message : Value) (stale : Bool) :
      Challenges c supplier nonces stale (c.challenge (supplier.nonce nonces) message stale)
  | refused {o : Outcome} {reply : Reply} (hs : o.status = .rejected)
      (h : (c.commence supplier nonces o).1 = .ok reply) :
      Challenges c supplier nonces o.isStale reply

section Replies

variable {ν : Type} {c : Challenger} {supplier : Supplier ν} {nonces : ν} {o : Outcome}

theorem commence_of_rejected {reason : Reason} (hs : o.status = .rejected)
    (hr : o.reason = some reason) :
    (c.commence supplier nonces o).1
      = .ok (c.challenge (supplier.nonce nonces) o.message o.isStale) := by
  simp only [commence, step, hs, hr]

theorem Challenges.parts_eq {stale : Bool} {reply : Reply}
    (h : c.Challenges supplier nonces stale reply) :
    reply.status = 401 ∧
      reply.headers = [(challengeHeader, c.header (supplier.nonce nonces) stale)] := by
  cases h with
  | outright message stale => exact ⟨rfl, rfl⟩
  | @refused o reply hs h =>
      cases hr : o.reason with
      | none => simp [commence, step, hs, hr] at h
      | some reason =>
          obtain rfl := Except.ok.inj ((commence_of_rejected hs hr).symm.trans h)
          exact ⟨rfl, rfl⟩

theorem exists_challenges (hs : o.status = .rejected) (hr : o.reason.isSome) :
    ∃ reply, (c.commence supplier nonces o).1 = .ok reply ∧
      c.Challenges supplier nonces o.isStale reply := by
  obtain ⟨reason, hr⟩ := Option.isSome_iff_exists.mp hr
  exact ⟨_, commence_of_rejected hs hr, .refused hs (commence_of_rejected hs hr)⟩

end Replies

end Challenger

end HttpDigest

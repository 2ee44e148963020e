import HttpDigest.Proofs.Runs
import Mathlib.Data.List.Forall2

namespace HttpDigest

-- Maps with the same keys in the same order, whose values under each key stand in a relation
def OrderedMap.Alike {κ υ υ' : Type} (Q : κ → υ → υ' → Prop) (m : OrderedMap κ υ)
    (n : OrderedMap κ υ') : Prop :=
  List.Forall₂ (fun e f => e.1 = f.1 ∧ Q e.1 e.2 f.2) m n

namespace OrderedMap.Alike

variable {κ υ υ' : Type} {Q : κ → υ → υ' → Prop} {m : OrderedMap κ υ} {n : OrderedMap κ υ'}
  {key : κ} {v : υ} {w : υ'}

theorem keys_eq (h : Alike Q m n) : n.keys = m.keys := by
  induction h with
  | nil => rfl
  | cons hentry _ ih => rw [keys_cons, keys_cons, hentry.1, ih]

variable [DecidableEq κ]

theorem get? (h : Alike Q m n) (key : κ) : Option.Rel (Q key) (m.get? key) (n.get? key) := by
  induction h with
  | nil => exact .none
  | @cons e f _ _ hentry _ ih =>
      obtain ⟨hkey, hvalue⟩ := hentry
      by_cases hk : e.1 = key
      · subst hk
        simp only [OrderedMap.get?, ← hkey, if_true]
        exact .some hvalue
      · simp only [OrderedMap.get?, ← hkey, if_neg hk]
        exact ih

theorem insert (h : Alike Q m n) (hvw : Q key v w) :
    Alike Q (m.insert key v) (n.insert key w) := by
  induction h with
  | nil => exact .cons ⟨rfl, hvw⟩ .nil
  | @cons e f _ _ hentry hrest ih =>
      by_cases hk : e.1 = key
      · simp only [OrderedMap.insert, ← hentry.1, if_pos hk]
        exact .cons ⟨rfl, hvw⟩ hrest
      · simp only [OrderedMap.insert, ← hentry.1, if_neg hk]
        exact .cons ⟨rfl, hentry.2⟩ ih

theorem erase (h : Alike Q m n) (key : κ) : Alike Q (m.erase key) (n.erase key) := by
  induction h with
  | nil => exact .nil
  | @cons e f _ _ hentry hrest ih =>
      by_cases hk : e.1 = key
      · simp only [OrderedMap.erase, ← hentry.1, if_pos hk]
        exact hrest
      · simp only [OrderedMap.erase, ← hentry.1, if_neg hk]
        exact .cons ⟨rfl, hentry.2⟩ ih

end OrderedMap.Alike

inductive Cache.Alike (Q : String → Credential → Credential → Prop) : Cache → Cache → Prop
  | empty : Alike Q .empty .empty
  | memory (limit : Option Nat) {entries entries' : OrderedMap String Credential}
      (h : OrderedMap.Alike Q entries entries') :
      Alike Q (.memory limit entries) (.memory limit entries')

namespace Cache

variable {Q : String → Credential → Credential → Prop} {c d : Cache} {username : String}
  {a b : Credential}

-- Which entry has to go hangs on the keys alone
theorem victim?_of_alike {limit : Option Nat} {entries entries' : OrderedMap String Credential}
    (h : OrderedMap.Alike Q entries entries') :
    victim? limit entries' username = victim? limit entries username := by
  have hcontains : entries'.contains username = entries.contains username := by
    rw [Bool.eq_iff_iff, OrderedMap.contains_iff, OrderedMap.contains_iff, h.keys_eq]
  have hlength : entries'.length = entries.length := (List.Forall₂.length_eq h).symm
  have hhead : entries'.head?.map Prod.fst = entries.head?.map Prod.fst := by
    rw [← List.head?_map, ← List.head?_map]
    exact congrArg List.head? h.keys_eq
  simp only [victim?, hcontains, hlength, hhead]

namespace Alike

theorem get? (h : Alike Q c d) (username : String) :
    Option.Rel (Q username) (c.get? username) (d.get? username) := by
  cases h with
  | empty => exact .none
  | memory limit h => exact h.get? username

theorem exists_right (h : Alike Q c d) (ha : c.get? username = some a) :
    ∃ b, d.get? username = some b ∧ Q username a b := by
  have hrel := h.get? username
  rw [ha] at hrel
  generalize d.get? username = right at hrel
  cases hrel with
  | some hab => exact ⟨_, rfl, hab⟩

theorem exists_left (h : Alike Q c d) (hb : d.get? username = some b) :
    ∃ a, c.get? username = some a ∧ Q username a b := by
  have hrel := h.get? username
  rw [hb] at hrel
  generalize c.get? username = left at hrel
  cases hrel with
  | some hab => exact ⟨_, rfl, hab⟩

theorem put (h : Alike Q c d) (hab : Q username a b) :
    Alike Q (c.put username a) (d.put username b) := by
  cases h with
  | empty => exact .empty
  | memory limit h =>
      simp only [Cache.put, victim?_of_alike h]
      refine .memory limit (OrderedMap.Alike.insert ?_ hab)
      split
      · exact h.erase _
      · exact h

theorem removal (h : Alike Q c d) (username : String) :
    Alike Q (c.orKept (c.remove username)) (d.orKept (d.remove username)) := by
  cases h with
  | empty => exact .empty
  | memory limit h => exact .memory limit (h.erase username)

theorem clearing (h : Alike Q c d) : Alike Q (c.orKept c.clear) (d.orKept d.clear) := by
  cases h with
  | empty => exact .empty
  | memory limit h => exact .memory limit .nil

end Alike

end Cache

-- Replies of one kind. What a report says makes no difference to a verifier.
inductive Reply.Alike (Q : Credential → Credential → Prop) : Reply → Reply → Prop
  | found {a b : Credential} (h : Q a b) : Alike Q (.found a) (.found b)
  | nothing : Alike Q .nothing .nothing
  | unknownUser (r r' : Report) : Alike Q (.unknownUser r) (.unknownUser r')
  | misconfigured (r r' : Report) : Alike Q (.misconfigured r) (.misconfigured r')
  | failed (r r' : Report) : Alike Q (.failed r) (.failed r')
  | broken (f : Failure) : Alike Q (.broken f) (.broken f)

namespace Reply.Alike

variable {Q : Credential → Credential → Prop} {r r' : Reply} {a b : Credential}

theorem exists_right (h : Alike Q r r') (hr : r = .found a) : ∃ b, r' = .found b ∧ Q a b := by
  cases h with
  | found hab =>
      obtain rfl := Reply.found.inj hr
      exact ⟨_, rfl, hab⟩
  | _ => cases hr

theorem exists_left (h : Alike Q r r') (hr : r' = .found b) : ∃ a, r = .found a ∧ Q a b := by
  cases h with
  | found hab =>
      obtain rfl := Reply.found.inj hr
      exact ⟨_, rfl, hab⟩
  | _ => cases hr

theorem refusal_eq (h : Alike Q r r') (header username : Value) :
    r'.refusal header username = r.refusal header username := by
  cases h <;> rfl

end Reply.Alike

-- Results that are the same, or acceptances with credentials that stand in the relation
inductive Outcome.Alike (Q : String → Credential → Credential → Prop) :
    Except Failure Outcome → Except Failure Outcome → Prop
  | same (o : Except Failure Outcome) : Alike Q o o
  | accepted (username : String) (header : Value) {a b : Credential} (h : Q username a b) :
      Alike Q (.ok (.accepted a header)) (.ok (.accepted b header))

namespace Verifier

variable {σ τ : Type} {Q : String → Credential → Credential → Prop} {R : σ → τ → Prop}
  {config config' : Config} {store : Store σ} {store' : Store τ} {cache cache' : Cache}
  {state : σ} {state' : τ} {attempt : Attempt}

structure Verification.Alike (Q : String → Credential → Credential → Prop) (R : σ → τ → Prop)
    (v : Verification σ) (w : Verification τ) : Prop where
  outcome : Outcome.Alike Q v.outcome w.outcome
  cache : Cache.Alike Q v.cache w.cache
  store : R v.store w.store
  asked : w.asked = v.asked

theorem Verification.Alike.of_quiet {v v' : Verification σ} {w w' : Verification τ}
    (hv : v.quiet = v') (hw : w.quiet = w') (h : v'.Alike Q R w') : v.Alike Q R w := by
  subst hv hw
  exact ⟨h.outcome, h.cache, h.store, h.asked⟩

-- A header gets as far under one configuration as under another with its realm and its secret
theorem examine_congr (hrealm : config'.realm = config.realm)
    (hsecret : config'.secret = config.secret) (header : String) :
    examine config' header = examine config header := by
  simp only [examine, hrealm, hsecret]

theorem alike_ruling {username : String} {a b : Credential} (now : Int) (t : Ticket)
    (h : Q username a b) :
    Outcome.Alike Q (.ok (ruling now t a)) (.ok (ruling now t b)) := by
  by_cases hle : now ≤ t.nonce.expiry
  · rw [ruling_of_le hle, ruling_of_le hle]
    exact .accepted username t.header h
  · rw [ruling_of_lt (Int.not_le.mp hle), ruling_of_lt (Int.not_le.mp hle)]
    exact .same _

-- Without an answering credential in one cache there is none in the other
theorem Unanswered.of_alike {method : String} {t : Ticket} (hc : Cache.Alike Q cache cache')
    (hans : ∀ a b, Q t.answer.username a b →
      (Answers config' method t b ↔ Answers config method t a))
    (hu : Unanswered config cache method t) : Unanswered config' cache' method t := by
  intro b hb hanswers
  obtain ⟨a, ha, hab⟩ := hc.exists_left hb
  exact hu a ha ((hans a b hab).mp hanswers)

theorem alike_fetch {username : String} (hc : Cache.Alike Q cache cache')
    (hr : Reply.Alike (Q username) (store.reply state username) (store'.reply state' username)) :
    Cache.Alike Q (fetch store cache state username).cache
      (fetch store' cache' state' username).cache := by
  rcases fetch_cache_cases store cache state username with ⟨a, ha, hfetch⟩ | ⟨hno, hfetch⟩
  · obtain ⟨b, hb, hab⟩ := hr.exists_right ha
    rw [hfetch, fetch_cache_of_found hb]
    exact hc.put hab
  · have hno' : ∀ b, store'.reply state' username ≠ .found b := by
      intro b hb
      obtain ⟨a, ha, -⟩ := hr.exists_left hb
      exact hno a ha
    rw [hfetch, fetch_cache_of_not_found hno']
    exact hc

-- A call takes the same course on both sides
theorem alike_verify (hrealm : config'.realm = config.realm)
    (hsecret : config'.secret = config.secret)
    (hans : ∀ (t : Ticket) (a b : Credential), Examined config t → Q t.answer.username a b →
      (Answers config' attempt.method t b ↔ Answers config attempt.method t a))
    (hc : Cache.Alike Q cache cache') (hs : R state state')
    (hreply : ∀ username, Reply.Alike (Q username) (store.reply state username)
      (store'.reply state' username))
    (hnext : ∀ username, R (store.next state username) (store'.next state' username)) :
    (verify config store cache state attempt).Alike Q R
      (verify config' store' cache' state' attempt) := by
  obtain ⟨v, hv, hcourse⟩ := exists_course config store cache state attempt
  have hexamine : ∀ header, examine config' header = examine config header :=
    examine_congr hrealm hsecret
  have hexamined : ∀ t : Ticket, Examined config t → Examined config' t := by
    intro t hx
    have hok : examine config' t.header = .ok t :=
      (hexamine t.header).trans (examine_eq_ok_iff.mpr ⟨rfl, hx⟩)
    exact (examine_eq_ok_iff.mp hok).2
  cases hcourse with
  | passed hb =>
      exact .of_quiet hv (quiet_verify_of_no_scheme hb) ⟨.same _, hc, hs, rfl⟩
  | refused header refusal hb he =>
      have he' : examine config' header = .error refusal := (hexamine header).trans he
      exact .of_quiet hv (quiet_verify_of_refusal hb he') ⟨.same _, hc, hs, rfl⟩
  | cached t a hb hx ha hanswers =>
      obtain ⟨b, hb', hab⟩ := hc.exists_right ha
      have hw : (verify config' store' cache' state' attempt).quiet = _ :=
        (quiet_verify_of_ticket hb (hexamined t hx)).trans
          (quiet_settle_of_cached hb' ((hans t a b hx hab).mpr hanswers))
      exact .of_quiet hv hw ⟨alike_ruling attempt.now t hab, hc, hs, rfl⟩
  | found t a hb hx hu hr hanswers =>
      obtain ⟨b, hr', hab⟩ := (hreply t.answer.username).exists_right hr
      have hw := (quiet_verify_of_ticket hb (hexamined t hx)).trans
        (quiet_settle_of_found hx.isProtected (hu.of_alike hc fun a b => hans t a b hx) hr'
          ((hans t a b hx hab).mpr hanswers))
      exact .of_quiet hv hw ⟨alike_ruling attempt.now t hab, hc.put hab, hnext _, rfl⟩
  | denied t hb hx hu hr =>
      have hno : ∀ b, store'.reply state' t.answer.username = .found b →
          ¬Answers config' attempt.method t b := by
        intro b hr' hanswers
        obtain ⟨a, ha, hab⟩ := (hreply t.answer.username).exists_left hr'
        exact hr a ha ((hans t a b hx hab).mp hanswers)
      have hw := (quiet_verify_of_ticket hb (hexamined t hx)).trans
        (quiet_settle_of_refused hx.isProtected (hu.of_alike hc fun a b => hans t a b hx) hno)
      refine .of_quiet hv hw ⟨?_, alike_fetch hc (hreply _), hnext _, rfl⟩
      simp only [(hreply t.answer.username).refusal_eq]
      exact .same _

inductive Event.Alike (R : σ → τ → Prop) : Event σ → Event τ → Prop
  | request (attempt : Attempt) : Alike R (.request attempt) (.request attempt)
  | removal (username : String) : Alike R (.removal username) (.removal username)
  | clearing : Alike R .clearing .clearing
  | change {state : σ} {state' : τ} (h : R state state') : Alike R (.change state) (.change state')

structure Point.Alike (Q : String → Credential → Credential → Prop) (R : σ → τ → Prop)
    (p : Point σ) (q : Point τ) : Prop where
  cache : Cache.Alike Q p.cache q.cache
  store : R p.store q.store

-- Two verifiers that no run tells apart: they examine headers alike, a credential answers on one
-- side just if its counterpart does on the other, and their stores reply alike from states that
-- stand in a relation, and go to states that do
structure Parallel (Q : String → Credential → Credential → Prop) (R : σ → τ → Prop)
    (config : Config) (store : Store σ) (config' : Config) (store' : Store τ) : Prop where
  realm : config'.realm = config.realm
  secret : config'.secret = config.secret
  answers : ∀ (method : String) (t : Ticket) (a b : Credential), Examined config t →
    Q t.answer.username a b → (Answers config' method t b ↔ Answers config method t a)
  reply : ∀ (state : σ) (state' : τ) (username : String), R state state' →
    Reply.Alike (Q username) (store.reply state username) (store'.reply state' username)
  next : ∀ (state : σ) (state' : τ) (username : String), R state state' →
    R (store.next state username) (store'.next state' username)

namespace Parallel

variable {p : Point σ} {q : Point τ} {event : Event σ} {event' : Event τ}
  {events : List (Event σ)} {events' : List (Event τ)}

theorem verify (h : Parallel Q R config store config' store') (hp : p.Alike Q R q)
    (attempt : Attempt) :
    (Verifier.verify config store p.cache p.store attempt).Alike Q R
      (Verifier.verify config' store' q.cache q.store attempt) :=
  alike_verify h.realm h.secret (h.answers attempt.method) hp.cache hp.store
    (fun username => h.reply p.store q.store username hp.store)
    fun username => h.next p.store q.store username hp.store

theorem next_point (h : Parallel Q R config store config' store') (hp : p.Alike Q R q)
    (he : event.Alike R event') :
    (p.next config store event).Alike Q R (q.next config' store' event') := by
  cases he with
  | request attempt =>
      have hv := h.verify hp attempt
      exact ⟨hv.cache, hv.store⟩
  | removal username => exact ⟨hp.cache.removal username, hp.store⟩
  | clearing => exact ⟨hp.cache.clearing, hp.store⟩
  | change hs => exact ⟨hp.cache, hs⟩

theorem after (h : Parallel Q R config store config' store') (hp : p.Alike Q R q)
    (he : List.Forall₂ (Event.Alike R) events events') :
    (p.after config store events).Alike Q R (q.after config' store' events') := by
  induction he generalizing p q with
  | nil => exact hp
  | cons hfirst _ ih => exact ih (h.next_point hp hfirst)

-- The calls of the two runs, one by one
theorem calls (h : Parallel Q R config store config' store') (hp : p.Alike Q R q)
    (he : List.Forall₂ (Event.Alike R) events events') :
    List.Forall₂ (fun call call' =>
        (call.result config store).Alike Q R (call'.result config' store'))
      (Verifier.calls config store p events) (Verifier.calls config' store' q events') := by
  induction he generalizing p q with
  | nil => exact .nil
  | cons hfirst _ ih =>
      have hrest := ih (h.next_point hp hfirst)
      cases hfirst with
      | request attempt => exact .cons (h.verify hp attempt) hrest
      | removal username => exact hrest
      | clearing => exact hrest
      | change hs => exact hrest

-- What two alike verifications have in common is the same of both runs, call by call
theorem map_calls_eq {γ : Type} (h : Parallel Q R config store config' store')
    (hp : p.Alike Q R q) (he : List.Forall₂ (Event.Alike R) events events')
    {f : Verification σ → γ} {g : Verification τ → γ} (hfg : ∀ v w, v.Alike Q R w → g w = f v) :
    ((Verifier.calls config' store' q events').map fun call => g (call.result config' store'))
      = (Verifier.calls config store p events).map fun call => f (call.result config store) := by
  symm
  rw [← List.forall₂_eq_eq_eq, List.forall₂_map_left_iff, List.forall₂_map_right_iff]
  exact (h.calls hp he).imp fun call call' hv => (hfg _ _ hv).symm

end Parallel

end Verifier

end HttpDigest

import HttpDigest.Proofs.Digits
import HttpDigest.Proofs.Examination
import HttpDigest.Proofs.NonceText

namespace HttpDigest.Response

def userText (i : Input) : String :=
  i.username ++ ":" ++ i.realm ++ ":" ++ i.secret

def requestText (i : Input) : String :=
  i.method ++ ":" ++ i.uri

def Hashes (i : Input) (text : String) : Prop :=
  text = userText i ∨ text = requestText i ∨ subject i = .ok text

-- Two of the texts of two inputs have the same hash
def Collide (i j : Input) : Prop :=
  ∃ a b, (Hashes i a ∨ Hashes j a) ∧ (Hashes i b ∨ Hashes j b) ∧ a ≠ b ∧ Md5.hex a = Md5.hex b

inductive ProtectedBy (i : Input) : Option (String × String) → Prop where
  | older (hq : i.qop = .null) : ProtectedBy i none
  | auth {nc cnonce : String} (hq : i.qop = .text authQop) (hn : i.nc = .text nc)
      (hc : i.cnonce = .text cnonce) : ProtectedBy i (some (nc, cnonce))

-- An input with a clear secret, of which only the free parts may hold colons
structure Plain (i : Input) (p : Option (String × String)) : Prop where
  isProtected : ProtectedBy i p
  clear : i.hashed = false
  username : ':' ∉ i.username.toList
  realm : ':' ∉ i.realm.toList
  method : ':' ∉ i.method.toList
  nonce : ':' ∉ i.nonce.toList
  nc : ∀ nc cnonce, p = some (nc, cnonce) → ':' ∉ nc.toList

-- Inputs of the same form that agree in everything that is hashed
structure Same (i j : Input) (p q : Option (String × String)) : Prop where
  form : p = q
  username : i.username = j.username
  realm : i.realm = j.realm
  secret : i.secret = j.secret
  method : i.method = j.method
  uri : i.uri = j.uri
  nonce : i.nonce = j.nonce

variable {i j : Input} {p q : Option (String × String)}

-- The part of the last text between the nonce and the hash of the request
def between : Option (String × String) → List Char
  | none => []
  | some (nc, cnonce) => nc.toList ++ ':' :: (cnonce.toList ++ ':' :: (authQop.toList ++ [':']))

theorem Plain.subject_eq (h : Plain i p) : ∃ text, subject i = .ok text ∧
    text.toList = (Md5.hex (userText i)).toList ++ ':' :: (i.nonce.toList ++
      ':' :: (between p ++ (Md5.hex (requestText i)).toList)) := by
  have huser : userHash i = Md5.hex (userText i) := by
    rw [userHash, h.clear]
    rfl
  cases h.isProtected with
  | older hq =>
      refine ⟨Md5.hex (userText i) ++ ":" ++ i.nonce ++ ":" ++ Md5.hex (requestText i), ?_, ?_⟩
      · simp [subject, form, hq, Value.isNull, huser]
        rfl
      · simp [between]
  | @auth nc cnonce hq hn hc =>
      refine ⟨Md5.hex (userText i) ++ ":" ++ i.nonce ++ ":" ++ nc ++ ":" ++ cnonce ++ ":"
        ++ authQop ++ ":" ++ Md5.hex (requestText i), ?_, ?_⟩
      · simp [subject, form, hq, hn, hc, Value.isNull, Value.isText, Value.text?, Value.plain, huser]
        rfl
      · simp [between]

theorem not_mem_hex (text : String) : ':' ∉ (Md5.hex text).toList :=
  Md5.not_mem_hex (by decide) text

-- With the hash behind it, this part tells the form, the count and the nonce of the client
theorem between_append_inj {hash hash' : List Char} (hh : ':' ∉ hash) (hh' : ':' ∉ hash')
    (hp : ∀ nc cnonce, p = some (nc, cnonce) → ':' ∉ nc.toList)
    (hq : ∀ nc cnonce, q = some (nc, cnonce) → ':' ∉ nc.toList)
    (h : between p ++ hash = between q ++ hash') : p = q ∧ hash = hash' := by
  cases p with
  | none =>
      cases q with
      | none => exact ⟨rfl, h⟩
      | some protection =>
          have hm : ':' ∈ hash := by
            rw [show hash = _ from h, between]
            simp
          exact absurd hm hh
  | some protection =>
      obtain ⟨nc, cnonce⟩ := protection
      cases q with
      | none =>
          have hm : ':' ∈ hash' := by
            rw [show hash' = _ from h.symm, between]
            simp
          exact absurd hm hh'
      | some protection' =>
          obtain ⟨nc', cnonce'⟩ := protection'
          have htext : ∀ (nc cnonce : String) (hash : List Char),
              between (some (nc, cnonce)) ++ hash = nc.toList ++ ':' ::
                ((cnonce.toList ++ ':' :: authQop.toList) ++ ':' :: hash) := by
            simp [between]
          rw [htext, htext] at h
          obtain ⟨hnc, hrest⟩ := Text.parts_inj (hp nc cnonce rfl) (hq nc' cnonce' rfl) h
          obtain ⟨hcnonce, hhash⟩ := Text.parts_inj_last hh hh' hrest
          rw [List.append_cancel_right_eq] at hcnonce
          rw [String.toList_inj.mp hnc, String.toList_inj.mp hcnonce]
          exact ⟨rfl, hhash⟩

theorem Plain.userText_inj (hi : Plain i p) (hj : Plain j q) (h : userText i = userText j) :
    i.username = j.username ∧ i.realm = j.realm ∧ i.secret = j.secret := by
  have hlist : ∀ i : Input, (userText i).toList
      = i.username.toList ++ ':' :: (i.realm.toList ++ ':' :: i.secret.toList) := by
    simp [userText]
  have heq := congrArg String.toList h
  rw [hlist, hlist] at heq
  obtain ⟨husername, hrest⟩ := Text.parts_inj hi.username hj.username heq
  obtain ⟨hrealm, hsecret⟩ := Text.parts_inj hi.realm hj.realm hrest
  exact ⟨String.toList_inj.mp husername, String.toList_inj.mp hrealm, String.toList_inj.mp hsecret⟩

theorem Plain.requestText_inj (hi : Plain i p) (hj : Plain j q)
    (h : requestText i = requestText j) : i.method = j.method ∧ i.uri = j.uri := by
  have hlist : ∀ i : Input, (requestText i).toList = i.method.toList ++ ':' :: i.uri.toList := by
    simp [requestText]
  have heq := congrArg String.toList h
  rw [hlist, hlist] at heq
  obtain ⟨hmethod, huri⟩ := Text.parts_inj hi.method hj.method heq
  exact ⟨String.toList_inj.mp hmethod, String.toList_inj.mp huri⟩

-- What is hashed last holds the two hashes, and all that the response needs besides
theorem Plain.subject_inj (hi : Plain i p) (hj : Plain j q) (h : subject i = subject j) :
    p = q ∧ i.nonce = j.nonce ∧ Md5.hex (userText i) = Md5.hex (userText j) ∧
      Md5.hex (requestText i) = Md5.hex (requestText j) := by
  obtain ⟨text, hs, htext⟩ := hi.subject_eq
  obtain ⟨text', hs', htext'⟩ := hj.subject_eq
  obtain rfl : text = text' := Except.ok.inj (hs.symm.trans (h.trans hs'))
  rw [htext] at htext'
  obtain ⟨huser, hrest⟩ := Text.parts_inj (not_mem_hex _) (not_mem_hex _) htext'
  obtain ⟨hnonce, hrest⟩ := Text.parts_inj hi.nonce hj.nonce hrest
  obtain ⟨hform, hrequest⟩ :=
    between_append_inj (not_mem_hex _) (not_mem_hex _) hi.nc hj.nc hrest
  exact ⟨hform, String.toList_inj.mp hnonce, String.toList_inj.mp huser,
    String.toList_inj.mp hrequest⟩

-- From the last text back to the first ones: where two of them differ, their hashes collide
theorem Plain.same_or_collide {text text' : String} (hi : Plain i p) (hj : Plain j q)
    (hs : subject i = .ok text) (hs' : subject j = .ok text') (h : Md5.hex text = Md5.hex text') :
    Same i j p q ∨ Collide i j := by
  by_cases hlast : text = text'
  · obtain ⟨hform, hnonce, huser, hrequest⟩ := hi.subject_inj hj (hs.trans (hlast ▸ hs'.symm))
    by_cases hu : userText i = userText j
    · by_cases hr : requestText i = requestText j
      · obtain ⟨husername, hrealm, hsecret⟩ := hi.userText_inj hj hu
        obtain ⟨hmethod, huri⟩ := hi.requestText_inj hj hr
        exact .inl ⟨hform, husername, hrealm, hsecret, hmethod, huri, hnonce⟩
      · exact .inr ⟨_, _, .inl (.inr (.inl rfl)), .inr (.inr (.inl rfl)), hr, hrequest⟩
    · exact .inr ⟨_, _, .inl (.inl rfl), .inr (.inl rfl), hu, huser⟩
  · exact .inr ⟨text, text', .inl (.inr (.inr hs)), .inr (.inr (.inr hs')), hlast, h⟩

-- Both responses exist. If they are equal then so are the inputs, form and all, or two texts that
-- differ have the same hash; so without such texts no response can stand for one of the other
-- form, or for another method, address or nonce.
theorem response_binds_input (hi : Plain i p) (hj : Plain j q) :
    ∃ response response', compute i = .ok response ∧ compute j = .ok response' ∧
      (response = response' → Same i j p q ∨ Collide i j) ∧
      (response = response' → p.isSome ≠ q.isSome ∨ i.method ≠ j.method ∨ i.uri ≠ j.uri ∨
        i.nonce ≠ j.nonce → Collide i j) := by
  obtain ⟨text, hs, -⟩ := hi.subject_eq
  obtain ⟨text', hs', -⟩ := hj.subject_eq
  refine ⟨Md5.hex text, Md5.hex text', by rw [compute, hs]; rfl, by rw [compute, hs']; rfl,
    hi.same_or_collide hj hs hs', fun h hdiffers => ?_⟩
  rcases hi.same_or_collide hj hs hs' h with hsame | hcollide
  · rcases hdiffers with hform | hmethod | huri | hnonce
    · exact absurd (congrArg Option.isSome hsame.form) hform
    · exact absurd hsame.method hmethod
    · exact absurd hsame.uri huri
    · exact absurd hsame.nonce hnonce
  · exact hcollide

def olderSample : Input where
  hashed := false
  username := "ann"
  realm := "lab"
  secret := "p:w"
  method := "GET"
  uri := "/a:b"
  nonce := "n"
  qop := .null
  nc := .null
  cnonce := .null

def authSample : Input :=
  { olderSample with qop := .text authQop, nc := .text "00000001", cnonce := .text "c:auth:d" }

theorem response_binds_input_sample :
    Plain olderSample none ∧ Plain authSample (some ("00000001", "c:auth:d")) ∧
    ∃ response response', compute olderSample = .ok response ∧
      compute authSample = .ok response' ∧
      (response = response' → Collide olderSample authSample) := by
  have holder : Plain olderSample none :=
    ⟨.older rfl, rfl, by decide, by decide, by decide, by decide, fun _ _ h => nomatch h⟩
  have hauth : Plain authSample (some ("00000001", "c:auth:d")) := by
    refine ⟨.auth rfl rfl rfl, rfl, by decide, by decide, by decide, by decide, ?_⟩
    intro nc cnonce h
    obtain ⟨rfl, -⟩ := Prod.mk.inj (Option.some.inj h)
    decide
  obtain ⟨response, response', hr, hr', -, hforms⟩ := response_binds_input holder hauth
  exact ⟨holder, hauth, response, response', hr, hr', fun h => hforms h (.inl (by decide))⟩

end HttpDigest.Response

import HttpDigest.Proofs.CommandWords
import HttpDigest.Proofs.NonceCheck
import HttpDigest.Proofs.TokenRoundTrip

namespace HttpDigest

namespace Json

variable {depth : Nat} {key : String} {v : Value} {fields rest : List (String × Value)}

theorem document_object (h : fields ≠ []) : document (.object fields)
    = "\x7b\n  " ++ ",\n  ".intercalate (layoutMembers 1 fields) ++ "\n\x7d" := by
  have hinner : newline (0 + 1) = "\n  " := by decide +kernel
  have houter : newline 0 = "\n" := by decide +kernel
  have hsome : ¬(layoutMembers (0 + 1) fields).isEmpty = true := by
    cases fields with
    | nil => exact absurd rfl h
    | cons field rest => simp [layoutMembers]
  rw [document, layout, enclose, if_neg hsome, hinner, houter]
  simp [String.append_assoc]

theorem layoutMembers_cons : layoutMembers depth ((key, v) :: rest)
    = (quote key ++ ": " ++ layout depth v) :: layoutMembers depth rest := by
  rw [layoutMembers]

theorem layoutMembers_nil : layoutMembers depth [] = [] := by
  rw [layoutMembers]

theorem layout_int (i : Int) : layout depth (.int i) = toString i := by
  rw [layout, compact] <;> simp

theorem layout_text (s : String) : layout depth (.text s) = quote s := by
  rw [layout, compact] <;> simp

end Json

namespace CommandLine

variable {e : Environment} {words : List String} {token secret err : String}
  {given : Option String} {n : Nonce} {cause : Nonce.DecodeError} {k : Keyring}

def nonceText (n : Nonce) (checked : Option Nonce.Status) : String :=
  "\x7b\n  \"expiry\": " ++ toString n.expiry ++ ",\n  \"signature\": " ++ Json.quote n.signature
    ++ (match checked with
      | some status => ",\n  \"status\": \"" ++ status.name ++ "\""
      | none => "")
    ++ "\n\x7d\n"

theorem line_document_nonce (n : Nonce) (checked : Option Nonce.Status) : line (Json.document
    (.object ([("expiry", .int n.expiry), ("signature", .text n.signature)]
      ++ checked.toList.map fun status => ("status", .text status.name))))
        = nonceText n checked := by
  have hexpiry : Json.quote "expiry" = "\"expiry\"" := by decide +kernel
  have hsignature : Json.quote "signature" = "\"signature\"" := by decide +kernel
  have hkey : Json.quote "status" = "\"status\"" := by decide +kernel
  have hname (status : Nonce.Status) : Json.quote status.name = "\"" ++ status.name ++ "\"" := by
    cases status <;> decide +kernel
  rw [line, Json.document_object (by simp)]
  unfold nonceText
  apply String.toList_inj.mp
  cases checked with
  | none =>
      simp [Json.layoutMembers_cons, Json.layoutMembers_nil, Json.layout_int, Json.layout_text,
        hexpiry, hsignature]
  | some status =>
      simp [Json.layoutMembers_cons, Json.layoutMembers_nil, Json.layout_int, Json.layout_text,
        hexpiry, hsignature, hkey, hname]

theorem run_of_undecodable (hp : parse words = .ok (.decodeNonce token given))
    (hd : Nonce.decode token = .error cause) :
    run e words = .ok ⟨1, "", line ("Error: " ++ cause.report.text), e.keyring⟩ := by
  simp only [run, hp, runCommand, runDecode, hd]

-- Without a secret there is nothing to check against, and an empty one counts as none
theorem run_of_unchecked (hp : parse words = .ok (.decodeNonce token given))
    (hg : given = none ∨ given = some "") (hd : Nonce.decode token = .ok n) :
    run e words = .ok ⟨0, nonceText n none, "", e.keyring⟩ := by
  have hnone : (given.bind fun s => if s = "" then none else some s) = none := by
    rcases hg with rfl | rfl <;> rfl
  have hshown := line_document_nonce n none
  simp only [Option.toList_none, List.map_nil, List.append_nil] at hshown
  simp only [run, hp, runCommand, runDecode, hd, hnone, done, hshown]

theorem run_of_checked (hp : parse words = .ok (.decodeNonce token (some secret)))
    (hs : secret ≠ "") (hd : Nonce.decode token = .ok n) :
    run e words = .ok ⟨if n.status secret e.now = .valid then 0 else 1,
      nonceText n (some (n.status secret e.now)), "", e.keyring⟩ := by
  have hsome : ((some secret).bind fun s => if s = "" then none else some s) = some secret := by
    simp [hs]
  have hshown := line_document_nonce n (some (n.status secret e.now))
  simp only [Option.toList_some, List.map_cons, List.map_nil] at hshown
  simp only [run, hp, runCommand, runDecode, hd, hsome, done, hshown]

-- The exit code tells whether the nonce passed its check under the secret, and a success is shown
-- as one
structure TellsCheck (e : Environment) (token secret : String) (ending : Ending) : Prop where
  succeeds : ending.code = 0 ↔ Nonce.check token secret e.now = .ok .valid
  fails : Nonce.check token secret e.now ≠ .ok .valid → ending.code = 1
  shown : Nonce.check token secret e.now = .ok .valid →
    ∃ n, Nonce.decode token = .ok n ∧ ending.out = nonceText n (some .valid)

-- The exit code tells whether the nonce can be read, and what is shown names no result
structure TellsReading (token : String) (ending : Ending) : Prop where
  succeeds : ending.code = 0 ↔ ∃ n, Nonce.decode token = .ok n
  fails : (¬∃ n, Nonce.decode token = .ok n) → ending.code = 1
  shown : ∀ n, Nonce.decode token = .ok n → ending.out = nonceText n none

theorem tellsCheck_of_undecodable (hd : Nonce.decode token = .error cause) :
    TellsCheck e token secret ⟨1, "", err, k⟩ := by
  have hcheck := Nonce.check_of_undecodable hd secret e.now
  refine ⟨⟨fun h => ?_, fun h => ?_⟩, fun _ => rfl, fun h => ?_⟩
  · cases h
  · cases hcheck.symm.trans h
  · cases hcheck.symm.trans h

theorem tellsCheck_of_checked (hd : Nonce.decode token = .ok n) :
    TellsCheck e token secret ⟨if n.status secret e.now = .valid then 0 else 1,
      nonceText n (some (n.status secret e.now)), err, k⟩ := by
  have hcheck := Nonce.check_of_decoded hd secret e.now
  have hvalid : Nonce.check token secret e.now = .ok .valid ↔ n.status secret e.now = .valid := by
    rw [hcheck, Except.ok.injEq]
  refine ⟨?_, fun h => if_neg (hvalid.not.mp h), fun h => ⟨n, hd, ?_⟩⟩
  · rw [hvalid]
    simp
  · exact congrArg (nonceText n ∘ some) (hvalid.mp h)

-- A nonce shown without a result is not shown with one
theorem nonceText_unchecked_ne (n : Nonce) (status : Nonce.Status) :
    nonceText n none ≠ nonceText n (some status) := by
  intro h
  unfold nonceText at h
  have hlength := congrArg String.length h
  simp at hlength

theorem not_tellsCheck_of_unchecked (hd : Nonce.decode token = .ok n) :
    ¬TellsCheck e token secret ⟨0, nonceText n none, err, k⟩ := by
  intro h
  obtain ⟨m, hm, hout⟩ := h.shown (h.succeeds.mp rfl)
  obtain rfl := Except.ok.inj (hd.symm.trans hm)
  exact nonceText_unchecked_ne _ _ hout

theorem tellsReading_of_undecodable (hd : Nonce.decode token = .error cause) :
    TellsReading token ⟨1, "", err, k⟩ := by
  have hno : ¬∃ n, Nonce.decode token = .ok n := by
    rintro ⟨n, hn⟩
    cases hd.symm.trans hn
  refine ⟨⟨fun h => ?_, fun h => absurd h hno⟩, fun _ => rfl, fun n hn => absurd ⟨n, hn⟩ hno⟩
  cases h

theorem tellsReading_of_unchecked (hd : Nonce.decode token = .ok n) :
    TellsReading token ⟨0, nonceText n none, "", k⟩ := by
  refine ⟨⟨fun _ => ⟨n, hd⟩, fun _ => rfl⟩, fun h => absurd ⟨n, hd⟩ h, fun m hm => ?_⟩
  obtain rfl := Except.ok.inj (hd.symm.trans hm)
  rfl

theorem exists_tellsCheck_iff (hp : parse words = .ok (.decodeNonce token (some secret))) :
    (∃ ending, run e words = .ok ending ∧ TellsCheck e token secret ending) ↔
      secret ≠ "" ∨ ¬∃ n, Nonce.decode token = .ok n := by
  cases hd : Nonce.decode token with
  | error cause =>
      refine iff_of_true ⟨_, run_of_undecodable hp hd, tellsCheck_of_undecodable hd⟩ (.inr ?_)
      rintro ⟨n, ⟨⟩⟩
  | ok n =>
      by_cases hs : secret = ""
      · subst hs
        refine iff_of_false ?_ (by simp)
        rintro ⟨ending, hrun, htells⟩
        obtain rfl := Except.ok.inj ((run_of_unchecked hp (.inr rfl) hd).symm.trans hrun)
        exact not_tellsCheck_of_unchecked hd htells
      · exact iff_of_true ⟨_, run_of_checked hp hs hd, tellsCheck_of_checked hd⟩ (.inl hs)

theorem exists_tellsReading (hp : parse words = .ok (.decodeNonce token given))
    (hg : given = none ∨ given = some "") :
    ∃ ending, run e words = .ok ending ∧ TellsReading token ending := by
  cases hd : Nonce.decode token with
  | error cause => exact ⟨_, run_of_undecodable hp hd, tellsReading_of_undecodable hd⟩
  | ok n => exact ⟨_, run_of_unchecked hp hg hd, tellsReading_of_unchecked hd⟩

-- With a secret the exit code tells the check of the nonce, unless the secret is empty: then a
-- nonce that can be read is shown without being checked, and the command succeeds as it does
-- without a secret. Every token and every secret can be given.
theorem exit_tells_check_iff (e : Environment) (token : String) :
    (∀ words secret, parse words = .ok (.decodeNonce token (some secret)) →
      ((∃ ending, run e words = .ok ending ∧ TellsCheck e token secret ending) ↔
        secret ≠ "" ∨ ¬∃ n, Nonce.decode token = .ok n)) ∧
    (∀ words given, parse words = .ok (.decodeNonce token given) →
      given = none ∨ given = some "" →
      ∃ ending, run e words = .ok ending ∧ TellsReading token ending) ∧
    parse ["decode-nonce", "--", token] = .ok (.decodeNonce token none) ∧
    ∀ secret, parse ["decode-nonce", "--secret=" ++ secret, "--", token]
      = .ok (.decodeNonce token (some secret)) :=
  ⟨fun _ _ hp => exists_tellsCheck_iff hp, fun _ _ hp hg => exists_tellsReading hp hg,
    parse_decodeNonce token, parse_decodeNonce_secret token⟩

def sampleEnvironment : Environment where
  interpreter := .plain
  now := 5
  random := fun _ => []
  keyring := {}
  file := fun _ => none

theorem decode_sampleToken : Nonce.decode (Nonce.encode 5 "s")
    = .ok ⟨5, Nonce.sign 5 "s", Nonce.plaintextOf 5 "s"⟩ :=
  Nonce.decode_encode (by decide)

theorem exit_tells_check_iff_sample : ∃ ending,
    run sampleEnvironment ["decode-nonce", "--secret=" ++ "s", "--", Nonce.encode 5 "s"]
      = .ok ending ∧
    ending.code = 0 ∧
    ending.out = nonceText ⟨5, Nonce.sign 5 "s", Nonce.plaintextOf 5 "s"⟩ (some .valid) := by
  obtain ⟨hcheck, -, -, hwords⟩ := exit_tells_check_iff sampleEnvironment (Nonce.encode 5 "s")
  obtain ⟨ending, hrun, htells⟩ := (hcheck _ _ (hwords "s")).mpr (.inl (by decide))
  have hvalid : Nonce.check (Nonce.encode 5 "s") "s" 5 = .ok .valid := by
    have hsigned : (⟨5, Nonce.sign 5 "s", Nonce.plaintextOf 5 "s"⟩ : Nonce).isSignedWith "s"
        = true := by
      simp [Nonce.isSignedWith]
    rw [Nonce.check_of_decoded decode_sampleToken, Nonce.status_of_le hsigned (by decide)]
  obtain ⟨n, hn, hout⟩ := htells.shown hvalid
  obtain rfl := Except.ok.inj (decode_sampleToken.symm.trans hn)
  exact ⟨ending, hrun, htells.succeeds.mpr hvalid, hout⟩

-- With an empty secret the command succeeds for the nonce of another one
theorem not_everyTellsCheck : ¬∀ e token secret words,
    parse words = .ok (.decodeNonce token (some secret)) →
    ∃ ending, run e words = .ok ending ∧ TellsCheck e token secret ending := by
  intro h
  have hp := parse_decodeNonce_secret (Nonce.encode 5 "s") ""
  obtain ⟨ending, hrun, htells⟩ := h sampleEnvironment _ _ _ hp
  obtain rfl := Except.ok.inj
    ((run_of_unchecked hp (.inr rfl) decode_sampleToken).symm.trans hrun)
  have hforeign : (⟨5, Nonce.sign 5 "s", Nonce.plaintextOf 5 "s"⟩ : Nonce).isSignedWith ""
      = false := by decide +kernel
  have hmismatch : Nonce.check (Nonce.encode 5 "s") "" 5 = .ok .signatureMismatch := by
    rw [Nonce.check_of_decoded decode_sampleToken, Nonce.status_of_unsigned hforeign]
  cases hmismatch.symm.trans (htells.succeeds.mp rfl)

end CommandLine

end HttpDigest

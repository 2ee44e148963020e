import HttpDigest.Proofs.Entries
import HttpDigest.Proofs.Segments
import HttpDigest.RemoteDirectory

namespace HttpDigest

theorem Url.encodeSegment_eq_nil_iff {username : String} :
    encodeSegment username = [] ↔ username = "" := by
  rw [← encodeSegment_inj, show encodeSegment "" = [] by decide +kernel]

namespace RemoteDirectory

-- A directory at a host, with the names of the path to it and those of its endpoint below. A colon
-- in the first of these would end a scheme.
structure Site where
  scheme : List Char
  host : List Char
  path : List (List Char)
  endpoint : List (List Char)
  web : Url.Web scheme
  host_ne_nil : host ≠ []
  plain_host : ∀ c ∈ host, Url.Plain c
  names_path : ∀ s ∈ path, Url.Name s
  names_endpoint : ∀ s ∈ endpoint, Url.Name s
  endpoint_ne_nil : endpoint ≠ []
  noColon : ∀ s ∈ endpoint.head?, ':' ∉ s

namespace Site

variable (s : Site)

def base : List Char :=
  Url.absolute s.scheme s.host (Url.folders s.path)

def endpointText : List Char :=
  ['/'].intercalate s.endpoint

def users : List Char :=
  s.base ++ s.endpointText ++ ['/']

def above : List Char :=
  s.base ++ Url.folders s.endpoint.dropLast

def own (username : String) : List Char :=
  s.users ++ Url.encodeSegment username

def address (username : String) : List Char :=
  if username = ".." then s.above else if username = "." then s.users else s.own username

theorem endpointText_eq : s.endpointText
    = Url.folders s.endpoint.dropLast ++ s.endpoint.getLast s.endpoint_ne_nil := by
  rw [← Url.intercalate_concat, List.dropLast_concat_getLast, endpointText]

theorem endpointText_append : s.endpointText ++ ['/'] = Url.folders s.endpoint := by
  have hfolders : Url.folders (s.endpoint.dropLast ++ [s.endpoint.getLast s.endpoint_ne_nil])
      = Url.folders s.endpoint.dropLast ++ s.endpoint.getLast s.endpoint_ne_nil ++ ['/'] := by
    simp [Url.folders]
  rwa [List.dropLast_concat_getLast, ← endpointText_eq, eq_comm] at hfolders

theorem users_eq : s.users = s.base ++ Url.folders s.endpoint := by
  rw [users, List.append_assoc, endpointText_append]

theorem endpointText_eq_append : ∃ before c, c ≠ '/' ∧ s.endpointText = before ++ [c] := by
  have hname := s.names_endpoint _ (List.getLast_mem s.endpoint_ne_nil)
  refine ⟨Url.folders s.endpoint.dropLast ++ (s.endpoint.getLast s.endpoint_ne_nil).dropLast, _,
    (hname.plain _ (List.getLast_mem hname.ne_nil)).ne_slash, ?_⟩
  rw [List.append_assoc, List.dropLast_concat_getLast, endpointText_eq]

theorem trimBoth_endpoint {lead tail : List Char} (hl : ∀ c ∈ lead, c = '/')
    (ht : ∀ c ∈ tail, c = '/') :
    Text.trimBoth (· = '/') (lead ++ s.endpointText ++ tail) = s.endpointText := by
  obtain ⟨before, c, hc, htext⟩ := s.endpointText_eq_append
  have hne : s.endpointText ≠ [] := by simp [htext]
  refine Text.trimBoth_between (by simpa using hl) (by simpa using ht) hne ?_ ?_
  · have hhead : (Url.folders s.endpoint ++ []).head? ≠ some '/' :=
      Url.head?_folders_append s.names_endpoint s.endpoint_ne_nil
    intro x hx
    refine decide_eq_false fun he => hhead ?_
    rw [List.append_nil, ← s.endpointText_append, List.head?_append, ← he, hx, Option.some_or]
  · simpa [htext] using hc

theorem base_eq_append : ∃ before c, c ≠ '/' ∧ s.base = before ++ [c] ++ ['/'] := by
  cases hpath : s.path using List.reverseRecOn with
  | nil =>
      refine ⟨s.scheme ++ ':' :: '/' :: '/' :: s.host.dropLast, _,
        (s.plain_host _ (List.getLast_mem s.host_ne_nil)).ne_slash, ?_⟩
      simp [base, Url.absolute, hpath, Url.folders, List.dropLast_concat_getLast]
  | append_singleton names last =>
      have hname := s.names_path last (by simp [hpath])
      refine ⟨Url.absolute s.scheme s.host (Url.folders names) ++ last.dropLast, _,
        (hname.plain _ (List.getLast_mem hname.ne_nil)).ne_slash, ?_⟩
      simp [base, Url.absolute, hpath, Url.folders, List.dropLast_concat_getLast]

theorem length_above_lt : s.above.length < s.users.length := by
  rw [users, above, endpointText_eq]
  simp only [List.length_append, List.length_singleton]
  omega

theorem users_prefix_address_iff (username : String) :
    s.users <+: s.address username ↔ username ≠ ".." := by
  rw [address]
  by_cases hp : username = ".."
  · rw [if_pos hp]
    refine iff_of_false (fun h => ?_) (not_not.mpr hp)
    have hle := h.length_le
    have hlt := s.length_above_lt
    omega
  · rw [if_neg hp]
    refine iff_of_true ?_ hp
    split
    · exact List.prefix_refl _
    · exact List.prefix_append _ _

theorem address_eq_own_iff (username : String) :
    s.address username = s.own username ↔ username ∉ [".", ".."] := by
  have hown : s.users <+: s.own username := List.prefix_append _ _
  by_cases hp : username = ".."
  · refine iff_of_false (fun h => ?_) (by simp [hp])
    exact (s.users_prefix_address_iff username).mp (h ▸ hown) hp
  · rw [address, if_neg hp]
    by_cases hh : username = "."
    · rw [if_pos hh, own, List.self_eq_append_right, Url.encodeSegment_eq_nil_iff]
      simp [hh]
    · simp [hp, hh]

-- Two usernames come to one address only if one is empty and the other one a step to the place
-- itself
theorem address_eq_iff {u v : String} :
    s.address u = s.address v ↔ u = v ∨ (u ∈ ["", "."] ∧ v ∈ ["", "."]) := by
  have hbelow : ∀ {u v : String}, u ≠ ".." → s.address u = s.address v → v ≠ ".." :=
    fun hu h => (s.users_prefix_address_iff _).mp (h ▸ (s.users_prefix_address_iff _).mpr hu)
  by_cases hu : u = ".."
  · subst hu
    have hv : s.address ".." = s.address v → v = ".." := fun h => by
      by_contra hne
      exact hbelow hne h.symm rfl
    constructor
    · exact fun h => .inl (hv h).symm
    · rintro (rfl | ⟨h, -⟩)
      · rfl
      · exact absurd h (by decide)
  · by_cases hv : v = ".."
    · subst hv
      refine iff_of_false (fun h => hbelow hu h rfl) ?_
      rintro (h | ⟨-, h⟩)
      · exact hu h
      · exact absurd h (by decide)
    · rw [address, address, if_neg hu, if_neg hv]
      by_cases hu' : u = "." <;> by_cases hv' : v = "."
      · simp [hu', hv']
      · subst hu'
        rw [if_pos rfl, if_neg hv', own, List.self_eq_append_right, Url.encodeSegment_eq_nil_iff]
        simp [hv', Ne.symm hv']
      · subst hv'
        rw [if_neg hu', if_pos rfl, own, List.append_right_eq_self, Url.encodeSegment_eq_nil_iff]
        simp [hu']
      · rw [if_neg hu', if_neg hv', own, own, List.append_cancel_left_eq, Url.encodeSegment_inj]
        simp only [List.mem_cons, List.not_mem_nil, or_false, hu', hv']
        refine ⟨.inl, ?_⟩
        rintro (h | ⟨rfl, rfl⟩)
        · exact h
        · rfl

-- The fields of a configuration that reaches a site: its address, where the last slash may be left
-- out, and its endpoint, with any slashes around it
structure NamedBy (fields : OrderedMap String Value) : Prop where
  address : ∃ url, Value.field fields "base_url" = .text url ∧
    (url.toList = s.base ∨ url.toList ++ ['/'] = s.base)
  endpoint : ∃ endpoint lead tail,
    Value.field fields "users_endpoint" (.text "api/users") = .text endpoint ∧
    endpoint.toList = lead ++ s.endpointText ++ tail ∧
    (∀ c ∈ lead, c = '/') ∧ ∀ c ∈ tail, c = '/'

theorem toList_withSlash {url : String} (h : url.toList = s.base ∨ url.toList ++ ['/'] = s.base) :
    (withSlash url).toList = s.base := by
  obtain ⟨before, c, hc, hbase⟩ := s.base_eq_append
  rcases h with h | h
  · have hlast : url.toList.getLast? = some '/' := by simp [h, hbase]
    rw [withSlash, if_pos hlast, h]
  · have hurl : url.toList = before ++ [c] := List.append_cancel_right (h.trans hbase)
    have hlast : url.toList.getLast? ≠ some '/' := by simpa [hurl] using hc
    rw [withSlash, if_neg hlast, String.toList_append, ← h]
    rfl

end Site

-- What a configuration keeps of its fields
theorem config_of_ofFields {fields : OrderedMap String Value} {c : Config} {url : String}
    (h : Config.ofFields fields = .ok c) (hb : Value.field fields "base_url" = .text url) :
    c.baseUrl = withSlash url ∧ checkUrl c.baseUrl = .ok () ∧
      c.usersEndpoint = Value.field fields "users_endpoint" (.text "api/users") := by
  simp only [Config.ofFields, hb, bind, Except.bind, throw, throwThe, MonadExceptOf.throw, pure,
    Except.pure] at h
  cases hcheck : checkUrl (withSlash url) with
  | error f =>
      simp only [hcheck] at h
      repeat' split at h
      all_goals cases h
  | ok checked =>
      simp only [hcheck] at h
      repeat' split at h
      all_goals cases h
      exact ⟨rfl, hcheck, rfl⟩

structure Config.At (c : Config) (s : Site) : Prop where
  baseUrl : c.baseUrl.toList = s.base
  checked : checkUrl c.baseUrl = .ok ()
  endpoint : endpointPath c = .ok s.endpointText

variable {fields : OrderedMap String Value} {c : Config} {s : Site} {username : String}

theorem Site.NamedBy.reached (h : s.NamedBy fields) (hc : Config.ofFields fields = .ok c) :
    c.At s := by
  obtain ⟨url, hfield, hurl⟩ := h.address
  obtain ⟨endpoint, lead, tail, hfield', hendpoint, hlead, htail⟩ := h.endpoint
  obtain ⟨hbase, hchecked, hkept⟩ := config_of_ofFields hc hfield
  refine ⟨hbase ▸ s.toList_withSlash hurl, hchecked, ?_⟩
  simp only [endpointPath, hkept, hfield', hendpoint, s.trimBoth_endpoint hlead htail]

-- An address that was checked has a host that fits
theorem Config.At.authorityFits (h : c.At s) : Url.authorityFits s.host = true := by
  have hchecked := h.checked
  rw [checkUrl, h.baseUrl, Site.base, Url.parse?_absolute s.web s.plain_host s.names_path]
    at hchecked
  by_contra hfits
  simp [hfits] at hchecked

theorem Config.At.userUrl_eq (h : c.At s) (username : String) :
    userUrl c username = .ok (.ofList (s.address username)) := by
  have hjoin := Url.join?_folders s.web s.plain_host s.host_ne_nil h.authorityFits s.names_path
    s.names_endpoint s.endpoint_ne_nil s.noColon (Url.tail_encodeSegment username)
  have hparent : Url.encodeSegment username = ['.', '.'] ↔ username = ".." := by
    rw [← Url.encodeSegment_inj, show Url.encodeSegment ".." = ['.', '.'] by decide +kernel]
  have hhere : Url.encodeSegment username = ['.'] ↔ username = "." := by
    rw [← Url.encodeSegment_inj, show Url.encodeSegment "." = ['.'] by decide +kernel]
  have htarget : s.endpointText ++ '/' :: Url.encodeSegment username
      = Url.folders s.endpoint ++ Url.encodeSegment username := by
    rw [← s.endpointText_append]
    simp
  have haddress : Url.absolute s.scheme s.host (Url.folders (s.path
        ++ (Url.landing s.endpoint (Url.encodeSegment username)).1)
          ++ (Url.landing s.endpoint (Url.encodeSegment username)).2) = s.address username := by
    have happend : ∀ names last, Url.absolute s.scheme s.host
        (Url.folders (s.path ++ names) ++ last) = s.base ++ Url.folders names ++ last := by
      intro names last
      simp [Url.absolute, Site.base, Url.folders_append]
    rw [happend, Url.landing, Site.address, Site.own, s.users_eq, Site.above]
    simp only [hparent, hhere]
    split
    · exact List.append_nil _
    · split
      · exact List.append_nil _
      · rfl
  simp only [userUrl, segmentUrl, h.endpoint, bind, Except.bind, h.baseUrl, htarget, Site.base,
    hjoin, haddress, pure, Except.pure]

-- A configuration that reaches a site asks one address for each username: that of a user of her
-- own if and only if the username is no step, one below the endpoint if it is no step to the
-- parent. Apart from the empty username and the step to the place itself, no two usernames share
-- an address, and the segment of a username is nothing but its text, written without marks.
theorem own_address_iff_no_step {σ : Type} (h : s.NamedBy fields)
    (hc : Config.ofFields fields = .ok c) :
    (∀ username, ∃ url, userUrl c username = .ok (.ofList url) ∧
      (∀ (network : Network σ) state, (store c network).reply state username
        = replyOf c username (network.answer state (c.request (.ofList url)))) ∧
      (url = s.own username ↔ username ∉ [".", ".."]) ∧
      (s.users <+: url ↔ username ≠ "..")) ∧
    userUrl c "." = .ok (.ofList s.users) ∧ userUrl c ".." = .ok (.ofList s.above) ∧
    (∀ u v, userUrl c u = userUrl c v ↔ u = v ∨ (u ∈ ["", "."] ∧ v ∈ ["", "."])) ∧
    ∀ username, Url.decode (Url.encodeSegment username) = username.toUTF8.toList ∧
      ∀ mark ∈ Url.encodeSegment username, mark = '%' ∨ Url.Unreserved mark := by
  have hat := h.reached hc
  refine ⟨fun username => ⟨s.address username, hat.userUrl_eq username, ?_,
    s.address_eq_own_iff username, s.users_prefix_address_iff username⟩, hat.userUrl_eq ".",
    hat.userUrl_eq "..", ?_, fun username => ⟨Url.decode_encodeSegment username,
    fun _ => Url.unreserved_of_mem_encodeSegment⟩⟩
  · intro network state
    simp only [store, hat.userUrl_eq]
  · intro u v
    rw [hat.userUrl_eq, hat.userUrl_eq, Except.ok.injEq, String.ofList_inj, s.address_eq_iff]

def sampleSite : Site where
  scheme := "https".toList
  host := "users.example.com".toList
  path := ["v1".toList]
  endpoint := ["api".toList, "users".toList]
  web := .inr rfl
  host_ne_nil := by decide
  plain_host := Url.all_plain_iff.mp (by decide)
  names_path := by decide
  names_endpoint := by decide
  endpoint_ne_nil := by decide
  noColon := by decide

def sampleFields : OrderedMap String Value :=
  [("base_url", .text "https://users.example.com/v1"), ("users_endpoint", .text "/api/users/")]

def reachedConfig : Config where
  baseUrl := "https://users.example.com/v1/"
  usersEndpoint := "/api/users/"
  timeout := defaultTimeout
  verifySsl := .bool true
  retryAttempts := .int 2
  retryBackoff := defaultBackoff
  apiToken := .null

theorem namedBy_sampleFields : sampleSite.NamedBy sampleFields where
  address := ⟨_, rfl, .inr (by decide +kernel)⟩
  endpoint := ⟨_, ['/'], ['/'], rfl, by decide +kernel, by simp, by simp⟩

theorem ofFields_sampleFields : Config.ofFields sampleFields = .ok reachedConfig := by
  rfl

theorem own_address_iff_no_step_sample :
    (∀ username, ∃ url, userUrl reachedConfig username = .ok (.ofList url) ∧
      (url = sampleSite.own username ↔ username ∉ [".", ".."]) ∧
      (sampleSite.users <+: url ↔ username ≠ "..")) ∧
    userUrl reachedConfig ".." = .ok "https://users.example.com/v1/api/" := by
  obtain ⟨haddress, -, habove, -, -⟩ :=
    @own_address_iff_no_step _ _ _ Unit namedBy_sampleFields ofFields_sampleFields
  refine ⟨fun username => ?_, habove.trans (by decide +kernel)⟩
  obtain ⟨url, hurl, -, hown, hbelow⟩ := haddress username
  exact ⟨url, hurl, hown, hbelow⟩

def EveryOwnAddress : Prop :=
  ∀ (s : Site) (fields : OrderedMap String Value) (c : Config), s.NamedBy fields →
    Config.ofFields fields = .ok c →
    (∀ username, userUrl c username = .ok (.ofList (s.own username))) ∧
    (∀ u v, userUrl c u = userUrl c v → u = v) ∧
    ∀ username url, userUrl c username = .ok url → s.users <+: url.toList

-- A step is written as it is and then taken
theorem not_everyOwnAddress : ¬EveryOwnAddress := by
  intro h
  obtain ⟨-, -, hbelow⟩ := h _ _ _ namedBy_sampleFields ofFields_sampleFields
  have hat := namedBy_sampleFields.reached ofFields_sampleFields
  have hprefix := hbelow _ _ (hat.userUrl_eq "..")
  rw [String.toList_ofList, Site.users_prefix_address_iff] at hprefix
  exact hprefix rfl

end RemoteDirectory

end HttpDigest

import HttpDigest.Cache
import HttpDigest.Proofs.Parts
import Mathlib.Data.List.Induction
import Mathlib.Data.List.Nodup

namespace HttpDigest

namespace OrderedMap

variable {κ υ : Type} {m : OrderedMap κ υ} {key other : κ} {value : υ}

theorem length_keys : (keys m).length = m.length :=
  List.length_map _

theorem keys_concat : keys (m ++ [(key, value)]) = keys m ++ [key] := by
  simp [keys]

theorem get?_concat [DecidableEq κ] (h : key ∉ keys m) :
    get? (m ++ [(key, value)]) other = if key = other then some value else get? m other := by
  rw [← insert_of_not_mem h, get?_insert]

end OrderedMap

namespace Cache

inductive Step where
  | put (username : String) (credential : Credential)
  | get (username : String)
  | remove (username : String)
  | clear

def step (c : Cache) : Step → Except Fault Cache
  | .put username credential => .ok (c.put username credential)
  | .get _ => .ok c
  | .remove username => c.remove username
  | .clear => c.clear

def run (c : Cache) (steps : List Step) : Except Fault Cache :=
  steps.foldlM step c

def Step.Touches (username : String) (s : Step) : Prop :=
  s = .remove username ∨ s = .clear ∨ ∃ credential, s = .put username credential

-- What was put in under a username last, if nothing took it out since
def Stands (steps : List Step) (username : String) (credential : Credential) : Prop :=
  ∃ before later, steps = before ++ .put username credential :: later ∧
    ∀ s ∈ later, ¬s.Touches username

def Resident (start : Cache) (steps : List Step) (username : String) : Prop :=
  ∃ c, start.run steps = .ok c ∧ username ∈ c.entries.keys

-- The step by which a username came in that is there ever since
structure EnteredAt (start : Cache) (steps : List Step) (username : String) (i : Nat) : Prop where
  put : ∃ credential, steps[i]? = some (.put username credential)
  absent : ¬Resident start (steps.take i) username
  stays : ∀ j, i < j → j ≤ steps.length → Resident start (steps.take j) username

def EnteredBefore (start : Cache) (steps : List Step) (username other : String) : Prop :=
  ∃ i j, EnteredAt start steps username i ∧ EnteredAt start steps other j ∧ i < j

-- The username that came in before all others that are there
def Oldest (start : Cache) (steps : List Step) (username : String) : Prop :=
  Resident start steps username ∧
    ∀ other, Resident start steps other → other ≠ username →
      EnteredBefore start steps username other

variable {limit : Option Nat} {entries entries' : OrderedMap String Credential} {start : Cache}
  {steps : List Step} {s : Step} {username other : String} {credential : Credential} {i : Nat}

theorem get?_memory : (memory limit entries).get? username = entries.get? username := rfl

theorem run_concat (start : Cache) (steps : List Step) (s : Step) :
    start.run (steps ++ [s]) = (start.run steps).bind (·.step s) := by
  rw [run, List.foldlM_append]
  cases hr : steps.foldlM step start <;> simp [run, hr, bind, Except.bind, pure, Except.pure]
  cases step _ s <;> rfl

theorem stands_concat : Stands (steps ++ [s]) username credential ↔
    s = .put username credential ∨ (¬s.Touches username ∧ Stands steps username credential) := by
  constructor
  · rintro ⟨before, later, he, hlater⟩
    cases later using List.reverseRecOn with
    | nil => exact .inl (List.append_inj_right' he rfl |> List.singleton_inj.mp)
    | append_singleton later last =>
        rw [← List.cons_append, ← List.append_assoc] at he
        obtain ⟨rfl, hlast⟩ := List.append_inj' he rfl
        obtain rfl := List.singleton_inj.mp hlast
        exact .inr ⟨hlater s (by simp), before, later, rfl, fun t ht => hlater t (by simp [ht])⟩
  · rintro (rfl | ⟨hs, before, later, rfl, hlater⟩)
    · exact ⟨steps, [], rfl, by simp⟩
    · refine ⟨before, later ++ [s], by simp, fun t ht => ?_⟩
      rcases List.mem_append.mp ht with hm | hm
      · exact hlater t hm
      · exact List.mem_singleton.mp hm ▸ hs

-- A step that is taken after all others changes no time of entry, and may be one
theorem EnteredAt.lt_length (h : EnteredAt start steps username i) : i < steps.length := by
  obtain ⟨x, hx⟩ := h.put
  exact (List.getElem?_eq_some_iff.mp hx).1

-- The latest entry of a username is one
theorem EnteredAt.unique {j : Nat} (h : EnteredAt start steps username i)
    (hj : EnteredAt start steps username j) : i = j := by
  by_contra hne
  rcases Nat.lt_or_gt_of_ne hne with hlt | hlt
  · exact hj.absent (h.stays j hlt (Nat.le_of_lt hj.lt_length))
  · exact h.absent (hj.stays i hlt (Nat.le_of_lt h.lt_length))

theorem EnteredAt.concat (h : EnteredAt start steps username i)
    (hr : Resident start (steps ++ [s]) username) :
    EnteredAt start (steps ++ [s]) username i := by
  have hi := h.lt_length
  refine ⟨?_, ?_, fun j hj hle => ?_⟩
  · rw [List.getElem?_append_left hi]
    exact h.put
  · rw [List.take_append_of_le_length (Nat.le_of_lt hi)]
    exact h.absent
  · by_cases hlast : j ≤ steps.length
    · rw [List.take_append_of_le_length hlast]
      exact h.stays j hj hlast
    · rw [List.take_of_length_le (by rw [List.length_append, List.length_singleton]; omega)]
      exact hr

theorem enteredAt_concat (hn : ¬Resident start steps username)
    (hr : Resident start (steps ++ [.put username credential]) username) :
    EnteredAt start (steps ++ [.put username credential]) username steps.length := by
  refine ⟨⟨credential, by simp⟩, ?_, fun j hj hle => ?_⟩
  · rw [List.take_left]
    exact hn
  · rw [List.take_of_length_le (by rw [List.length_append, List.length_singleton]; omega)]
    exact hr

inductive Effect (limit : Option Nat) (entries : OrderedMap String Credential) :
    Step → OrderedMap String Credential → Prop
  | overwritten {username : String} {credential : Credential} (h : username ∈ entries.keys) :
      Effect limit entries (.put username credential) (entries.insert username credential)
  | added {username : String} {credential : Credential} (h : username ∉ entries.keys)
      (hroom : ∀ n, limit = some n → entries.length < n) :
      Effect limit entries (.put username credential) (entries ++ [(username, credential)])
  | evicting {username : String} {credential : Credential} {oldest : String × Credential}
      {others : OrderedMap String Credential} (h : username ∉ entries.keys)
      (hfull : limit = some entries.length) (he : entries = oldest :: others) :
      Effect limit entries (.put username credential) (others ++ [(username, credential)])
  | got (username : String) : Effect limit entries (.get username) entries
  | removed (username : String) :
      Effect limit entries (.remove username) (entries.erase username)
  | cleared : Effect limit entries .clear []

theorem exists_effect (hl : ∀ n, limit = some n → 1 ≤ n ∧ entries.length ≤ n) (s : Step) :
    ∃ entries', (memory limit entries).step s = .ok (memory limit entries') ∧
      Effect limit entries s entries' := by
  cases s with
  | put username credential =>
      by_cases h : username ∈ entries.keys
      · have hvictim : victim? limit entries username = none := by
          cases limit with
          | none => rfl
          | some n => simp [victim?, OrderedMap.contains_iff.mpr h]
        exact ⟨_, by simp only [step, put, hvictim], .overwritten h⟩
      · have hnew : entries.contains username = false := by
          rw [← Bool.not_eq_true, OrderedMap.contains_iff]
          exact h
        by_cases hroom : ∀ n, limit = some n → entries.length < n
        · have hvictim : victim? limit entries username = none := by
            cases limit with
            | none => rfl
            | some n => simp [victim?, Nat.not_le.mpr (hroom n rfl)]
          refine ⟨_, ?_, .added h hroom⟩
          simp only [step, put, hvictim, OrderedMap.insert_of_not_mem h]
        · -- without room the cache holds as much as it may, so there is a first entry
          simp only [not_forall, Nat.not_lt] at hroom
          obtain ⟨n, rfl, hn⟩ := hroom
          obtain ⟨hpos, hle⟩ := hl n rfl
          obtain rfl : n = entries.length := Nat.le_antisymm hn hle
          cases entries with
          | nil => exact absurd hpos (by decide)
          | cons oldest others =>
              have hothers : username ∉ OrderedMap.keys others := fun hm =>
                h (List.mem_cons_of_mem _ hm)
              refine ⟨_, ?_, .evicting h rfl rfl⟩
              simp [step, put, victim?, hnew, OrderedMap.erase,
                OrderedMap.insert_of_not_mem hothers]
  | get username => exact ⟨entries, rfl, .got username⟩
  | remove username => exact ⟨_, rfl, .removed username⟩
  | clear => exact ⟨[], rfl, .cleared⟩

namespace Effect

variable (h : Effect limit entries s entries')
include h

-- The usernames that stay keep their order, and one that comes in stands behind them
theorem keys_cases : entries'.keys.Sublist entries.keys ∨
    ∃ username credential kept, s = .put username credential ∧ username ∉ entries.keys ∧
      kept.Sublist entries.keys ∧ entries'.keys = kept ++ [username] := by
  cases h with
  | overwritten hm =>
      rw [OrderedMap.keys_insert, if_pos hm]
      exact .inl (.refl _)
  | @added username credential hn =>
      exact .inr ⟨username, credential, _, rfl, hn, .refl _, by simp [OrderedMap.keys]⟩
  | @evicting username credential oldest others hn hfull he =>
      refine .inr ⟨username, credential, OrderedMap.keys others, rfl, hn, ?_,
        by simp [OrderedMap.keys]⟩
      rw [he]
      exact List.sublist_cons_self _ _
  | got => exact .inl (.refl _)
  | removed username =>
      rw [OrderedMap.keys_erase]
      exact .inl List.erase_sublist
  | cleared => exact .inl (List.nil_sublist _)

theorem nodup_keys (hd : entries.keys.Nodup) : entries'.keys.Nodup := by
  rcases h.keys_cases with hsub | ⟨username, credential, kept, -, hn, hsub, hkeys⟩
  · exact hd.sublist hsub
  · rw [hkeys, ← List.concat_eq_append]
    exact (hd.sublist hsub).concat fun hm => hn (hsub.subset hm)

theorem length_le {n : Nat} (hn : limit = some n) (hle : entries.length ≤ n) :
    entries'.length ≤ n := by
  cases h with
  | overwritten hm => rwa [← OrderedMap.length_keys, OrderedMap.keys_insert, if_pos hm,
      OrderedMap.length_keys]
  | added hnew hroom =>
      have hlt := hroom n hn
      rw [List.length_append, List.length_singleton]
      omega
  | evicting hnew hfull he =>
      rw [he, List.length_cons] at hle
      rw [List.length_append, List.length_singleton]
      exact hle
  | got => exact hle
  | removed username =>
      have hkeys : entries.length = (OrderedMap.keys entries).length :=
        OrderedMap.length_keys.symm
      rw [← OrderedMap.length_keys, OrderedMap.keys_erase]
      exact Nat.le_trans List.length_erase_le (hkeys ▸ hle)
  | cleared => exact Nat.zero_le n

omit h in
-- What is put in is found, and besides what was there before, or was left when the oldest went
theorem get?_of_put (h : Effect limit entries (.put username credential) entries') :
    ∃ kept : OrderedMap String Credential, (kept = entries ∨
        limit ≠ none ∧ ∃ oldest, kept = entries.erase oldest) ∧
      ∀ other, entries'.get? other
        = if username = other then some credential else kept.get? other := by
  cases h with
  | overwritten hm => exact ⟨entries, .inl rfl, fun other => OrderedMap.get?_insert⟩
  | added hn hroom => exact ⟨entries, .inl rfl, fun other => OrderedMap.get?_concat hn⟩
  | @evicting _ _ oldest others hn hfull he =>
      subst he
      have herase : OrderedMap.erase (oldest :: others) oldest.1 = others := if_pos rfl
      have hothers : username ∉ OrderedMap.keys others := fun hm =>
        hn (List.mem_cons_of_mem _ hm)
      refine ⟨others, .inr ⟨?_, oldest.1, herase.symm⟩, fun other =>
        OrderedMap.get?_concat hothers⟩
      rw [hfull]
      exact Option.some_ne_none _

theorem get?_cases (hd : entries.keys.Nodup) (hg : entries'.get? username = some credential) :
    s = .put username credential ∨
      (¬s.Touches username ∧ entries.get? username = some credential) := by
  cases s with
  | put u c =>
      obtain ⟨kept, hkept, hget⟩ := h.get?_of_put
      rw [hget] at hg
      by_cases hu : u = username
      · rw [if_pos hu] at hg
        exact .inl (by rw [hu, Option.some.inj hg])
      · rw [if_neg hu] at hg
        refine .inr ⟨by simp [Step.Touches, hu], ?_⟩
        rcases hkept with rfl | ⟨-, oldest, rfl⟩
        · exact hg
        · exact OrderedMap.get?_of_get?_erase hd hg
  | get u =>
      cases h
      exact .inr ⟨by simp [Step.Touches], hg⟩
  | remove u =>
      cases h
      have hu : u ≠ username := by
        rintro rfl
        rw [OrderedMap.get?_erase_self hd] at hg
        cases hg
      exact .inr ⟨by simp [Step.Touches, hu], OrderedMap.get?_of_get?_erase hd hg⟩
  | clear =>
      cases h
      cases hg

-- Where there is no limit, what a step does not touch stays
theorem get?_of_untouched (hl : limit = none) (hs : ¬s.Touches username)
    (hg : entries.get? username = some credential) :
    entries'.get? username = some credential := by
  cases s with
  | put u c =>
      obtain ⟨kept, rfl | ⟨hsome, -⟩, hget⟩ := h.get?_of_put
      · have hu : u ≠ username := fun he => hs (.inr (.inr ⟨c, he ▸ rfl⟩))
        rw [hget, if_neg hu, hg]
      · exact absurd hl hsome
  | get u =>
      cases h
      exact hg
  | remove u =>
      cases h
      have hu : u ≠ username := fun he => hs (.inl (he ▸ rfl))
      rwa [OrderedMap.get?_erase_of_ne hu]
  | clear => exact absurd (.inr (.inl rfl)) hs

-- Who is gone was taken out, or was first where there was no room for another
theorem gone_cases (hm : username ∈ entries.keys) (hn : username ∉ entries'.keys) :
    s = .remove username ∨ s = .clear ∨ ∃ other credential, s = .put other credential ∧
      other ∉ entries.keys ∧ limit = some entries.length ∧
        entries.keys.head? = some username := by
  cases h with
  | overwritten hu =>
      rw [OrderedMap.keys_insert, if_pos hu] at hn
      exact absurd hm hn
  | added hu hroom =>
      rw [OrderedMap.keys_concat] at hn
      exact absurd (List.mem_append_left _ hm) hn
  | @evicting u c oldest others hu hfull he =>
      refine .inr (.inr ⟨u, c, rfl, hu, hfull, ?_⟩)
      rw [he] at hm ⊢
      rw [OrderedMap.keys_concat] at hn
      rcases List.mem_cons.mp hm with rfl | hothers
      · rfl
      · exact absurd (List.mem_append_left _ hothers) hn
  | got => exact absurd hm hn
  | removed u =>
      rw [OrderedMap.keys_erase] at hn
      by_cases hu : username = u
      · exact .inl (by rw [hu])
      · exact absurd ((List.mem_erase_of_ne hu).mpr hm) hn
  | cleared => exact .inr (.inl rfl)

-- Where there is no room for another, the first one goes and no one else
theorem mem_keys_of_full (hd : entries.keys.Nodup) (hs : s = .put username credential)
    (hu : username ∉ entries.keys) (hfull : limit = some entries.length) :
    ∃ oldest, entries.keys.head? = some oldest ∧
      ∀ other, other ∈ entries'.keys ↔
        other = username ∨ (other ∈ entries.keys ∧ other ≠ oldest) := by
  cases h with
  | overwritten hm =>
      obtain ⟨rfl, -⟩ := Step.put.inj hs
      exact absurd hm hu
  | added hn hroom => exact absurd (hroom _ hfull) (Nat.lt_irrefl _)
  | @evicting u c oldest others hn _ he =>
      obtain ⟨rfl, -⟩ := Step.put.inj hs
      subst he
      obtain ⟨hnot, -⟩ := List.nodup_cons.mp hd
      refine ⟨oldest.1, rfl, fun other => ?_⟩
      rw [OrderedMap.keys_concat, List.mem_append, List.mem_singleton, OrderedMap.keys_cons,
        List.mem_cons, or_comm]
      refine or_congr_right ⟨fun hm => ⟨.inr hm, fun ho => hnot (ho ▸ hm)⟩, ?_⟩
      rintro ⟨hm, hne⟩
      exact hm.resolve_left hne
  | got => cases hs
  | removed => cases hs
  | cleared => cases hs

end Effect

-- A cache that holds distinct usernames, no more than it may, each with what was put in under it
-- last, in the order in which they came in
structure Fifo (limit : Option Nat) (start : Cache) (steps : List Step)
    (entries : OrderedMap String Credential) : Prop where
  distinct : entries.keys.Nodup
  bounded : ∀ n, limit = some n → entries.length ≤ n
  found : ∀ username credential, (memory limit entries).get? username = some credential →
    Stands steps username credential
  unlimited : limit = none → ∀ username credential, Stands steps username credential →
    (memory limit entries).get? username = some credential
  entered : ∀ username ∈ entries.keys, ∃! i, EnteredAt start steps username i
  ordered : entries.keys.Pairwise (EnteredBefore start steps)

theorem resident_iff {c : Cache} (hr : start.run steps = .ok c) :
    Resident start steps username ↔ username ∈ c.entries.keys := by
  constructor
  · rintro ⟨d, hd, hm⟩
    obtain rfl := Except.ok.inj (hr.symm.trans hd)
    exact hm
  · exact fun hm => ⟨c, hr, hm⟩

theorem EnteredBefore.concat (h : EnteredBefore start steps username other)
    (hu : Resident start (steps ++ [s]) username) (ho : Resident start (steps ++ [s]) other) :
    EnteredBefore start (steps ++ [s]) username other := by
  obtain ⟨i, j, hi, hj, hlt⟩ := h
  exact ⟨i, j, hi.concat hu, hj.concat ho, hlt⟩

-- The order of entry goes on behind every step
theorem Fifo.order (hf : Fifo limit start steps entries)
    (hr : start.run steps = .ok (memory limit entries))
    (hr' : start.run (steps ++ [s]) = .ok (memory limit entries'))
    (he : Effect limit entries s entries') :
    (∀ username ∈ entries'.keys, ∃ i, EnteredAt start (steps ++ [s]) username i) ∧
      entries'.keys.Pairwise (EnteredBefore start (steps ++ [s])) := by
  have hresident : ∀ {username}, username ∈ entries'.keys →
      Resident start (steps ++ [s]) username := fun hm => (resident_iff hr').mpr hm
  have hold : ∀ {kept : List String}, kept.Sublist entries.keys → kept ⊆ entries'.keys →
      (∀ username ∈ kept, ∃ i, EnteredAt start (steps ++ [s]) username i) ∧
        kept.Pairwise (EnteredBefore start (steps ++ [s])) := by
    intro kept hsub hkeys
    refine ⟨fun username hm => ?_, (hf.ordered.sublist hsub).imp_of_mem fun hu ho hb =>
      hb.concat (hresident (hkeys hu)) (hresident (hkeys ho))⟩
    obtain ⟨i, hi, -⟩ := hf.entered username (hsub.subset hm)
    exact ⟨i, hi.concat (hresident (hkeys hm))⟩
  rcases he.keys_cases with hsub | ⟨new, credential, kept, rfl, hnew, hsub, hkeys⟩
  · exact hold hsub (List.Subset.refl _)
  · -- what came in with this step came in behind all that is kept
    obtain ⟨hentered, hordered⟩ := hold hsub fun u hu => hkeys ▸ List.mem_append_left _ hu
    have hlast : EnteredAt start (steps ++ [.put new credential]) new steps.length := by
      refine enteredAt_concat ?_ (hresident (hkeys ▸ by simp))
      rw [resident_iff hr]
      exact hnew
    rw [hkeys]
    refine ⟨fun username hm => ?_, ?_⟩
    · rcases List.mem_append.mp hm with hm | hm
      · exact hentered username hm
      · obtain rfl := List.mem_singleton.mp hm
        exact ⟨_, hlast⟩
    · rw [List.pairwise_append]
      refine ⟨hordered, List.pairwise_singleton _ _, fun username hm last hl => ?_⟩
      obtain rfl := List.mem_singleton.mp hl
      obtain ⟨i, hi, -⟩ := hf.entered username (hsub.subset hm)
      refine ⟨i, steps.length, hi.concat (hresident ?_), hlast, hi.lt_length⟩
      exact hkeys ▸ List.mem_append_left _ hm

theorem Fifo.concat (hf : Fifo limit start steps entries)
    (hr : start.run steps = .ok (memory limit entries))
    (hr' : start.run (steps ++ [s]) = .ok (memory limit entries'))
    (he : Effect limit entries s entries') : Fifo limit start (steps ++ [s]) entries' := by
  obtain ⟨hentered, hordered⟩ := hf.order hr hr' he
  refine ⟨he.nodup_keys hf.distinct, fun n hn => he.length_le hn (hf.bounded n hn),
    fun username credential hg => ?_, fun hl username credential hs => ?_,
    fun username hm => ?_, hordered⟩
  · rw [stands_concat]
    exact (he.get?_cases hf.distinct hg).imp_right fun ⟨hs, hg⟩ => ⟨hs, hf.found _ _ hg⟩
  · rcases stands_concat.mp hs with rfl | ⟨hs, hstands⟩
    · obtain ⟨kept, -, hget⟩ := he.get?_of_put
      rw [get?_memory, hget, if_pos rfl]
    · exact he.get?_of_untouched hl hs (hf.unlimited hl _ _ hstands)
  · obtain ⟨i, hi⟩ := hentered username hm
    exact ⟨i, hi, fun j hj => hj.unique hi⟩

theorem Fifo.nil (limit : Option Nat) : Fifo limit (memory limit []) [] [] := by
  refine ⟨List.nodup_nil, fun n _ => Nat.zero_le n, ?_, ?_, ?_, ?_⟩
  · intro username credential hg
    cases hg
  · rintro - username credential ⟨before, later, he, -⟩
    simp at he
  · intro username hm
    cases hm
  · exact List.Pairwise.nil

theorem exists_run (hl : ∀ n, limit = some n → 1 ≤ n) (steps : List Step) :
    ∃ entries, (memory limit []).run steps = .ok (memory limit entries) ∧
      Fifo limit (memory limit []) steps entries := by
  induction steps using List.reverseRecOn with
  | nil => exact ⟨[], rfl, .nil limit⟩
  | append_singleton steps s ih =>
      obtain ⟨entries, hr, hf⟩ := ih
      obtain ⟨entries', hs, he⟩ := exists_effect (fun n hn => ⟨hl n hn, hf.bounded n hn⟩) s
      have hr' : (memory limit []).run (steps ++ [s]) = .ok (memory limit entries') := by
        rw [run_concat, hr]
        exact hs
      exact ⟨entries', hr', hf.concat hr hr' he⟩

theorem Fifo.oldest (hf : Fifo limit start steps entries)
    (hr : start.run steps = .ok (memory limit entries))
    (hh : entries.keys.head? = some username) : Oldest start steps username := by
  obtain ⟨others, hkeys⟩ := List.head?_eq_some_iff.mp hh
  have hordered := hf.ordered
  rw [hkeys, List.pairwise_cons] at hordered
  refine ⟨(resident_iff hr).mpr (hkeys ▸ List.mem_cons_self), fun other ho hne => ?_⟩
  have hm : other ∈ username :: others := hkeys ▸ (resident_iff hr).mp ho
  exact hordered.1 other ((List.mem_cons.mp hm).resolve_left hne)

-- What one more step does to the usernames that are there
structure Turnover (limit : Option Nat) (start : Cache) (steps : List Step)
    (entries : OrderedMap String Credential) (s : Step)
    (entries' : OrderedMap String Credential) : Prop where
  overwriting : ∀ username credential, s = .put username credential →
    username ∈ entries.keys → entries'.keys = entries.keys
  leaving : ∀ username ∈ entries.keys, username ∉ entries'.keys →
    s = .remove username ∨ s = .clear ∨
      (∃ other credential, s = .put other credential ∧ other ∉ entries.keys ∧
        limit = some entries.length) ∧ Oldest start steps username
  evicting : ∀ username credential, s = .put username credential → username ∉ entries.keys →
    limit = some entries.length → ∃ oldest, Oldest start steps oldest ∧
      ∀ other, other ∈ entries'.keys ↔
        other = username ∨ (other ∈ entries.keys ∧ other ≠ oldest)

theorem Fifo.turnover (hf : Fifo limit start steps entries)
    (hr : start.run steps = .ok (memory limit entries)) (he : Effect limit entries s entries') :
    Turnover limit start steps entries s entries' := by
  refine ⟨fun username credential hs hu => ?_, fun username hm hn => ?_,
    fun username credential hs hu hfull => ?_⟩
  · subst hs
    cases he with
    | overwritten => rw [OrderedMap.keys_insert, if_pos hu]
    | added hn hroom => exact absurd hu hn
    | evicting hn hfull he => exact absurd hu hn
  · rcases he.gone_cases hm hn with hs | hs | ⟨other, credential, hs, ho, hfull, hhead⟩
    · exact .inl hs
    · exact .inr (.inl hs)
    · exact .inr (.inr ⟨⟨other, credential, hs, ho, hfull⟩, hf.oldest hr hhead⟩)
  · obtain ⟨oldest, hhead, hkeys⟩ := he.mem_keys_of_full hf.distinct hs hu hfull
    exact ⟨oldest, hf.oldest hr hhead, hkeys⟩

-- Whatever is done to a cache of any limit, every step succeeds, it holds usernames in the order of
-- their entry with what was put in last, and none leaves but by a removal or, where a new one finds
-- no room, as the oldest
theorem run_keeps_order (limit : Option Int) (h : ∀ n, limit = some n → 1 ≤ n) :
    ∃ start, ofLimit limit = .ok start ∧ ∀ steps, ∃ entries,
      start.run steps = .ok (memory (limit.map Int.toNat) entries) ∧
      Fifo (limit.map Int.toNat) start steps entries ∧
      ∀ s, ∃ entries', start.run (steps ++ [s]) = .ok (memory (limit.map Int.toNat) entries') ∧
        Turnover (limit.map Int.toNat) start steps entries s entries' := by
  have hl : ∀ n, limit.map Int.toNat = some n → 1 ≤ n := by
    intro n hn
    obtain ⟨m, rfl, rfl⟩ := Option.map_eq_some_iff.mp hn
    have hm := h m rfl
    omega
  have hstart : ofLimit limit = .ok (memory (limit.map Int.toNat) []) := by
    cases limit with
    | none => rfl
    | some n =>
        have hn := h n rfl
        exact if_neg (by omega)
  refine ⟨_, hstart, fun steps => ?_⟩
  obtain ⟨entries, hr, hf⟩ := exists_run hl steps
  refine ⟨entries, hr, hf, fun s => ?_⟩
  obtain ⟨entries', hs, he⟩ := exists_effect (fun n hn => ⟨hl n hn, hf.bounded n hn⟩) s
  refine ⟨entries', ?_, hf.turnover hr he⟩
  rw [run_concat, hr]
  exact hs

def sampleCredential (name secret : String) : Credential where
  username := name
  secret := secret
  identity := .object []

-- Two places for three users. The first one takes a new secret, which does not save her place.
def sampleSteps : List Step := [
  .put "ann" (sampleCredential "ann" "pw"), .put "bob" (sampleCredential "bob" "pw"),
  .put "ann" (sampleCredential "ann" "pw2"), .put "cy" (sampleCredential "cy" "pw")]

theorem run_keeps_order_sample :
    (∀ n, some (2 : Int) = some n → 1 ≤ n) ∧ ∃ start, ofLimit (some 2) = .ok start ∧
      ∃ entries, start.run sampleSteps = .ok (memory (some 2) entries) ∧
        entries.keys = ["bob", "cy"] ∧ Fifo (some 2) start sampleSteps entries := by
  have hl : ∀ n, some (2 : Int) = some n → 1 ≤ n := by
    intro n hn
    obtain rfl := Option.some.inj hn
    decide
  obtain ⟨start, hstart, hruns⟩ := run_keeps_order (some 2) hl
  obtain ⟨entries, hr, hf, -⟩ := hruns sampleSteps
  refine ⟨hl, start, hstart, entries, hr, ?_, hf⟩
  obtain rfl : memory (some 2) [] = start := Except.ok.inj hstart
  obtain ⟨-, rfl⟩ := memory.inj (Except.ok.inj hr)
  rfl

end Cache

end HttpDigest

import HttpDigest.Credential
import HttpDigest.Log

namespace HttpDigest

-- A cache of credentials before a store: one that keeps nothing, or one that keeps up to a
-- limit of entries in the order in which their names came in
inductive Cache where
  | empty
  | memory (limit : Option Nat) (entries : OrderedMap String Credential)
deriving BEq, Repr

namespace Cache

def ofLimit (limit : Option Int) : Except Fault Cache :=
  match limit with
  | none => .ok (memory none [])
  | some n =>
    if n ≤ 0 then .error (.badValue (some "max_entries must be positive"))
    else .ok (memory (some n.toNat) [])

-- The limit that a value sets. No number of entries lies between a fraction and the next
-- integer, and beyond all integers there is no limit.
def limitOf : Value → Except Fault (Option Int)
  | .null => .ok none
  | .bool b => .ok (some (if b then 1 else 0))
  | .int n => .ok (some n)
  | .real x => .ok (if x.isNegative then some 0 else x.ceiling?)
  | _ => .error .wrongType

def entries : Cache → OrderedMap String Credential
  | empty => []
  | memory _ entries => entries

def get? (c : Cache) (username : String) : Option Credential :=
  c.entries.get? username

-- The entry that has to go before a name comes in: the oldest, if the name is new and the
-- cache holds as many entries as it may
def victim? (limit : Option Nat) (entries : OrderedMap String Credential) (username : String) :
    Option String :=
  match limit with
  | none => none
  | some n =>
    if !entries.contains username && n ≤ entries.length then entries.head?.map Prod.fst
    else none

def evicted? : Cache → String → Option String
  | empty, _ => none
  | memory limit entries, username => victim? limit entries username

-- A name that is present keeps its place
def put : Cache → String → Credential → Cache
  | empty, _, _ => empty
  | memory limit entries, username, credential =>
    memory limit (OrderedMap.insert (match victim? limit entries username with
      | some oldest => entries.erase oldest
      | none => entries) username credential)

@[simp] theorem get?_empty (username : String) : get? empty username = none := rfl

@[simp] theorem get?_put_self (limit : Option Nat) (entries : OrderedMap String Credential)
    (username : String) (credential : Credential) :
    ((memory limit entries).put username credential).get? username = some credential := by
  simp [put, get?, Cache.entries]

-- A name that came in changes what is found under no other name, save for the one that went
theorem get?_put_of_ne {limit : Option Nat} {entries : OrderedMap String Credential}
    {username other : String} (credential : Credential) (h : username ≠ other)
    (hv : victim? limit entries username ≠ some other) :
    ((memory limit entries).put username credential).get? other
      = (memory limit entries).get? other := by
  simp only [put, get?, Cache.entries, OrderedMap.get?_insert_of_ne h]
  split
  · rename_i oldest hoj
    exact OrderedMap.get?_erase_of_ne (fun he => hv (he ▸ hoj))
  · rfl

def Distinct (c : Cache) : Prop :=
  c.entries.keys.Nodup

theorem distinct_of_entries_eq_nil {c : Cache} (h : c.entries = []) : c.Distinct := by
  simp [Distinct, h]

theorem get?_of_entries_eq_nil {c : Cache} (h : c.entries = []) (username : String) :
    c.get? username = none := by
  simp [get?, h]

theorem Distinct.put {c : Cache} (h : c.Distinct) (username : String) (credential : Credential) :
    (c.put username credential).Distinct := by
  cases c with
  | empty => exact h
  | memory limit entries =>
    apply OrderedMap.nodup_keys_insert
    split
    · exact OrderedMap.nodup_keys_erase h
    · exact h

-- What is found once a name came in either came in with it or was there before
theorem Distinct.get?_of_get?_put {c : Cache} (h : c.Distinct) {username other : String}
    {credential found : Credential} (hg : (c.put username credential).get? other = some found) :
    (username = other ∧ credential = found) ∨ (username ≠ other ∧ c.get? other = some found) := by
  cases c with
  | empty => cases hg
  | memory limit entries =>
    by_cases hu : username = other
    · subst hu
      rw [get?_put_self] at hg
      exact .inl ⟨rfl, Option.some.inj hg⟩
    · simp only [Cache.put, get?, Cache.entries, OrderedMap.get?_insert_of_ne hu] at hg
      refine .inr ⟨hu, ?_⟩
      split at hg
      · exact OrderedMap.get?_of_get?_erase h hg
      · exact hg

def putLog (c : Cache) (username : String) : List Log.Line :=
  match c.evicted? username with
  | some oldest => [{
      level := .debug
      logger := "digest_auth.verification.cache"
      message := "Evicted cached credential for user: " ++ oldest }]
  | none => []

def remove : Cache → String → Except Fault Cache
  | empty, _ => .error .missingAttribute
  | memory limit entries, username => .ok (memory limit (entries.erase username))

def clear : Cache → Except Fault Cache
  | empty => .error .missingAttribute
  | memory limit _ => .ok (memory limit [])

def size : Cache → Except Fault Nat
  | empty => .error .wrongType
  | memory _ entries => .ok entries.length

end Cache

end HttpDigest

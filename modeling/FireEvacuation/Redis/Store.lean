import Mathlib.Data.Finset.Card
import Mathlib.Logic.Function.Basic
import FireEvacuation.Core.Overlay
import FireEvacuation.Platform.StackResult
import FireEvacuation.Redis.Format

/-!
# The Redis server and one command sent to it

A store maps keys to values; the commands are those the emergency server sends
(`HMSET`, `HKEYS`, `HVALS`, `SADD`), with the error replies for a wrong number of
arguments and for a key which holds another kind of value.

A command also travels over a connection.  The `Link` of a command says what
becomes of it there: it is executed and answered, it is refused with an error
reply (out of memory, read-only replica and so on), or the reply is lost and
`redisCommand` returns a null pointer, in which case the server may or may not
have executed it.
-/

namespace FireEvacuation
namespace Redis

open FireEvacuation.Core Platform

/-- The fields of a hash.  Redis leaves their order open; here they are sorted. -/
abbrev Hash := Std.ExtTreeMap String String

/-- The values a key can hold. -/
inductive Value where
  | string (text : String)
  | list (elements : List String)
  | set (members : Finset String)
  | hash (fields : Hash)
  deriving DecidableEq

/-- The content of the database. -/
abbrev Store := String → Option Value

/-- `redisReply`.  The elements of an array are given by their `str` members,
which are null for elements that are no strings. -/
inductive Reply where
  | status (str : String)
  | integer (value : Int)
  | string (str : String)
  | nil
  | error (str : String)
  | array (elements : List (Option String))
  deriving DecidableEq

/-- The member `str` of a reply, which is null for integers, nil and arrays. -/
def Reply.str : Reply → Option String
  | .status str | .string str | .error str => some str
  | .integer _ | .nil | .array _ => none

/-- The text of the reply for a key of another type. -/
def wrongType : Reply :=
  .error "WRONGTYPE Operation against a key holding the wrong kind of value"

/-- The text of the reply for a wrong number of arguments. -/
def wrongArity (cmd : String) : Reply :=
  .error ("ERR wrong number of arguments for '" ++ cmd ++ "' command")

/-- Set the fields of a hash from the arguments `field value field value …`. -/
def insertPairs : Hash → List String → Hash
  | fields, f :: v :: rest => insertPairs (fields.insert f v) rest
  | fields, _ => fields

/-- `HMSET key field value …`. -/
def hmset (key : String) (pairs : List String) (store : Store) : Reply × Store :=
  if pairs = [] ∨ pairs.length % 2 = 1 then (wrongArity "hmset", store)
  else
    match store key with
    | none => (.status "OK", Function.update store key (some (.hash (insertPairs ∅ pairs))))
    | some (.hash fields) =>
        (.status "OK", Function.update store key (some (.hash (insertPairs fields pairs))))
    | some _ => (wrongType, store)

/-- `SADD key member …`. -/
def sadd (key : String) (members : List String) (store : Store) : Reply × Store :=
  if members = [] then (wrongArity "sadd", store)
  else
    match store key with
    | none =>
        let stored := members.toFinset
        (.integer stored.card, Function.update store key (some (.set stored)))
    | some (.set old) =>
        let stored := old ∪ members.toFinset
        (.integer (stored.card - old.card), Function.update store key (some (.set stored)))
    | some _ => (wrongType, store)

/-- `HKEYS key` and `HVALS key`, which list one component of the fields. -/
def hlist (cmd : String) (part : String × String → String) (args : List String)
    (store : Store) : Reply :=
  match args with
  | [key] =>
      match store key with
      | none => .array []
      | some (.hash fields) => .array (fields.toList.map fun entry => some (part entry))
      | some _ => wrongType
  | _ => wrongArity cmd

/-- The server executes a command. -/
def execCommand (argv : List String) (store : Store) : Reply × Store :=
  match argv with
  | [] => (.error "ERR unknown command", store)
  | cmd :: args =>
      if cmd = "HMSET" then
        match args with
        | [] => (wrongArity "hmset", store)
        | key :: pairs => hmset key pairs store
      else if cmd = "SADD" then
        match args with
        | [] => (wrongArity "sadd", store)
        | key :: members => sadd key members store
      else if cmd = "HKEYS" then (hlist "hkeys" Prod.fst args store, store)
      else if cmd = "HVALS" then (hlist "hvals" Prod.snd args store, store)
      else (.error "ERR unknown command", store)

/-- What becomes of one command on the connection. -/
inductive Link where
  | up
  | refused (message : String)
  | lost (executed : Bool)
  deriving DecidableEq, Repr

/-- Whether the server executes the command. -/
def Link.executes : Link → Bool
  | .up => true
  | .refused _ => false
  | .lost executed => executed

/-- The pointer `redisCommand` returns for a command with the given reply. -/
def Link.answer : Link → Reply → Option Reply
  | .up, reply => some reply
  | .refused message, _ => some (.error message)
  | .lost _, _ => none

/-- `redisCommand(context, format, …)`: `none` is the null pointer. -/
def redisCommand (rejects : List Char → Bool) (link : Link) (format : CString)
    (ap : List CString) : Cpp Store (Option Reply) := fun store =>
  match redisvFormatCommand rejects format ap with
  | .undefined => .error .undefined store
  | .formatError => .ok none store
  | .args argv =>
      .ok (link.answer (execCommand argv store).1)
        (if link.executes then (execCommand argv store).2 else store)

/-! ## The commands on the keys they touch and on all others -/

/-- The hash a key holds: none at all counts as the empty one. -/
def storedHash (store : Store) (key : String) : Hash :=
  match store key with
  | some (.hash fields) => fields
  | _ => ∅

/-- The key is free or holds a hash, so that `HMSET` can write it. -/
def HoldsHash (store : Store) (key : String) : Prop :=
  store key = none ∨ ∃ fields, store key = some (.hash fields)

/-- The set a key holds. -/
def storedSet (store : Store) (key : String) : Finset String :=
  match store key with
  | some (.set members) => members
  | _ => ∅

/-- The key is free or holds a set, so that `SADD` can write it. -/
def HoldsSet (store : Store) (key : String) : Prop :=
  store key = none ∨ ∃ members, store key = some (.set members)

/-- The arguments `field value field value …` of a list of entries. -/
def flattenPairs (entries : List (String × String)) : List String :=
  entries.flatMap fun entry => [entry.1, entry.2]

@[simp] theorem flattenPairs_cons (entry : String × String)
    (entries : List (String × String)) :
    flattenPairs (entry :: entries) = entry.1 :: entry.2 :: flattenPairs entries := rfl

theorem insertPairs_flattenPairs (fields : Hash) (entries : List (String × String)) :
    insertPairs fields (flattenPairs entries) = fields.insertMany entries := by
  induction entries generalizing fields with
  | nil => rfl
  | cons entry entries ih =>
      rw [flattenPairs_cons, insertPairs, ih, Std.ExtTreeMap.insertMany_cons]

/-- `HMSET` with the entries of a map writes the map over the stored hash. -/
theorem insertPairs_toList (fields entries : Hash) :
    insertPairs fields (flattenPairs entries.toList) = overlay fields entries :=
  insertPairs_flattenPairs fields entries.toList

/-- Writing pairs over a hash: the value of a field is the one written, or the old one. -/
theorem getElem?_insertPairs (k : String) : ∀ (pairs : List String) (fields : Hash),
    (insertPairs fields pairs)[k]? = (insertPairs ∅ pairs)[k]?.or fields[k]?
  | [], fields => by simp [insertPairs]
  | [_], fields => by simp [insertPairs]
  | f :: v :: rest, fields => by
      rw [insertPairs, insertPairs, getElem?_insertPairs k rest (fields.insert f v),
        getElem?_insertPairs k rest ((∅ : Hash).insert f v), Option.or_assoc,
        Std.ExtTreeMap.getElem?_insert, Std.ExtTreeMap.getElem?_insert,
        Std.ExtTreeMap.getElem?_empty]
      split <;> simp

theorem length_flattenPairs (entries : List (String × String)) :
    (flattenPairs entries).length = 2 * entries.length := by
  induction entries with
  | nil => rfl
  | cons entry entries ih =>
      simp only [flattenPairs_cons, List.length_cons, ih]
      omega

theorem hmset_wrongArity {pairs : List String} (h : pairs = [] ∨ pairs.length % 2 = 1)
    (key : String) (store : Store) :
    hmset key pairs store = (wrongArity "hmset", store) := by
  rw [hmset, if_pos h]

theorem hmset_of_holdsHash {key : String} {pairs : List String} {store : Store}
    (hpairs : ¬(pairs = [] ∨ pairs.length % 2 = 1)) (h : HoldsHash store key) :
    hmset key pairs store =
      (.status "OK", Function.update store key
        (some (.hash (insertPairs (storedHash store key) pairs)))) := by
  rw [hmset, if_neg hpairs, storedHash]
  obtain h | ⟨fields, h⟩ := h <;> simp only [h]

/-- The values of other kinds. -/
theorem other_of_not_holdsHash {key : String} {store : Store} (h : ¬HoldsHash store key) :
    (∃ text, store key = some (.string text)) ∨ (∃ items, store key = some (.list items)) ∨
      ∃ members, store key = some (.set members) := by
  cases hkey : store key with
  | none => exact absurd (Or.inl hkey) h
  | some value =>
      cases value with
      | hash fields => exact absurd (Or.inr ⟨fields, hkey⟩) h
      | string text => exact .inl ⟨text, rfl⟩
      | list items => exact .inr (.inl ⟨items, rfl⟩)
      | set members => exact .inr (.inr ⟨members, rfl⟩)

theorem hmset_of_not_holdsHash {key : String} {pairs : List String} {store : Store}
    (hpairs : ¬(pairs = [] ∨ pairs.length % 2 = 1)) (h : ¬HoldsHash store key) :
    hmset key pairs store = (wrongType, store) := by
  rw [hmset, if_neg hpairs]
  obtain ⟨_, h⟩ | ⟨_, h⟩ | ⟨_, h⟩ := other_of_not_holdsHash h <;> simp only [h]

/-- `HMSET` changes nothing for a key of another kind. -/
theorem hmset_unchanged {key : String} {store : Store} (h : ¬HoldsHash store key)
    (pairs : List String) : (hmset key pairs store).2 = store := by
  by_cases hpairs : pairs = [] ∨ pairs.length % 2 = 1
  · rw [hmset_wrongArity hpairs]
  · rw [hmset_of_not_holdsHash hpairs h]

/-- `HMSET` leaves every other key alone. -/
theorem hmset_other {key other : String} (hne : other ≠ key) (pairs : List String)
    (store : Store) : (hmset key pairs store).2 other = store other := by
  by_cases hpairs : pairs = [] ∨ pairs.length % 2 = 1
  · rw [hmset_wrongArity hpairs]
  · by_cases h : HoldsHash store key
    · rw [hmset_of_holdsHash hpairs h]
      exact Function.update_of_ne hne _ _
    · rw [hmset_of_not_holdsHash hpairs h]

theorem sadd_of_holdsSet {key : String} {store : Store} (h : HoldsSet store key)
    (member : String) :
    ∃ added : Int, sadd key [member] store =
      (.integer added, Function.update store key
        (some (.set (insert member (storedSet store key))))) := by
  have hne : ¬([member] = ([] : List String)) := List.cons_ne_nil _ _
  obtain h | ⟨members, h⟩ := h
  · refine ⟨1, ?_⟩
    rw [sadd, if_neg hne, storedSet]
    simp only [h]
    rfl
  · refine ⟨(members ∪ [member].toFinset).card - members.card, ?_⟩
    rw [sadd, if_neg hne, storedSet]
    simp only [h]
    congr 4
    rw [List.toFinset_cons, List.toFinset_nil, insert_empty_eq, Finset.union_comm,
      Finset.insert_eq]

theorem sadd_of_not_holdsSet {key : String} {store : Store} (h : ¬HoldsSet store key)
    (member : String) : sadd key [member] store = (wrongType, store) := by
  rw [sadd, if_neg (List.cons_ne_nil _ _)]
  cases hkey : store key with
  | none => exact absurd (Or.inl hkey) h
  | some value =>
      cases value with
      | set members => exact absurd (Or.inr ⟨members, hkey⟩) h
      | string _ => rfl
      | list _ => rfl
      | hash _ => rfl

theorem storedHash_congr {store store' : Store} {key : String} (h : store key = store' key) :
    storedHash store key = storedHash store' key := by
  rw [storedHash, h, storedHash]

theorem storedSet_congr {store store' : Store} {key : String} (h : store key = store' key) :
    storedSet store key = storedSet store' key := by
  rw [storedSet, h, storedSet]

theorem storedHash_of_not_holdsHash {store : Store} {key : String}
    (h : ¬HoldsHash store key) : storedHash store key = ∅ := by
  rw [storedHash]
  obtain ⟨_, h⟩ | ⟨_, h⟩ | ⟨_, h⟩ := other_of_not_holdsHash h <;> simp only [h]

theorem holdsHash_congr {store store' : Store} {key : String} (h : store key = store' key) :
    HoldsHash store key ↔ HoldsHash store' key := by
  rw [HoldsHash, h, HoldsHash]

/-- `SADD` leaves every other key alone. -/
theorem sadd_other {key other : String} (hne : other ≠ key) (member : String)
    (store : Store) : (sadd key [member] store).2 other = store other := by
  by_cases h : HoldsSet store key
  · obtain ⟨added, hadd⟩ := sadd_of_holdsSet h member
    rw [hadd]
    exact Function.update_of_ne hne _ _
  · rw [sadd_of_not_holdsSet h]

theorem storedSet_sadd {key : String} {store : Store} (h : HoldsSet store key)
    (member : String) :
    storedSet (sadd key [member] store).2 key = insert member (storedSet store key) := by
  obtain ⟨added, hadd⟩ := sadd_of_holdsSet h member
  rw [hadd]
  simp only [storedSet, Function.update_self]

/-- No hash is changed by `SADD`, not even under its own key. -/
theorem storedHash_sadd (key member : String) (store : Store) (other : String) :
    storedHash (sadd key [member] store).2 other = storedHash store other := by
  by_cases hne : other = key
  · subst hne
    by_cases h : HoldsSet store other
    · obtain ⟨added, hadd⟩ := sadd_of_holdsSet h member
      rw [hadd]
      obtain h | ⟨members, h⟩ := h <;> simp only [storedHash, Function.update_self, h]
    · rw [sadd_of_not_holdsSet h]
  · exact storedHash_congr (sadd_other hne member store)

/-- No set is changed by `HMSET`. -/
theorem storedSet_hmset (key : String) (pairs : List String) (store : Store)
    (other : String) : storedSet (hmset key pairs store).2 other = storedSet store other := by
  by_cases hne : other = key
  · subst hne
    by_cases hpairs : pairs = [] ∨ pairs.length % 2 = 1
    · rw [hmset_wrongArity hpairs]
    · by_cases h : HoldsHash store other
      · rw [hmset_of_holdsHash hpairs h]
        obtain h | ⟨fields, h⟩ := h <;> simp only [storedSet, Function.update_self, h]
      · rw [hmset_of_not_holdsHash hpairs h]
  · exact storedSet_congr (hmset_other hne pairs store)

/-- What `HMSET` makes of its key depends on nothing else in the store. -/
theorem hmset_congr {key : String} {store store' : Store} (h : store key = store' key)
    (pairs : List String) : (hmset key pairs store).2 key = (hmset key pairs store').2 key := by
  by_cases hpairs : pairs = [] ∨ pairs.length % 2 = 1
  · rw [hmset_wrongArity hpairs, hmset_wrongArity hpairs]
    exact h
  · by_cases hholds : HoldsHash store key
    · rw [hmset_of_holdsHash hpairs hholds,
        hmset_of_holdsHash hpairs ((holdsHash_congr h).mp hholds), storedHash_congr h]
      simp only [Function.update_self]
    · rw [hmset_unchanged hholds, hmset_unchanged (mt (holdsHash_congr h).mpr hholds), h]

/-- The hash after `HMSET`, for a key which can hold one. -/
theorem storedHash_hmset {key : String} {store : Store} (h : HoldsHash store key)
    {pairs : List String} (hpairs : pairs.length % 2 = 0) :
    storedHash (hmset key pairs store).2 key = insertPairs (storedHash store key) pairs := by
  cases pairs with
  | nil =>
      rw [hmset_wrongArity (Or.inl rfl)]
      rfl
  | cons f pairs =>
      have hright : ¬(f :: pairs = [] ∨ (f :: pairs).length % 2 = 1) := by
        rintro (hnil | hodd)
        · cases hnil
        · omega
      rw [hmset_of_holdsHash hright h]
      simp only [storedHash, Function.update_self]

theorem execCommand_hmset (key : String) (pairs : List String) (store : Store) :
    execCommand ("HMSET" :: key :: pairs) store = hmset key pairs store := rfl

theorem execCommand_sadd (key : String) (members : List String) (store : Store) :
    execCommand ("SADD" :: key :: members) store = sadd key members store := rfl

end Redis
end FireEvacuation

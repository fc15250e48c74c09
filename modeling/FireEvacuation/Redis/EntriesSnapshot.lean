import FireEvacuation.Core.Transition
import FireEvacuation.Redis.RedisDb

/-!
# Reading a hash while others write it

`getEntries` asks for the fields of a hash with one command and for its values with a
second one, and puts the two lists together by position.  In between the server executes
commands of other clients.

A hash has no order of its own, but the server lists it in some order, and in the same order
in both commands as long as nothing happens to the hash.  So a hash is given here as it is
listed; a command which adds a field may put it anywhere, and the server may change the
order at any time.
-/

namespace FireEvacuation
namespace Redis

open FireEvacuation.Core FireEvacuation.Core.Effect Platform RedisDb

/-! ## A hash as it is listed -/

/-- The entries of a hash in the order of the server. -/
structure ListedHash where
  entries : List (String × String)
  nodup : (entries.map Prod.fst).Nodup
  deriving DecidableEq

namespace ListedHash

def empty : ListedHash := ⟨[], List.nodup_nil⟩

def names (h : ListedHash) : List String := h.entries.map Prod.fst

/-- Another value for the field. -/
def withValue (field value : String) (entry : String × String) : String × String :=
  if entry.1 = field then (field, value) else entry

theorem map_fst_withValue (field value : String) (entries : List (String × String)) :
    (entries.map (withValue field value)).map Prod.fst = entries.map Prod.fst := by
  rw [List.map_map]
  refine List.map_congr_left fun entry _ => ?_
  show (withValue field value entry).1 = entry.1
  rw [withValue]
  split
  · rename_i hfield
    exact hfield.symm
  · rfl

/-- A field which is there gets another value. -/
def overwrite (h : ListedHash) (field value : String) : ListedHash where
  entries := h.entries.map (withValue field value)
  nodup := by
    rw [map_fst_withValue]
    exact h.nodup

/-- A new field is listed at some position. -/
def insertAt (h : ListedHash) (field value : String) (position : Nat)
    (hnew : field ∉ h.names) : ListedHash where
  entries := h.entries.take position ++ (field, value) :: h.entries.drop position
  nodup := by
    have hperm : (h.entries.take position ++ (field, value) :: h.entries.drop position).Perm
        ((field, value) :: h.entries) := by
      apply List.perm_middle.trans
      rw [List.take_append_drop]
    rw [(hperm.map Prod.fst).nodup_iff, List.map_cons, List.nodup_cons]
    exact ⟨hnew, h.nodup⟩

/-- A field is deleted. -/
def erase (h : ListedHash) (field : String) : ListedHash where
  entries := h.entries.filter fun entry => entry.1 ≠ field
  nodup := h.nodup.sublist (List.filter_sublist.map Prod.fst)

/-- The server lists the entries in another order. -/
def reorder (h : ListedHash) (entries : List (String × String))
    (hperm : entries.Perm h.entries) : ListedHash where
  entries := entries
  nodup := (hperm.map Prod.fst).nodup_iff.mpr h.nodup

/-- A field which is written.  The position is where it is listed when it is new. -/
structure Written where
  field : String
  value : String
  position : Nat
  deriving DecidableEq

def write (h : ListedHash) (w : Written) : ListedHash :=
  if hfield : w.field ∈ h.names then h.overwrite w.field w.value
  else h.insertAt w.field w.value w.position hfield

end ListedHash

/-- What the key holds.  No hash and a hash without fields are the same. -/
inductive HashKey where
  | hash (fields : ListedHash)
  | other
  deriving DecidableEq

namespace HashKey

def entries : HashKey → List (String × String)
  | .hash h => h.entries
  | .other => []

theorem nodup : (k : HashKey) → (k.entries.map Prod.fst).Nodup
  | .hash h => h.nodup
  | .other => List.nodup_nil

/-- The answer to a command which lists one component of the fields. -/
def listing (part : String × String → String) : HashKey → Reply
  | .hash h => .array ((h.entries.map part).map some)
  | .other => wrongType

/-- The answer to `HKEYS`. -/
def hkeys (k : HashKey) : Reply := k.listing Prod.fst

/-- The answer to `HVALS`. -/
def hvals (k : HashKey) : Reply := k.listing Prod.snd

end HashKey

/-- A command another client sends for the key, or a change of the order.  `hset` is `HSET`
and `HMSET`, which write any number of fields at once. -/
inductive HashCommand where
  | hset (fields : List ListedHash.Written)
  | hdel (field : String)
  | del
  | set
  | reorder (entries : List (String × String))
  deriving DecidableEq

/-- What the server makes of it.  A key which holds something else refuses the commands for
a hash. -/
def hashStep : HashKey → HashCommand → Option HashKey
  | .hash h, .hset fields => some (.hash (fields.foldl ListedHash.write h))
  | .hash h, .hdel field => some (.hash (h.erase field))
  | .hash h, .reorder entries =>
      if hperm : entries.Perm h.entries then some (.hash (h.reorder entries hperm)) else none
  | .other, .hset _ => some .other
  | .other, .hdel _ => some .other
  | .other, .reorder _ => none
  | _, .del => some (.hash .empty)
  | _, .set => some .other

/-! ## `getEntries` -/

/-- The map with these entries, the last one of a name. -/
def mapOf (entries : List (String × String)) : StringMap :=
  entries.foldl (fun entry field => entry.insert field.1 field.2) ∅

/-- `getEntries` with the answers to its two commands. -/
def entriesOfReplies (hkeys hvals : Reply) : Cpp Store StringMap := do
  let keys ← replyElements hkeys
  let values ← replyElements hvals
  if keys.length ≠ values.length then
    throwException (.lengthError "key and value doesn't sample length")
  else pure (mapOf (keys.zip values))

/-- The key as the store of the server has it, listed in the order of the names. -/
def listedKey (store : Store) (key : String) : HashKey :=
  match store key with
  | none => .hash .empty
  | some (.hash fields) => .hash {
      entries := fields.toList
      nodup := by
        refine List.pairwise_map.mpr (fields.distinct_keys_toList.imp fun hne heq => hne ?_)
        rw [heq]
        exact Std.ReflCmp.compare_self }
  | some _ => .other

section Replies

variable (k : HashKey) (store : Store)

/-- A text of the server as `std::string element(str)` reads it. -/
def cutText (text : String) : String := (cStr text).text

theorem replyElements_listing (part : String × String → String) :
    replyElements (k.listing part) store = .ok ((k.entries.map part).map cutText) store := by
  cases k with
  | hash h => exact resultList_some (h.entries.map part) store
  | other => rfl

/-- What the server answers is the listing of the key. -/
theorem hlist_eq_listing (name : String) (part : String × String → String) (key : String) :
    hlist name part [key] store = (listedKey store key).listing part := by
  rw [hlist, listedKey]
  cases store key with
  | none => rfl
  | some value =>
      cases value with
      | hash fields =>
          show Reply.array _ = Reply.array _
          rw [List.map_map]
          rfl
      | string _ => rfl
      | list _ => rfl
      | set _ => rfl

/-- The two answers put together: an exception, or the names of the first one with the
values of the second one. -/
theorem entriesOfReplies_eq (last : HashKey) :
    entriesOfReplies k.hkeys last.hvals store =
      if k.entries.length ≠ last.entries.length then
        .error (.exception (.lengthError "key and value doesn't sample length")) store
      else
        .ok (mapOf (((k.entries.map Prod.fst).zip (last.entries.map Prod.snd)).map seenField))
          store := by
  rw [entriesOfReplies, HashKey.hkeys, HashKey.hvals,
    bind_of_ok (replyElements_listing k store Prod.fst),
    bind_of_ok (replyElements_listing last store Prod.snd)]
  simp only [List.length_map]
  split
  · rfl
  · rw [List.zip_map]
    rfl

/-- That is `getEntries` when nothing happens in between. -/
theorem getEntries_eq (rejects : List Char → Bool) (key : CString) :
    getEntries rejects .up .up key store =
      entriesOfReplies (listedKey store key.text).hkeys (listedKey store key.text).hvals store := by
  have hexecute : ∀ {cmd : CString} {reply : Reply},
      execCommand [cmd.text, key.text] store = (reply, store) →
        execute rejects .up cmd key store = replyElements reply store := by
    intro cmd reply hcmd
    rw [execute, bind_of_ok (redisCommand_of_args (format_two _ _) .up store), hcmd]
    rfl
  have hkeys := hexecute (execCommand_hkeys key.text store)
  have hvals := hexecute (execCommand_hvals key.text store)
  rw [hlist_eq_listing, replyElements_listing] at hkeys hvals
  rw [getEntries, bind_of_ok hkeys, bind_of_ok hvals, entriesOfReplies, HashKey.hkeys,
    HashKey.hvals, bind_of_ok (replyElements_listing _ store Prod.fst),
    bind_of_ok (replyElements_listing _ store Prod.snd)]
  rfl

end Replies

/-! ## What the map of a list of entries holds -/

theorem mapOf_append_singleton (entries : List (String × String)) (field : String × String) :
    mapOf (entries ++ [field]) = (mapOf entries).insert field.1 field.2 := by
  rw [mapOf, List.foldl_append]
  rfl

/-- The map has the value of the last entry with the name. -/
def LastOf (entries : List (String × String)) (f v : String) : Prop :=
  ∃ before after, entries = before ++ (f, v) :: after ∧ f ∉ after.map Prod.fst

theorem lastOf_append_singleton (entries : List (String × String)) (f v name value : String) :
    LastOf (entries ++ [(name, value)]) f v ↔
      (if name = f then value = v else LastOf entries f v) := by
  constructor
  · rintro ⟨before, after, heq, hnot⟩
    rcases List.eq_nil_or_concat after with rfl | ⟨rest, last, rfl⟩
    · have hlast := (List.append_inj' heq rfl).2
      cases hlast
      rw [if_pos rfl]
    · -- the new entry is one of those behind the last `f`
      rw [List.concat_eq_append, ← List.cons_append, ← List.append_assoc] at heq
      obtain ⟨hinit, hlast⟩ := List.append_inj' heq rfl
      cases hlast
      rw [List.concat_eq_append, List.map_append, List.mem_append, not_or] at hnot
      have hne : name ≠ f := fun h => hnot.2 (List.mem_singleton.mpr h.symm)
      rw [if_neg hne]
      exact ⟨before, rest, hinit, hnot.1⟩
  · intro h
    split at h
    · rename_i hname
      subst hname h
      exact ⟨entries, [], rfl, List.not_mem_nil⟩
    · rename_i hname
      obtain ⟨before, after, rfl, hnot⟩ := h
      refine ⟨before, after ++ [(name, value)], by simp, ?_⟩
      rw [List.map_append, List.mem_append, not_or]
      exact ⟨hnot, fun h => hname (List.mem_singleton.mp h).symm⟩

theorem getElem?_mapOf (entries : List (String × String)) (f v : String) :
    (mapOf entries)[f]? = some v ↔ LastOf entries f v := by
  induction entries using List.reverseRecOn with
  | nil =>
      constructor
      · intro h
        rw [mapOf, List.foldl_nil, Std.ExtTreeMap.getElem?_empty] at h
        cases h
      · rintro ⟨before, after, h, -⟩
        simp at h
  | append_singleton entries field ih =>
      rw [mapOf_append_singleton, Std.ExtTreeMap.getElem?_insert, lastOf_append_singleton, ← ih]
      simp only [Std.LawfulEqCmp.compare_eq_iff_eq]
      split
      · exact Option.some_inj
      · exact Iff.rfl

/-- Among entries with different names every one is the last of its name. -/
theorem lastOf_iff_mem {entries : List (String × String)}
    (hnodup : (entries.map Prod.fst).Nodup) (f v : String) :
    LastOf entries f v ↔ (f, v) ∈ entries := by
  constructor
  · rintro ⟨before, after, rfl, -⟩
    exact List.mem_append_right before List.mem_cons_self
  · intro h
    obtain ⟨before, after, rfl⟩ := List.append_of_mem h
    rw [List.map_append, List.map_cons] at hnodup
    have hcons := (List.nodup_append.mp hnodup).2.1
    exact ⟨before, after, rfl, (List.nodup_cons.mp hcons).1⟩

theorem mapOf_eq_iff (entries : List (String × String)) (u : HashKey) :
    mapOf entries = mapOf u.entries ↔ ∀ f v, (f, v) ∈ u.entries ↔ LastOf entries f v := by
  have hmap : ∀ f v : String, (mapOf u.entries)[f]? = some v ↔ (f, v) ∈ u.entries := by
    intro f v
    rw [getElem?_mapOf, lastOf_iff_mem u.nodup]
  constructor
  · intro h f v
    rw [← hmap, ← h, getElem?_mapOf]
  · intro h
    apply Std.ExtTreeMap.ext_getElem?
    intro f
    ext v
    rw [getElem?_mapOf, hmap, h f v]

/-! ## Snapshots -/

/-- At some instant of the run, the first and the last one included, the hash is this map. -/
def HadMap (first : HashKey) (commands : List HashCommand) (entry : StringMap) : Prop :=
  ∃ before, before <+: commands ∧
    ∃ u, run hashStep first before = some u ∧ entry = mapOf u.entries

/-- `getEntries` throws, or returns what the hash was at one instant between its two
commands. -/
def SnapshotRead (store : Store) (first : HashKey) (commands : List HashCommand)
    (last : HashKey) : Prop :=
  match entriesOfReplies first.hkeys last.hvals store with
  | .ok entry _ => HadMap first commands entry
  | .error (.exception _) _ => True
  | .error _ _ => False

/-- The names listed first and the values listed last, put together by position. -/
def pairedFields (first last : HashKey) : List (String × String) :=
  ((first.entries.map Prod.fst).zip (last.entries.map Prod.snd)).map seenField

/-- At some instant of the run the fields of the hash are those of a list. -/
def HadFields (first : HashKey) (commands : List HashCommand)
    (entries : List (String × String)) : Prop :=
  ∃ before, before <+: commands ∧
    ∃ u, run hashStep first before = some u ∧ ∀ f v, (f, v) ∈ u.entries ↔ LastOf entries f v

theorem snapshotRead_iff (store : Store) (first last : HashKey) (commands : List HashCommand) :
    SnapshotRead store first commands last ↔
      first.entries.length ≠ last.entries.length ∨
        HadFields first commands (pairedFields first last) := by
  rw [SnapshotRead, entriesOfReplies_eq]
  by_cases hlength : first.entries.length = last.entries.length
  · rw [if_neg (not_not.mpr hlength)]
    constructor
    · rintro ⟨before, hbefore, u, hrun, heq⟩
      exact Or.inr ⟨before, hbefore, u, hrun, (mapOf_eq_iff _ u).mp heq⟩
    · rintro (hne | ⟨before, hbefore, u, hrun, hfields⟩)
      · exact absurd hlength hne
      · exact ⟨before, hbefore, u, hrun, (mapOf_eq_iff _ u).mpr hfields⟩
  · rw [if_pos hlength]
    exact iff_of_true trivial (Or.inl hlength)

/-! ## Runs which keep the listing -/

/-- The command leaves the names and their order as they are, and writes no terminator. -/
def KeepsListing : HashKey → HashCommand → Prop
  | .hash h, .hset fields => ∀ w ∈ fields, w.field ∈ h.names ∧ nul ∉ w.value.toList
  | .hash h, .hdel field => field ∉ h.names
  | .hash h, .reorder entries => entries = h.entries
  | .hash h, .del | .hash h, .set => h.entries = []
  | .other, _ => True

instance decidableKeepsListing :
    (k : HashKey) → (c : HashCommand) → Decidable (KeepsListing k c)
  | .hash h, .hset fields =>
      inferInstanceAs (Decidable (∀ w ∈ fields, w.field ∈ h.names ∧ nul ∉ w.value.toList))
  | .hash h, .hdel field => inferInstanceAs (Decidable (field ∉ h.names))
  | .hash h, .reorder entries => inferInstanceAs (Decidable (entries = h.entries))
  | .hash h, .del | .hash h, .set => inferInstanceAs (Decidable (h.entries = []))
  | .other, .hset _ | .other, .hdel _ | .other, .del | .other, .set | .other, .reorder _ =>
      isTrue trivial

instance decidableCleanField (field : String × String) : Decidable (CleanField field) :=
  inferInstanceAs (Decidable (nul ∉ field.1.toList ∧ nul ∉ field.2.toList))

/-- The key lists these names, and no text has a terminator. -/
structure Listing (names : List String) (k : HashKey) : Prop where
  names : k.entries.map Prod.fst = names
  clean : ∀ field ∈ k.entries, CleanField field

/-- A field which is there gets its new value where it stands. -/
theorem Listing.write {names : List String} {h : ListedHash} {w : ListedHash.Written}
    (hk : Listing names (.hash h)) (hfield : w.field ∈ names) (hvalue : nul ∉ w.value.toList) :
    Listing names (.hash (h.write w)) := by
  have hmem : w.field ∈ h.names := by
    rw [ListedHash.names, show h.entries.map Prod.fst = names from hk.names]
    exact hfield
  rw [ListedHash.write, dif_pos hmem]
  constructor
  · exact (ListedHash.map_fst_withValue w.field w.value h.entries).trans hk.names
  · intro entry hentry
    obtain ⟨old, hold, rfl⟩ := List.mem_map.mp hentry
    rw [ListedHash.withValue]
    split
    · rename_i hname
      exact ⟨hname ▸ (hk.clean old hold).1, hvalue⟩
    · exact hk.clean old hold

theorem Listing.writes {names : List String} {fields : List ListedHash.Written} {h : ListedHash}
    (hk : Listing names (.hash h))
    (hfields : ∀ w ∈ fields, w.field ∈ names ∧ nul ∉ w.value.toList) :
    Listing names (.hash (fields.foldl ListedHash.write h)) := by
  induction fields generalizing h with
  | nil => exact hk
  | cons w fields ih =>
      obtain ⟨hfield, hvalue⟩ := hfields w List.mem_cons_self
      exact ih (hk.write hfield hvalue) fun v hv => hfields v (List.mem_cons_of_mem w hv)

/-- **One command.** -/
theorem Listing.step {names : List String} {k k' : HashKey} {c : HashCommand}
    (hk : Listing names k) (hkeeps : KeepsListing k c) (hstep : hashStep k c = some k') :
    Listing names k' := by
  cases k with
  | other =>
      cases c with
      | reorder entries => cases hstep
      | hset fields | hdel field | del | set =>
          cases hstep
          exact ⟨hk.names, hk.clean⟩
  | hash h =>
      cases c with
      | hset fields =>
          cases hstep
          have hnames : h.names = names := hk.names
          exact hk.writes fun w hw => hnames ▸ hkeeps w hw
      | hdel field =>
          cases hstep
          have hall : (h.erase field).entries = h.entries := by
            refine List.filter_eq_self.mpr fun entry hentry => decide_eq_true ?_
            intro heq
            exact hkeeps (heq ▸ List.mem_map_of_mem hentry)
          constructor
          · exact (congrArg (List.map Prod.fst) hall).trans hk.names
          · intro entry hentry
            rw [HashKey.entries, hall] at hentry
            exact hk.clean entry hentry
      | del | set =>
          cases hstep
          have hnil : h.entries = [] := hkeeps
          constructor
          · exact (congrArg (List.map Prod.fst) hnil).symm.trans hk.names
          · intro entry hentry
            cases hentry
      | reorder entries =>
          have hsame : entries = h.entries := hkeeps
          subst hsame
          rw [hashStep, dif_pos (List.Perm.refl _)] at hstep
          cases hstep
          exact hk

/-- Names which stay and values read at the end are what the hash is at the end. -/
theorem pairedFields_of_listing {first last : HashKey}
    (hlast : Listing (first.entries.map Prod.fst) last) :
    pairedFields first last = last.entries := by
  have hzip : (last.entries.map Prod.fst).zip (last.entries.map Prod.snd) = last.entries := by
    rw [List.zip_map', List.map_id'']
    exact fun _ => rfl
  rw [pairedFields, ← hlast.names, hzip]
  refine (List.map_congr_left fun field hfield => ?_).trans (List.map_id last.entries)
  have hclean : CleanField field := hlast.clean field hfield
  rw [seenField, cStr_text_of_noNul hclean.1, cStr_text_of_noNul hclean.2]
  rfl

/-- **A whole run.**  What `getEntries` returns is the hash as it is in the end. -/
theorem snapshotRead_of_guarded (store : Store) {first last : HashKey}
    {commands : List HashCommand} (hclean : ∀ field ∈ first.entries, CleanField field)
    (hrun : run hashStep first commands = some last)
    (hguarded : Guarded hashStep KeepsListing first commands) :
    SnapshotRead store first commands last := by
  have hpres : ∀ k c k', Listing (first.entries.map Prod.fst) k → KeepsListing k c →
      hashStep k c = some k' → Listing (first.entries.map Prod.fst) k' :=
    fun k c k' hk hkeeps hstep => hk.step hkeeps hstep
  have hlast : Listing (first.entries.map Prod.fst) last :=
    hguarded.invariant hpres hrun ⟨rfl, hclean⟩
  rw [snapshotRead_iff]
  refine Or.inr ⟨commands, List.prefix_rfl, last, hrun, fun f v => ?_⟩
  rw [pairedFields_of_listing hlast, lastOf_iff_mem last.nodup]

/-- `getEntries` returns a snapshot when the other clients keep the listing.  In any run it
does if and only if the number of fields changed, or the names listed first with the values
listed last are what the hash was at some instant. -/
theorem entriesSnapshot (store : Store) (first last : HashKey) (commands : List HashCommand)
    (hrun : run hashStep first commands = some last) :
    ((∀ field ∈ first.entries, CleanField field) →
        Guarded hashStep KeepsListing first commands → SnapshotRead store first commands last) ∧
      (SnapshotRead store first commands last ↔
        first.entries.length ≠ last.entries.length ∨
          HadFields first commands (pairedFields first last)) :=
  ⟨fun hclean hguarded => snapshotRead_of_guarded store hclean hrun hguarded,
    snapshotRead_iff store first last commands⟩

/-- A hash with the two fields of a posted resource. -/
def twoFields : HashKey := .hash ⟨[("ip", "10.0.0.2"), ("port", "5683")], by decide⟩

/-- Both values are written anew in between. -/
theorem entriesSnapshot_overwritten :
    SnapshotRead (fun _ => none) twoFields
      [.hset [⟨"port", "5684", 0⟩, ⟨"ip", "10.0.0.3", 0⟩]]
      (.hash ⟨[("ip", "10.0.0.3"), ("port", "5684")], by decide⟩) :=
  (entriesSnapshot _ _ _ _ (by decide)).1 (by decide) (by decide)

/-- After one field is deleted. -/
def withoutIp : HashKey := .hash ⟨[("port", "5683")], by decide⟩

/-- After another one is added, too. -/
def exchanged : HashKey := .hash ⟨[("port", "5683"), ("type", "led")], by decide⟩

theorem not_snapshotRead_exchanged :
    ¬∀ (store : Store) (first last : HashKey) (commands : List HashCommand),
      run hashStep first commands = some last → SnapshotRead store first commands last := by
  intro h
  have hread := h (fun _ => none) twoFields exchanged [.hdel "ip", .hset [⟨"type", "led", 1⟩]]
    (by decide)
  rw [snapshotRead_iff] at hread
  rcases hread with hlength | ⟨before, hbefore, u, hrun, hfields⟩
  · exact absurd rfl hlength
  · -- at no instant the field `ip` has the value of the field `port`
    have hnever : Throughout hashStep (fun u => ("ip", "5683") ∉ u.entries) twoFields
        [.hdel "ip", .hset [⟨"type", "led", 1⟩]] := by
      rw [throughout_cons (by decide : hashStep twoFields (.hdel "ip") = some withoutIp),
        throughout_cons (by decide : hashStep withoutIp (.hset [⟨"type", "led", 1⟩]) = some exchanged),
        throughout_nil]
      decide
    exact hnever before hbefore u hrun ((hfields "ip" "5683").mpr
      ⟨[], [("port", "led")], by decide, by decide⟩)

end Redis
end FireEvacuation

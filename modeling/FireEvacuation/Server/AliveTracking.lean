import FireEvacuation.Server.StoreRefinement

/-!
# Which devices are alive

An observation which is cancelled should mark the device of its client as not alive.
The way from the observation to the device is `resource_table`: a `POST` enters its uuid
under the id of its own request, which is always `0`, and the cancellation looks up the
id the stack drew for the observation.

The runs here are those of any number of clients.  Next to the state of the server and
the stack's observers a world carries what the clients themselves know: the device each
one posted last, and whether it cancelled since.
-/

namespace FireEvacuation
namespace Server

open FireEvacuation.Core FireEvacuation.Core.Effect Platform Redis DevMgmt

variable {Client : Type} {externals : Externals}

/-- The server, the stack's observers with their owners, and the clients' knowledge. -/
structure World (Client : Type) where
  server : ServerState
  observers : List (Client × UInt8)
  posted : Client → Option Device
  cancelled : Client → Bool

/-- No client has done anything yet. -/
def World.initial (redis : Store) : World Client where
  server := .initial redis
  observers := []
  posted := fun _ => none
  cancelled := fun _ => false

/-- What a client can do. -/
inductive ClientAction (externals : Externals) (Client : Type) where
  | register (client : Client) (obsId : UInt8)
  | post (client : Client) (posting : Posting externals)
  | cancel (client : Client) (obsId : UInt8)

/-- The stack draws ids which no observer has, a client posts under its own uuid, and
only an observation which exists can be cancelled. -/
def ClientAction.Possible (uuidOf : Client → String) (w : World Client) :
    ClientAction externals Client → Prop
  | .register _ obsId => ∀ observer ∈ w.observers, observer.2 ≠ obsId
  | .post client posting => posting.device.uuid = uuidOf client
  | .cancel client obsId => (client, obsId) ∈ w.observers

instance [DecidableEq Client] (uuidOf : Client → String) (w : World Client)
    (action : ClientAction externals Client) : Decidable (action.Possible uuidOf w) := by
  cases action <;> unfold ClientAction.Possible <;> infer_instance

/-- The request the stack makes of an action. -/
def ClientAction.request : ClientAction externals Client → OCResourceRequest
  | .register _ obsId => observeRequest ⟨.observeRegister, obsId⟩
  | .post _ posting => posting.request
  | .cancel _ obsId => observeRequest ⟨.observeUnregister, obsId⟩

/-- The rest of the world after an action. -/
def ClientAction.update [DecidableEq Client] (w : World Client) (server : ServerState) :
    ClientAction externals Client → World Client
  | .register client obsId =>
      { w with server := server, observers := w.observers ++ [(client, obsId)] }
  | .post client posting =>
      { w with
        server := server
        posted := Function.update w.posted client (some posting.device)
        cancelled := Function.update w.cancelled client false }
  | .cancel client obsId =>
      { w with
        server := server
        observers := w.observers.filter (· ≠ (client, obsId))
        cancelled := Function.update w.cancelled client true }

/-- One action, when everything around the server works. -/
def worldStep [DecidableEq Client] (uuidOf : Client → String) (w : World Client)
    (action : ClientAction externals Client) : Option (World Client) :=
  if action.Possible uuidOf w then
    match EntityHandlerCB externals .good (some action.request) w.server with
    | .ok _ server => some (action.update w server)
    | .error _ _ => none
  else none

/-- The field `al` of a uuid. -/
def aliveField (store : Store) (uuid : String) : Option String := (storedHash store uuid)["al"]?

/-- The field a device is posted with. -/
def postedAlive (device : Device) : String := streamBool device.deviceClass.getAliveState

/-- A client which has not cancelled since is as alive as it last posted. -/
def Tracked (w : World Client) : Prop :=
  ∀ client device, w.posted client = some device → w.cancelled client = false →
    aliveField w.server.redis device.uuid = some (postedAlive device)

/-- A cancellation marks the hash of the device its client last posted, and changes
nothing else in the store. -/
def CancelMarks (client : Client) (w t : World Client) : Prop :=
  ∀ device, w.posted client = some device →
    aliveField t.server.redis device.uuid = some "0" ∧
      ∀ key, key ≠ device.uuid → t.server.redis key = w.server.redis key

/-- What is promised in one world: the fields are tracked, and every cancellation
which can come next is served and marks the right hash. -/
def AliveProperty [DecidableEq Client] (externals : Externals) (uuidOf : Client → String)
    (w : World Client) : Prop :=
  Tracked w ∧ ∀ client obsId, (client, obsId) ∈ w.observers →
    ∃ t, worldStep uuidOf w (.cancel client obsId : ClientAction externals Client) = some t ∧
      CancelMarks client w t

/-! ## The condition on a step -/

/-- The pairs of the posted device reach the hash of its uuid, `al` among them unless the
hash has this value already. -/
structure PostTracked (externals : Externals) (store : Store) (device : Device) : Prop where
  notList : device.uuid ≠ "devices"
  noNul : nul ∉ device.uuid.toList
  alive : ((insertPairs ∅ (sentPairs externals device))["al"]?).or
    (aliveField store device.uuid) = some (postedAlive device)

/-- The table leads from the observation to the uuid of its client; or the command
changes nothing, and the client is marked already.  For a client which never posted,
the table leads to nobody else who is still tracked as alive. -/
def CancelTracked (w : World Client) (client : Client) (obsId : UInt8) : Prop :=
  match w.posted client with
  | some device =>
      w.server.resourceTable[(obsId.toNat : Int)]? = some device.uuid ∨
        aliveField w.server.redis device.uuid = some "0" ∧
          ∀ uuid, w.server.resourceTable[(obsId.toNat : Int)]? = some uuid →
            aliveField w.server.redis uuid = some "0"
  | none =>
      ∀ owner device, w.posted owner = some device →
        w.server.resourceTable[(obsId.toNat : Int)]? = some device.uuid →
          w.cancelled owner = true ∨ aliveField w.server.redis device.uuid = some "0"

/-- The condition under which an action keeps the promise. -/
def ActionTracked (w : World Client) : ClientAction externals Client → Prop
  | .register _ _ => True
  | .post _ posting => PostTracked externals w.server.redis posting.device
  | .cancel client obsId => CancelTracked w client obsId

/-- Devices without terminators meet the condition. -/
theorem postTracked_of_nulFree {device : Device} (h : CleanDevice device)
    (hnul : NulFreeDevice device) (hname : device.uuid ≠ "devices") (store : Store) :
    PostTracked externals store device := by
  refine ⟨hname, hnul.uuid, ?_⟩
  have hsent : (insertPairs ∅ (sentPairs externals device))["al"]? =
      some (postedAlive device) := by
    rw [insertPairs_sentPairs h hnul, getElem?_postedEntries, getElem?_baseEntries]
    rfl
  rw [hsent, Option.some_or]

/-! ## What the actions do to the server -/

/-- The server's state after an action. -/
def afterAction (s : ServerState) : ClientAction externals Client → ServerState
  | .register _ obsId => withThread (afterRegister obsId (afterResponse s))
  | .post _ posting => afterPosting posting s
  | .cancel _ obsId => withThread (afterCancel externals .up obsId (afterResponse s))

/-- A lookup which finds nothing leaves a command of the wrong arity. -/
theorem aliveCommand_empty : aliveCommand externals "" = .args ["HMSET", "al", "0"] := by
  have hcommand : RedisDb.entriesCommand (cStr "") notAlive = "HMSET  al 0" := by
    rw [RedisDb.entriesCommand, cStr_text_of_noNul (by decide)]
    rfl
  rw [aliveCommand, hcommand, redisvFormatCommand, cStr_text_of_noNul (by decide)]
  simp [formatLoop]

/-- Such a command changes nothing. -/
theorem afterAlive_empty (link : Link) (store : Store) :
    afterAlive externals link "" store = store := by
  rw [afterAlive, aliveCommand_empty]
  dsimp only
  rw [execCommand_hmset, hmset_wrongArity (Or.inr rfl)]
  exact ite_self store

/-- The store after a clean uuid was marked. -/
theorem afterAlive_clean {uuid : String} (h : CleanText uuid) (hnul : nul ∉ uuid.toList)
    {store : Store} (hkey : HoldsHash store uuid) :
    afterAlive externals .up uuid store =
      Function.update store uuid (some (.hash ((storedHash store uuid).insert "al" "0"))) := by
  have hpairs : ¬(["al", "0"] = [] ∨ ["al", "0"].length % 2 = 1) := by decide
  rw [afterAlive, aliveCommand_clean h hnul]
  dsimp only
  rw [execCommand_hmset, hmset_of_holdsHash hpairs hkey]
  rfl

/-- The store after the entry which was looked up is marked. -/
def marked (store : Store) : Option String → Store
  | none => store
  | some uuid =>
      Function.update store uuid (some (.hash ((storedHash store uuid).insert "al" "0")))

theorem marked_other {store : Store} {entry : Option String} {key : String}
    (h : entry ≠ some key) : marked store entry key = store key := by
  cases entry with
  | none => rfl
  | some uuid =>
      have hne : key ≠ uuid := by
        rintro rfl
        exact h rfl
      exact Function.update_of_ne hne _ _

theorem aliveField_marked (store : Store) (uuid : String) :
    aliveField (marked store (some uuid)) uuid = some "0" := by
  rw [aliveField, marked, storedHash]
  simp only [Function.update_self]
  exact Std.ExtTreeMap.getElem?_insert_self

theorem aliveField_congr {store store' : Store} {uuid : String}
    (h : store uuid = store' uuid) : aliveField store uuid = aliveField store' uuid := by
  rw [aliveField, storedHash_congr h, aliveField]

/-- A hash with a field is really there. -/
theorem store_of_aliveField {store : Store} {uuid value : String}
    (h : aliveField store uuid = some value) :
    store uuid = some (.hash (storedHash store uuid)) := by
  rw [aliveField, storedHash] at h
  rw [storedHash]
  split at h
  · rename_i fields hfields
    simp only [hfields]
  · rw [Std.ExtTreeMap.getElem?_empty] at h
    cases h

/-- Marking what is marked already changes nothing. -/
theorem marked_of_dead {store : Store} {entry : Option String}
    (h : ∀ uuid, entry = some uuid → aliveField store uuid = some "0") :
    marked store entry = store := by
  cases entry with
  | none => rfl
  | some uuid =>
      have hdead := h uuid rfl
      have hsame : (storedHash store uuid).insert "al" "0" = storedHash store uuid := by
        apply Std.ExtTreeMap.ext_getElem?
        intro k
        rw [Std.ExtTreeMap.getElem?_insert]
        split
        · rename_i hk
          rw [Std.LawfulEqCmp.compare_eq_iff_eq] at hk
          rw [← hk, ← hdead, aliveField]
        · rfl
      rw [marked, hsame, ← store_of_aliveField hdead]
      exact Function.update_eq_self _ _

/-! ## The invariant -/

/-- What holds in every world of a guarded run. -/
structure WorldInv (uuidOf : Client → String) (w : World Client) : Prop where
  list : HoldsSet w.server.redis "devices"
  hashes : ∀ client, uuidOf client ≠ "devices" → HoldsHash w.server.redis (uuidOf client)
  own : ∀ client device, w.posted client = some device → device.uuid = uuidOf client
  clean : ∀ client device, w.posted client = some device →
    CleanText device.uuid ∧ nul ∉ device.uuid.toList ∧ device.uuid ≠ "devices"
  table : ∀ (id : Int) (uuid : String), w.server.resourceTable[id]? = some uuid →
    ∃ client device, w.posted client = some device ∧ device.uuid = uuid
  tracked : Tracked w

section Runs

variable {uuidOf : Client → String}

theorem worldInv_initial {redis : Store} (hlist : HoldsSet redis "devices")
    (hhashes : ∀ client, uuidOf client ≠ "devices" → HoldsHash redis (uuidOf client)) :
    WorldInv uuidOf (.initial redis : World Client) where
  list := hlist
  hashes := hhashes
  own := fun _ _ h => nomatch h
  clean := fun _ _ h => nomatch h
  table := by
    intro id uuid h
    change (∅ : Std.ExtTreeMap Int String)[id]? = some uuid at h
    rw [Std.ExtTreeMap.getElem?_empty] at h
    cases h
  tracked := fun _ _ h => nomatch h

/-- The hash of a uuid in the table can be written. -/
theorem WorldInv.holdsHash {w : World Client} (h : WorldInv uuidOf w) {client : Client}
    {device : Device} (hposted : w.posted client = some device) :
    HoldsHash w.server.redis device.uuid := by
  have hname := (h.clean client device hposted).2.2
  rw [h.own client device hposted] at hname ⊢
  exact h.hashes client hname

/-- What a cancellation makes of the store. -/
theorem WorldInv.afterAlive {w : World Client} (h : WorldInv uuidOf w) (obsId : UInt8) :
    afterAlive externals .up (tableUuid w.server.resourceTable obsId) w.server.redis =
      marked w.server.redis w.server.resourceTable[(obsId.toNat : Int)]? := by
  rw [tableUuid]
  cases hentry : w.server.resourceTable[(obsId.toNat : Int)]? with
  | none => exact afterAlive_empty .up _
  | some uuid =>
      obtain ⟨client, device, hposted, rfl⟩ := h.table _ _ hentry
      obtain ⟨hclean, hnul, -⟩ := h.clean client device hposted
      exact afterAlive_clean hclean hnul (h.holdsHash hposted)

theorem WorldInv.cancelServed {w : World Client} (h : WorldInv uuidOf w) (obsId : UInt8) :
    CancelServed externals .good (tableUuid w.server.resourceTable obsId) := by
  refine ⟨?_, fun executed => by simp [Outcomes.good]⟩
  rw [tableUuid]
  cases hentry : w.server.resourceTable[(obsId.toNat : Int)]? with
  | none => exact ⟨_, aliveCommand_empty⟩
  | some uuid =>
      obtain ⟨client, device, hposted, rfl⟩ := h.table _ _ hentry
      obtain ⟨hclean, hnul, -⟩ := h.clean client device hposted
      exact ⟨_, aliveCommand_clean hclean hnul⟩

/-- Every action which is possible is served. -/
theorem WorldInv.served {w : World Client} (h : WorldInv uuidOf w)
    (action : ClientAction externals Client) :
    ∃ result, EntityHandlerCB externals .good (some action.request) w.server =
      .ok result (afterAction w.server action) := by
  cases action with
  | register client obsId => exact ⟨_, EntityHandlerCB_register rfl obsId w.server⟩
  | cancel client obsId => exact ⟨_, EntityHandlerCB_cancel rfl (h.cancelServed obsId)⟩
  | post client posting =>
      have hstep := postStep_eq h.list posting
      rw [postStep] at hstep
      change ∃ result, EntityHandlerCB externals .good (some posting.request) w.server =
        .ok result (afterPosting posting w.server)
      cases hcall : EntityHandlerCB externals .good (some posting.request) w.server with
      | error e t =>
          rw [hcall] at hstep
          cases hstep
      | ok result t =>
          rw [hcall] at hstep
          cases hstep
          exact ⟨result, rfl⟩

/-! ## One step -/

/-- Nothing else of a world matters. -/
theorem WorldInv.congr {w t : World Client} (h : WorldInv uuidOf w)
    (hredis : t.server.redis = w.server.redis)
    (htable : t.server.resourceTable = w.server.resourceTable)
    (hposted : t.posted = w.posted) (hcancelled : t.cancelled = w.cancelled) :
    WorldInv uuidOf t where
  list := hredis ▸ h.list
  hashes := hredis ▸ h.hashes
  own := hposted ▸ h.own
  clean := hposted ▸ h.clean
  table := by
    rw [htable, hposted]
    exact h.table
  tracked := by
    rw [Tracked, hposted, hcancelled, hredis]
    exact h.tracked

/-- What a cancellation makes of the store, in the state it leaves. -/
theorem WorldInv.redis_cancel (externals : Externals) {w : World Client}
    (h : WorldInv uuidOf w) (client : Client) (obsId : UInt8) :
    (afterAction w.server (.cancel client obsId : ClientAction externals Client)).redis =
      marked w.server.redis w.server.resourceTable[(obsId.toNat : Int)]? :=
  (withThread_redis _).trans (h.afterAlive obsId)

variable [DecidableEq Client]

theorem WorldInv.register (externals : Externals) {w : World Client}
    (h : WorldInv uuidOf w) (client : Client) (obsId : UInt8) :
    WorldInv uuidOf ((.register client obsId : ClientAction externals Client).update w
      (afterAction w.server (.register client obsId : ClientAction externals Client))) :=
  h.congr (withThread_redis _) (withThread_resourceTable _) rfl rfl

omit [DecidableEq Client] in
/-- An entry of the table was there before or is that of the posted device. -/
theorem getElem?_insertEntry {table : Std.ExtTreeMap Int String} {obsId : UInt8}
    {device : Device} {id : Int} {uuid : String}
    (h : (insertEntry obsId device table)[id]? = some uuid) :
    table[id]? = some uuid ∨ uuid = device.uuid := by
  rw [insertEntry, Std.ExtTreeMap.getElem?_insertIfNew] at h
  split at h
  · exact Or.inr (Option.some.inj h).symm
  · exact Or.inl h

/-- The device posted last by anybody is the new one, or one posted before by another
client. -/
theorem posted_cases {posted : Client → Option Device} {client other : Client}
    {new device : Device} (h : Function.update posted client (some new) other = some device) :
    (other = client ∧ device = new) ∨ (other ≠ client ∧ posted other = some device) := by
  by_cases hsame : other = client
  · rw [hsame, Function.update_self] at h
    exact Or.inl ⟨hsame, (Option.some.inj h).symm⟩
  · rw [Function.update_of_ne hsame] at h
    exact Or.inr ⟨hsame, h⟩

section Post

variable {w : World Client} {client : Client} {posting : Posting externals}

/-- Every entry of the table belongs to a client still, when a `POST` was entered. -/
theorem WorldInv.table_post (h : WorldInv uuidOf w) (hown : posting.device.uuid = uuidOf client)
    {obsId : UInt8} {id : Int} {uuid : String}
    (hentry : (insertEntry obsId posting.device w.server.resourceTable)[id]? = some uuid) :
    ∃ owner device, Function.update w.posted client (some posting.device) owner = some device ∧
      device.uuid = uuid := by
  obtain hold | rfl := getElem?_insertEntry hentry
  · obtain ⟨owner, device, howner, rfl⟩ := h.table id uuid hold
    by_cases hsame : owner = client
    · -- the client's older device has the same uuid
      subst hsame
      exact ⟨owner, posting.device, Function.update_self _ _ _,
        hown.trans (h.own owner device howner).symm⟩
    · exact ⟨owner, device, (Function.update_of_ne hsame _ _).trans howner, rfl⟩
  · exact ⟨client, posting.device, Function.update_self _ _ _, rfl⟩

/-- The hash of the posted device has its `al`, the others are as they were. -/
theorem WorldInv.tracked_post (h : WorldInv uuidOf w) (hinjective : Function.Injective uuidOf)
    (hown : posting.device.uuid = uuidOf client)
    (hpost : PostTracked externals w.server.redis posting.device) :
    Tracked ((.post client posting : ClientAction externals Client).update w
      (afterAction w.server (.post client posting : ClientAction externals Client))) := by
  have hkey : HoldsHash w.server.redis posting.device.uuid :=
    hown ▸ h.hashes client (hown ▸ hpost.notList)
  obtain ⟨hhash, -⟩ := storedHash_storeStep externals posting.clean hpost.noNul hpost.notList hkey
  intro other device hposted hcancelled
  change aliveField (storeStep externals posting.device w.server.redis) device.uuid = _
  obtain ⟨rfl, rfl⟩ | ⟨hne, hold⟩ := posted_cases hposted
  · rw [aliveField, hhash, getElem?_insertPairs]
    exact hpost.alive
  · have hdiff : device.uuid ≠ posting.device.uuid := by
      rw [h.own other device hold, hown]
      exact fun heq => hne (hinjective heq)
    have hkept := storeStep_other externals posting.clean hpost.noNul w.server.redis hdiff
      (h.clean other device hold).2.2
    have hcancelled' : w.cancelled other = false := by
      rw [← hcancelled]
      exact (Function.update_of_ne hne _ _).symm
    rw [aliveField_congr hkept]
    exact h.tracked other device hold hcancelled'

/-- A `POST` enters the device of its client and writes the hash of its uuid. -/
theorem WorldInv.post (h : WorldInv uuidOf w) (hinjective : Function.Injective uuidOf)
    (hown : posting.device.uuid = uuidOf client)
    (hpost : PostTracked externals w.server.redis posting.device) :
    WorldInv uuidOf ((.post client posting : ClientAction externals Client).update w
      (afterAction w.server (.post client posting : ClientAction externals Client))) := by
  refine ⟨holdsSet_storeStep h.list _, ?_, ?_, ?_, ?_, h.tracked_post hinjective hown hpost⟩
  · intro other hlist
    change HoldsHash (storeStep externals posting.device w.server.redis) (uuidOf other)
    by_cases hsame : uuidOf other = posting.device.uuid
    · have hkey : HoldsHash w.server.redis posting.device.uuid := hsame ▸ h.hashes other hlist
      rw [hsame]
      exact (storedHash_storeStep externals posting.clean hpost.noNul hpost.notList hkey).2
    · rw [holdsHash_congr (storeStep_other externals posting.clean hpost.noNul _ hsame hlist)]
      exact h.hashes other hlist
  · intro other device hposted
    obtain ⟨rfl, rfl⟩ | ⟨-, hold⟩ := posted_cases hposted
    · exact hown
    · exact h.own other device hold
  · intro other device hposted
    obtain ⟨rfl, rfl⟩ | ⟨-, hold⟩ := posted_cases hposted
    · exact ⟨posting.clean.uuid, hpost.noNul, hpost.notList⟩
    · exact h.clean other device hold
  · intro id uuid hentry
    exact h.table_post hown hentry

end Post

theorem WorldInv.cancelMarks {w : World Client} (h : WorldInv uuidOf w) {client : Client}
    {obsId : UInt8} (hcancel : CancelTracked w client obsId) :
    CancelMarks client w ((.cancel client obsId : ClientAction externals Client).update w
      (afterAction w.server (.cancel client obsId : ClientAction externals Client))) := by
  intro device hposted
  change aliveField (afterAction w.server
    (.cancel client obsId : ClientAction externals Client)).redis device.uuid = some "0" ∧
    ∀ key, key ≠ device.uuid → (afterAction w.server
      (.cancel client obsId : ClientAction externals Client)).redis key = w.server.redis key
  rw [h.redis_cancel externals]
  simp only [CancelTracked, hposted] at hcancel
  obtain hentry | ⟨hdead, hall⟩ := hcancel
  · rw [hentry]
    refine ⟨aliveField_marked _ _, fun key hkey => marked_other ?_⟩
    intro heq
    exact hkey (Option.some.inj heq).symm
  · rw [marked_of_dead hall]
    exact ⟨hdead, fun _ _ => rfl⟩

/-- A cancellation which meets the condition changes no hash of a client which is still
tracked. -/
theorem WorldInv.tracked_cancel {w : World Client} (h : WorldInv uuidOf w)
    (hinjective : Function.Injective uuidOf) {client : Client} {obsId : UInt8}
    (hcancel : CancelTracked w client obsId) :
    Tracked ((.cancel client obsId : ClientAction externals Client).update w
      (afterAction w.server (.cancel client obsId : ClientAction externals Client))) := by
  intro other device hposted hcancelled
  change aliveField (afterAction w.server _).redis device.uuid = _
  change w.posted other = some device at hposted
  change Function.update w.cancelled client true other = false at hcancelled
  have hne : other ≠ client := by
    rintro rfl
    rw [Function.update_self] at hcancelled
    cases hcancelled
  rw [Function.update_of_ne hne] at hcancelled
  rw [h.redis_cancel externals, ← h.tracked other device hposted hcancelled]
  by_cases hentry : w.server.resourceTable[(obsId.toNat : Int)]? = some device.uuid
  · -- the table leads to another client: then the condition says that nothing is changed
    cases hclient : w.posted client with
    | some own =>
        simp only [CancelTracked, hclient] at hcancel
        obtain hown | ⟨-, hall⟩ := hcancel
        · have huuid : uuidOf other = uuidOf client := by
            rw [← h.own other device hposted, ← h.own client own hclient]
            exact Option.some.inj (hentry.symm.trans hown)
          exact absurd (hinjective huuid) hne
        · rw [marked_of_dead hall]
    | none =>
        simp only [CancelTracked, hclient] at hcancel
        obtain hgone | hdead := hcancel other device hposted hentry
        · rw [hcancelled] at hgone
          cases hgone
        · rw [marked_of_dead]
          intro uuid huuid
          rw [hentry] at huuid
          rw [← Option.some.inj huuid, hdead]
  · exact aliveField_congr (marked_other hentry)

theorem WorldInv.cancel {w : World Client} (h : WorldInv uuidOf w)
    (hinjective : Function.Injective uuidOf) {client : Client} {obsId : UInt8}
    (hcancel : CancelTracked w client obsId) :
    WorldInv uuidOf ((.cancel client obsId : ClientAction externals Client).update w
      (afterAction w.server (.cancel client obsId : ClientAction externals Client))) := by
  have hredis := h.redis_cancel externals client obsId
  refine ⟨?_, ?_, h.own, h.clean, ?_, h.tracked_cancel hinjective hcancel⟩
  · change HoldsSet (afterAction w.server _).redis "devices"
    have hnot : w.server.resourceTable[(obsId.toNat : Int)]? ≠ some "devices" := by
      intro hentry
      obtain ⟨owner, device, howner, huuid⟩ := h.table _ _ hentry
      exact (h.clean owner device howner).2.2 huuid
    rw [hredis, HoldsSet, marked_other hnot]
    exact h.list
  · intro other hlist
    change HoldsHash (afterAction w.server _).redis (uuidOf other)
    rw [hredis]
    by_cases hentry : w.server.resourceTable[(obsId.toNat : Int)]? = some (uuidOf other)
    · rw [hentry]
      exact Or.inr ⟨_, Function.update_self _ _ _⟩
    · rw [holdsHash_congr (marked_other hentry)]
      exact h.hashes other hlist
  · intro id uuid hentry
    change (withThread _).resourceTable[id]? = some uuid at hentry
    rw [withThread_resourceTable] at hentry
    change (w.server.resourceTable.erase (obsId.toNat : Int))[id]? = some uuid at hentry
    rw [Std.ExtTreeMap.getElem?_erase] at hentry
    split at hentry
    · cases hentry
    · exact h.table id uuid hentry

/-- The condition is exact: without it the cancellation marks the wrong hash or none, or
takes the field of a client which is still tracked. -/
theorem WorldInv.cancelTracked {w : World Client} (h : WorldInv uuidOf w) {client : Client}
    {obsId : UInt8}
    (hmarks : CancelMarks client w
      ((.cancel client obsId : ClientAction externals Client).update w
        (afterAction w.server (.cancel client obsId : ClientAction externals Client))))
    (htracked : Tracked ((.cancel client obsId : ClientAction externals Client).update w
      (afterAction w.server (.cancel client obsId : ClientAction externals Client)))) :
    CancelTracked w client obsId := by
  have hredis := h.redis_cancel externals client obsId
  rw [CancelTracked]
  cases hclient : w.posted client with
  | some device =>
      obtain ⟨halive, hframe⟩ := hmarks device hclient
      change aliveField (afterAction w.server _).redis device.uuid = some "0" at halive
      change ∀ key, _ → (afterAction w.server _).redis key = w.server.redis key at hframe
      rw [hredis] at halive hframe
      cases hentry : w.server.resourceTable[(obsId.toNat : Int)]? with
      | none =>
          -- no hash is marked
          rw [hentry] at halive
          exact Or.inr ⟨halive, fun _ huuid => nomatch huuid⟩
      | some uuid =>
          rw [hentry] at halive hframe
          by_cases hsame : uuid = device.uuid
          · exact Or.inl (congrArg some hsame)
          · -- the hash of another device is marked
            have hother : some uuid ≠ some device.uuid := fun heq =>
              hsame (Option.some.inj heq)
            rw [aliveField_congr (marked_other hother)] at halive
            refine Or.inr ⟨halive, fun other huuid => ?_⟩
            rw [← Option.some.inj huuid, ← aliveField_congr (hframe uuid hsame)]
            exact aliveField_marked _ _
  | none =>
      intro owner device howner hentry
      cases hcancelled : w.cancelled owner with
      | true => exact Or.inl rfl
      | false =>
          have hne : owner ≠ client := by
            rintro rfl
            rw [hclient] at howner
            cases howner
          have hlater := htracked owner device howner
            ((Function.update_of_ne hne _ _).trans hcancelled)
          change aliveField (afterAction w.server _).redis device.uuid = _ at hlater
          rw [hredis, hentry, aliveField_marked] at hlater
          rw [h.tracked owner device howner hcancelled, ← hlater]
          exact Or.inr rfl

/-! ## Runs -/

theorem WorldInv.worldStep_eq {w : World Client} (h : WorldInv uuidOf w)
    {action : ClientAction externals Client} (hpossible : action.Possible uuidOf w) :
    worldStep uuidOf w action = some (action.update w (afterAction w.server action)) := by
  obtain ⟨result, hserved⟩ := h.served action
  rw [worldStep, if_pos hpossible, hserved]

theorem possible_of_worldStep {w t : World Client} {action : ClientAction externals Client}
    (h : worldStep uuidOf w action = some t) : action.Possible uuidOf w := by
  rw [worldStep] at h
  split at h
  · rename_i hpossible
    exact hpossible
  · cases h

/-- Every step which meets its condition preserves the invariant. -/
theorem WorldInv.step (hinjective : Function.Injective uuidOf) {w t : World Client}
    {action : ClientAction externals Client} (h : WorldInv uuidOf w)
    (htracked : ActionTracked w action) (hstep : worldStep uuidOf w action = some t) :
    WorldInv uuidOf t := by
  have hpossible := possible_of_worldStep hstep
  rw [h.worldStep_eq hpossible] at hstep
  cases hstep
  cases action with
  | register client obsId => exact h.register externals client obsId
  | post client posting => exact h.post hinjective hpossible htracked
  | cancel client obsId => exact h.cancel hinjective htracked

end Runs

/-- **Alive tracking.**  In every run of clients with uuids of their own whose steps meet
the condition, a client which has not cancelled is as alive as it last posted, and
whatever is possible next is served.  A cancellation marks the hash of its client and
nothing else exactly under the condition. -/
theorem tracked_of_guardedReaches [DecidableEq Client] {uuidOf : Client → String}
    (hinjective : Function.Injective uuidOf) {redis : Store} (hlist : HoldsSet redis "devices")
    (hhashes : ∀ client, uuidOf client ≠ "devices" → HoldsHash redis (uuidOf client))
    {w : World Client}
    (hreach : GuardedReaches
      (worldStep uuidOf : World Client → ClientAction externals Client → _) ActionTracked
      (.initial redis) w) :
    Tracked w ∧ ∀ action : ClientAction externals Client, action.Possible uuidOf w →
      ∃ t, worldStep uuidOf w action = some t ∧
        ∀ client obsId, action = .cancel client obsId →
          (CancelMarks client w t ∧ Tracked t ↔ CancelTracked w client obsId) := by
  have hinv : WorldInv uuidOf w :=
    hreach.invariant (fun _ _ _ hw htracked hstep => hw.step hinjective htracked hstep)
      (worldInv_initial hlist hhashes)
  refine ⟨hinv.tracked, fun action hpossible => ⟨_, hinv.worldStep_eq hpossible, ?_⟩⟩
  rintro client obsId rfl
  constructor
  · rintro ⟨hmarks, htracked⟩
    exact hinv.cancelTracked hmarks htracked
  · intro hcancel
    exact ⟨hinv.cancelMarks hcancel, (hinv.cancel hinjective hcancel).tracked⟩

/-! ## One client -/

theorem smokeDetector_texts {text : String} (h : text ∈ deviceTexts (smokeDetector "m")) :
    CleanText text ∧ nul ∉ text.toList := by
  have hlist : deviceTexts (smokeDetector "m") = ["u", "m"] := rfl
  simp only [hlist, List.mem_cons, List.not_mem_nil, or_false] at h
  obtain rfl | rfl := h <;> exact ⟨⟨by decide, by decide, by decide⟩, by decide⟩

/-- The `POST` of the smoke detector. -/
def smokePosting : Posting smokeExternals where
  payload := OCRepresentation.setValue (fun _ => none) resourceKey smokeText
  value := smokeText
  json := smokeJson
  device := smokeDetector "m"
  getValue := rfl
  read := smokeRequest_read
  clean := fun _ h => (smokeDetector_texts h).1

/-- Its only client. -/
def smokeUuid : Unit → String := fun _ => "u"

/-- Its first two actions. -/
def smokeRegister (obsId : UInt8) : ClientAction smokeExternals Unit := .register () obsId

def smokePost : ClientAction smokeExternals Unit := .post () smokePosting

/-- The world after the smoke detector registered, and after it posted as well. -/
def smokeRegistered (obsId : UInt8) : World Unit :=
  (smokeRegister obsId).update (.initial RedisDb.emptyStore)
    (afterAction (.initial RedisDb.emptyStore) (smokeRegister obsId))

def smokeWorld (obsId : UInt8) : World Unit :=
  smokePost.update (smokeRegistered obsId)
    (afterAction (smokeRegistered obsId).server smokePost)

theorem smokeWorld_reached (obsId : UInt8) :
    GuardedReaches (worldStep smokeUuid : World Unit → ClientAction smokeExternals Unit → _)
      ActionTracked (.initial RedisDb.emptyStore) (smokeWorld obsId) := by
  have hinitial : WorldInv smokeUuid (.initial RedisDb.emptyStore : World Unit) :=
    worldInv_initial (Or.inl rfl) fun _ _ => Or.inl rfl
  have hregistered : WorldInv smokeUuid (smokeRegistered obsId) :=
    hinitial.register smokeExternals () obsId
  have hfirst : worldStep smokeUuid (.initial RedisDb.emptyStore) (smokeRegister obsId) =
      some (smokeRegistered obsId) :=
    hinitial.worldStep_eq fun _ hmem => absurd hmem List.not_mem_nil
  have hsecond : worldStep smokeUuid (smokeRegistered obsId) smokePost =
      some (smokeWorld obsId) := hregistered.worldStep_eq rfl
  have hpost : ActionTracked (smokeRegistered obsId) smokePost :=
    postTracked_of_nulFree (fun _ h => (smokeDetector_texts h).1)
      (fun _ h => (smokeDetector_texts h).2) (by decide) _
  have hregister : ActionTracked (.initial RedisDb.emptyStore) (smokeRegister obsId) := trivial
  exact ((GuardedReaches.refl _).tail hregister hfirst).tail hpost hsecond

theorem tracked_of_guardedReaches_smoke :
    Tracked (smokeWorld 0) ∧
      ∀ action : ClientAction smokeExternals Unit, action.Possible smokeUuid (smokeWorld 0) →
        ∃ t, worldStep smokeUuid (smokeWorld 0) action = some t ∧
          ∀ client obsId, action = .cancel client obsId →
            (CancelMarks client (smokeWorld 0) t ∧ Tracked t ↔
              CancelTracked (smokeWorld 0) client obsId) :=
  tracked_of_guardedReaches (fun _ _ _ => rfl) (Or.inl rfl) (fun _ _ => Or.inl rfl)
    (smokeWorld_reached 0)

/-- The observation with the id `7` is looked up under `7`, where no `POST` ever enters
a uuid: after the cancellation the device still counts as alive. -/
theorem other_id_not_marked :
    ¬∀ w : World Unit,
      Reaches (worldStep smokeUuid : World Unit → ClientAction smokeExternals Unit → _)
        (.initial RedisDb.emptyStore) w → AliveProperty smokeExternals smokeUuid w := by
  intro h
  have hreach := smokeWorld_reached 7
  have hinv : WorldInv smokeUuid (smokeWorld 7) :=
    hreach.invariant
      (fun _ _ _ hw htracked hstep => hw.step (fun _ _ _ => rfl) htracked hstep)
      (worldInv_initial (Or.inl rfl) fun _ _ => Or.inl rfl)
  obtain ⟨htracked, hcancels⟩ := h _ hreach.reaches
  obtain ⟨t, hstep, hmarks⟩ := hcancels () 7 (by decide)
  have hentry : (smokeWorld 7).server.resourceTable[((7 : UInt8).toNat : Int)]? = none := rfl
  have halive : aliveField (smokeWorld 7).server.redis "u" = some "1" :=
    htracked () (smokeDetector "m") rfl rfl
  rw [hinv.worldStep_eq (possible_of_worldStep hstep)] at hstep
  cases hstep
  have hredis := hinv.redis_cancel smokeExternals () 7
  rw [hentry] at hredis
  have hmarked : aliveField (marked (smokeWorld 7).server.redis none) "u" = some "0" :=
    hredis ▸ (hmarks (smokeDetector "m") rfl).1
  rw [marked, halive] at hmarked
  exact absurd hmarked (by decide)

end Server
end FireEvacuation

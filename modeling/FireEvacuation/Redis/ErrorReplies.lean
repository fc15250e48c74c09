import Mathlib.Data.List.ReduceOption
import FireEvacuation.Redis.EntriesSnapshot

/-!
# What the operations of `RedisDb` make of a reply

Each operation sends its command through `redisCommand` and looks at the reply on its own:
all of them throw for a null pointer, one of them throws for an error reply, three of them
loop over the elements.  Here the connection is arbitrary, so that every reply can come to
every command.
-/

namespace FireEvacuation
namespace Redis

open FireEvacuation.Core FireEvacuation.Core.Effect Platform

namespace Reply

/-- The members `elements` and `element`, which only an array has.  The library makes arrays
whose length is an `int`, so the cast of the loops changes nothing. -/
def elements : Reply → List (Option String)
  | .array elements => elements
  | _ => []

/-- The texts of the elements which have one. -/
def texts (reply : Reply) : List String := reply.elements.reduceOption

/-- `reply->type == REDIS_REPLY_ERROR`. -/
def isError : Reply → Bool
  | .error _ => true
  | _ => false

theorem isError_iff (reply : Reply) : reply.isError = true ↔ ∃ str, reply = .error str := by
  constructor
  · intro h
    cases reply with
    | error str => exact ⟨str, rfl⟩
    | status str => cases h
    | integer value => cases h
    | string str => cases h
    | nil => cases h
    | array elements => cases h
  · rintro ⟨str, rfl⟩
    rfl

theorem elements_of_isError {reply : Reply} (h : reply.isError = true) : reply.elements = [] := by
  obtain ⟨str, rfl⟩ := (isError_iff reply).mp h
  rfl

end Reply

namespace RedisDb

/-- A variadic argument of `redisCommand`. -/
inductive CommandArg where
  | text (s : CString)
  | int (value : Int32)

/-- `redisCommand(m_context, format, …)`, whatever the server answers. -/
abbrev Connection := CString → List CommandArg → Cpp Store (Option Reply)

/-! ## The operations -/

section Operations

variable (connection : Connection)

/-- The operations which only look whether there is a reply. -/
def acknowledge (command : Cpp Store (Option Reply)) : Cpp Store Unit := do
  match ← command with
  | none => throwException noReply
  | some _ => pure ()

/-- The constructor, once it is connected. -/
def authenticate : Option CString → Cpp Store Unit
  | none => pure ()
  | some password => acknowledge (connection (cStr "AUTH %s") [.text password])

def appendToList (key data : CString) : Cpp Store Unit :=
  acknowledge (connection (cStr "RPUSH %s %s") [.text key, .text data])

def removeFromList (key : CString) (count : Int32) (value : CString) : Cpp Store Unit :=
  acknowledge (connection (cStr "LREM %s %d %s") [.text key, .int count, .text value])

def setEntriesOn (key : CString) (entriesInfo : StringMap) : Cpp Store Unit :=
  acknowledge (connection (cStr (entriesCommand key entriesInfo)) [])

/-- The loop of `getList` does not ask for the type of the reply. -/
def getList (key : CString) (start stop : Int32) : Cpp Store (List String) := do
  match ← connection (cStr "LRANGE %s %d %d") [.text key, .int start, .int stop] with
  | none => throwException noReply
  | some reply => resultList reply.elements

def executeOn (cmd key : CString) : Cpp Store (List String) := do
  match ← connection (cStr "%s %s") [.text cmd, .text key] with
  | none => throwException noReply
  | some reply => replyElements reply

def executeValuesOn (cmd key values : CString) : Cpp Store (List String) := do
  match ← connection (cStr "%s %s %s") [.text cmd, .text key, .text values] with
  | none => throwException noReply
  | some (.error _) => throwException errorReply
  | some reply => replyElements reply

def getEntriesOn (key : CString) : Cpp Store StringMap := do
  let keys ← executeOn connection (cStr "HKEYS") key
  let values ← executeOn connection (cStr "HVALS") key
  if keys.length ≠ values.length then
    throwException (.lengthError "key and value doesn't sample length")
  else pure (mapOf (keys.zip values))

end Operations

/-! ## The connection to the server -/

section Server

variable {rejects : List Char → Bool} {link : Link} {connection : Connection}

/-- The connection is the one to the modelled server, as far as texts are concerned. -/
def IsServer (rejects : List Char → Bool) (link : Link) (connection : Connection) : Prop :=
  ∀ format ap, connection format (ap.map .text) = redisCommand rejects link format ap

theorem execute_eq_executeOn (h : IsServer rejects link connection) (cmd key : CString) :
    execute rejects link cmd key = executeOn connection cmd key := by
  rw [execute, ← h]
  rfl

theorem executeValues_eq_executeValuesOn (h : IsServer rejects link connection)
    (cmd key values : CString) :
    executeValues rejects link cmd key values = executeValuesOn connection cmd key values := by
  rw [executeValues, ← h]
  rfl

theorem getEntries_eq_getEntriesOn (h : IsServer rejects link connection) (key : CString) :
    getEntries rejects link link key = getEntriesOn connection key := by
  rw [getEntries, execute_eq_executeOn h, execute_eq_executeOn h]
  rfl

theorem setEntries_eq_setEntriesOn (h : IsServer rejects link connection) (key : CString)
    (entriesInfo : StringMap) :
    setEntries rejects link key entriesInfo = setEntriesOn connection key entriesInfo := by
  rw [setEntries, ← h]
  rfl

end Server

/-! ## The loop over the elements -/

theorem replyElements_eq (reply : Reply) : replyElements reply = resultList reply.elements := by
  cases reply <;> rfl

/-- A null pointer among the texts makes the loop undefined. -/
theorem resultList_undefined {elements : List (Option String)} (h : none ∈ elements)
    (store : Store) : resultList elements store = .error .undefined store := by
  induction elements with
  | nil => cases h
  | cons element elements ih =>
      cases element with
      | none => rfl
      | some text =>
          have hrest : none ∈ elements := by simpa using h
          rw [resultList, bind_of_error (ih hrest)]

/-- Otherwise every element has its text. -/
theorem elements_eq_texts {reply : Reply} (h : none ∉ reply.elements) :
    reply.elements = reply.texts.map some := by
  rw [Reply.texts]
  generalize reply.elements = elements at h
  induction elements with
  | nil => rfl
  | cons element elements ih =>
      cases element with
      | none => exact absurd List.mem_cons_self h
      | some text =>
          rw [List.reduceOption_cons_of_some, List.map_cons,
            ← ih fun hrest => h (List.mem_cons_of_mem _ hrest)]

theorem resultList_elements {reply : Reply} (h : none ∉ reply.elements) (store : Store) :
    resultList reply.elements store = .ok (reply.texts.map cutText) store := by
  rw [elements_eq_texts h]
  exact resultList_some reply.texts store

theorem cutText_eq_iff (text : String) : cutText text = text ↔ nul ∉ text.toList := by
  constructor
  · intro h
    have hclean := (cStr text).noNul
    rw [← cutText.eq_def, h] at hclean
    exact hclean
  · exact cStr_text_of_noNul

/-- No text is cut off if and only if none of them has a terminator. -/
theorem map_cutText_eq_iff (texts : List String) :
    texts.map cutText = texts ↔ ∀ text ∈ texts, nul ∉ text.toList := by
  constructor
  · intro h text htext
    rw [← cutText_eq_iff]
    exact List.map_eq_map_iff.mp (h.trans (List.map_id texts).symm) text htext
  · intro h
    refine (List.map_congr_left fun text htext => ?_).trans (List.map_id texts)
    exact (cutText_eq_iff text).mpr (h text htext)

/-! ## The map of texts which may be cut off -/

section CutOff

variable {fields : List (String × String)}

/-- Every name has a last value. -/
theorem exists_lastOf {f v : String} (h : (f, v) ∈ fields) : ∃ value, LastOf fields f value := by
  induction fields using List.reverseRecOn with
  | nil => cases h
  | append_singleton fields field ih =>
      obtain ⟨name, value⟩ := field
      by_cases hname : name = f
      · refine ⟨value, (lastOf_append_singleton fields f value name value).mpr ?_⟩
        rw [if_pos hname]
      · rw [List.mem_append, List.mem_singleton] at h
        rcases h with h | h
        · obtain ⟨last, hlast⟩ := ih h
          refine ⟨last, (lastOf_append_singleton fields f last name value).mpr ?_⟩
          rw [if_neg hname]
          exact hlast
        · cases h
          exact absurd rfl hname

/-- When no name is cut off, every value is cut off on its own. -/
theorem getElem?_mapOf_seenField (h : ∀ field ∈ fields, nul ∉ field.1.toList) (f : String) :
    (mapOf (fields.map seenField))[f]? = (mapOf fields)[f]?.map cutText := by
  induction fields using List.reverseRecOn with
  | nil => rfl
  | append_singleton fields field ih =>
      have hname : (seenField field).1 = field.1 :=
        cStr_text_of_noNul (h field (List.mem_append_right _ (List.mem_singleton_self field)))
      rw [List.map_append, List.map_singleton, mapOf_append_singleton, mapOf_append_singleton,
        Std.ExtTreeMap.getElem?_insert, Std.ExtTreeMap.getElem?_insert, hname,
        ih fun field hfield => h field (List.mem_append_left _ hfield)]
      split
      · rfl
      · rfl

/-- The map of the texts as they are read is the map of the texts if and only if no name,
and no value which gets into the map, is cut off. -/
theorem mapOf_map_seenField_iff :
    mapOf (fields.map seenField) = mapOf fields ↔
      ∀ f v, LastOf fields f v → CleanField (f, v) := by
  constructor
  · intro h f v hlast
    rw [← getElem?_mapOf, ← h, getElem?_mapOf] at hlast
    obtain ⟨before, after, heq, -⟩ := hlast
    have hmem : (f, v) ∈ fields.map seenField := by
      rw [heq]
      exact List.mem_append_right before List.mem_cons_self
    obtain ⟨field, -, hfield⟩ := List.mem_map.mp hmem
    -- what is in the map was read as a C text
    rw [← hfield]
    exact ⟨(cStr field.1).noNul, (cStr field.2).noNul⟩
  · intro h
    have hnames : ∀ field ∈ fields, nul ∉ field.1.toList := by
      intro field hfield
      obtain ⟨value, hlast⟩ := exists_lastOf hfield
      exact (h field.1 value hlast).1
    apply Std.ExtTreeMap.ext_getElem?
    intro f
    rw [getElem?_mapOf_seenField hnames]
    cases hvalue : (mapOf fields)[f]? with
    | none => rfl
    | some value =>
        have hclean := (h f value ((getElem?_mapOf fields f value).mp hvalue)).2
        rw [Option.map_some, (cutText_eq_iff value).mpr hclean]

end CutOff

/-! ## The operations with one command -/

/-- An operation with its arguments, by the type of what it returns. -/
inductive Operation : Type → Type where
  | authenticate (password : CString) : Operation Unit
  | appendToList (key data : CString) : Operation Unit
  | removeFromList (key : CString) (count : Int32) (value : CString) : Operation Unit
  | setEntries (key : CString) (entriesInfo : StringMap) : Operation Unit
  | getList (key : CString) (start stop : Int32) : Operation (List String)
  | execute (cmd key : CString) : Operation (List String)
  | executeValues (cmd key values : CString) : Operation (List String)

namespace Operation

variable {α : Type}

def perform (connection : Connection) : Operation α → Cpp Store α
  | authenticate password => RedisDb.authenticate connection (some password)
  | appendToList key data => RedisDb.appendToList connection key data
  | removeFromList key count value => RedisDb.removeFromList connection key count value
  | setEntries key entriesInfo => setEntriesOn connection key entriesInfo
  | getList key start stop => RedisDb.getList connection key start stop
  | execute cmd key => executeOn connection cmd key
  | executeValues cmd key values => executeValuesOn connection cmd key values

/-- What the operation passes to `redisCommand`. -/
def command : Operation α → CString × List CommandArg
  | authenticate password => (cStr "AUTH %s", [.text password])
  | appendToList key data => (cStr "RPUSH %s %s", [.text key, .text data])
  | removeFromList key count value =>
      (cStr "LREM %s %d %s", [.text key, .int count, .text value])
  | setEntries key entriesInfo => (cStr (entriesCommand key entriesInfo), [])
  | getList key start stop => (cStr "LRANGE %s %d %d", [.text key, .int start, .int stop])
  | execute cmd key => (cStr "%s %s", [.text cmd, .text key])
  | executeValues cmd key values => (cStr "%s %s %s", [.text cmd, .text key, .text values])

/-- What it is to return for a reply. -/
def value : Operation α → Reply → α
  | authenticate _, _ | appendToList _ _, _ | removeFromList _ _ _, _ | setEntries _ _, _ => ()
  | getList _ _ _, reply | execute _ _, reply | executeValues _ _ _, reply => reply.texts

end Operation

section Reports

variable {α : Type}

def Throws (outcome : EStateM.Result (Fault CppException) Store α) : Prop :=
  ∃ e t, outcome = .error (.exception e) t

def Returns (outcome : EStateM.Result (Fault CppException) Store α) (value : α) : Prop :=
  ∃ t, outcome = .ok value t

/-- The operation throws for a missing reply and for an error reply, and returns its value
for every other one. -/
def Reports (value : Reply → α) (reply : Option Reply)
    (outcome : EStateM.Result (Fault CppException) Store α) : Prop :=
  match reply with
  | none => Throws outcome
  | some reply => if reply.isError then Throws outcome else Returns outcome (value reply)

/-- Every element has a text, which `std::string` takes over as a whole. -/
def Readable (reply : Reply) : Prop :=
  none ∉ reply.elements ∧ ∀ text ∈ reply.texts, nul ∉ text.toList

theorem throws_exception (e : CppException) (t : Store) :
    Throws (.error (.exception e) t : EStateM.Result (Fault CppException) Store α) :=
  ⟨e, t, rfl⟩

theorem not_throws_ok (value : α) (t : Store) :
    ¬Throws (.ok value t : EStateM.Result (Fault CppException) Store α) := by
  rintro ⟨e, s, h⟩
  cases h

theorem returns_ok_iff (value other : α) (t : Store) :
    Returns (.ok value t : EStateM.Result (Fault CppException) Store α) other ↔
      value = other := by
  constructor
  · rintro ⟨s, h⟩
    cases h
    rfl
  · rintro rfl
    exact ⟨t, rfl⟩

theorem not_throws_undefined (t : Store) :
    ¬Throws (.error .undefined t : EStateM.Result (Fault CppException) Store α) := by
  rintro ⟨e, s, h⟩
  cases h

theorem not_returns_undefined (t : Store) (value : α) :
    ¬Returns (.error .undefined t : EStateM.Result (Fault CppException) Store α) value := by
  rintro ⟨s, h⟩
  cases h

/-- A write is taken for done whenever there is a reply. -/
theorem acknowledge_reports_iff {command : Cpp Store (Option Reply)} {s t : Store}
    {reply : Option Reply} (h : command s = .ok reply t) :
    Reports (fun _ => ()) reply (acknowledge command s) ↔
      ∀ r, reply = some r → r.isError = false := by
  rw [acknowledge, bind_of_ok h]
  cases reply with
  | none => exact iff_of_true (throws_exception noReply t) (fun r hr => by cases hr)
  | some reply =>
      simp only [Option.some.injEq, forall_eq', Reports]
      cases reply.isError with
      | true => exact iff_of_false (not_throws_ok () t) (by decide)
      | false => exact iff_of_true ⟨t, rfl⟩ rfl

/-- The loop returns the texts of the elements if and only if it can read them all. -/
theorem returns_resultList_iff (reply : Reply) (t : Store) :
    Returns (resultList reply.elements t) reply.texts ↔ Readable reply := by
  by_cases h : none ∈ reply.elements
  · rw [resultList_undefined h]
    exact iff_of_false (not_returns_undefined t reply.texts) fun hreadable => hreadable.1 h
  · rw [resultList_elements h, returns_ok_iff, map_cutText_eq_iff, Readable, and_iff_right h]

theorem elements_reports_iff (reply : Reply) (t : Store) :
    Reports Reply.texts (some reply) (resultList reply.elements t) ↔
      reply.isError = false ∧ Readable reply := by
  rw [Reports]
  cases herror : reply.isError with
  | true =>
      -- an error reply has no elements, so the loop returns an empty list
      rw [if_pos rfl, Reply.elements_of_isError herror]
      exact iff_of_false (not_throws_ok [] t) fun h => Bool.noConfusion h.1
  | false => rw [if_neg Bool.false_ne_true, returns_resultList_iff, and_iff_right rfl]

section Reading

variable {connection : Connection} {s t : Store} {reply : Option Reply}

/-- An operation which loops over the elements of any reply there is. -/
theorem reading_reports_iff {command : Cpp Store (Option Reply)} (h : command s = .ok reply t) :
    Reports Reply.texts reply ((do
      match ← command with
      | none => throwException noReply
      | some reply => resultList reply.elements : Cpp Store (List String)) s) ↔
      ∀ r, reply = some r → r.isError = false ∧ Readable r := by
  rw [bind_of_ok h]
  cases reply with
  | none => exact iff_of_true (throws_exception noReply t) (fun r hr => by cases hr)
  | some reply =>
      simp only [Option.some.injEq, forall_eq']
      exact elements_reports_iff reply t

theorem getList_reports_iff {key : CString} {start stop : Int32}
    (h : connection (cStr "LRANGE %s %d %d") [.text key, .int start, .int stop] s = .ok reply t) :
    Reports Reply.texts reply (getList connection key start stop s) ↔
      ∀ r, reply = some r → r.isError = false ∧ Readable r :=
  reading_reports_iff h

/-- Only an array has elements, so the test for the type changes nothing. -/
theorem executeOn_eq (connection : Connection) (cmd key : CString) :
    executeOn connection cmd key = (do
      match ← connection (cStr "%s %s") [.text cmd, .text key] with
      | none => throwException noReply
      | some reply => resultList reply.elements) := by
  rw [executeOn]
  simp only [replyElements_eq]

theorem executeOn_reports_iff {cmd key : CString}
    (h : connection (cStr "%s %s") [.text cmd, .text key] s = .ok reply t) :
    Reports Reply.texts reply (executeOn connection cmd key s) ↔
      ∀ r, reply = some r → r.isError = false ∧ Readable r := by
  rw [executeOn_eq]
  exact reading_reports_iff h

/-- The one operation which looks for an error reply. -/
theorem executeValuesOn_reports_iff {cmd key values : CString}
    (h : connection (cStr "%s %s %s") [.text cmd, .text key, .text values] s = .ok reply t) :
    Reports Reply.texts reply (executeValuesOn connection cmd key values s) ↔
      ∀ r, reply = some r → Readable r := by
  rw [executeValuesOn, bind_of_ok h]
  cases reply with
  | none => exact iff_of_true (throws_exception noReply t) (fun r hr => by cases hr)
  | some reply =>
      simp only [Option.some.injEq, forall_eq']
      cases herror : reply.isError with
      | true =>
          obtain ⟨str, rfl⟩ := (Reply.isError_iff reply).mp herror
          refine iff_of_true (throws_exception errorReply t) ⟨List.not_mem_nil, ?_⟩
          intro text htext
          cases htext
      | false =>
          -- from here on it is the loop of the other form
          rw [← and_iff_right (b := Readable reply) herror, ← elements_reports_iff reply t,
            ← replyElements_eq]
          cases reply with
          | error str => cases herror
          | status str => rfl
          | integer value => rfl
          | string str => rfl
          | nil => rfl
          | array elements => rfl

end Reading

end Reports

/-- The replies for which the operation does what it is to do: an error reply only where the
operation looks for one, and only elements with a text. -/
def Operation.Accepts {α : Type} : Operation α → Reply → Prop
  | .authenticate _, reply | .appendToList _ _, reply | .removeFromList _ _ _, reply
  | .setEntries _ _, reply => reply.isError = false
  | .getList _ _ _, reply | .execute _ _, reply => reply.isError = false ∧ Readable reply
  | .executeValues _ _ _, reply => Readable reply

/-- **One command.** -/
theorem Operation.reports_iff {α : Type} (op : Operation α) (connection : Connection)
    {s t : Store} {reply : Option Reply}
    (h : connection op.command.1 op.command.2 s = .ok reply t) :
    Reports op.value reply (op.perform connection s) ↔ ∀ r, reply = some r → op.Accepts r := by
  cases op with
  | authenticate password => exact acknowledge_reports_iff h
  | appendToList key data => exact acknowledge_reports_iff h
  | removeFromList key count value => exact acknowledge_reports_iff h
  | setEntries key entriesInfo => exact acknowledge_reports_iff h
  | getList key start stop => exact getList_reports_iff h
  | execute cmd key => exact executeOn_reports_iff h
  | executeValues cmd key values => exact executeValuesOn_reports_iff h

/-! ## `getEntries`, which sends two commands -/

section Entries

variable {connection : Connection} {key : CString} {s t u : Store}

/-- `getEntries` throws when one of its replies is missing or an error, and when there are
not as many values as names; otherwise it returns the names with their values. -/
def EntriesReported (outcome : EStateM.Result (Fault CppException) Store StringMap) :
    Option Reply → Option Reply → Prop
  | some names, some values =>
      if names.isError ∨ values.isError ∨ names.texts.length ≠ values.texts.length then
        Throws outcome
      else Returns outcome (mapOf (names.texts.zip values.texts))
  | _, _ => Throws outcome

/-- The replies for which it does.  An error reply is noticed only by the length of the other
reply. -/
def EntriesAccepted : Option Reply → Option Reply → Prop
  | none, _ => True
  | some names, none => none ∉ names.elements
  | some names, some values =>
      none ∉ names.elements ∧ none ∉ values.elements ∧
        (names.elements.length ≠ values.elements.length ∨
          names.isError = false ∧ values.isError = false ∧
            ∀ f v, LastOf (names.texts.zip values.texts) f v → CleanField (f, v))

theorem executeOn_missing {cmd : CString}
    (h : connection (cStr "%s %s") [.text cmd, .text key] s = .ok none t) :
    executeOn connection cmd key s = .error (.exception noReply) t := by
  rw [executeOn, bind_of_ok h]
  rfl

theorem executeOn_undefined {cmd : CString} {reply : Reply}
    (h : connection (cStr "%s %s") [.text cmd, .text key] s = .ok (some reply) t)
    (hnull : none ∈ reply.elements) : executeOn connection cmd key s = .error .undefined t := by
  rw [executeOn_eq, bind_of_ok h]
  exact resultList_undefined hnull t

theorem executeOn_texts {cmd : CString} {reply : Reply}
    (h : connection (cStr "%s %s") [.text cmd, .text key] s = .ok (some reply) t)
    (hnull : none ∉ reply.elements) :
    executeOn connection cmd key s = .ok (reply.texts.map cutText) t := by
  rw [executeOn_eq, bind_of_ok h]
  exact resultList_elements hnull t

theorem not_entriesReported_undefined (names : Reply) (values : Option Reply) (t : Store) :
    ¬EntriesReported (.error .undefined t) (some names) values := by
  cases values with
  | none => exact not_throws_undefined t
  | some values =>
      rw [EntriesReported]
      split
      · exact not_throws_undefined t
      · exact not_returns_undefined t _

/-- Both replies have texts only. -/
theorem getEntriesOn_texts {names values : Reply}
    (hnames : connection (cStr "%s %s") [.text (cStr "HKEYS"), .text key] s = .ok (some names) t)
    (hvalues : connection (cStr "%s %s") [.text (cStr "HVALS"), .text key] t =
      .ok (some values) u)
    (hn : none ∉ names.elements) (hv : none ∉ values.elements) :
    getEntriesOn connection key s =
      if names.elements.length ≠ values.elements.length then
        .error (.exception (.lengthError "key and value doesn't sample length")) u
      else .ok (mapOf ((names.texts.zip values.texts).map seenField)) u := by
  rw [getEntriesOn, bind_of_ok (executeOn_texts hnames hn),
    bind_of_ok (executeOn_texts hvalues hv), elements_eq_texts hn, elements_eq_texts hv]
  simp only [List.length_map]
  split
  · rfl
  · rw [List.zip_map]
    rfl

/-- What comes of it is right, unless an error reply looks like a reply without elements
and the other reply has none either. -/
theorem entriesReported_texts_iff {names values : Reply} (hn : none ∉ names.elements)
    (hv : none ∉ values.elements) (u : Store) :
    EntriesReported (if names.elements.length ≠ values.elements.length then
        .error (.exception (.lengthError "key and value doesn't sample length")) u
      else .ok (mapOf ((names.texts.zip values.texts).map seenField)) u)
      (some names) (some values) ↔
      names.elements.length ≠ values.elements.length ∨
        names.isError = false ∧ values.isError = false ∧
          ∀ f v, LastOf (names.texts.zip values.texts) f v → CleanField (f, v) := by
  have hnames : names.elements.length = names.texts.length := by
    rw [elements_eq_texts hn, List.length_map]
  have hvalues : values.elements.length = values.texts.length := by
    rw [elements_eq_texts hv, List.length_map]
  rw [EntriesReported, hnames, hvalues, ← mapOf_map_seenField_iff]
  by_cases hlength : names.texts.length = values.texts.length
  · rw [if_neg (not_not.mpr hlength)]
    -- the lengths agree, so nothing is thrown, and an error reply is not noticed
    cases names.isError with
    | true =>
        rw [if_pos (Or.inl rfl)]
        exact iff_of_false (not_throws_ok _ u) (by simp [hlength])
    | false =>
        cases values.isError with
        | true =>
            rw [if_pos (Or.inr (Or.inl rfl))]
            exact iff_of_false (not_throws_ok _ u) (by simp [hlength])
        | false =>
            rw [if_neg (by simp [hlength]), returns_ok_iff]
            simp [hlength]
  · rw [if_pos hlength, if_pos (Or.inr (Or.inr hlength))]
    exact iff_of_true (throws_exception _ u) (Or.inl hlength)

/-- **Two commands.** -/
theorem getEntriesOn_reported_iff {names values : Option Reply}
    (hnames : connection (cStr "%s %s") [.text (cStr "HKEYS"), .text key] s = .ok names t)
    (hvalues : connection (cStr "%s %s") [.text (cStr "HVALS"), .text key] t = .ok values u) :
    EntriesReported (getEntriesOn connection key s) names values ↔
      EntriesAccepted names values := by
  cases names with
  | none =>
      rw [getEntriesOn, bind_of_error (executeOn_missing hnames)]
      exact iff_of_true (throws_exception noReply t) trivial
  | some names =>
      by_cases hn : none ∈ names.elements
      · -- the loop over the names fails before `HVALS` is sent
        rw [getEntriesOn, bind_of_error (executeOn_undefined hnames hn)]
        refine iff_of_false (not_entriesReported_undefined names values t) ?_
        cases values with
        | none => exact fun h => h hn
        | some values => exact fun h => h.1 hn
      cases values with
      | none =>
          rw [getEntriesOn, bind_of_ok (executeOn_texts hnames hn),
            bind_of_error (executeOn_missing hvalues)]
          exact iff_of_true (throws_exception noReply u) hn
      | some values =>
          by_cases hv : none ∈ values.elements
          · rw [getEntriesOn, bind_of_ok (executeOn_texts hnames hn),
              bind_of_error (executeOn_undefined hvalues hv)]
            exact iff_of_false (not_entriesReported_undefined names (some values) u)
              fun h => h.2.1 hv
          rw [getEntriesOn_texts hnames hvalues hn hv, EntriesAccepted, and_iff_right hn,
            and_iff_right hv]
          exact entriesReported_texts_iff hn hv u

end Entries

/-- Every operation of the class reports what came to its commands exactly for the replies it
accepts. -/
theorem errorReplies (connection : Connection) :
    (∀ (α : Type) (op : Operation α) (s t : Store) (reply : Option Reply),
      connection op.command.1 op.command.2 s = .ok reply t →
        (Reports op.value reply (op.perform connection s) ↔
          ∀ r, reply = some r → op.Accepts r)) ∧
      ∀ (key : CString) (s t u : Store) (names values : Option Reply),
        connection (cStr "%s %s") [.text (cStr "HKEYS"), .text key] s = .ok names t →
        connection (cStr "%s %s") [.text (cStr "HVALS"), .text key] t = .ok values u →
          (EntriesReported (getEntriesOn connection key s) names values ↔
            EntriesAccepted names values) :=
  ⟨fun _ op _ _ _ h => op.reports_iff connection h,
    fun _ _ _ _ _ _ hnames hvalues => getEntriesOn_reported_iff hnames hvalues⟩

/-- A server which answers every command with the same reply. -/
def alwaysReplies (reply : Reply) : Connection := fun _ _ => pure (some reply)

/-- An array with one text. -/
def oneText : Reply := .array [some "type"]

/-- A map with two entries. -/
def address : StringMap := ((∅ : StringMap).insert "ip" "10.0.0.2").insert "port" "5683"

theorem errorReplies_status :
    Reports (fun _ => ()) (some (.status "OK"))
        (setEntriesOn (alwaysReplies (.status "OK")) (cStr "led") address fun _ => none) ∧
      EntriesReported (getEntriesOn (alwaysReplies oneText) (cStr "led") fun _ => none)
        (some oneText) (some oneText) := by
  constructor
  · refine ((errorReplies (alwaysReplies (.status "OK"))).1 Unit (.setEntries (cStr "led") address)
      _ _ _ rfl).mpr fun r hr => ?_
    cases hr
    rfl
  · refine ((errorReplies (alwaysReplies oneText)).2 (cStr "led") _ _ _ _ _ rfl rfl).mpr ?_
    refine ⟨by decide, by decide, Or.inr ⟨rfl, rfl, fun f v hlast => ?_⟩⟩
    have hnodup : ((oneText.texts.zip oneText.texts).map Prod.fst).Nodup := by decide
    have hfield : (f, v) ∈ [("type", "type")] := (lastOf_iff_mem hnodup f v).mp hlast
    rw [List.mem_singleton.mp hfield]
    decide

/-- A list is appended to which is a set. -/
theorem not_reports_appendToList :
    ¬∀ (connection : Connection) (α : Type) (op : Operation α) (s t : Store)
        (reply : Option Reply), connection op.command.1 op.command.2 s = .ok reply t →
          Reports op.value reply (op.perform connection s) := by
  intro h
  have hreports := h (alwaysReplies wrongType) Unit (.appendToList (cStr "devices") (cStr "led"))
    (fun _ => none) _ _ rfl
  rw [Operation.reports_iff _ (alwaysReplies wrongType) rfl] at hreports
  have haccepts : wrongType.isError = false := hreports wrongType rfl
  exact absurd haccepts (by decide)

end RedisDb
end Redis
end FireEvacuation

import FireEvacuation.Redis.Store

/-!
# The class `RedisDb`

`RedisDb` wraps the connection: `execute` runs a command with one or two
arguments, `getEntries` reads a hash, and `setEntries` writes one.  `setEntries`
does not pass its texts as arguments.  It concatenates them into the command and
hands the result to `redisCommand` as the format string, so what arrives depends
on how hiredis splits that string.
-/

namespace FireEvacuation
namespace Redis

open FireEvacuation.Core FireEvacuation.Core.Effect Platform

/-- `std::map<std::string, std::string>`. -/
abbrev StringMap := Std.ExtTreeMap String String

namespace RedisDb

variable (rejects : List Char → Bool)

/-- The exception for a null reply. -/
def noReply : CppException := .runtimeError "cannot retrieve the value"

/-- The exception for an error reply. -/
def errorReply : CppException := .runtimeError "reply type is error"

/-- The loop over the elements of an array reply: `std::string element(str)` is
undefined for a null pointer. -/
def resultList : List (Option String) → Cpp Store (List String)
  | [] => pure []
  | none :: _ => undefinedBehaviour
  | some str :: rest => do
      let others ← resultList rest
      pure ((cStr str).text :: others)

/-- The elements of an array reply, and nothing for any other reply. -/
def replyElements : Reply → Cpp Store (List String)
  | .array elements => resultList elements
  | _ => pure []

/-- `execute(cmd, key)`: an error reply counts as an empty result. -/
def execute (link : Link) (cmd key : CString) : Cpp Store (List String) := do
  match ← redisCommand rejects link (cStr "%s %s") [cmd, key] with
  | none => throwException noReply
  | some reply => replyElements reply

/-- `execute(cmd, key, values)`: an error reply is an exception. -/
def executeValues (link : Link) (cmd key values : CString) : Cpp Store (List String) := do
  match ← redisCommand rejects link (cStr "%s %s %s") [cmd, key, values] with
  | none => throwException noReply
  | some (.error _) => throwException errorReply
  | some reply => replyElements reply

/-- `getEntries`, with the outcome of its two commands on the connection. -/
def getEntries (hkeys hvals : Link) (key : CString) : Cpp Store StringMap := do
  let keys ← execute rejects hkeys (cStr "HKEYS") key
  let values ← execute rejects hvals (cStr "HVALS") key
  if keys.length ≠ values.length then
    throwException (.lengthError "key and value doesn't sample length")
  else
    pure ((keys.zip values).foldl (fun entry field => entry.insert field.1 field.2) ∅)

/-- The loop of `setEntries` over the fields. -/
def fieldsText : List (String × String) → String
  | [] => ""
  | field :: rest => " " ++ field.1 ++ " " ++ field.2 ++ fieldsText rest

/-- The command `setEntries` builds. -/
def entriesCommand (key : CString) (entriesInfo : StringMap) : String :=
  "HMSET " ++ key.text ++ fieldsText entriesInfo.toList

/-- `setEntries`: only a null reply is an exception. -/
def setEntries (link : Link) (key : CString) (entriesInfo : StringMap) : Cpp Store Unit := do
  match ← redisCommand rejects link (cStr (entriesCommand key entriesInfo)) [] with
  | none => throwException noReply
  | some _ => pure ()

/-! ## The commands which pass their texts as arguments -/

section Arguments

variable {rejects : List Char → Bool}

theorem format_two (cmd key : CString) :
    redisvFormatCommand rejects (cStr "%s %s") [cmd, key] = .args [cmd.text, key.text] := by
  have htext : (cStr "%s %s").text.toList = ['%', 's', ' ', '%', 's'] := by
    rw [cStr_text_of_noNul (by decide)]
    rfl
  rw [redisvFormatCommand, htext, formatLoop_string, formatLoop_space_touched,
    formatLoop_string, formatLoop_nil]
  simp

theorem format_three (cmd key values : CString) :
    redisvFormatCommand rejects (cStr "%s %s %s") [cmd, key, values] =
      .args [cmd.text, key.text, values.text] := by
  have htext : (cStr "%s %s %s").text.toList = ['%', 's', ' ', '%', 's', ' ', '%', 's'] := by
    rw [cStr_text_of_noNul (by decide)]
    rfl
  rw [redisvFormatCommand, htext, formatLoop_string, formatLoop_space_touched,
    formatLoop_string, formatLoop_space_touched, formatLoop_string, formatLoop_nil]
  simp

/-- A command which arrives as its arguments. -/
theorem redisCommand_of_args {format : CString} {ap : List CString} {argv : List String}
    (h : redisvFormatCommand rejects format ap = .args argv) (link : Link) (store : Store) :
    redisCommand rejects link format ap store =
      .ok (link.answer (execCommand argv store).1)
        (if link.executes then (execCommand argv store).2 else store) := by
  simp only [redisCommand, h]

/-- `SADD` on a key which holds a set, over a working connection. -/
theorem executeValues_sadd (rejects : List Char → Bool) {key : CString} {store : Store}
    (h : HoldsSet store key.text) (member : CString) :
    executeValues rejects .up (cStr "SADD") key member store =
      .ok [] (Function.update store key.text
        (some (.set (insert member.text (storedSet store key.text))))) := by
  obtain ⟨added, hsadd⟩ := sadd_of_holdsSet h member.text
  rw [executeValues, bind_of_ok (redisCommand_of_args (format_three _ _ _) .up store)]
  rw [cStr_text_of_noNul (by decide : nul ∉ "SADD".toList), execCommand_sadd, hsadd]
  rfl

/-- `SADD` on a key which holds something else. -/
theorem executeValues_sadd_wrongType {key : CString} {store : Store}
    (h : ¬HoldsSet store key.text) (member : CString) :
    executeValues rejects .up (cStr "SADD") key member store =
      .error (.exception errorReply) store := by
  rw [executeValues, bind_of_ok (redisCommand_of_args (format_three _ _ _) .up store)]
  rw [cStr_text_of_noNul (by decide : nul ∉ "SADD".toList), execCommand_sadd,
    sadd_of_not_holdsSet h]
  rfl

theorem executeValues_refused (message : String) (cmd key values : CString) (store : Store) :
    executeValues rejects (.refused message) cmd key values store =
      .error (.exception errorReply) store := by
  rw [executeValues, bind_of_ok (redisCommand_of_args (format_three _ _ _) _ store)]
  rfl

theorem executeValues_lost (executed : Bool) (cmd key values : CString) (store : Store) :
    executeValues rejects (.lost executed) cmd key values store =
      .error (.exception noReply)
        (if executed then (execCommand [cmd.text, key.text, values.text] store).2
          else store) := by
  rw [executeValues, bind_of_ok (redisCommand_of_args (format_three _ _ _) _ store)]
  rfl

end Arguments

/-! ## Reading a hash -/

section Reading

variable {rejects : List Char → Bool}

/-- The field as `getEntries` sees it, cut off at a terminator. -/
def seenField (field : String × String) : String × String :=
  ((cStr field.1).text, (cStr field.2).text)

/-- The map `getEntries` makes of a hash. -/
def readBack (fields : Hash) : StringMap :=
  (fields.toList.map seenField).foldl (fun entry field => entry.insert field.1 field.2) ∅

theorem resultList_some (texts : List String) (store : Store) :
    resultList (texts.map some) store =
      .ok (texts.map fun text => (cStr text).text) store := by
  induction texts with
  | nil => rfl
  | cons text texts ih =>
      rw [List.map_cons, resultList, bind_of_ok ih]
      rfl

theorem execute_hlist {cmd : CString} {key : CString} {part : String × String → String}
    {name : String} {store : Store}
    (hcmd : execCommand [cmd.text, key.text] store = (hlist name part [key.text] store, store))
    (h : HoldsHash store key.text) :
    execute rejects .up cmd key store =
      .ok ((storedHash store key.text).toList.map fun field => (cStr (part field)).text)
        store := by
  rw [execute, bind_of_ok (redisCommand_of_args (format_two _ _) .up store), hcmd, storedHash]
  obtain h | ⟨fields, h⟩ := h
  · simp only [hlist, h, Link.answer, Link.executes, if_true]
    rfl
  · simp only [hlist, h, Link.answer, Link.executes, if_true, replyElements]
    have hmap : (fields.toList.map fun entry => some (part entry)) =
        (fields.toList.map part).map some := by
      rw [List.map_map]
      rfl
    rw [hmap, resultList_some, List.map_map]
    rfl

theorem execute_hlist_wrongType {cmd : CString} {key : CString}
    {part : String × String → String} {name : String} {store : Store}
    (hcmd : execCommand [cmd.text, key.text] store = (hlist name part [key.text] store, store))
    (h : ¬HoldsHash store key.text) :
    execute rejects .up cmd key store = .ok [] store := by
  rw [execute, bind_of_ok (redisCommand_of_args (format_two _ _) .up store), hcmd]
  have hreply : hlist name part [key.text] store = wrongType := by
    rw [hlist]
    obtain ⟨_, h⟩ | ⟨_, h⟩ | ⟨_, h⟩ := other_of_not_holdsHash h <;> simp only [h]
  rw [hreply]
  rfl

theorem execCommand_hkeys (key : String) (store : Store) :
    execCommand [(cStr "HKEYS").text, key] store =
      (hlist "hkeys" Prod.fst [key] store, store) := by
  rw [cStr_text_of_noNul (by decide)]
  rfl

theorem execCommand_hvals (key : String) (store : Store) :
    execCommand [(cStr "HVALS").text, key] store =
      (hlist "hvals" Prod.snd [key] store, store) := by
  rw [cStr_text_of_noNul (by decide)]
  rfl

/-- Reading a hash, or a key which holds nothing. -/
theorem getEntries_of_holdsHash {key : CString} {store : Store}
    (h : HoldsHash store key.text) :
    getEntries rejects .up .up key store =
      .ok (readBack (storedHash store key.text)) store := by
  rw [getEntries, bind_of_ok (execute_hlist (execCommand_hkeys key.text store) h),
    bind_of_ok (execute_hlist (execCommand_hvals key.text store) h)]
  simp only [List.length_map, ne_eq, not_true_eq_false, if_false, List.zip_map', pure_apply]
  rfl

/-- Reading a key which holds another kind of value: the error replies count as
empty results. -/
theorem getEntries_of_not_holdsHash {key : CString} {store : Store}
    (h : ¬HoldsHash store key.text) :
    getEntries rejects .up .up key store = .ok ∅ store := by
  rw [getEntries, bind_of_ok (execute_hlist_wrongType (execCommand_hkeys key.text store) h),
    bind_of_ok (execute_hlist_wrongType (execCommand_hvals key.text store) h)]
  rfl

/-- A field without a terminator inside. -/
def CleanField (field : String × String) : Prop :=
  nul ∉ field.1.toList ∧ nul ∉ field.2.toList

/-- What is read of a hash whose names have no terminators: every value as far as its
terminator. -/
theorem readBack_of_cleanNames {fields : Hash}
    (h : ∀ f v : String, fields[f]? = some v → nul ∉ f.toList) :
    readBack fields = fields.map fun _ v => (cStr v).text := by
  have hseen : ∀ field ∈ fields.toList,
      seenField field = (field.1, (cStr field.2).text) := by
    rintro ⟨f, v⟩ hfield
    rw [seenField,
      cStr_text_of_noNul (h f v (Std.ExtTreeMap.mem_toList_iff_getElem?_eq_some.mp hfield))]
  have hlist : (fields.map fun _ v => (cStr v).text).toList =
      fields.toList.map fun field => (field.1, (cStr field.2).text) :=
    Std.ExtTreeMap.toList_map
  have hfold := Std.ExtTreeMap.insertMany_list_eq_foldl
    (t := (∅ : StringMap)) (l := (fields.map fun _ v => (cStr v).text).toList)
  rw [readBack, List.map_congr_left hseen, ← hlist]
  exact hfold.symm.trans (overlay_empty_left _)

theorem getElem?_readBack {fields : Hash}
    (h : ∀ f v : String, fields[f]? = some v → nul ∉ f.toList) (f : String) :
    (readBack fields)[f]? = fields[f]?.map fun v => (cStr v).text := by
  rw [readBack_of_cleanNames h, Std.ExtTreeMap.getElem?_map]

/-- A hash without terminators reads back as it is. -/
theorem readBack_of_clean {fields : Hash}
    (h : ∀ f v : String, fields[f]? = some v → CleanField (f, v)) :
    readBack fields = fields := by
  apply Std.ExtTreeMap.ext_getElem?
  intro f
  rw [getElem?_readBack fun f v hv => (h f v hv).1]
  cases hf : fields[f]? with
  | none => rfl
  | some v => rw [Option.map_some, cStr_text_of_noNul (h f v hf).2]

/-- Everything that is read is free of terminators. -/
theorem clean_of_mem_readBack {fields : Hash} {f v : String}
    (h : (readBack fields)[f]? = some v) : CleanField (f, v) := by
  have hfold : ∀ (entries : List (String × String)) (start : StringMap),
      (∀ f v, start[f]? = some v → CleanField (f, v)) →
      ((entries.map seenField).foldl (fun entry field => entry.insert field.1 field.2)
        start)[f]? = some v → CleanField (f, v) := by
    intro entries
    -- the map may start with anything free of terminators
    induction entries with
    | nil => exact fun start hstart hmem => hstart f v hmem
    | cons entry entries ih =>
        intro start hstart hmem
        refine ih (start.insert (seenField entry).1 (seenField entry).2) ?_ hmem
        intro f' v' hf'
        rw [Std.ExtTreeMap.getElem?_insert] at hf'
        split at hf'
        · rename_i heq
          have hf : (seenField entry).1 = f' := Std.LawfulEqCmp.eq_of_compare heq
          cases hf'
          subst hf
          exact ⟨(cStr entry.1).noNul, (cStr entry.2).noNul⟩
        · exact hstart f' v' hf'
  refine hfold fields.toList ∅ ?_ h
  intro f' v' hf'
  rw [Std.ExtTreeMap.getElem?_empty] at hf'
  cases hf'

end Reading

/-! ## The command `setEntries` builds -/

section Writing

variable {rejects : List Char → Bool}

/-- The words of the command. -/
def commandWords (key : CString) (entriesInfo : StringMap) : List String :=
  "HMSET" :: key.text :: flattenPairs entriesInfo.toList

theorem toList_fieldsText (first : String) (fields : List (String × String)) :
    (first ++ fieldsText fields).toList =
      joinWords ((first :: flattenPairs fields).map String.toList) := by
  induction fields generalizing first with
  | nil => simp [fieldsText, flattenPairs, joinWords]
  | cons field fields ih =>
      have hrest := ih field.2
      simp only [flattenPairs_cons, List.map_cons, joinWords_cons_cons] at hrest ⊢
      rw [← hrest]
      simp [fieldsText]

/-- The command is its words joined by spaces. -/
theorem toList_entriesCommand (key : CString) (entriesInfo : StringMap) :
    (entriesCommand key entriesInfo).toList =
      joinWords ((commandWords key entriesInfo).map String.toList) := by
  have hkey := toList_fieldsText key.text entriesInfo.toList
  simp only [commandWords, List.map_cons, joinWords_cons_cons] at hkey ⊢
  rw [← hkey]
  simp [entriesCommand]

/-- hiredis makes of the command what `setEntries` means: the texts are proper
words, and no percent sign comes before the very last place. -/
structure PlainCommand (key : CString) (entriesInfo : StringMap) : Prop where
  words : ∀ w ∈ key.text :: flattenPairs entriesInfo.toList, ArgWord w
  percent : '%' ∉ (entriesCommand key entriesInfo).toList.dropLast

theorem argWord_hmset : ArgWord "HMSET" := by
  constructor <;> decide

theorem commandWords_argWord {key : CString} {entriesInfo : StringMap}
    (h : ∀ w ∈ key.text :: flattenPairs entriesInfo.toList, ArgWord w) :
    ∀ w ∈ commandWords key entriesInfo, ArgWord w := by
  intro w hw
  rw [commandWords, List.mem_cons] at hw
  cases hw with
  | inl hfirst => exact hfirst ▸ argWord_hmset
  | inr hrest => exact h w hrest

theorem nul_not_mem_joinWords {ws : List (List Char)} (hws : ∀ w ∈ ws, nul ∉ w) :
    nul ∉ joinWords ws := by
  induction ws with
  | nil => exact List.not_mem_nil
  | cons w ws ih =>
      have hw := hws w List.mem_cons_self
      have hrest := ih fun v hv => hws v (List.mem_cons_of_mem w hv)
      cases ws with
      | nil => exact hw
      | cons v ws =>
          rw [joinWords_cons_cons, List.mem_append, List.mem_cons, not_or, not_or]
          exact ⟨hw, by decide, hrest⟩

/-- No part of a command made of proper words is cut off. -/
theorem cStr_entriesCommand {key : CString} {entriesInfo : StringMap}
    (h : ∀ w ∈ key.text :: flattenPairs entriesInfo.toList, ArgWord w) :
    (cStr (entriesCommand key entriesInfo)).text = entriesCommand key entriesInfo := by
  apply cStr_text_of_noNul
  rw [toList_entriesCommand]
  apply nul_not_mem_joinWords
  intro w hw
  obtain ⟨v, hv, rfl⟩ := List.mem_map.mp hw
  exact (commandWords_argWord h v hv).noNul

/-- A plain command arrives as its words. -/
theorem format_entriesCommand {key : CString} {entriesInfo : StringMap}
    (h : PlainCommand key entriesInfo) :
    redisvFormatCommand rejects (cStr (entriesCommand key entriesInfo)) [] =
      .args (commandWords key entriesInfo) := by
  have hpct := h.percent
  rw [toList_entriesCommand] at hpct
  rw [redisvFormatCommand, cStr_entriesCommand h.words, toList_entriesCommand]
  have hwords : ∀ w ∈ (commandWords key entriesInfo).map String.toList, w ≠ [] ∧ ' ' ∉ w := by
    intro w hw
    obtain ⟨v, hv, rfl⟩ := List.mem_map.mp hw
    have hword := commandWords_argWord h.words v hv
    exact ⟨hword.nonempty, hword.noSpace⟩
  have hid : String.ofList ∘ String.toList = id := funext fun w => String.ofList_toList
  rw [formatLoop_joinWords hwords hpct, List.nil_append, List.map_map, hid, List.map_id]

/-- `setEntries` when the command arrives and is answered. -/
theorem setEntries_up {key : CString} {entriesInfo : StringMap} {argv : List String}
    (h : redisvFormatCommand rejects (cStr (entriesCommand key entriesInfo)) [] = .args argv)
    (store : Store) :
    setEntries rejects .up key entriesInfo store = .ok () (execCommand argv store).2 := by
  rw [setEntries, bind_of_ok (redisCommand_of_args h .up store)]
  rfl

/-- An error reply is not looked at. -/
theorem setEntries_refused {key : CString} {entriesInfo : StringMap} {argv : List String}
    (h : redisvFormatCommand rejects (cStr (entriesCommand key entriesInfo)) [] = .args argv)
    (message : String) (store : Store) :
    setEntries rejects (.refused message) key entriesInfo store = .ok () store := by
  rw [setEntries, bind_of_ok (redisCommand_of_args h (.refused message) store)]
  rfl

/-- A lost reply is an exception, whether or not the command was executed. -/
theorem setEntries_lost {key : CString} {entriesInfo : StringMap} {argv : List String}
    (h : redisvFormatCommand rejects (cStr (entriesCommand key entriesInfo)) [] = .args argv)
    (executed : Bool) (store : Store) :
    setEntries rejects (.lost executed) key entriesInfo store =
      .error (.exception noReply) (if executed then (execCommand argv store).2 else store) := by
  rw [setEntries, bind_of_ok (redisCommand_of_args h (.lost executed) store)]
  rfl

theorem setEntries_of_formatError {key : CString} {entriesInfo : StringMap}
    (h : redisvFormatCommand rejects (cStr (entriesCommand key entriesInfo)) [] = .formatError)
    (link : Link) (store : Store) :
    setEntries rejects link key entriesInfo store = .error (.exception noReply) store := by
  have hcommand : redisCommand rejects link (cStr (entriesCommand key entriesInfo)) [] store =
      .ok none store := by
    simp only [redisCommand, h]
  rw [setEntries, bind_of_ok hcommand]
  rfl

theorem setEntries_of_undefined {key : CString} {entriesInfo : StringMap}
    (h : redisvFormatCommand rejects (cStr (entriesCommand key entriesInfo)) [] = .undefined)
    (link : Link) (store : Store) :
    setEntries rejects link key entriesInfo store = .error .undefined store := by
  have hcommand : redisCommand rejects link (cStr (entriesCommand key entriesInfo)) [] store =
      .error .undefined store := by
    simp only [redisCommand, h]
  rw [setEntries, bind_of_error hcommand]

theorem flattenPairs_ne_nil {entries : StringMap} (hne : entries ≠ ∅) :
    ¬(flattenPairs entries.toList = [] ∨ (flattenPairs entries.toList).length % 2 = 1) := by
  rw [not_or]
  constructor
  · intro hnil
    have hlength := length_flattenPairs entries.toList
    rw [hnil, List.length_nil] at hlength
    apply hne
    apply Std.ExtTreeMap.ext_getElem?
    intro k
    cases hk : entries[k]? with
    | none => rw [Std.ExtTreeMap.getElem?_empty]
    | some v =>
        have hmem := Std.ExtTreeMap.mem_toList_iff_getElem?_eq_some.mpr hk
        have hpos := List.length_pos_of_mem hmem
        omega
  · rw [length_flattenPairs]
    omega

/-- A plain command over a working connection writes the entries over the hash. -/
theorem setEntries_plain {key : CString} {entriesInfo : StringMap} {store : Store}
    (h : PlainCommand key entriesInfo) (hne : entriesInfo ≠ ∅)
    (hkey : HoldsHash store key.text) :
    setEntries rejects .up key entriesInfo store =
      .ok () (Function.update store key.text
        (some (.hash (overlay (storedHash store key.text) entriesInfo)))) := by
  rw [setEntries_up (format_entriesCommand h)]
  simp only [commandWords, execCommand_hmset]
  rw [hmset_of_holdsHash (flattenPairs_ne_nil hne) hkey, insertPairs_toList]

end Writing

end RedisDb

end Redis
end FireEvacuation

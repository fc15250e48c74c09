import Mathlib.Data.List.Perm.Subperm
import FireEvacuation.Redis.RedisDb

/-!
# Reading back what was written

`setEntries` is meant to write a map over the hash of its key, to change no other
key, and to leave everything as it was when it throws.  `WritesBack` states this
for one call.  Whether a call keeps it is decided by the command text: a space or
an empty text shifts the arguments, a percent sign swallows the character after
it, and an error reply is not looked at.
-/

namespace FireEvacuation
namespace Redis

open FireEvacuation.Core FireEvacuation.Core.Effect Platform

namespace RedisDb

variable (rejects : List Char → Bool)

/-- `setEntries(key, entriesInfo)` throws and leaves the store alone, or afterwards
`getEntries(key)` is the old hash overwritten by the map and no other key changed. -/
def WritesBack (link : Link) (store : Store) (key : CString) (entriesInfo : StringMap) :
    Prop :=
  (∃ e, setEntries rejects link key entriesInfo store = .error (.exception e) store) ∨
    ∃ store', setEntries rejects link key entriesInfo store = .ok () store' ∧
      getEntries rejects .up .up key store' =
        .ok (overlay (storedHash store key.text) entriesInfo) store' ∧
      ∀ other, other ≠ key.text → store' other = store other

/-- The key can hold the map and what stays of its old hash has no terminators. -/
structure ReadableHash (store : Store) (key : CString) (entriesInfo : StringMap) : Prop where
  holdsHash : HoldsHash store key.text
  clean : ∀ f v : String, (storedHash store key.text)[f]? = some v →
    nul ∉ f.toList ∧ (entriesInfo[f]? = none → nul ∉ v.toList)

/-- The hash already reads as if the map had been written over it. -/
structure ShowsEntries (store : Store) (key : CString) (entriesInfo : StringMap) : Prop
    extends ReadableHash store key entriesInfo where
  shown : ∀ f v : String, entriesInfo[f]? = some v →
    ∃ u, (storedHash store key.text)[f]? = some u ∧ (cStr u).text = v

/-- The names of the fields are words hiredis copies unchanged. -/
def PlainNames (entriesInfo : StringMap) : Prop :=
  ∀ f v : String, entriesInfo[f]? = some v → ArgWord f ∧ '%' ∉ f.toList

/-- When the call keeps its promise. -/
inductive WriteCondition (store : Store) (key : CString) (entriesInfo : StringMap) :
    Link → Prop where
  /-- hiredis rejects the command text, so nothing is sent. -/
  | formatRejected {link : Link}
      (h : redisvFormatCommand rejects (cStr (entriesCommand key entriesInfo)) [] =
        .formatError) : WriteCondition store key entriesInfo link
  /-- The command arrives as it is meant. -/
  | plain (h : PlainCommand key entriesInfo) (hreadable : ReadableHash store key entriesInfo) :
      WriteCondition store key entriesInfo .up
  /-- The command has no effect, and the hash needs none. -/
  | shown {link : Link} {argv : List String}
      (h : redisvFormatCommand rejects (cStr (entriesCommand key entriesInfo)) [] = .args argv)
      (hsame : link.executes = true → (execCommand argv store).2 = store)
      (hshows : ShowsEntries store key entriesInfo) :
      WriteCondition store key entriesInfo link
  /-- The reply is lost, which is an exception, and the command had no effect. -/
  | noReply {argv : List String} {executed : Bool}
      (h : redisvFormatCommand rejects (cStr (entriesCommand key entriesInfo)) [] = .args argv)
      (hsame : executed = true → (execCommand argv store).2 = store) :
      WriteCondition store key entriesInfo (.lost executed)

variable {rejects}

theorem writesBack_of_ok_iff {link : Link} {store store' : Store} {key : CString}
    {entriesInfo : StringMap}
    (h : setEntries rejects link key entriesInfo store = .ok () store') :
    WritesBack rejects link store key entriesInfo ↔
      getEntries rejects .up .up key store' =
          .ok (overlay (storedHash store key.text) entriesInfo) store' ∧
        ∀ other, other ≠ key.text → store' other = store other := by
  rw [WritesBack, h]
  constructor
  · rintro (⟨e, hthrow⟩ | ⟨store'', hreturn, hkeeps⟩)
    · cases hthrow
    · injection hreturn with _ heq
      rw [heq]
      exact hkeeps
  · intro hkeeps
    exact Or.inr ⟨store', rfl, hkeeps⟩

theorem writesBack_of_exception_iff {link : Link} {store store' : Store} {key : CString}
    {entriesInfo : StringMap} {e : CppException}
    (h : setEntries rejects link key entriesInfo store = .error (.exception e) store') :
    WritesBack rejects link store key entriesInfo ↔ store' = store := by
  rw [WritesBack, h]
  constructor
  · rintro (⟨e', hthrow⟩ | ⟨store'', hreturn, -⟩)
    · injection hthrow
    · cases hreturn
  · rintro rfl
    exact Or.inl ⟨e, rfl⟩

theorem not_writesBack_of_undefined {link : Link} {store store' : Store} {key : CString}
    {entriesInfo : StringMap}
    (h : setEntries rejects link key entriesInfo store = .error .undefined store') :
    ¬WritesBack rejects link store key entriesInfo := by
  rw [WritesBack, h]
  rintro (⟨e, hthrow⟩ | ⟨store'', hreturn, -⟩)
  · cases hthrow
  · cases hreturn

/-! ## The pairs of an `HMSET` -/

/-- The arguments of `HMSET` taken two by two. -/
def pairUp : List String → List (String × String)
  | f :: v :: rest => (f, v) :: pairUp rest
  | _ => []

section Pairs

variable {pairs : List String}

/-- A single argument at the end has no partner. -/
theorem pairUp_of_short (h : ∀ f v rest, pairs = f :: v :: rest → False) : pairUp pairs = [] :=
  pairUp.eq_2 pairs h

theorem insertPairs_of_short (h : ∀ f v rest, pairs = f :: v :: rest → False) (fields : Hash) :
    insertPairs fields pairs = fields :=
  insertPairs.eq_2 fields pairs h

theorem charCount_pairUp (pairs : List String) :
    charCount (flattenPairs (pairUp pairs)) ≤ charCount pairs := by
  induction pairs using pairUp.induct with
  | case1 f v rest ih =>
      simp only [pairUp, flattenPairs_cons, charCount]
      omega
  | case2 pairs hshort =>
      rw [pairUp_of_short hshort]
      exact Nat.zero_le _

theorem mem_of_mem_pairUp {entry : String × String} (h : entry ∈ pairUp pairs) :
    entry.1 ∈ pairs ∧ entry.2 ∈ pairs := by
  induction pairs using pairUp.induct with
  | case1 f v rest ih =>
      rw [pairUp, List.mem_cons] at h
      cases h with
      | inl heq => simp [heq]
      | inr hrest =>
          obtain ⟨hf, hv⟩ := ih hrest
          exact ⟨List.mem_cons_of_mem _ (List.mem_cons_of_mem _ hf),
            List.mem_cons_of_mem _ (List.mem_cons_of_mem _ hv)⟩
  | case2 pairs hshort =>
      rw [pairUp_of_short hshort] at h
      cases h

/-- A field was there before or comes from the arguments. -/
theorem getElem?_insertPairs_cases {fields : Hash} {f v : String}
    (h : (insertPairs fields pairs)[f]? = some v) :
    fields[f]? = some v ∨ (f, v) ∈ pairUp pairs := by
  induction pairs using pairUp.induct generalizing fields with
  | case1 f' v' rest ih =>
      rw [insertPairs] at h
      rw [pairUp, List.mem_cons]
      cases ih h with
      | inl hinsert =>
          rw [Std.ExtTreeMap.getElem?_insert] at hinsert
          split at hinsert
          · rename_i heq
            have hname : f' = f := Std.LawfulEqCmp.eq_of_compare heq
            cases hinsert
            exact Or.inr (Or.inl (by rw [hname]))
          · exact Or.inl hinsert
      | inr hrest => exact Or.inr (Or.inr hrest)
  | case2 pairs hshort =>
      rw [insertPairs_of_short hshort] at h
      exact Or.inl h

/-- The value of a field which is named among the arguments comes from there. -/
theorem mem_pairUp_of_name {fields : Hash} {f v : String}
    (hname : f ∈ (pairUp pairs).map Prod.fst) (h : (insertPairs fields pairs)[f]? = some v) :
    (f, v) ∈ pairUp pairs := by
  induction pairs using pairUp.induct generalizing fields with
  | case1 f' v' rest ih =>
      rw [insertPairs] at h
      rw [pairUp, List.mem_cons]
      by_cases hrest : f ∈ (pairUp rest).map Prod.fst
      · exact Or.inr (ih hrest h)
      · rw [pairUp, List.map_cons, List.mem_cons] at hname
        have hfirst : f = f' := hname.resolve_right hrest
        subst hfirst
        cases getElem?_insertPairs_cases h with
        | inl hinsert =>
            rw [Std.ExtTreeMap.getElem?_insert_self] at hinsert
            cases hinsert
            exact Or.inl rfl
        | inr hlater => exact Or.inr hlater
  | case2 pairs hshort =>
      rw [pairUp_of_short hshort] at hname
      cases hname

/-- What follows an even number of arguments is the name of a field. -/
theorem name_at_even {args : List String} {f : String} (hargs : args.length % 2 = 0)
    (hpairs : pairs.length % 2 = 0) (h : args ++ [f] <+: pairs) :
    f ∈ (pairUp pairs).map Prod.fst := by
  -- two arguments are taken off at a time, which keeps the number even
  induction pairs using pairUp.induct generalizing args with
  | case1 f' v' rest ih =>
      rw [pairUp, List.map_cons, List.mem_cons]
      cases args with
      | nil =>
          rw [List.nil_append, List.cons_prefix_cons] at h
          exact Or.inl h.1
      | cons a args =>
          cases args with
          | nil => cases hargs
          | cons b args =>
              simp only [List.cons_append, List.cons_prefix_cons] at h
              simp only [List.length_cons] at hargs hpairs
              exact Or.inr (ih (by omega) (by omega) h.2.2)
  | case2 pairs hshort =>
      cases pairs with
      | nil =>
          have hlength := h.length_le
          rw [List.length_append, List.length_singleton, List.length_nil] at hlength
          omega
      | cons f' pairs =>
          cases pairs with
          | nil => cases hpairs
          | cons v' rest => exact (hshort f' v' rest rfl).elim

end Pairs

theorem charCount_perm {entries entries' : List (String × String)} (h : entries.Perm entries') :
    charCount (flattenPairs entries) = charCount (flattenPairs entries') := by
  induction h with
  | nil => rfl
  | cons entry _ ih =>
      simp only [flattenPairs_cons, charCount]
      omega
  | swap entry entry' entries =>
      simp only [flattenPairs_cons, charCount]
      omega
  | trans _ _ ih ih' => exact ih.trans ih'

theorem charCount_sublist {entries entries' : List (String × String)}
    (h : entries.Sublist entries') :
    charCount (flattenPairs entries) ≤ charCount (flattenPairs entries') := by
  induction h with
  | slnil => exact Nat.le_refl _
  | cons entry _ ih =>
      simp only [flattenPairs_cons, charCount]
      omega
  | cons_cons entry _ ih =>
      simp only [flattenPairs_cons, charCount]
      omega

/-- Distinct entries which all arrive have at most as many characters as the
arguments. -/
theorem charCount_of_sent {entriesInfo : StringMap} {pairs : List String}
    (h : entriesInfo.toList ⊆ pairUp pairs) :
    charCount (flattenPairs entriesInfo.toList) ≤ charCount pairs := by
  have hnodup : entriesInfo.toList.Nodup := by
    refine (Std.ExtTreeMap.distinct_keys_toList (t := entriesInfo)).imp ?_
    rintro a b hne rfl
    exact hne Std.ReflCmp.compare_self
  obtain ⟨l, hperm, hsub⟩ := hnodup.subperm h
  rw [← charCount_perm hperm]
  exact Nat.le_trans (charCount_sublist hsub) (charCount_pairUp pairs)

/-! ## The arguments of a command which starts with `HMSET` -/

/-- Whatever the texts are, the command which arrives is an `HMSET`. -/
theorem args_start_hmset {key : CString} {entriesInfo : StringMap} {argv : List String}
    (h : redisvFormatCommand rejects (cStr (entriesCommand key entriesInfo)) [] = .args argv) :
    ∃ rest, argv = "HMSET" :: rest := by
  have htext : ∃ tail, (cStr (entriesCommand key entriesInfo)).text.toList =
      "HMSET".toList ++ ' ' :: tail := by
    refine ⟨((key.text ++ fieldsText entriesInfo.toList).toList).takeWhile (· ≠ nul), ?_⟩
    have hcommand : (entriesCommand key entriesInfo).toList =
        'H' :: 'M' :: 'S' :: 'E' :: 'T' :: ' ' ::
          (key.text ++ fieldsText entriesInfo.toList).toList := by
      rw [entriesCommand, String.append_assoc, String.toList_append]
      rfl
    rw [cStr, String.toList_ofList, hcommand]
    rfl
  obtain ⟨tail, htail⟩ := htext
  rw [redisvFormatCommand, htail, formatLoop_word ⟨by decide, by decide⟩ (by decide)] at h
  obtain ⟨rest, hrest⟩ := formatLoop_extends h
  exact ⟨rest, hrest.symm⟩

/-- An `HMSET` has no effect, or it writes its pairs over a hash. -/
theorem execCommand_hmset_cases (rest : List String) (store : Store) :
    (execCommand ("HMSET" :: rest) store).2 = store ∨
      ∃ key pairs, rest = key :: pairs ∧ pairs.length % 2 = 0 ∧ HoldsHash store key ∧
        (execCommand ("HMSET" :: rest) store).2 =
          Function.update store key (some (.hash (insertPairs (storedHash store key) pairs))) := by
  cases rest with
  | nil => exact Or.inl rfl
  | cons key pairs =>
      rw [execCommand_hmset]
      by_cases hpairs : pairs = [] ∨ pairs.length % 2 = 1
      · exact Or.inl (by rw [hmset_wrongArity hpairs])
      · by_cases hkey : HoldsHash store key
        · refine Or.inr ⟨key, pairs, rfl, ?_, hkey, by rw [hmset_of_holdsHash hpairs hkey]⟩
          rw [not_or] at hpairs
          omega
        · exact Or.inl (by rw [hmset_unchanged hkey])

/-! ## A command which is executed as it is meant -/

/-- The text up to the value of a field: the pieces before it, each with a space behind
it, and the name. -/
theorem toList_fieldsText_split (first : String) (done : List (String × String)) (f v : String)
    (later : List (String × String)) :
    (first ++ fieldsText (done ++ (f, v) :: later)).toList =
      ((first :: flattenPairs done).map String.toList).flatMap (· ++ [' ']) ++
        (f.toList ++ ' ' :: (v ++ fieldsText later).toList) := by
  induction done generalizing first with
  | nil => simp [fieldsText, flattenPairs]
  | cons field done ih =>
      have hrest := ih field.2
      simp only [flattenPairs_cons, List.map_cons, List.flatMap_cons] at hrest ⊢
      simpa [fieldsText] using hrest

/-- The pieces of a command before the value of a field. -/
theorem toList_entriesCommand_split {key : CString} {entriesInfo : StringMap}
    {done later : List (String × String)} {f v : String}
    (hlist : entriesInfo.toList = done ++ (f, v) :: later) :
    (entriesCommand key entriesInfo).toList =
      (("HMSET" :: key.text :: flattenPairs done).map String.toList).flatMap (· ++ [' ']) ++
        (f.toList ++ ' ' :: (v ++ fieldsText later).toList) := by
  have hkey := toList_fieldsText_split key.text done f v later
  rw [List.map_cons, List.flatMap_cons, List.append_assoc, ← hkey, entriesCommand, hlist]
  simp

theorem nul_not_mem_pieces {ws : List String} (h : ∀ w ∈ ws, ArgWord w) :
    nul ∉ (ws.map String.toList).flatMap (· ++ [' ']) := by
  intro hmem
  obtain ⟨w, hw, hnul⟩ := List.mem_flatMap.mp hmem
  obtain ⟨u, hu, rfl⟩ := List.mem_map.mp hw
  rw [List.mem_append, List.mem_singleton] at hnul
  cases hnul with
  | inl hword => exact (h u hu).noNul hword
  | inr hspace => exact absurd hspace (by decide)

/-- The name of a field arrives at its place when everything before it is a proper
word, whatever follows. -/
theorem name_arrives {key : CString} {entriesInfo : StringMap}
    {done later : List (String × String)} {f v : String} {out : List String}
    (hlist : entriesInfo.toList = done ++ (f, v) :: later)
    (hwords : ∀ w ∈ "HMSET" :: key.text :: flattenPairs done, ArgWord w)
    (hname : ArgWord f ∧ '%' ∉ f.toList)
    (hsent : redisvFormatCommand rejects (cStr (entriesCommand key entriesInfo)) [] =
      .args out) :
    ∃ args, args.length = 2 * done.length ∧ args ++ [f] <+: out.drop 2 := by
  have hpieces : ∀ w ∈ ("HMSET" :: key.text :: flattenPairs done).map String.toList,
      w ≠ [] ∧ ' ' ∉ w := by
    intro w hw
    obtain ⟨u, hu, rfl⟩ := List.mem_map.mp hw
    exact ⟨(hwords u hu).nonempty, (hwords u hu).noSpace⟩
  -- a terminator can only come after the name, so the cut text starts the same way
  have hassoc : ∀ tail : List Char, f.toList ++ ' ' :: tail = (f.toList ++ [' ']) ++ tail := by
    simp
  have hfield : nul ∉ f.toList ++ [' '] := by
    rw [List.mem_append, List.mem_singleton, not_or]
    exact ⟨hname.1.noNul, by decide⟩
  rw [redisvFormatCommand, toList_cStr, toList_entriesCommand_split hlist,
    takeWhile_noNul_append (nul_not_mem_pieces hwords), hassoc,
    takeWhile_noNul_append hfield, ← hassoc] at hsent
  obtain ⟨args, hlength, hargs⟩ := formatLoop_pieces hpieces hsent
  rw [formatLoop_word ⟨hname.2, hname.1.noSpace⟩ hname.1.nonempty, String.ofList_toList,
    List.nil_append] at hargs
  rw [List.length_map, List.length_cons, List.length_cons, length_flattenPairs] at hlength
  have hdrop : (args ++ [f]).drop 2 = args.drop 2 ++ [f] :=
    List.drop_append_of_le_length (by omega)
  refine ⟨args.drop 2, by rw [List.length_drop]; omega, ?_⟩
  rw [← hdrop]
  exact (formatLoop_extends hargs).drop 2

/-- The written fields are those of the map, as far as the values can arrive at all. -/
def Carries (fields : Hash) (entriesInfo : StringMap) : Prop :=
  ∀ f v : String, entriesInfo[f]? = some v →
    ∃ u, fields[f]? = some u ∧ (nul ∉ u.toList → u = v)

section Executed

variable {key : CString} {entriesInfo : StringMap} {fields : Hash} {pairs : List String}

/-- When all fields before a field arrived, this one did as well. -/
theorem field_arrives {done later : List (String × String)} {f v : String}
    (hsent : redisvFormatCommand rejects (cStr (entriesCommand key entriesInfo)) [] =
      .args ("HMSET" :: key.text :: pairs))
    (heven : pairs.length % 2 = 0) (hnames : PlainNames entriesInfo)
    (hcarries : Carries (insertPairs fields pairs) entriesInfo)
    (hlist : entriesInfo.toList = done ++ (f, v) :: later) (hdone : done ⊆ pairUp pairs) :
    (f, v) ∈ pairUp pairs := by
  have hout := (redisvFormatCommand_produced hsent).words
  have hget : entriesInfo[f]? = some v := by
    apply Std.ExtTreeMap.mem_toList_iff_getElem?_eq_some.mp
    rw [hlist]
    exact List.mem_append_right _ List.mem_cons_self
  have hwords : ∀ w ∈ "HMSET" :: key.text :: flattenPairs done, ArgWord w := by
    intro w hw
    rw [List.mem_cons, List.mem_cons, flattenPairs, List.mem_flatMap] at hw
    obtain rfl | rfl | ⟨entry, hentry, hpart⟩ := hw
    · exact argWord_hmset
    · exact hout _ (by simp)
    · obtain ⟨hf, hv⟩ := mem_of_mem_pairUp (hdone hentry)
      rw [List.mem_cons, List.mem_singleton] at hpart
      obtain rfl | rfl := hpart
      · exact hout _ (List.mem_cons_of_mem _ (List.mem_cons_of_mem _ hf))
      · exact hout _ (List.mem_cons_of_mem _ (List.mem_cons_of_mem _ hv))
  obtain ⟨args, hlength, hstart⟩ := name_arrives hlist hwords (hnames f v hget) hsent
  have hname := name_at_even (by omega) heven hstart
  obtain ⟨u, hu, huv⟩ := hcarries f v hget
  have hmem := mem_pairUp_of_name hname hu
  have hword := hout u (List.mem_cons_of_mem _ (List.mem_cons_of_mem _ (mem_of_mem_pairUp hmem).2))
  rw [← huv hword.noNul]
  exact hmem

/-- When the written hash carries the map, all its entries arrived.  The induction is
on the fields still to come: a field which did not arrive would be the first one. -/
theorem entries_arrive
    (hsent : redisvFormatCommand rejects (cStr (entriesCommand key entriesInfo)) [] =
      .args ("HMSET" :: key.text :: pairs))
    (heven : pairs.length % 2 = 0) (hnames : PlainNames entriesInfo)
    (hcarries : Carries (insertPairs fields pairs) entriesInfo) :
    entriesInfo.toList ⊆ pairUp pairs := by
  have hlater : ∀ later done : List (String × String), entriesInfo.toList = done ++ later →
      done ⊆ pairUp pairs → later ⊆ pairUp pairs := by
    intro later
    induction later with
    | nil => exact fun _ _ _ => List.nil_subset _
    | cons entry later ih =>
        intro done hlist hdone
        have hentry : entry ∈ pairUp pairs :=
          field_arrives hsent heven hnames hcarries hlist hdone
        have hnext : done ++ [entry] ⊆ pairUp pairs := by
          rw [List.append_subset, List.cons_subset]
          exact ⟨hdone, hentry, List.nil_subset _⟩
        rw [List.cons_subset]
        exact ⟨hentry, ih (done ++ [entry]) (by simp [hlist]) hnext⟩
  exact hlater entriesInfo.toList [] rfl (List.nil_subset _)

end Executed

/-- The number of characters of the command is that of its words and the spaces. -/
theorem length_joinWords (w : String) (ws : List String) :
    (joinWords ((w :: ws).map String.toList)).length = charCount (w :: ws) + ws.length := by
  induction ws generalizing w with
  | nil =>
      simp only [List.map_cons, List.map_nil, joinWords, charCount, List.length_nil]
      exact String.length_toList
  | cons v ws ih =>
      rw [List.map_cons, List.map_cons, joinWords_cons_cons, List.length_append,
        List.length_cons, ← List.map_cons, ih]
      simp only [charCount, String.length_toList, List.length_cons]
      omega

theorem count_space_joinWords (w : List Char) (ws : List (List Char))
    (h : ∀ u ∈ w :: ws, ' ' ∉ u) : (joinWords (w :: ws)).count ' ' = ws.length := by
  induction ws generalizing w with
  | nil =>
      rw [joinWords]
      exact List.count_eq_zero_of_not_mem (h w List.mem_cons_self)
  | cons v ws ih =>
      have hw := List.count_eq_zero_of_not_mem (h w List.mem_cons_self)
      rw [joinWords_cons_cons, List.count_append, hw, List.count_cons_self,
        ih v fun u hu => h u (List.mem_cons_of_mem w hu), List.length_cons]
      omega

/-- When all entries arrived, their texts are proper words. -/
theorem words_of_arrived {key : CString} {entriesInfo : StringMap} {pairs : List String}
    (hout : ∀ w ∈ "HMSET" :: key.text :: pairs, ArgWord w)
    (h : entriesInfo.toList ⊆ pairUp pairs) :
    ∀ w ∈ key.text :: flattenPairs entriesInfo.toList, ArgWord w := by
  intro w hw
  rw [List.mem_cons] at hw
  cases hw with
  | inl hkey => exact hout w (by simp [hkey])
  | inr hfield =>
      rw [flattenPairs, List.mem_flatMap] at hfield
      obtain ⟨entry, hentry, hpart⟩ := hfield
      obtain ⟨hf, hv⟩ := mem_of_mem_pairUp (h hentry)
      rw [List.mem_cons, List.mem_singleton] at hpart
      obtain rfl | rfl := hpart
      · exact hout _ (List.mem_cons_of_mem _ (List.mem_cons_of_mem _ hf))
      · exact hout _ (List.mem_cons_of_mem _ (List.mem_cons_of_mem _ hv))

/-- When the written hash carries the map, the command was plain: all characters
arrived, so no percent sign was the first half of a `%%`. -/
theorem plainCommand_of_carries {key : CString} {entriesInfo : StringMap} {fields : Hash}
    {pairs : List String}
    (hsent : redisvFormatCommand rejects (cStr (entriesCommand key entriesInfo)) [] =
      .args ("HMSET" :: key.text :: pairs))
    (heven : pairs.length % 2 = 0) (hnames : PlainNames entriesInfo)
    (hcarries : Carries (insertPairs fields pairs) entriesInfo) :
    PlainCommand key entriesInfo := by
  have harrive := entries_arrive hsent heven hnames hcarries
  have hproduced := redisvFormatCommand_produced hsent
  have hwords := words_of_arrived hproduced.words harrive
  refine ⟨hwords, ?_⟩
  have hsize := hproduced.size
  have hpairs := charCount_of_sent harrive
  have hspace : ∀ u ∈ (commandWords key entriesInfo).map String.toList, ' ' ∉ u := by
    intro u hu
    obtain ⟨w, hw, rfl⟩ := List.mem_map.mp hu
    exact (commandWords_argWord hwords w hw).noSpace
  have hlength : (entriesCommand key entriesInfo).toList.length =
      charCount (commandWords key entriesInfo) +
        (entriesCommand key entriesInfo).toList.count ' ' := by
    rw [toList_entriesCommand]
    rw [commandWords] at hspace ⊢
    rw [length_joinWords, List.map_cons, count_space_joinWords _ _ hspace, List.length_map]
  rw [cStr_entriesCommand hwords] at hsize
  intro hpercent
  rw [if_pos hpercent, List.length_nil] at hsize
  simp only [commandWords, charCount] at hsize hlength hpairs
  omega

/-! ## What is read of a hash -/

section Reading

variable {key : CString} {entriesInfo : StringMap} {store store' : Store}

/-- No command of `setEntries` turns a key of another kind into a hash. -/
theorem not_holdsHash_execCommand {rest : List String} {key : String}
    (h : ¬HoldsHash store key) :
    ¬HoldsHash (execCommand ("HMSET" :: rest) store).2 key := by
  cases rest with
  | nil => exact h
  | cons key' pairs =>
      rw [execCommand_hmset]
      have hsame : (hmset key' pairs store).2 key = store key := by
        by_cases hkey : key = key'
        · subst hkey
          rw [hmset_unchanged h]
        · exact hmset_other hkey pairs store
      rw [HoldsHash, hsame]
      exact h

/-- The key the map is read from holds a hash. -/
theorem holdsHash_of_read (hne : entriesInfo ≠ ∅)
    (hread : getEntries rejects .up .up key store' =
      .ok (overlay (storedHash store key.text) entriesInfo) store') :
    HoldsHash store' key.text := by
  by_contra hnot
  rw [getEntries_of_not_holdsHash hnot] at hread
  injection hread with hempty
  apply hne
  apply Std.ExtTreeMap.ext_getElem?
  intro k
  have hk : (∅ : StringMap)[k]? = _ := congrArg (fun m : StringMap => m[k]?) hempty
  rw [getElem?_overlay, Std.ExtTreeMap.getElem?_empty] at hk
  rw [Std.ExtTreeMap.getElem?_empty]
  cases hentry : entriesInfo[k]? with
  | none => rfl
  | some v =>
      rw [hentry, Option.some_or] at hk
      cases hk

/-- A hash over which the map reads back was a readable one: nothing with a terminator
inside is ever read. -/
theorem readableHash_of_readBack {fields : Hash} (hholds : HoldsHash store key.text)
    (hback : readBack fields = overlay (storedHash store key.text) entriesInfo) :
    ReadableHash store key entriesInfo := by
  refine ⟨hholds, fun f v hfv => ?_⟩
  have hclean : ∀ u, (overlay (storedHash store key.text) entriesInfo)[f]? = some u →
      CleanField (f, u) := by
    intro u hu
    rw [← hback] at hu
    exact clean_of_mem_readBack hu
  rw [getElem?_overlay] at hclean
  cases hentry : entriesInfo[f]? with
  | none =>
      have hfield := hclean v (by rw [hentry, Option.none_or, hfv])
      exact ⟨hfield.1, fun _ => hfield.2⟩
  | some u =>
      refine ⟨(hclean u (by rw [hentry, Option.some_or])).1, fun hnone => ?_⟩
      cases hnone

/-- The hash shows the map exactly when reading it gives what reading it after the write
would give. -/
theorem showsEntries_iff (hreadable : ReadableHash store key entriesInfo) :
    ShowsEntries store key entriesInfo ↔
      readBack (storedHash store key.text) =
        overlay (storedHash store key.text) entriesInfo := by
  have hnames : ∀ f v : String, (storedHash store key.text)[f]? = some v → nul ∉ f.toList :=
    fun f v h => (hreadable.clean f v h).1
  constructor
  · intro h
    apply Std.ExtTreeMap.ext_getElem?
    intro f
    rw [getElem?_readBack hnames, getElem?_overlay]
    cases hentry : entriesInfo[f]? with
    | none =>
        rw [Option.none_or]
        cases hold : (storedHash store key.text)[f]? with
        | none => rfl
        | some v =>
            rw [Option.map_some, cStr_text_of_noNul ((hreadable.clean f v hold).2 hentry)]
    | some v =>
        obtain ⟨u, hold, hu⟩ := h.shown f v hentry
        rw [hold, Option.map_some, hu, Option.some_or]
  · intro hback
    refine ⟨hreadable, fun f v hentry => ?_⟩
    have hseen := getElem?_readBack hnames f
    rw [hback, getElem?_overlay, hentry, Option.some_or, eq_comm, Option.map_eq_some_iff] at hseen
    exact hseen

/-- Reading the map over written pairs means that they carry it. -/
theorem carries_of_readBack {pairs : List String} (hreadable : ReadableHash store key entriesInfo)
    (hpairs : ∀ w ∈ pairs, ArgWord w)
    (hback : readBack (insertPairs (storedHash store key.text) pairs) =
      overlay (storedHash store key.text) entriesInfo) :
    Carries (insertPairs (storedHash store key.text) pairs) entriesInfo := by
  have hnames : ∀ f v : String,
      (insertPairs (storedHash store key.text) pairs)[f]? = some v → nul ∉ f.toList := by
    intro f v h
    cases getElem?_insertPairs_cases h with
    | inl hold => exact (hreadable.clean f v hold).1
    | inr hnew => exact (hpairs f (mem_of_mem_pairUp hnew).1).noNul
  intro f v hentry
  have hseen := getElem?_readBack hnames f
  rw [hback, getElem?_overlay, hentry, Option.some_or, eq_comm, Option.map_eq_some_iff] at hseen
  obtain ⟨u, hu, huv⟩ := hseen
  refine ⟨u, hu, fun hnul => ?_⟩
  rw [← huv, cStr_text_of_noNul hnul]

/-- A hash without terminators in it and in the map reads back as the map over it. -/
theorem clean_overlay (hreadable : ReadableHash store key entriesInfo)
    (hwords : ∀ w ∈ key.text :: flattenPairs entriesInfo.toList, ArgWord w) :
    ∀ f v : String, (overlay (storedHash store key.text) entriesInfo)[f]? = some v →
      CleanField (f, v) := by
  intro f v hget
  rw [getElem?_overlay] at hget
  cases hentry : entriesInfo[f]? with
  | none =>
      rw [hentry, Option.none_or] at hget
      obtain ⟨hf, hv⟩ := hreadable.clean f v hget
      exact ⟨hf, hv hentry⟩
  | some v' =>
      rw [hentry, Option.some_or] at hget
      cases hget
      have hin := Std.ExtTreeMap.mem_toList_iff_getElem?_eq_some.mpr hentry
      have hword : ∀ u, u = f ∨ u = v → ArgWord u := by
        intro u hu
        refine hwords u (List.mem_cons_of_mem _ ?_)
        rw [flattenPairs, List.mem_flatMap]
        refine ⟨(f, v), hin, ?_⟩
        simpa only [List.mem_cons, List.mem_singleton, List.not_mem_nil, or_false] using hu
      exact ⟨(hword f (Or.inl rfl)).noNul, (hword v (Or.inr rfl)).noNul⟩

end Reading

/-! ## The condition is necessary and sufficient -/

section Condition

variable {key : CString} {entriesInfo : StringMap} {store : Store}

/-- A call which leaves the store alone and returns keeps the promise when the hash
shows the map. -/
theorem showsEntries_of_unchanged (hne : entriesInfo ≠ ∅)
    (hread : getEntries rejects .up .up key store =
      .ok (overlay (storedHash store key.text) entriesInfo) store) :
    ShowsEntries store key entriesInfo := by
  have hholds := holdsHash_of_read hne hread
  rw [getEntries_of_holdsHash hholds] at hread
  injection hread with hback
  exact (showsEntries_iff (readableHash_of_readBack hholds hback)).mpr hback

/-- The command was executed and answered. -/
theorem writeCondition_of_answered {rest : List String} (hne : entriesInfo ≠ ∅)
    (hnames : PlainNames entriesInfo)
    (hsent : redisvFormatCommand rejects (cStr (entriesCommand key entriesInfo)) [] =
      .args ("HMSET" :: rest))
    (hread : getEntries rejects .up .up key (execCommand ("HMSET" :: rest) store).2 =
      .ok (overlay (storedHash store key.text) entriesInfo)
        (execCommand ("HMSET" :: rest) store).2)
    (hothers : ∀ other, other ≠ key.text →
      (execCommand ("HMSET" :: rest) store).2 other = store other) :
    WriteCondition rejects store key entriesInfo .up := by
  have hunchanged : (execCommand ("HMSET" :: rest) store).2 = store →
      WriteCondition rejects store key entriesInfo .up := by
    intro hsame
    rw [hsame] at hread
    exact .shown hsent (fun _ => hsame) (showsEntries_of_unchanged hne hread)
  obtain hsame | ⟨key', pairs, rfl, heven, hholds, hexec⟩ := execCommand_hmset_cases rest store
  · exact hunchanged hsame
  · by_cases hkey : key' = key.text
    · subst hkey
      have hwritten := holdsHash_of_read hne hread
      rw [getEntries_of_holdsHash hwritten, hexec] at hread
      injection hread with hback
      simp only [storedHash, Function.update_self] at hback
      have hreadable := readableHash_of_readBack hholds hback
      have hpairs : ∀ w ∈ pairs, ArgWord w := fun w hw =>
        (redisvFormatCommand_produced hsent).words w
          (List.mem_cons_of_mem _ (List.mem_cons_of_mem _ hw))
      exact .plain (plainCommand_of_carries hsent heven hnames
        (carries_of_readBack hreadable hpairs hback)) hreadable
    · -- the pairs went to another key, which must have had these fields before
      apply hunchanged
      funext other
      by_cases hother : other = key.text
      · rw [hother, hexec]
        exact Function.update_of_ne (Ne.symm hkey) _ _
      · exact hothers other hother

/-- **The condition is necessary.** -/
theorem writeCondition_of_writesBack {link : Link} (hne : entriesInfo ≠ ∅)
    (hnames : PlainNames entriesInfo) (h : WritesBack rejects link store key entriesInfo) :
    WriteCondition rejects store key entriesInfo link := by
  cases hsent : redisvFormatCommand rejects (cStr (entriesCommand key entriesInfo)) [] with
  | formatError => exact .formatRejected hsent
  | undefined =>
      exact absurd h (not_writesBack_of_undefined (setEntries_of_undefined hsent link _))
  | args argv =>
      obtain ⟨rest, rfl⟩ := args_start_hmset hsent
      cases link with
      | up =>
          rw [writesBack_of_ok_iff (setEntries_up hsent store)] at h
          exact writeCondition_of_answered hne hnames hsent h.1 h.2
      | refused message =>
          rw [writesBack_of_ok_iff (setEntries_refused hsent message store)] at h
          exact .shown hsent (fun hexec => by cases hexec)
            (showsEntries_of_unchanged hne h.1)
      | lost executed =>
          rw [writesBack_of_exception_iff (setEntries_lost hsent executed store)] at h
          refine .noReply hsent fun hexecuted => ?_
          rw [if_pos hexecuted] at h
          exact h

/-- **The condition is sufficient.** -/
theorem writesBack_of_writeCondition {link : Link} (hne : entriesInfo ≠ ∅)
    (h : WriteCondition rejects store key entriesInfo link) :
    WritesBack rejects link store key entriesInfo := by
  cases h with
  | formatRejected hsent =>
      rw [writesBack_of_exception_iff (setEntries_of_formatError hsent link store)]
  | plain hplain hreadable =>
      have hstored : storedHash (Function.update store key.text
          (some (.hash (overlay (storedHash store key.text) entriesInfo)))) key.text =
            overlay (storedHash store key.text) entriesInfo := by
        simp only [storedHash, Function.update_self]
      rw [writesBack_of_ok_iff (setEntries_plain hplain hne hreadable.holdsHash)]
      refine ⟨?_, fun other hother => Function.update_of_ne hother _ _⟩
      rw [getEntries_of_holdsHash (Or.inr ⟨_, Function.update_self _ _ _⟩), hstored,
        readBack_of_clean (clean_overlay hreadable hplain.words)]
  | @shown link argv hsent hsame hshows =>
      have hread : getEntries rejects .up .up key store =
          .ok (overlay (storedHash store key.text) entriesInfo) store := by
        rw [getEntries_of_holdsHash hshows.holdsHash,
          (showsEntries_iff hshows.toReadableHash).mp hshows]
      cases link with
      | up =>
          rw [writesBack_of_ok_iff (setEntries_up hsent store), hsame rfl]
          exact ⟨hread, fun _ _ => rfl⟩
      | refused message =>
          rw [writesBack_of_ok_iff (setEntries_refused hsent message store)]
          exact ⟨hread, fun _ _ => rfl⟩
      | lost executed =>
          rw [writesBack_of_exception_iff (setEntries_lost hsent executed store)]
          cases executed with
          | false => rfl
          | true => exact hsame rfl
  | @noReply argv executed hsent hsame =>
      rw [writesBack_of_exception_iff (setEntries_lost hsent executed store)]
      cases executed with
      | false => rfl
      | true => exact hsame rfl

end Condition

/-! ## The empty store -/

/-- The store without any key. -/
def emptyStore : Store := fun _ => none

theorem overlay_emptyStore (key : CString) (entriesInfo : StringMap) :
    overlay (storedHash emptyStore key.text) entriesInfo = entriesInfo :=
  overlay_empty_left entriesInfo

/-- Nothing is read under a key of the empty store. -/
theorem getEntries_emptyStore (key : CString) :
    getEntries rejects .up .up key emptyStore = .ok ∅ emptyStore := by
  have hholds : HoldsHash emptyStore key.text := Or.inl rfl
  rw [getEntries_of_holdsHash hholds]
  rfl

end RedisDb

end Redis
end FireEvacuation

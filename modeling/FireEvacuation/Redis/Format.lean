import Mathlib.Data.List.TakeWhile
import Mathlib.Tactic.Common

/-!
# How hiredis makes a command out of a format string

`redisCommand` does not send its format string as it stands.  It is split at
spaces into the arguments of the command, empty pieces are dropped, and a `%`
starts a directive: `%s` appends the next C string passed to the call, `%%`
appends a percent sign, every other directive fetches an argument of another
type or is rejected as an invalid format.  A `%` at the very end is literal.

hiredis is a library outside the repository.  Its splitting rule is modelled
here as its documentation states it; which of the remaining directives it
rejects (instead of fetching an argument nobody passed) differs between its
versions and stays a parameter, `rejects`.
-/

namespace FireEvacuation
namespace Redis

/-- The character which ends a C string. -/
def nul : Char := Char.ofNat 0

/-- A `const char *`: text without a terminator inside. -/
structure CString where
  text : String
  noNul : nul ∉ text.toList

/-- `std::string::c_str()`: what a C function sees of the string. -/
def cStr (s : String) : CString where
  text := String.ofList (s.toList.takeWhile (· ≠ nul))
  noNul := by
    rw [String.toList_ofList]
    intro hmem
    have hne := List.mem_takeWhile_imp hmem
    simp at hne

theorem cStr_text_of_noNul {s : String} (h : nul ∉ s.toList) : (cStr s).text = s := by
  have htake : s.toList.takeWhile (· ≠ nul) = s.toList := by
    rw [List.takeWhile_eq_self_iff]
    intro c hc
    simp only [ne_eq, decide_not, Bool.not_eq_true', decide_eq_false_iff_not]
    rintro rfl
    exact h hc
  change String.ofList (s.toList.takeWhile (· ≠ nul)) = s
  rw [htake, String.ofList_toList]

theorem toList_cStr (s : String) : (cStr s).text.toList = s.toList.takeWhile (· ≠ nul) :=
  String.toList_ofList

/-- The cut does not touch what comes before the first terminator. -/
theorem takeWhile_noNul_append {front : List Char} (h : nul ∉ front) (rest : List Char) :
    (front ++ rest).takeWhile (· ≠ nul) = front ++ rest.takeWhile (· ≠ nul) := by
  apply List.takeWhile_append_of_pos
  intro c hc
  rw [decide_eq_true_iff]
  rintro rfl
  exact h hc

/-- What `redisvFormatCommand` makes of a call. -/
inductive FormatResult where
  | args (argv : List String)
  | formatError
  | undefined
  deriving DecidableEq, Repr

/-- The loop of `redisvFormatCommand`.  The arguments are the unread part of the
format, the C strings not fetched yet (`ap`), the argument under construction
(`curarg`), whether it was touched, and the finished arguments (`argv`). -/
def formatLoop (rejects : List Char → Bool) :
    List Char → List CString → List Char → Bool → List String → FormatResult
  | [], _, curarg, touched, argv =>
      .args (if touched then argv ++ [String.ofList curarg] else argv)
  | c :: rest, ap, curarg, touched, argv =>
      if c = '%' then
        match rest with
        -- `c[1] == '\0'`: a percent sign at the end stands for itself
        | [] => formatLoop rejects [] ap (curarg ++ [c]) true argv
        | d :: rest' =>
            if d = 's' then
              match ap with
              | [] => .undefined
              | arg :: ap' =>
                  formatLoop rejects rest' ap' (curarg ++ arg.text.toList) true argv
            else if d = '%' then
              formatLoop rejects rest' ap (curarg ++ ['%']) true argv
            else if rejects (d :: rest') then .formatError
            else .undefined
      else if c = ' ' then
        if touched then formatLoop rejects rest ap [] false (argv ++ [String.ofList curarg])
        else formatLoop rejects rest ap curarg false argv
      else formatLoop rejects rest ap (curarg ++ [c]) true argv

/-- `redisvFormatCommand`.  Its value on a symbolic text is never of use to the
elaborator, so it is not unfolded there. -/
@[irreducible] def redisvFormatCommand (rejects : List Char → Bool) (format : CString)
    (ap : List CString) : FormatResult :=
  formatLoop rejects format.text.toList ap [] false []

section Evaluation

variable {rejects : List Char → Bool}

theorem formatLoop_nil (ap : List CString) (curarg : List Char) (touched : Bool)
    (argv : List String) :
    formatLoop rejects [] ap curarg touched argv =
      .args (if touched then argv ++ [String.ofList curarg] else argv) := rfl

theorem formatLoop_char {c : Char} (hpct : c ≠ '%') (hsp : c ≠ ' ') (rest : List Char)
    (ap : List CString) (curarg : List Char) (touched : Bool) (argv : List String) :
    formatLoop rejects (c :: rest) ap curarg touched argv =
      formatLoop rejects rest ap (curarg ++ [c]) true argv := by
  rw [formatLoop.eq_def]
  simp only [hpct, hsp, if_false]

theorem formatLoop_space_touched (rest : List Char) (ap : List CString)
    (curarg : List Char) (argv : List String) :
    formatLoop rejects (' ' :: rest) ap curarg true argv =
      formatLoop rejects rest ap [] false (argv ++ [String.ofList curarg]) := by
  rw [formatLoop.eq_def]
  simp only [Char.reduceEq, if_true, if_false]

theorem formatLoop_string (rest : List Char) (arg : CString) (ap : List CString)
    (curarg : List Char) (touched : Bool) (argv : List String) :
    formatLoop rejects ('%' :: 's' :: rest) (arg :: ap) curarg touched argv =
      formatLoop rejects rest ap (curarg ++ arg.text.toList) true argv := by
  rw [formatLoop.eq_def]
  simp only [if_true]

/-- A text is plain when hiredis copies it unchanged. -/
def PlainText (w : List Char) : Prop := '%' ∉ w ∧ ' ' ∉ w

/-- A plain text is appended to the argument under construction. -/
theorem formatLoop_plain {w : List Char} (hw : PlainText w) (hne : w ≠ [])
    (rest : List Char) (ap : List CString) (curarg : List Char) (touched : Bool)
    (argv : List String) :
    formatLoop rejects (w ++ rest) ap curarg touched argv =
      formatLoop rejects rest ap (curarg ++ w) true argv := by
  induction w generalizing curarg touched with
  | nil => exact absurd rfl hne
  | cons c w ih =>
      obtain ⟨hpct, hsp⟩ := hw
      simp only [List.mem_cons, not_or] at hpct hsp
      rw [List.cons_append, formatLoop_char (Ne.symm hpct.1) (Ne.symm hsp.1)]
      cases w with
      | nil => rfl
      | cons d w =>
          rw [ih ⟨hpct.2, hsp.2⟩ (List.cons_ne_nil d w), List.append_assoc]
          rfl

/-- A plain text followed by a space is one whole argument. -/
theorem formatLoop_word {w : List Char} (hw : PlainText w) (hne : w ≠ [])
    (rest : List Char) (ap : List CString) (argv : List String) :
    formatLoop rejects (w ++ ' ' :: rest) ap [] false argv =
      formatLoop rejects rest ap [] false (argv ++ [String.ofList w]) := by
  rw [formatLoop_plain hw hne, formatLoop_space_touched, List.nil_append]

/-- The last argument may end with a percent sign. -/
theorem formatLoop_last_word {w : List Char} (hpct : '%' ∉ w.dropLast) (hsp : ' ' ∉ w)
    (hne : w ≠ []) (ap : List CString) (argv : List String) :
    formatLoop rejects w ap [] false argv = .args (argv ++ [String.ofList w]) := by
  obtain ⟨front, last, rfl⟩ := (List.eq_nil_or_concat w).resolve_left hne
  rw [List.concat_eq_append] at *
  simp only [List.dropLast_concat, List.mem_append, List.mem_singleton, not_or] at hpct hsp
  have hstep : formatLoop rejects (front ++ [last]) ap [] false argv =
      formatLoop rejects [] ap (front ++ [last]) true argv := by
    have hlast : ∀ (curarg : List Char) (touched : Bool),
        formatLoop rejects [last] ap curarg touched argv =
          formatLoop rejects [] ap (curarg ++ [last]) true argv := by
      intro curarg touched
      by_cases hp : last = '%'
      · subst hp
        simp only [formatLoop, if_true]
      · exact formatLoop_char hp (Ne.symm hsp.2) [] ap curarg touched argv
    cases front with
    | nil => exact hlast [] false
    | cons c front =>
        rw [formatLoop_plain ⟨hpct, hsp.1⟩ (List.cons_ne_nil c front), hlast, List.nil_append]
  rw [hstep, formatLoop_nil, if_pos rfl]

/-- Finished arguments stay. -/
theorem formatLoop_extends {fmt curarg : List Char} {ap : List CString} {touched : Bool}
    {argv out : List String} (h : formatLoop rejects fmt ap curarg touched argv = .args out) :
    argv <+: out := by
  fun_induction formatLoop rejects fmt ap curarg touched argv with
  -- the end of the format
  | case1 ap curarg touched argv =>
      cases h
      cases touched with
      | true => exact List.prefix_append argv _
      | false => exact List.prefix_rfl
  -- a percent sign: at the end, before `s` with nothing and with something to fetch, and
  -- before another percent sign
  | case2 ap curarg touched argv ih => exact ih h
  | case3 curarg touched argv rest => cases h
  | case4 curarg touched argv rest arg ap' ih => exact ih h
  | case5 ap curarg touched argv rest hd ih => exact ih h
  -- all other directives
  | case6 ap curarg touched argv d rest hs hp hrej => cases h
  | case7 ap curarg touched argv d rest hs hp hrej => cases h
  -- a space behind an argument, and behind another space
  | case8 rest ap curarg argv hsp ih => exact (List.prefix_append argv _).trans (ih h)
  | case9 rest ap curarg touched argv htouch hsp ih => exact ih h
  | case10 c rest ap curarg touched argv hp hsp ih => exact ih h

/-- With no argument to fetch, a percent sign before the last place is the first half
of a `%%` in every format which is not rejected. -/
theorem formatLoop_percent {d : Char} {rest curarg : List Char} {touched : Bool}
    {argv out : List String}
    (h : formatLoop rejects ('%' :: d :: rest) [] curarg touched argv = .args out) :
    d = '%' ∧ formatLoop rejects rest [] (curarg ++ ['%']) true argv = .args out := by
  rw [formatLoop.eq_def] at h
  simp only [if_true] at h
  split at h
  · cases h
  · split at h
    · rename_i hd
      exact ⟨hd, h⟩
    · split at h <;> cases h

/-- A piece between two spaces is one argument, whatever its percent signs become. -/
theorem formatLoop_piece {w rest curarg : List Char} {touched : Bool}
    {argv out : List String} (hsp : ' ' ∉ w) (hne : touched = true ∨ w ≠ [])
    (h : formatLoop rejects (w ++ ' ' :: rest) [] curarg touched argv = .args out) :
    ∃ arg, formatLoop rejects rest [] [] false (argv ++ [arg]) = .args out := by
  cases w with
  | nil =>
      have htouched : touched = true := hne.resolve_right fun hnil => hnil rfl
      subst htouched
      rw [List.nil_append, formatLoop_space_touched] at h
      exact ⟨_, h⟩
  | cons c w =>
      simp only [List.mem_cons, not_or] at hsp
      by_cases hpct : c = '%'
      · subst hpct
        cases w with
        | nil => cases (formatLoop_percent h).1
        | cons d w =>
            simp only [List.mem_cons, not_or] at hsp
            exact formatLoop_piece hsp.2.2 (Or.inl rfl) (formatLoop_percent h).2
      · rw [List.cons_append, formatLoop_char hpct (Ne.symm hsp.1)] at h
        exact formatLoop_piece hsp.2 (Or.inl rfl) h
termination_by w.length

/-- Pieces which are followed by single spaces are as many arguments. -/
theorem formatLoop_pieces {ws : List (List Char)} (hws : ∀ w ∈ ws, w ≠ [] ∧ ' ' ∉ w)
    {rest : List Char} {argv out : List String}
    (h : formatLoop rejects (ws.flatMap (· ++ [' ']) ++ rest) [] [] false argv = .args out) :
    ∃ args, args.length = ws.length ∧
      formatLoop rejects rest [] [] false (argv ++ args) = .args out := by
  induction ws generalizing argv with
  | nil => exact ⟨[], rfl, by rwa [List.append_nil]⟩
  | cons w ws ih =>
      obtain ⟨hne, hsp⟩ := hws w List.mem_cons_self
      rw [List.flatMap_cons, List.append_assoc, List.append_assoc] at h
      obtain ⟨arg, harg⟩ := formatLoop_piece hsp (Or.inr hne) h
      obtain ⟨args, hlength, hargs⟩ := ih (fun u hu => hws u (List.mem_cons_of_mem w hu)) harg
      refine ⟨arg :: args, ?_, ?_⟩
      · rw [List.length_cons, hlength, List.length_cons]
      · rw [List.append_assoc] at hargs
        exact hargs

/-- The words joined by single spaces. -/
def joinWords : List (List Char) → List Char
  | [] => []
  | [w] => w
  | w :: v :: ws => w ++ ' ' :: joinWords (v :: ws)

theorem joinWords_cons_cons (w v : List Char) (ws : List (List Char)) :
    joinWords (w :: v :: ws) = w ++ ' ' :: joinWords (v :: ws) := rfl

theorem joinWords_ne_nil {ws : List (List Char)} (hne : ws ≠ []) (hws : ∀ w ∈ ws, w ≠ []) :
    joinWords ws ≠ [] := by
  match ws, hne with
  | [w], _ => exact hws w List.mem_cons_self
  | w :: v :: ws, _ =>
      rw [joinWords_cons_cons]
      exact List.append_ne_nil_of_right_ne_nil _ (List.cons_ne_nil _ _)

/-- hiredis reads a command back as the words it was joined from, as long as no
word is empty or has a space, and no percent sign comes before the last place. -/
theorem formatLoop_joinWords {ws : List (List Char)} (hws : ∀ w ∈ ws, w ≠ [] ∧ ' ' ∉ w)
    (hpct : '%' ∉ (joinWords ws).dropLast) (ap : List CString) (argv : List String) :
    formatLoop rejects (joinWords ws) ap [] false argv =
      .args (argv ++ ws.map String.ofList) := by
  induction ws generalizing argv with
  | nil =>
      rw [joinWords, formatLoop_nil, List.map_nil, List.append_nil]
      rfl
  | cons w ws ih =>
      obtain ⟨hne, hsp⟩ := hws w List.mem_cons_self
      cases ws with
      | nil => exact formatLoop_last_word hpct hsp hne ap argv
      | cons v ws =>
          have hrest : joinWords (v :: ws) ≠ [] :=
            joinWords_ne_nil (List.cons_ne_nil v ws) fun u hu =>
              (hws u (List.mem_cons_of_mem w hu)).1
          rw [joinWords_cons_cons, List.dropLast_append_of_ne_nil (List.cons_ne_nil _ _),
            List.dropLast_cons_of_ne_nil hrest, List.mem_append, List.mem_cons, not_or,
            not_or] at hpct
          rw [joinWords_cons_cons, formatLoop_word ⟨hpct.1, hsp⟩ hne,
            ih (fun u hu => hws u (List.mem_cons_of_mem w hu)) hpct.2.2, List.append_assoc]
          rfl

theorem formatLoop_space_skip (rest : List Char) (ap : List CString) (argv : List String) :
    formatLoop rejects (' ' :: rest) ap [] false argv =
      formatLoop rejects rest ap [] false argv := by
  rw [formatLoop.eq_def]
  simp only [Char.reduceEq, if_false, if_true, Bool.false_eq_true]

/-- Plain words arrive as they are, less the empty ones. -/
theorem formatLoop_words {ws : List (List Char)} (hws : ∀ w ∈ ws, PlainText w)
    (ap : List CString) (argv : List String) :
    formatLoop rejects (joinWords ws) ap [] false argv =
      .args (argv ++ (ws.filter fun w => !w.isEmpty).map String.ofList) := by
  induction ws generalizing argv with
  | nil =>
      rw [joinWords, formatLoop_nil, List.filter_nil, List.map_nil, List.append_nil]
      rfl
  | cons w ws ih =>
      obtain ⟨hpct, hsp⟩ := hws w List.mem_cons_self
      have hrest := ih fun u hu => hws u (List.mem_cons_of_mem w hu)
      cases ws with
      | nil =>
          rw [joinWords]
          cases w with
          | nil => simp [formatLoop_nil]
          | cons c w =>
              rw [formatLoop_last_word (fun h => hpct ((List.dropLast_sublist _).subset h)) hsp
                (List.cons_ne_nil c w)]
              rfl
      | cons v ws =>
          rw [joinWords_cons_cons]
          cases w with
          | nil =>
              rw [List.nil_append, formatLoop_space_skip, hrest]
              rfl
          | cons c w =>
              rw [formatLoop_word ⟨hpct, hsp⟩ (List.cons_ne_nil c w), hrest,
                List.append_assoc]
              rfl

/-- The words up to the first terminator. -/
def cutWords : List (List Char) → List (List Char)
  | [] => []
  | w :: ws => if nul ∈ w then [w.takeWhile (· ≠ nul)] else w :: cutWords ws

/-- The cut of a text made of words. -/
theorem takeWhile_joinWords (ws : List (List Char)) :
    (joinWords ws).takeWhile (· ≠ nul) = joinWords (cutWords ws) := by
  induction ws with
  | nil => rfl
  | cons w ws ih =>
      rw [cutWords]
      by_cases hnul : nul ∈ w
      · obtain ⟨front, back, hw, hfront⟩ := List.eq_append_cons_of_mem hnul
        have hcut : ∀ tail, (w ++ tail).takeWhile (· ≠ nul) = front := by
          intro tail
          rw [hw, List.append_assoc, takeWhile_noNul_append hfront, List.cons_append,
            List.takeWhile_cons_of_neg (by simp), List.append_nil]
        have hcutWord : w.takeWhile (· ≠ nul) = front := by
          rw [← hcut [], List.append_nil]
        rw [if_pos hnul, hcutWord, joinWords]
        cases ws with
        | nil => exact hcutWord
        | cons v ws => exact hcut _
      · rw [if_neg hnul]
        cases ws with
        | nil =>
            have hsame := takeWhile_noNul_append hnul []
            rw [List.append_nil, List.takeWhile_nil, List.append_nil] at hsame
            exact hsame
        | cons v ws =>
            have hne : cutWords (v :: ws) ≠ [] := by
              rw [cutWords]
              split <;> exact List.cons_ne_nil _ _
            obtain ⟨u, us, hus⟩ := List.exists_cons_of_ne_nil hne
            rw [joinWords_cons_cons, takeWhile_noNul_append hnul,
              List.takeWhile_cons_of_pos (by decide), ih, hus, joinWords_cons_cons]

/-! ## What the finished arguments look like -/

/-- A text which can be an argument made from a format string alone. -/
structure ArgWord (w : String) : Prop where
  nonempty : w.toList ≠ []
  noSpace : ' ' ∉ w.toList
  noNul : nul ∉ w.toList

/-- The loop variables between two rounds. -/
structure LoopState (curarg : List Char) (touched : Bool) (argv : List String) : Prop where
  touched_iff : touched = true ↔ curarg ≠ []
  noSpace : ' ' ∉ curarg
  noNul : nul ∉ curarg
  words : ∀ w ∈ argv, ArgWord w

theorem LoopState.push {curarg : List Char} {touched : Bool} {argv : List String}
    (h : LoopState curarg touched argv) {c : Char} (hsp : c ≠ ' ') (hnul : c ≠ nul) :
    LoopState (curarg ++ [c]) true argv where
  touched_iff := by simp
  noSpace := by
    rw [List.mem_append, List.mem_singleton, not_or]
    exact ⟨h.noSpace, Ne.symm hsp⟩
  noNul := by
    rw [List.mem_append, List.mem_singleton, not_or]
    exact ⟨h.noNul, Ne.symm hnul⟩
  words := h.words

theorem LoopState.argWord {curarg : List Char} {argv : List String}
    (h : LoopState curarg true argv) : ArgWord (String.ofList curarg) where
  nonempty := by
    rw [String.toList_ofList]
    exact h.touched_iff.mp rfl
  noSpace := by
    rw [String.toList_ofList]
    exact h.noSpace
  noNul := by
    rw [String.toList_ofList]
    exact h.noNul

theorem LoopState.words_append {curarg : List Char} {argv : List String}
    (h : LoopState curarg true argv) :
    ∀ w ∈ argv ++ [String.ofList curarg], ArgWord w := by
  intro w hw
  rw [List.mem_append, List.mem_singleton] at hw
  cases hw with
  | inl hold => exact h.words w hold
  | inr hnew => exact hnew ▸ h.argWord

/-- The number of characters in a list of arguments. -/
def charCount : List String → Nat
  | [] => 0
  | w :: argv => w.length + charCount argv

theorem charCount_append (argv argv' : List String) :
    charCount (argv ++ argv') = charCount argv + charCount argv' := by
  induction argv with
  | nil => simp only [List.nil_append, charCount, Nat.zero_add]
  | cons w argv ih => rw [List.cons_append, charCount, charCount, ih, Nat.add_assoc]

theorem charCount_singleton (w : List Char) : charCount [String.ofList w] = w.length := by
  simp [charCount]

/-- Without arguments to fetch, the finished arguments are proper words, and they
have as many characters as the format without its spaces, or fewer: a percent sign
before the last place is the first half of `%%` and does not show up. -/
structure Produced (fmt curarg : List Char) (argv out : List String) : Prop where
  words : ∀ w ∈ out, ArgWord w
  size : charCount out + fmt.count ' ' + (if '%' ∈ fmt.dropLast then 1 else 0) ≤
    curarg.length + charCount argv + fmt.length

theorem percent_mem_dropLast_cons {c : Char} (hc : c ≠ '%') (rest : List Char) :
    '%' ∈ (c :: rest).dropLast ↔ '%' ∈ rest.dropLast := by
  cases rest with
  | nil => simp
  | cons d rest => simp [List.dropLast_cons_of_ne_nil, Ne.symm hc]

/-- A character which only moves to the argument under construction. -/
theorem Produced.push {c : Char} {fmt curarg : List Char} {argv out : List String}
    (h : Produced fmt (curarg ++ [c]) argv out) (hpct : c ≠ '%') (hsp : c ≠ ' ') :
    Produced (c :: fmt) curarg argv out where
  words := h.words
  size := by
    have hsize := h.size
    simp only [percent_mem_dropLast_cons hpct, List.count_cons_of_ne hsp, List.length_cons,
      List.length_append, List.length_nil] at hsize ⊢
    omega

/-- The first half of a `%%` disappears. -/
theorem Produced.escape {fmt curarg : List Char} {argv out : List String}
    (h : Produced fmt (curarg ++ ['%']) argv out) :
    Produced ('%' :: '%' :: fmt) curarg argv out where
  words := h.words
  size := by
    have hsize := h.size
    have hcount : ('%' :: '%' :: fmt).count ' ' = fmt.count ' ' := by simp
    rw [hcount]
    simp only [List.length_cons, List.length_append, List.length_nil] at hsize ⊢
    split <;> omega

/-- A space ends the argument under construction. -/
theorem Produced.space {fmt curarg : List Char} {argv out : List String}
    (h : Produced fmt [] (argv ++ [String.ofList curarg]) out) :
    Produced (' ' :: fmt) curarg argv out where
  words := h.words
  size := by
    have hsize := h.size
    simp only [percent_mem_dropLast_cons (show ' ' ≠ '%' by decide), List.count_cons_self,
      List.length_cons, charCount_append, charCount_singleton, List.length_nil] at hsize ⊢
    omega

/-- A space between two arguments is skipped. -/
theorem Produced.skip {fmt curarg : List Char} {argv out : List String}
    (h : Produced fmt curarg argv out) : Produced (' ' :: fmt) curarg argv out where
  words := h.words
  size := by
    have hsize := h.size
    simp only [percent_mem_dropLast_cons (show ' ' ≠ '%' by decide), List.count_cons_self,
      List.length_cons] at hsize ⊢
    omega

theorem formatLoop_produced {fmt curarg : List Char} {touched : Bool} {argv out : List String}
    (hstate : LoopState curarg touched argv) (hnul : nul ∉ fmt)
    (h : formatLoop rejects fmt [] curarg touched argv = .args out) :
    Produced fmt curarg argv out := by
  generalize hap : ([] : List CString) = ap at h
  fun_induction formatLoop rejects fmt ap curarg touched argv with
  -- the end of the format
  | case1 ap curarg touched argv =>
      cases h
      cases touched with
      | true =>
          refine ⟨hstate.words_append, ?_⟩
          simp [charCount_append, charCount_singleton, Nat.add_comm]
      | false =>
          refine ⟨hstate.words, ?_⟩
          simp
  | case2 ap curarg touched argv ih =>
      have hlast := ih (hstate.push (by decide) (by decide)) List.not_mem_nil hap h
      refine ⟨hlast.words, ?_⟩
      have hsize := hlast.size
      simp at hsize ⊢
      omega
  | case3 curarg touched argv rest => cases h
  | case4 curarg touched argv rest arg ap' ih => cases hap
  -- two percent signs stand for one
  | case5 ap curarg touched argv rest hd ih =>
      simp only [List.mem_cons, not_or] at hnul
      exact (ih (hstate.push (by decide) (by decide)) hnul.2.2 hap h).escape
  | case6 ap curarg touched argv d rest hs hp hrej => cases h
  | case7 ap curarg touched argv d rest hs hp hrej => cases h
  -- a space ends a word, if there is one
  | case8 rest ap curarg argv hsp ih =>
      simp only [List.mem_cons, not_or] at hnul
      have hnext : LoopState [] false (argv ++ [String.ofList curarg]) :=
        ⟨by simp, List.not_mem_nil, List.not_mem_nil, hstate.words_append⟩
      exact (ih hnext hnul.2 hap h).space
  | case9 rest ap curarg touched argv htouch hsp ih =>
      simp only [List.mem_cons, not_or] at hnul
      rw [Bool.not_eq_true] at htouch
      subst htouch
      exact (ih hstate hnul.2 hap h).skip
  | case10 c rest ap curarg touched argv hp hsp ih =>
      simp only [List.mem_cons, not_or] at hnul
      exact (ih (hstate.push hsp (Ne.symm hnul.1)) hnul.2 hap h).push hp hsp

/-- A command without directives for arguments, as `redisvFormatCommand` splits it. -/
theorem redisvFormatCommand_produced {format : CString} {out : List String}
    (h : redisvFormatCommand rejects format [] = .args out) :
    Produced format.text.toList [] [] out := by
  rw [redisvFormatCommand] at h
  exact formatLoop_produced ⟨by simp, List.not_mem_nil, List.not_mem_nil, fun _ hw => by cases hw⟩
    format.noNul h

end Evaluation

end Redis
end FireEvacuation

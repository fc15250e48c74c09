import FireEvacuation.Platform.CText
import FireEvacuation.Speaker.ProbeFiles
import Mathlib.Data.List.TakeWhile
import Mathlib.Tactic.IntervalCases
import Mathlib.Tactic.NormNum
import Mathlib.Tactic.Positivity
import Mathlib.Tactic.Ring

/-!
# The text in the file of the probe

The driver writes two lines, and the second one ends with the temperature in thousandths of
a degree, as in `t=23125`.  `GetValue` takes what two calls of `fgets` give, cuts the second
piece at every `t` and every `=`, and makes a number of the second word.  It looks neither
at what `fgets` answers nor at whether there is a second word.

What the file says is defined here from the file alone: the number behind the first `t=` of
the second line, which must have an end.  The temperature is divided as a `double` and kept
in a `float`, so the reading of `n` is what these types hold of `n / 1000`, and an infinity is
no reading.  Up to eight thousand degrees that is off by less than half a thousandth.
-/

namespace FireEvacuation
namespace Speaker
namespace Probe

open FireEvacuation.Core FireEvacuation.Core.Effect Platform

/-! ## What the file says -/

/-- The second line, unless it is not there or was not written to its end. -/
def secondFileLine (content : List Char) : Option (List Char) :=
  let rest := (content.dropWhile (· ≠ '\n')).drop 1
  if '\n' ∈ rest then some (rest.takeWhile (· ≠ '\n')) else none

/-- What is behind the first `t=`. -/
def afterMark : List Char → Option (List Char)
  | [] => none
  | c :: rest => if c = 't' ∧ rest.head? = some '=' then some rest.tail else afterMark rest

/-- The decimal integer at the beginning of a text. -/
def decimalInteger (text : List Char) : Option Int :=
  let negative : Bool := text.head? = some '-'
  let digits := (if negative then text.tail else text).takeWhile Char.isDigit
  if digits = [] then none
  else some (if negative then -digitsValue digits else digitsValue digits)

/-- The temperature in thousandths of a degree. -/
def reading (content : List Char) : Option Int :=
  (secondFileLine content).bind fun line => (afterMark line).bind decimalInteger

/-! ## What `GetValue` makes of it -/

/-- `atof(tokenizer) / 1000` in a `float`; the `double` which is returned holds the same. -/
def temperature (number : FloatNumber) : FloatNumber :=
  binary32.convert (binary64.divide number 1000)

/-- `GetValue` of a `GenericControl<double>`. -/
def doubleConfig (limit : Nat) (probePath : String) : ProbeConfig FloatNumber :=
  ⟨limit, probePath, fun token => temperature (atof token)⟩

/-- A thousandth of an exact number, as the types of the code hold it. -/
def thousandth (number : FloatNumber) : FloatNumber := temperature (binary64.convert number)

/-- The thousandths of two numbers are the same, and no infinity. -/
def SameThousandth (a b : FloatNumber) : Prop :=
  ∃ v, thousandth a = .finite v ∧ thousandth b = .finite v

/-- `GetValue` throws, or returns what the file says; in particular it throws when the file
says nothing, and never passes on a missing token. -/
def ReadingRight (limit : Nat) (probePath : String) (s : ProbeProcess FloatNumber)
    (content : List Char) : Prop :=
  match getValue (doubleConfig limit probePath) (.ok content) s with
  | .ok value _ => ∃ n : Int, reading content = some n ∧
      ∃ v, value = .finite v ∧ thousandth (.finite n) = .finite v
  | .error (.exception _) _ => True
  | .error .undefined _ => False
  | .error .blocked _ => False

def Delimiters (text : List Char) : Prop := ∀ c ∈ text, isDelimiter c = true

def IsWord (text : List Char) : Prop := text ≠ [] ∧ ∀ c ∈ text, isDelimiter c = false

/-- The text begins with delimiters, a word, more delimiters, and this word. -/
def SecondWord (text token : List Char) : Prop :=
  ∃ lead word gap rest, text = lead ++ word ++ gap ++ token ++ rest ∧ Delimiters lead ∧
    IsWord word ∧ gap ≠ [] ∧ Delimiters gap ∧ IsWord token ∧ ∀ c ∈ rest.head?, isDelimiter c = true

/-- The condition on a file: it says a number, and the number at the beginning of the second
word in the second piece `fgets` reads has the same thousandth. -/
def SecondWordReads (content : List Char) : Prop :=
  ∃ (n : Int) (token : List Char), reading content = some n ∧
    SecondWord (secondLine content) token ∧ SameThousandth (numberAt token) (.finite n)

/-! ## Words -/

section Words

variable {text token rest : List Char}

theorem IsWord.cons (h : IsWord token) : ∃ c tail, token = c :: tail ∧ isDelimiter c = false := by
  obtain ⟨hne, hall⟩ := h
  cases token with
  | nil => exact absurd rfl hne
  | cons c tail => exact ⟨c, tail, rfl, hall c List.mem_cons_self⟩

/-- What `strtok` finds. -/
theorem strtok_eq_some_iff :
    strtok text = some (token, rest) ↔ ∃ lead tail, text = lead ++ token ++ tail ∧
      Delimiters lead ∧ IsWord token ∧ (∀ c ∈ tail.head?, isDelimiter c = true) ∧
      rest = tail.drop 1 := by
  constructor
  · intro h
    unfold strtok at h
    have hsplit := List.takeWhile_append_dropWhile (p := isDelimiter) (l := text)
    have hlead : Delimiters (text.takeWhile isDelimiter) := fun c hmem =>
      List.mem_takeWhile_imp hmem
    cases hstart : text.dropWhile isDelimiter with
    | nil => simp [hstart] at h
    | cons c start =>
        rw [hstart] at h hsplit
        -- the word begins with the first character which is no delimiter
        have hc : isDelimiter c = false := by
          have hhead := List.head?_dropWhile_not isDelimiter text
          rw [hstart] at hhead
          simpa using hhead
        cases h
        refine ⟨_, (c :: start).dropWhile fun c => !isDelimiter c, ?_, hlead, ⟨?_, ?_⟩, ?_, rfl⟩
        · rw [List.append_assoc, List.takeWhile_append_dropWhile, hsplit]
        · simp [hc]
        · intro d hmem
          simpa using List.mem_takeWhile_imp hmem
        · intro d hd
          have hhead := List.head?_dropWhile_not (fun c => !isDelimiter c) (c :: start)
          rw [Option.mem_def.mp hd] at hhead
          simpa using hhead
  · rintro ⟨lead, tail, rfl, hlead, hword, htail, rfl⟩
    obtain ⟨c, rest, rfl, hc⟩ := hword.cons
    have hdrop : (lead ++ (c :: rest) ++ tail).dropWhile isDelimiter = c :: rest ++ tail := by
      rw [List.append_assoc, List.dropWhile_append_of_pos hlead]
      simp [hc]
    have hinside : ∀ d ∈ c :: rest, (!isDelimiter d) = true := fun d hmem => by
      simp [hword.2 d hmem]
    have htake : tail.takeWhile (fun c => !isDelimiter c) = [] := by
      cases tail with
      | nil => rfl
      | cons d tail => simp [htail d rfl]
    have htail' : tail.dropWhile (fun c => !isDelimiter c) = tail := by
      cases tail with
      | nil => rfl
      | cons d tail => simp [htail d rfl]
    unfold strtok
    rw [hdrop]
    dsimp only [List.cons_append]
    rw [← List.cons_append, List.takeWhile_append_of_pos hinside,
      List.dropWhile_append_of_pos hinside, htake, htail', List.append_nil]

/-- The second call of `strtok` goes on behind the first delimiter after the first word. -/
theorem secondWord_iff :
    ((strtok text).bind fun first => (strtok first.2).map Prod.fst) = some token ↔
      SecondWord text token := by
  constructor
  · intro h
    obtain ⟨⟨word, rest⟩, hfirst, hmap⟩ := Option.bind_eq_some_iff.mp h
    obtain ⟨⟨token', rest'⟩, hsecond, htoken'⟩ := Option.map_eq_some_iff.mp hmap
    dsimp only at htoken' hsecond
    subst htoken'
    obtain ⟨lead, tail, rfl, hlead, hword, htail, rfl⟩ := strtok_eq_some_iff.mp hfirst
    obtain ⟨gap, last, hgap, hdelimiters, htoken, hlast, -⟩ := strtok_eq_some_iff.mp hsecond
    cases tail with
    | nil =>
        -- the first word is the last one
        obtain ⟨c, tail, rfl, -⟩ := htoken.cons
        simp at hgap
    | cons c tail =>
        refine ⟨lead, word, c :: gap, last, ?_, hlead, hword, by simp, ?_, htoken, hlast⟩
        · have htail : tail = gap ++ token' ++ last := hgap
          simp [htail]
        · intro d hmem
          rcases List.mem_cons.mp hmem with rfl | hmem
          · exact htail d rfl
          · exact hdelimiters d hmem
  · rintro ⟨lead, word, gap, rest, rfl, hlead, hword, hgap, hdelimiters, htoken, hrest⟩
    cases gap with
    | nil => exact absurd rfl hgap
    | cons c gap =>
        have hfirst : strtok (lead ++ word ++ c :: gap ++ token ++ rest) =
            some (word, gap ++ token ++ rest) := by
          refine strtok_eq_some_iff.mpr ⟨lead, c :: gap ++ token ++ rest, ?_, hlead, hword, ?_, ?_⟩
          · simp
          · intro d hd
            cases hd
            exact hdelimiters _ List.mem_cons_self
          · simp
        have hsecond : strtok (gap ++ token ++ rest) = some (token, rest.drop 1) := by
          refine strtok_eq_some_iff.mpr ⟨gap, rest, rfl, fun d hmem => ?_, htoken, hrest, rfl⟩
          exact hdelimiters d (List.mem_cons_of_mem c hmem)
        rw [hfirst]
        dsimp only [Option.bind_some]
        rw [hsecond]
        rfl

theorem temperatureText_iff {content : List Char} :
    temperatureText content = some token ↔ SecondWord (secondLine content) token :=
  secondWord_iff

end Words

/-! ## Thousandths -/

section Thousandths

/-- The three roundings of a thousandth. -/
theorem thousandth_of_rounds {q a b c : ℚ} (ha : binary64.round q = .finite a)
    (hb : binary64.round (a / 1000) = .finite b) (hc : binary32.round b = .finite c) :
    thousandth (.finite q) = .finite c := by
  simp only [thousandth, temperature, BinaryFormat.convert, BinaryFormat.divide, ha, hb, hc]

/-- No number up to 2 ^ 136 overflows. -/
theorem thousandth_finite {q : ℚ} (h : |q| ≤ 2 ^ (136 : ℤ)) :
    ∃ v, thousandth (.finite q) = .finite v := by
  obtain ⟨a, ha, hasmall⟩ := binary64.round_of_abs_le h
    (by decide) (by decide)
  have hdivided : |a / 1000| ≤ 2 ^ (127 : ℤ) := by
    rw [abs_div, abs_of_pos (by norm_num : (0 : ℚ) < 1000), div_le_iff₀ (by norm_num)]
    exact hasmall.trans (by norm_num)
  obtain ⟨b, hb, hbsmall⟩ := binary64.round_of_abs_le hdivided
    (by decide) (by decide)
  obtain ⟨c, hc, -⟩ := binary32.round_of_abs_le hbsmall
    (by decide) (by decide)
  exact ⟨c, thousandth_of_rounds ha hb hc⟩

/-- **Accuracy.**  Up to eight thousand degrees a thousandth is off by less than half a
thousandth. -/
theorem thousandth_error {q v : ℚ} (hsmall : |q| ≤ 8000000)
    (h : thousandth (.finite q) = .finite v) : |v - q / 1000| < 1 / 2000 := by
  obtain ⟨a, ha, -⟩ := binary64.round_of_abs_le (k := 23)
    (hsmall.trans (by norm_num)) (by decide) (by decide)
  have haerror : |a - q| ≤ 1 / 2 ^ 31 :=
    (BinaryFormat.round_error ha (k := 23) (hsmall.trans_lt (by norm_num)) (by decide)).trans
      (by norm_num [binary64])
  obtain ⟨hqlow, hqhigh⟩ := abs_le.mp hsmall
  obtain ⟨halow, hahigh⟩ := abs_le.mp haerror
  have hdivided : |a / 1000| < 2 ^ (13 : ℤ) := by
    rw [abs_lt]
    constructor <;> norm_num <;> linarith
  obtain ⟨b, hb, -⟩ := binary64.round_of_abs_le hdivided.le
    (by decide) (by decide)
  have hberror : |b - a / 1000| ≤ 1 / 2 ^ 41 :=
    (BinaryFormat.round_error hb hdivided (by decide)).trans (by norm_num [binary64])
  obtain ⟨hblow, hbhigh⟩ := abs_le.mp hberror
  have hbsmall : |b| < 2 ^ (13 : ℤ) := by
    rw [abs_lt]
    constructor <;> norm_num <;> linarith
  obtain ⟨c, hc, -⟩ := binary32.round_of_abs_le hbsmall.le
    (by decide) (by decide)
  have hcerror : |c - b| ≤ 1 / 2 ^ 12 :=
    (BinaryFormat.round_error hc hbsmall (by decide)).trans (by norm_num [binary32])
  obtain ⟨hclow, hchigh⟩ := abs_le.mp hcerror
  rw [thousandth_of_rounds ha hb hc] at h
  cases h
  rw [abs_lt]
  constructor <;> linarith

/-- Readings of less than eight thousand degrees have thousandths of their own. -/
theorem sameThousandth_iff_eq {m n : ℤ} (hm : |m| ≤ 8000000) (hn : |n| ≤ 8000000) :
    SameThousandth (.finite m) (.finite n) ↔ m = n := by
  have hmrat : |(m : ℚ)| ≤ 8000000 := by exact_mod_cast hm
  have hnrat : |(n : ℚ)| ≤ 8000000 := by exact_mod_cast hn
  constructor
  · rintro ⟨v, hvm, hvn⟩
    obtain ⟨hmlow, hmhigh⟩ := abs_lt.mp (thousandth_error hmrat hvm)
    obtain ⟨hnlow, hnhigh⟩ := abs_lt.mp (thousandth_error hnrat hvn)
    have hbelow : (m : ℚ) < (n + 1 : ℤ) := by
      push_cast
      linarith
    have habove : (n : ℚ) < (m + 1 : ℤ) := by
      push_cast
      linarith
    have hlt : m < n + 1 := by exact_mod_cast hbelow
    have hgt : n < m + 1 := by exact_mod_cast habove
    omega
  · rintro rfl
    obtain ⟨v, hv⟩ := thousandth_finite (q := m) (hmrat.trans (by norm_num))
    exact ⟨v, hv, hv⟩

end Thousandths

/-- **Temperature parsing.**  For every content of the file and every state of the process,
`GetValue` is right exactly when the file cannot be opened or meets the condition. -/
theorem readingRight_iff (limit : Nat) (probePath : String) (s : ProbeProcess FloatNumber)
    (content : List Char) :
    ReadingRight limit probePath s content ↔
      ((firstFree limit s.files).isSome = true → SecondWordReads content) := by
  cases hfree : firstFree limit s.files with
  | none =>
      -- `fopen` fails and `GetValue` throws
      have hclosed : ¬Opens (doubleConfig limit probePath) s (.ok content) := fun hopens => by
        have hsome := hopens.1
        rw [doubleConfig, hfree] at hsome
        cases hsome
      obtain ⟨what, hthrows⟩ := getValue_of_not_opens hclosed
      unfold ReadingRight
      rw [hthrows]
      exact iff_of_true trivial fun h => nomatch h
  | some fd =>
      have hvalue : getValue (doubleConfig limit probePath) (.ok content) s = _ :=
        getValue_of_opens hfree
      unfold ReadingRight
      rw [hvalue]
      cases htext : temperatureText content with
      | none =>
          -- the null pointer is passed to `atof`
          refine iff_of_false (fun h => h) fun h => ?_
          obtain ⟨n, token, -, hword, -⟩ := h rfl
          rw [temperatureText_iff.mpr hword] at htext
          cases htext
      | some token =>
          constructor
          · rintro ⟨n, hreading, hsame⟩ -
            exact ⟨n, token, hreading, temperatureText_iff.mp htext, hsame⟩
          · intro h
            obtain ⟨n, token', hreading, hword, hsame⟩ := h rfl
            have htoken : token = token' :=
              Option.some.inj (htext.symm.trans (temperatureText_iff.mpr hword))
            exact ⟨n, hreading, htoken ▸ hsame⟩

/-- A number which is not the reading, but has its thousandth. -/
example : SameThousandth (numberAt "23125.0000000001".toList) (.finite (23125 : Int)) :=
  ⟨185 / 8, by decide +kernel, by decide +kernel⟩

/-- A file with one line: the second token is the null pointer. -/
theorem short_file_undefined :
    ¬∀ (limit : Nat) (probePath : String) (s : ProbeProcess FloatNumber) (content : List Char),
      ReadingRight limit probePath s content := by
  intro h
  have hright := h 8 "w1_slave" ⟨∅, .finite 0⟩ "72 01 : crc=57 YES\n".toList
  have hfree : firstFree 8 (∅ : Finset Nat) = some 0 := by decide
  have htext : temperatureText "72 01 : crc=57 YES\n".toList = none := by decide
  unfold ReadingRight at hright
  rw [getValue_of_opens hfree, htext] at hright
  exact hright

/-! ## The file of the driver -/

section Digits

variable {c : Char} {digits : List Char}

def tenDigits : List Char := ['0', '1', '2', '3', '4', '5', '6', '7', '8', '9']

theorem isDigit_mem (h : c.isDigit = true) : c ∈ tenDigits := by
  have hbounds : 48 ≤ c.toNat ∧ c.toNat ≤ 57 := by
    simpa [Char.isDigit, UInt32.le_iff_toNat_le] using h
  have hc := Char.ofNat_toNat c
  generalize c.toNat = code at hbounds hc
  subst hc
  obtain ⟨hlow, hhigh⟩ := hbounds
  interval_cases code <;> decide

/-- What holds of the ten digits holds of every digit. -/
theorem of_isDigit {p : Char → Bool} (hall : tenDigits.all p = true) (h : c.isDigit = true) :
    p c = true :=
  List.all_eq_true.mp hall c (isDigit_mem h)

/-- The text of a number. -/
def numberText (negative : Bool) (digits : List Char) : List Char :=
  if negative then '-' :: digits else digits

def numberValue (negative : Bool) (digits : List Char) : Int :=
  if negative then -digitsValue digits else digitsValue digits

/-- Reading on multiplies what was read before. -/
theorem foldl_digits_bounds (h : ∀ c ∈ digits, c.isDigit = true) (start : Int)
    (hstart : 0 ≤ start) :
    0 ≤ digits.foldl (fun value c => 10 * value + ((c.toNat : Int) - 48)) start ∧
      digits.foldl (fun value c => 10 * value + ((c.toNat : Int) - 48)) start <
        (start + 1) * 10 ^ digits.length := by
  induction digits generalizing start with
  | nil => simpa using hstart
  | cons c digits ih =>
      have hc : (0 : Int) ≤ c.toNat - 48 ∧ (c.toNat : Int) - 48 ≤ 9 := of_decide_eq_true <|
        of_isDigit (p := fun d => (0 : Int) ≤ d.toNat - 48 ∧ (d.toNat : Int) - 48 ≤ 9)
          (by decide) (h c List.mem_cons_self)
      obtain ⟨hlow, hhigh⟩ := ih (fun d hmem => h d (List.mem_cons_of_mem c hmem))
        (10 * start + (c.toNat - 48)) (by omega)
      refine ⟨hlow, hhigh.trans_le ?_⟩
      rw [List.length_cons, pow_succ', ← mul_assoc]
      exact mul_le_mul_of_nonneg_right (by omega) (by positivity)

theorem abs_numberValue_lt (negative : Bool) (h : ∀ c ∈ digits, c.isDigit = true) :
    |numberValue negative digits| < 10 ^ digits.length := by
  obtain ⟨hlow, hhigh⟩ := foldl_digits_bounds h 0 le_rfl
  rw [zero_add, one_mul] at hhigh
  have habs : |digitsValue digits| < 10 ^ digits.length := by
    rw [digitsValue, abs_of_nonneg hlow]
    exact hhigh
  cases negative with
  | true => simpa [numberValue] using habs
  | false => exact habs

theorem takeWhile_digits (h : ∀ c ∈ digits, c.isDigit = true) (rest : List Char) :
    (digits ++ '\n' :: rest).takeWhile Char.isDigit = digits ∧
      (digits ++ '\n' :: rest).dropWhile Char.isDigit = '\n' :: rest := by
  rw [List.takeWhile_append_of_pos h, List.dropWhile_append_of_pos h]
  exact ⟨by simp [show '\n'.isDigit = false from rfl], by simp [show '\n'.isDigit = false from rfl]⟩

theorem foldl_digits (h : ∀ c ∈ digits, c.isDigit = true) (start : Int) :
    digits.foldl (fun (value : ℚ) c => 10 * value + digitValue c) start =
      (digits.foldl (fun value c => 10 * value + ((c.toNat : Int) - 48)) start : Int) := by
  induction digits generalizing start with
  | nil => rfl
  | cons c digits ih =>
      have hc : digitValue c = c.toNat - 48 := of_decide_eq_true <|
        of_isDigit (p := fun d => digitValue d = d.toNat - 48) (by decide) (h c List.mem_cons_self)
      have hrest : ∀ d ∈ digits, d.isDigit = true := fun d hmem =>
        h d (List.mem_cons_of_mem c hmem)
      rw [List.foldl_cons, List.foldl_cons, ← ih hrest, hc]
      push_cast
      rfl

theorem isHexNumber_eq_false {text : List Char} (h : ∀ c ∈ text, c ≠ 'x' ∧ c ≠ 'X') :
    isHexNumber text = false := by
  unfold isHexNumber
  split
  · rename_i x c rest
    have hx := h x (by simp)
    simp [hx.1, hx.2]
  · rename_i x c rest _
    have hx := h x (by simp)
    simp [hx.1, hx.2]
  · rfl

theorem pointValue_digits (hne : digits ≠ []) (h : ∀ c ∈ digits, c.isDigit = true) :
    pointValue 10 10 Char.isDigit ['e', 'E'] (digits ++ ['\n']) = digitsValue digits := by
  obtain ⟨htake, hdrop⟩ := takeWhile_digits h []
  have hfold := foldl_digits h 0
  rw [Int.cast_zero] at hfold
  unfold pointValue
  simp only [htake, hdrop, hne, false_and, if_false]
  simpa [exponentOf, digitsValue] using hfold

/-- What `atof` finds in a number at the end of a line. -/
theorem numberAt_number (negative : Bool) (hne : digits ≠ [])
    (h : ∀ c ∈ digits, c.isDigit = true) :
    numberAt (numberText negative digits ++ ['\n']) = .finite (numberValue negative digits) := by
  obtain ⟨first, rest, rfl⟩ := List.exists_cons_of_ne_nil hne
  have hfirst := h first List.mem_cons_self
  have hspace : isSpace first = false := of_decide_eq_true <|
    of_isDigit (p := fun d => isSpace d = false) (by decide) hfirst
  have hnosign : first ≠ '-' ∧ first ≠ '+' := of_decide_eq_true <|
    of_isDigit (p := fun d => d ≠ '-' ∧ d ≠ '+') (by decide) hfirst
  have hnoword : 'i' ≠ first.toLower ∧ 'n' ≠ first.toLower := of_decide_eq_true <|
    of_isDigit (p := fun d => 'i' ≠ d.toLower ∧ 'n' ≠ d.toLower) (by decide) hfirst
  have hsign : takeSign ((numberText negative (first :: rest) ++ ['\n']).dropWhile isSpace) =
      (negative, first :: rest ++ ['\n']) := by
    cases negative with
    | true => rfl
    | false =>
        have hstay : (first :: rest ++ ['\n']).dropWhile isSpace = first :: rest ++ ['\n'] := by
          simp [hspace]
        show takeSign ((first :: rest ++ ['\n']).dropWhile isSpace) = _
        rw [hstay]
        unfold takeSign
        split
        · rename_i heq
          exact absurd (List.cons.inj heq).1 hnosign.1
        · rename_i heq
          exact absurd (List.cons.inj heq).1 hnosign.2
        · rfl
  have hinf : "inf".toList.isPrefixOf ((first :: rest ++ ['\n']).map Char.toLower) = false := by
    simp [List.isPrefixOf, hnoword.1]
  have hnan : "nan".toList.isPrefixOf ((first :: rest ++ ['\n']).map Char.toLower) = false := by
    simp [List.isPrefixOf, hnoword.2]
  have hhex : isHexNumber (first :: rest ++ ['\n']) = false := by
    refine isHexNumber_eq_false fun c hmem => ?_
    rcases List.mem_append.mp hmem with hmem | hmem
    · exact of_decide_eq_true <|
        of_isDigit (p := fun d => d ≠ 'x' ∧ d ≠ 'X') (by decide) (h c hmem)
    · rw [List.mem_singleton.mp hmem]
      decide
  unfold numberAt
  simp only [hsign, hinf, hnan, hhex, Bool.false_eq_true, if_false, pointValue_digits hne h]
  cases negative <;> simp [numberValue]

theorem decimalInteger_number (negative : Bool) (hne : digits ≠ [])
    (h : ∀ c ∈ digits, c.isDigit = true) :
    decimalInteger (numberText negative digits) = some (numberValue negative digits) := by
  have htake : digits.takeWhile Char.isDigit = digits := List.takeWhile_eq_self_iff.mpr h
  cases negative with
  | true => simp [decimalInteger, numberText, numberValue, htake, hne]
  | false =>
      have hminus : digits.head? ≠ some '-' := fun hhead => by
        have hdigit := h '-' (List.mem_of_head? hhead)
        cases hdigit
      simp [decimalInteger, numberText, numberValue, htake, hne, hminus]

end Digits

section Regular

variable {line rest : List Char}

/-- A line which fits is read to its end. -/
theorem fgets_line {size : Nat} (hend : '\n' ∉ line) (hshort : line.length < size) :
    fgets size (line ++ '\n' :: rest) = (line ++ ['\n'], rest) := by
  induction line generalizing size with
  | nil =>
      cases size with
      | zero => simp at hshort
      | succ size => simp [fgets]
  | cons c line ih =>
      cases size with
      | zero => simp at hshort
      | succ size =>
          have hc : c ≠ '\n' := fun h => hend (h ▸ List.mem_cons_self)
          have hrest := ih (fun h => hend (List.mem_cons_of_mem c h)) (Nat.lt_of_succ_lt_succ hshort)
          simp [fgets, hc, hrest]

theorem secondFileLine_eq {first : List Char} (hfirst : '\n' ∉ first) (hline : '\n' ∉ line) :
    secondFileLine (first ++ '\n' :: (line ++ '\n' :: rest)) = some line := by
  have hcut : ∀ text rest : List Char, '\n' ∉ text →
      (text ++ '\n' :: rest).takeWhile (· ≠ '\n') = text ∧
        (text ++ '\n' :: rest).dropWhile (· ≠ '\n') = '\n' :: rest := by
    intro text rest hnot
    have hall : ∀ c ∈ text, decide (c ≠ '\n') = true := fun c hmem =>
      decide_eq_true fun h : c = '\n' => hnot (h ▸ hmem)
    rw [List.takeWhile_append_of_pos hall, List.dropWhile_append_of_pos hall]
    exact ⟨by simp, by simp⟩
  unfold secondFileLine
  rw [(hcut first _ hfirst).2, List.drop_one, List.tail_cons]
  dsimp only
  rw [if_pos (by simp), (hcut line rest hline).1]

theorem afterMark_eq {word text : List Char} (hword : ∀ c ∈ word, isDelimiter c = false) :
    afterMark (word ++ 't' :: '=' :: text) = some text := by
  induction word with
  | nil => simp [afterMark]
  | cons c word ih =>
      have hc : c ≠ 't' := fun h => by
        have hplain := hword c List.mem_cons_self
        rw [h] at hplain
        cases hplain
      rw [List.cons_append, afterMark, if_neg (fun h => hc h.1)]
      exact ih fun d hmem => hword d (List.mem_cons_of_mem c hmem)

/-- **The file of the driver.**  A first line which fits, and a second one which fits and has
a word, `t=` and a number of at most forty digits: it meets the condition. -/
theorem secondWordReads_of_regular {first word digits : List Char} (negative : Bool)
    (hfirst : '\n' ∉ first) (hfits : first.length < 254) (hword : IsWord word)
    (hplain : '\n' ∉ word ∧ Char.ofNat 0 ∉ word) (hne : digits ≠ [])
    (hdigits : ∀ c ∈ digits, c.isDigit = true) (hforty : digits.length ≤ 40)
    (hshort : (word ++ 't' :: '=' :: numberText negative digits).length < 254) :
    SecondWordReads (first ++ '\n' ::
      (word ++ 't' :: '=' :: numberText negative digits ++ '\n' :: rest)) := by
  have hnumber : ∀ c ∈ numberText negative digits,
      isDelimiter c = false ∧ c ≠ '\n' ∧ c ≠ Char.ofNat 0 := by
    intro c hmem
    have hcases : c = '-' ∨ c ∈ digits := by
      cases negative with
      | true => exact List.mem_cons.mp hmem
      | false => exact Or.inr hmem
    rcases hcases with rfl | hmem
    · decide
    · exact of_decide_eq_true <|
        of_isDigit (p := fun d => isDelimiter d = false ∧ d ≠ '\n' ∧ d ≠ Char.ofNat 0)
          (by decide) (hdigits c hmem)
  have hline : '\n' ∉ word ++ 't' :: '=' :: numberText negative digits := by
    simp only [List.mem_append, List.mem_cons, not_or]
    exact ⟨hplain.1, by decide, by decide, fun h => (hnumber _ h).2.1 rfl⟩
  have hsecond : secondLine (first ++ '\n' ::
      (word ++ 't' :: '=' :: numberText negative digits ++ '\n' :: rest)) =
        word ++ 't' :: '=' :: numberText negative digits ++ ['\n'] := by
    unfold secondLine
    rw [fgets_line hfirst hfits, fgets_line hline hshort, List.takeWhile_eq_self_iff]
    intro c hmem
    have hnul : c ≠ Char.ofNat 0 := by
      rintro rfl
      simp only [List.mem_append, List.mem_cons, List.not_mem_nil, or_false] at hmem
      rcases hmem with (h | h | h | h) | h
      · exact hplain.2 h
      · cases h
      · cases h
      · exact (hnumber _ h).2.2 rfl
      · cases h
    simpa using hnul
  have hsmall : |(numberValue negative digits : ℚ)| ≤ 2 ^ (136 : ℤ) := by
    have hvalue := (abs_numberValue_lt negative hdigits).le.trans
      (pow_le_pow_right₀ (by norm_num) hforty)
    have hrat : |(numberValue negative digits : ℚ)| ≤ 10 ^ 40 := by exact_mod_cast hvalue
    exact hrat.trans (by norm_num)
  obtain ⟨v, hv⟩ := thousandth_finite hsmall
  refine ⟨numberValue negative digits, numberText negative digits ++ ['\n'], ?_, ?_, v, ?_, hv⟩
  · unfold reading
    rw [secondFileLine_eq hfirst hline, Option.bind_some, afterMark_eq hword.2,
      Option.bind_some, decimalInteger_number negative hne hdigits]
  · rw [hsecond]
    refine ⟨[], word, ['t', '='], [], by simp, by simp [Delimiters], hword, by simp, ?_, ?_, by simp⟩
    · exact List.all_eq_true.mp (by decide : ['t', '='].all isDelimiter = true)
    · refine ⟨by simp, fun c hmem => ?_⟩
      rcases List.mem_append.mp hmem with hmem | hmem
      · exact (hnumber c hmem).1
      · rw [List.mem_singleton.mp hmem]
        rfl
  · rw [numberAt_number negative hne hdigits]
    exact hv

end Regular

end Probe
end Speaker
end FireEvacuation

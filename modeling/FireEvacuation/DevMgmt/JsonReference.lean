import Mathlib.Data.Rat.Floor
import Mathlib.Tactic.Linarith
import FireEvacuation.DevMgmt.Json

/-!
# JSON values which are read in place

`Location::parse` and `Room::parse` take their argument by reference, and `operator[]` on a
value which is not constant adds a null member for a key which is missing, and makes an
object of null first.  Here the value is a state, and a read is a call on it which may
change it.

A caller wants more: that the value is what it was before, that what is accepted is what the
value says, and that the rest is rejected by an exception.  Reads only ever add members, so
a change is never undone, and the condition on a sequence of reads can be found read by
read.
-/

namespace FireEvacuation
namespace DevMgmt

open FireEvacuation.Core FireEvacuation.Core.Effect Platform

namespace Json

/-! ## Reads -/

/-- The member of an object, when there is one. -/
def lookup (key : String) : List (String × Json) → Option Json
  | [] => none
  | (name, value) :: rest => if name = key then some value else lookup key rest

/-- Change the member of an object. -/
def replace (key : String) (value : Json) : List (String × Json) → List (String × Json)
  | [] => []
  | (name, old) :: rest =>
      if name = key then (name, value) :: rest else (name, old) :: replace key value rest

/-- The call on the reference `json[key]`. -/
def onMember {α : Type} (key : String) (body : Cpp Json α) : Cpp Json α := fun json =>
  match json with
  | null => onPart (fun _ => null) (fun _ value => object [(key, value)]) body null
  | object members =>
      match lookup key members with
      | some old => onPart (fun _ => old) (fun _ value => object (replace key value members))
          body (object members)
      | none => onPart (fun _ => null) (fun _ value => object (members ++ [(key, value)]))
          body (object members)
  | other => .error (.exception (typeError 305
      ("cannot use operator[] with a string argument with " ++ other.typeName))) other

/-- `T x = json[key];` with the conversion to `T`. -/
def read {α : Type} (key : String) (convert : Json → JsonM α) : Cpp Json α :=
  onMember key fun value => runExcept (convert value) value

/-- The implicit conversion to `int`. -/
def getInt32 : Json → JsonM Int32
  | unsigned value => .ok value.toUInt32.toInt32
  | integer value => .ok value.toInt32
  | float value =>
      if -2147483648 ≤ truncate value ∧ truncate value < 2147483648 then
        .ok (Int32.ofInt (truncate value))
      else .error .undefined
  | boolean value => .ok (if value then 1 else 0)
  | other => .error (.exception (typeError 302 ("type must be number, but is " ++ other.typeName)))

/-- `json = number` for an `int`. -/
def ofInt32 (value : Int32) : Json := integer value.toInt64

theorem getInt32_ofInt32 (value : Int32) : (ofInt32 value).getInt32 = .ok value := by
  show Except.ok value.toInt64.toInt32 = Except.ok value
  simp

/-! ## Values which are never changed back -/

/-- A call only adds to the value. -/
def Grows {α : Type} (x : Cpp Json α) : Prop :=
  ∀ json, leftIn (x json) = json ∨ sizeOf json < sizeOf (leftIn (x json))

section Grows

variable {α β : Type}

theorem leftIn_onPart {σ τ : Type} (view : σ → τ) (put : σ → τ → σ) (body : Cpp τ α) (s : σ) :
    leftIn (onPart view put body s) = put s (leftIn (body (view s))) := by
  unfold onPart
  cases body (view s) with
  | ok a t => rfl
  | error e t => rfl

theorem grows_pure (a : α) : Grows (pure a : Cpp Json α) := fun _ => .inl rfl

theorem grows_runExcept (convert : Json → JsonM α) :
    Grows fun json => runExcept (convert json) json := by
  intro json
  left
  show leftIn (runExcept (convert json) json) = json
  unfold runExcept
  cases convert json with
  | ok a => rfl
  | error e => rfl

theorem Grows.bind {x : Cpp Json α} {f : α → Cpp Json β} (hx : Grows x)
    (hf : ∀ a, Grows (f a)) : Grows (x >>= f) := by
  intro json
  cases hrun : x json with
  | error e t =>
      have hfirst := hx json
      rw [hrun] at hfirst
      rw [bind_of_error hrun]
      exact hfirst
  | ok a t =>
      have hfirst := hx json
      rw [hrun] at hfirst
      rw [bind_of_ok hrun]
      have hsecond := hf a t
      rcases hfirst with hsame | hmore
      · have heq : t = json := hsame
        subst heq
        exact hsecond
      · right
        have hlt : sizeOf json < sizeOf t := hmore
        rcases hsecond with hsame | hmore'
        · rw [hsame]
          exact hlt
        · omega

/-- The member stands somewhere, and is changed there. -/
theorem replace_of_lookup {key : String} {old : Json} {members : List (String × Json)}
    (h : lookup key members = some old) :
    ∃ before after, members = before ++ (key, old) :: after ∧
      ∀ value, replace key value members = before ++ (key, value) :: after := by
  induction members with
  | nil => cases h
  | cons member rest ih =>
      rcases member with ⟨name, first⟩
      unfold lookup at h
      split at h
      · rename_i hname
        cases h
        subst hname
        exact ⟨[], rest, rfl, fun value => if_pos rfl⟩
      · rename_i hname
        obtain ⟨before, after, rfl, hreplace⟩ := ih h
        refine ⟨(name, first) :: before, after, rfl, fun value => ?_⟩
        rw [replace, if_neg hname, hreplace]
        rfl

theorem replace_eq_self_iff {key : String} {old value : Json}
    {members : List (String × Json)} (h : lookup key members = some old) :
    replace key value members = members ↔ value = old := by
  obtain ⟨before, after, rfl, hreplace⟩ := replace_of_lookup h
  rw [hreplace]
  simp

/-- A call on a member which is there and is left alone leaves the object alone. -/
theorem onMember_of_lookup {key : String} {old : Json} {members : List (String × Json)}
    {body : Cpp Json α} {a : α} (hlookup : lookup key members = some old)
    (hbody : body old = .ok a old) :
    onMember key body (object members) = .ok a (object members) := by
  unfold onMember
  dsimp only
  rw [hlookup]
  dsimp only
  rw [onPart_of_ok hbody, (replace_eq_self_iff hlookup).mpr rfl]

theorem read_of_lookup {key : String} {old : Json} {members : List (String × Json)}
    {convert : Json → JsonM α} {a : α} (hlookup : lookup key members = some old)
    (hconvert : convert old = .ok a) :
    read key convert (object members) = .ok a (object members) := by
  refine onMember_of_lookup hlookup ?_
  show runExcept (convert old) old = .ok a old
  rw [hconvert, runExcept_ok]

theorem sizeOf_append_lt {before members members' : List (String × Json)}
    (h : sizeOf members < sizeOf members') :
    sizeOf (before ++ members) < sizeOf (before ++ members') := by
  induction before with
  | nil => exact h
  | cons member before ih =>
      simp
      omega

theorem sizeOf_replace {key : String} {old value : Json} {members : List (String × Json)}
    (h : lookup key members = some old) (hlt : sizeOf old < sizeOf value) :
    sizeOf members < sizeOf (replace key value members) := by
  obtain ⟨before, after, rfl, hreplace⟩ := replace_of_lookup h
  rw [hreplace]
  apply sizeOf_append_lt
  simp
  omega

theorem sizeOf_append_member (members : List (String × Json)) (key : String) (value : Json) :
    sizeOf members < sizeOf (members ++ [(key, value)]) := by
  have hlt : sizeOf ([] : List (String × Json)) < sizeOf [(key, value)] := by simp
  have happend : sizeOf (members ++ []) < sizeOf (members ++ [(key, value)]) :=
    sizeOf_append_lt hlt
  rw [List.append_nil] at happend
  exact happend

theorem Grows.onMember {body : Cpp Json α} (hbody : Grows body) (key : String) :
    Grows (onMember key body) := by
  intro json
  unfold Json.onMember
  cases json with
  | null =>
      right
      dsimp only
      rw [leftIn_onPart]
      simp
  | object members =>
      dsimp only
      cases hlookup : lookup key members with
      | none =>
          right
          dsimp only
          rw [leftIn_onPart]
          have hlt := sizeOf_append_member members key (leftIn (body null))
          simp at hlt ⊢
          exact hlt
      | some old =>
          dsimp only
          rw [leftIn_onPart]
          rcases hbody old with hsame | hmore
          · left
            rw [hsame, (replace_eq_self_iff hlookup).mpr rfl]
          · right
            have hlt := sizeOf_replace hlookup hmore
            simp
            exact hlt
  | boolean _ | integer _ | unsigned _ | float _ | string _ | array _ => exact .inl rfl

theorem grows_read (key : String) (convert : Json → JsonM α) : Grows (read key convert) :=
  (grows_runExcept convert).onMember key

end Grows

/-! ## What a caller wants -/

section Keeps

variable {α β : Type}

/-- A conversion rejects the value or gives a result with `post`. -/
def Accepts (post : α → Prop) (x : JsonM α) : Prop :=
  match x with
  | .ok a => post a
  | .error (.exception _) => True
  | .error .undefined => False
  | .error .blocked => False

/-- A call was left by an exception, or returned something with `post`. -/
def Outcome {σ : Type} (post : α → Prop) :
    EStateM.Result (Fault CppException) σ α → Prop
  | .ok a _ => post a
  | .error (.exception _) _ => True
  | .error .undefined _ => False
  | .error .blocked _ => False

/-- A call leaves the value as it was, and rejects it or gives a result with `post`. -/
def Keeps (post : α → Prop) (x : Cpp Json α) (json : Json) : Prop :=
  leftIn (x json) = json ∧ Outcome post (x json)

/-- The member is there, or the value is of a type which is rejected as it is.  Null is not:
a read would make an object of it. -/
def Present (key : String) (json : Json) (rest : Json → Prop) : Prop :=
  match json with
  | null => False
  | object members => ∃ value, lookup key members = some value ∧ rest value
  | _ => True

theorem accepts_pure {post : α → Prop} {a : α} :
    Accepts post (pure a : JsonM α) ↔ post a := Iff.rfl

theorem accepts_bind {post : β → Prop} {x : JsonM α} {f : α → JsonM β} :
    Accepts post (x >>= f) ↔ Accepts (fun a => Accepts post (f a)) x := by
  cases x with
  | ok a => exact Iff.rfl
  | error e =>
      cases e with
      | exception e => exact Iff.rfl
      | undefined => exact Iff.rfl
      | blocked => exact Iff.rfl

theorem accepts_map {post : β → Prop} {x : JsonM α} {f : α → β} :
    Accepts post (f <$> x) ↔ Accepts (fun a => post (f a)) x := by
  cases x with
  | ok a => exact Iff.rfl
  | error e =>
      cases e with
      | exception e => exact Iff.rfl
      | undefined => exact Iff.rfl
      | blocked => exact Iff.rfl

theorem present_congr {key : String} {json : Json} {rest rest' : Json → Prop}
    (h : ∀ value members, json = object members → lookup key members = some value →
      (rest value ↔ rest' value)) : Present key json rest ↔ Present key json rest' := by
  cases json with
  | object members =>
      refine exists_congr fun value => and_congr_right fun hlookup => ?_
      exact h value members rfl hlookup
  | null | boolean _ | integer _ | unsigned _ | float _ | string _ | array _ => exact Iff.rfl

theorem keeps_pure {post : α → Prop} {a : α} {json : Json} :
    Keeps post (pure a : Cpp Json α) json ↔ post a :=
  ⟨fun h => h.2, fun h => ⟨rfl, h⟩⟩

theorem keeps_runExcept {post : α → Prop} {x : JsonM α} {json : Json} :
    Keeps post (runExcept x : Cpp Json α) json ↔ Accepts post x := by
  cases x with
  | ok a => exact ⟨fun h => h.2, fun h => ⟨rfl, h⟩⟩
  | error e =>
      cases e with
      | exception e => exact ⟨fun h => h.2, fun h => ⟨rfl, h⟩⟩
      | undefined => exact ⟨fun h => h.2, fun h => ⟨rfl, h⟩⟩
      | blocked => exact ⟨fun h => h.2, fun h => ⟨rfl, h⟩⟩

/-- A change which the first call made is still there after the second. -/
theorem keeps_bind {post : β → Prop} {x : Cpp Json α} {f : α → Cpp Json β} {json : Json}
    (hx : Grows x) (hf : ∀ a, Grows (f a)) :
    Keeps post (x >>= f) json ↔ Keeps (fun a => Keeps post (f a) json) x json := by
  unfold Keeps
  cases hrun : x json with
  | error e t =>
      rw [bind_of_error hrun]
      cases e with
      | exception e => exact Iff.rfl
      | undefined => exact Iff.rfl
      | blocked => exact Iff.rfl
  | ok a t =>
      rw [bind_of_ok hrun]
      have hfirst : t = json ∨ sizeOf json < sizeOf t := by
        have hgrows := hx json
        rw [hrun] at hgrows
        exact hgrows
      show _ ↔ t = json ∧ _
      rcases hfirst with rfl | hmore
      · exact ⟨fun h => ⟨rfl, h⟩, fun h => h.2⟩
      · refine iff_of_false (fun h => ?_) (fun h => ?_)
        · have hsecond := hf a t
          rw [h.1] at hsecond
          rcases hsecond with hsame | hmore'
          · rw [hsame] at hmore
            exact Nat.lt_irrefl _ hmore
          · omega
        · rw [h.1] at hmore
          exact Nat.lt_irrefl _ hmore

theorem outcome_onPart {σ τ : Type} {post : α → Prop} {view : σ → τ} {put : σ → τ → σ}
    {body : Cpp τ α} {s : σ} :
    Outcome post (onPart view put body s) ↔ Outcome post (body (view s)) := by
  unfold onPart
  cases body (view s) with
  | ok a t => exact Iff.rfl
  | error e t =>
      cases e with
      | exception e => exact Iff.rfl
      | undefined => exact Iff.rfl
      | blocked => exact Iff.rfl

/-- A call on a member keeps the value when the member is there and is kept. -/
theorem keeps_onMember {post : α → Prop} {key : String} {body : Cpp Json α} {json : Json} :
    Keeps post (onMember key body) json ↔ Present key json (Keeps post body) := by
  cases json with
  | null =>
      refine iff_of_false (fun h => ?_) id
      have hleft : leftIn (onMember key body null) = null := h.1
      rw [show onMember key body null = onPart (fun _ => null)
        (fun _ value => object [(key, value)]) body null from rfl, leftIn_onPart] at hleft
      cases hleft
  | object members =>
      unfold Present
      dsimp only
      cases hlookup : lookup key members with
      | none =>
          refine iff_of_false (fun h => ?_) (by simp)
          -- `operator[]` adds the member, so the object is longer afterwards
          have hleft : leftIn (onMember key body (object members)) = object members := h.1
          unfold onMember at hleft
          dsimp only at hleft
          rw [hlookup] at hleft
          dsimp only at hleft
          rw [leftIn_onPart] at hleft
          injection hleft with hmembers
          have hlength := congrArg List.length hmembers
          simp at hlength
      | some old =>
          unfold Keeps onMember
          dsimp only
          rw [hlookup]
          dsimp only
          rw [leftIn_onPart]
          have hsame : object (replace key (leftIn (body old)) members) = object members ↔
              leftIn (body old) = old := by
            rw [object.injEq, replace_eq_self_iff hlookup]
          rw [hsame]
          rw [outcome_onPart]
          simp
  | boolean _ | integer _ | unsigned _ | float _ | string _ | array _ =>
      exact iff_of_true ⟨rfl, trivial⟩ trivial

theorem keeps_read {post : α → Prop} {key : String} {convert : Json → JsonM α} {json : Json} :
    Keeps post (read key convert) json ↔
      Present key json fun value => Accepts post (convert value) := by
  refine keeps_onMember.trans (present_congr fun value _ _ _ => ?_)
  exact keeps_runExcept

end Keeps

end Json

end DevMgmt
end FireEvacuation

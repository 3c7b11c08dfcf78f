import Mathlib.Algebra.Group.Int.Defs
import Mathlib.Data.List.Basic

/-! JSON values. An object is the list of its entries as they were written; of entries with one key
the last one counts. -/

inductive Json where
  | null
  | bool (b : Bool)
  | integer (i : Int)
  | float (literal : String)
  | string (s : String)
  | array (items : List Json)
  | object (entries : List (String × Json))

namespace Json

/-- The value of a key in a list of entries. -/
def last? (key : String) : List (String × Json) → Option Json
  | [] => none
  | entry :: rest => (last? key rest).or (if entry.1 = key then some entry.2 else none)

def get? (key : String) : Json → Option Json
  | object entries => last? key entries
  | _ => none

def at? : List String → Json → Option Json
  | [], json => some json
  | key :: path, json => (json.get? key).bind (at? path)

def str? : Json → Option String
  | string s => some s
  | _ => none

def bool? : Json → Option Bool
  | bool b => some b
  | _ => none

/-- An integer that 64 bits hold. -/
def i64? : Json → Option Int
  | integer i => if -2 ^ 63 ≤ i ∧ i < 2 ^ 63 then some i else none
  | _ => none

def array? : Json → Option (List Json)
  | array items => some items
  | _ => none

def removeKeys (keys : List String) : Json → Json
  | object entries => object (entries.filter fun entry => !keys.contains entry.1)
  | json => json

def modifyKey (key : String) (f : Json → Json) : Json → Json
  | object entries =>
    object (entries.map fun entry => if entry.1 = key then (entry.1, f entry.2) else entry)
  | json => json

variable {key : String} {keys : List String} {entries : List (String × Json)} {json : Json}

theorem last?_filter {p : String → Bool} :
    last? key (entries.filter fun entry => p entry.1) = if p key then last? key entries else none := by
  induction entries with
  | nil => simp [last?]
  | cons entry rest ih =>
    by_cases hp : p entry.1 = true
    · simp only [List.filter_cons, hp, if_true, last?, ih]
      by_cases hkey : entry.1 = key
      · subst hkey
        simp [hp]
      · cases p key <;> simp [hkey]
    · simp only [List.filter_cons, hp, Bool.false_eq_true, if_false, ih, last?]
      by_cases hkey : entry.1 = key
      · subst hkey
        simp [hp]
      · simp [hkey]

@[simp] theorem get?_removeKeys :
    (json.removeKeys keys).get? key = if key ∈ keys then none else json.get? key := by
  cases json with
  | object entries =>
    simp only [removeKeys, get?]
    rw [last?_filter (p := fun key => !keys.contains key)]
    by_cases hkey : key ∈ keys <;> simp [hkey]
  | _ => simp [removeKeys, get?]

@[simp] theorem get?_modifyKey {f : Json → Json} {key' : String} :
    (json.modifyKey key' f).get? key =
      if key = key' then (json.get? key).map f else json.get? key := by
  cases json with
  | object entries =>
    simp only [modifyKey, get?]
    induction entries with
    | nil => simp [last?]
    | cons entry rest ih =>
      simp only [List.map_cons, last?, ih]
      by_cases hkey : key = key'
      · subst hkey
        by_cases hentry : entry.1 = key <;> cases last? key rest <;> simp [hentry]
      · by_cases hentry : entry.1 = key'
        · simp [hentry, hkey, Ne.symm hkey]
        · simp [hentry, hkey]
  | _ => simp [modifyKey, get?]

theorem at?_singleton : json.at? [key] = json.get? key := by
  cases h : json.get? key <;> simp [at?, h]

end Json

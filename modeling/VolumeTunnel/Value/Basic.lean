import VolumeTunnel.Decimal.Shortest
import VolumeTunnel.Text.Quoted
import VolumeTunnel.Value.Calendar

/-!
# Values

Settings, names, labels and response bodies are not typed before they are checked, so they are
kept as a `Value`. This file has the type, its truth value, the equality under which values are
keys, and dictionaries in insertion order.

* `Value.same` : numbers are equal by value, whatever their type, collections member by member;
* `Dict.put` keeps the place of a key that is there and puts a new one last;
* `Dict.value?_put_text` : looking up a text key after setting one.
-/

namespace VolumeTunnel

/-- A dynamic value. Dictionaries and sets keep insertion order. -/
inductive Value where
  | none
  | bool (b : Bool)
  | int (i : Int)
  | float (d : Double)
  | text (t : Text)
  | bytes (bs : List UInt8)
  | list (xs : List Value)
  | tuple (xs : List Value)
  | dict (entries : List (Value × Value))
  | set (xs : List Value)
  | date (d : Date)
  | moment (m : Moment)
  /-- A collection where it is met again inside itself: nothing more of it is shown there. -/
  | elided (mapping : Bool)

/-- A dictionary: entries in insertion order. -/
abbrev Dict := List (Value × Value)

namespace Value

instance : Inhabited Value := ⟨none⟩

instance : Coe Text Value := ⟨text⟩

instance : Coe String Value := ⟨fun s => text s⟩

/-- The truth value: zeros, `none` and everything empty are false. -/
def truthy : Value → Bool
  | none => false
  | bool b => b
  | int i => i != 0
  | float d => !d.isZero
  | text t => !t.isEmpty
  | bytes bs => !bs.isEmpty
  | list xs => !xs.isEmpty
  | tuple xs => !xs.isEmpty
  | dict es => !es.isEmpty
  | set xs => !xs.isEmpty
  | date _ => true
  | moment _ => true
  | elided _ => true

/-- The value itself if it is true, and otherwise `fallback`. -/
def orElse (v fallback : Value) : Value :=
  if v.truthy then v else fallback

theorem orElse_of_true {v : Value} (h : v.truthy = true) (fallback : Value) :
    v.orElse fallback = v :=
  if_pos h

theorem orElse_of_false {v : Value} (h : v.truthy = false) (fallback : Value) :
    v.orElse fallback = fallback :=
  if_neg (Bool.eq_false_iff.1 h)

/-- The number that a boolean or an integer is. -/
def toInt? : Value → Option Int
  | bool b => some (if b then 1 else 0)
  | int i => some i
  | _ => Option.none

/-- Whether the value is a float that is not a number. -/
def isNan : Value → Bool
  | float .nan => true
  | _ => false

/-- Equality of an integer with a value. -/
def sameAsInt (i : Int) : Value → Bool
  | bool b => i == (if b then 1 else 0)
  | int j => i == j
  | float d => d.sameInt i
  | _ => false

mutual

/-- Equality of values. -/
def same : Value → Value → Bool
  | none, none => true
  | bool b, v => v.sameAsInt (if b then 1 else 0)
  | int i, v => v.sameAsInt i
  | float d, float e => d.same e
  | float d, v => (v.toInt?.map d.sameInt).getD false
  | text s, text t => s == t
  | bytes s, bytes t => s == t
  | list xs, list ys => sameAll xs ys
  | tuple xs, tuple ys => sameAll xs ys
  | dict es, dict fs => es.length == fs.length && sameEntries es fs
  | set xs, set ys => xs.length == ys.length && sameMembers xs ys
  | date d, date e => d == e
  | moment m, moment n => m.same n
  | _, _ => false

/-- Equality of lists, member by member. -/
def sameAll : List Value → List Value → Bool
  | [], [] => true
  | x :: xs, y :: ys => same x y && sameAll xs ys
  | _, _ => false

/-- Whether every value of the first list is equal to one of the second. -/
def sameMembers : List Value → List Value → Bool
  | [], _ => true
  | x :: xs, ys => ys.any (same x) && sameMembers xs ys

/-- Whether every entry of the first list is equal to one of the second. -/
def sameEntries : List (Value × Value) → List (Value × Value) → Bool
  | [], _ => true
  | (k, v) :: es, fs => (fs.any fun (k', v') => same k k' && same v v') && sameEntries es fs

end

theorem same_text (s t : Text) : same (text s) (text t) = (s == t) := by
  simp [same]

/-- The name of the type of a value. -/
def typeName : Value → String
  | none => "NoneType"
  | bool _ => "bool"
  | int _ => "int"
  | float _ => "float"
  | text _ => "str"
  | bytes _ => "bytes"
  | list _ => "list"
  | tuple _ => "tuple"
  | dict _ => "dict"
  | set _ => "set"
  | date _ => "date"
  | moment _ => "datetime"
  | elided mapping => if mapping then "dict" else "list"

mutual

/-- The type of the first part of a value that keeps it from being a key: a list, a dictionary or a
set. -/
def unhashable? : Value → Option String
  | list _ => some "list"
  | dict _ => some "dict"
  | set _ => some "set"
  | elided mapping => some (if mapping then "dict" else "list")
  | tuple xs => firstUnhashable? xs
  | _ => Option.none

/-- The first obstacle to being a key in a list of values. -/
def firstUnhashable? : List Value → Option String
  | [] => Option.none
  | x :: xs => (unhashable? x).or (firstUnhashable? xs)

end

end Value

namespace Dict

/-- The value of a key. -/
def value? (d : Dict) (key : Value) : Option Value :=
  (List.find? (fun e => e.1.same key) d).map (·.2)

/-- The value of a key, `none` if the key is absent. -/
def valueD (d : Dict) (key : Value) : Value :=
  (value? d key).getD .none

/-- Sets the value of a key: in its place if it is there, last otherwise. -/
def put : Dict → Value → Value → Dict
  | [], key, v => [(key, v)]
  | (k, w) :: d, key, v => if k.same key then (k, v) :: d else (k, w) :: put d key v

/-- The dictionary of a list of entries: a repeated key keeps its first place and takes its last
value. -/
def ofEntries (es : List (Value × Value)) : Dict :=
  es.foldl (fun d e => put d e.1 e.2) []

theorem value?_cons (k w : Value) (d : Dict) (key : Value) :
    value? ((k, w) :: d) key = if k.same key then some w else value? d key := by
  simp only [value?, List.find?_cons]
  cases k.same key <;> rfl

theorem value?_put_text (d : Dict) (s t : Text) (v : Value) :
    value? (put d (.text s) v) (.text t) = if s = t then some v else value? d (.text t) := by
  induction d with
  | nil => by_cases h : s = t <;> simp [put, value?, Value.same_text, h]
  | cons e d ih =>
    obtain ⟨k, w⟩ := e
    cases k with
    | text u =>
      by_cases hu : u = s
      · subst hu
        by_cases h : u = t <;> simp [put, value?_cons, Value.same_text, h]
      · by_cases h : u = t
        · subst h
          simp [put, value?_cons, Value.same_text, hu, Ne.symm hu]
        · simp [put, value?_cons, Value.same_text, hu, h, ih]
    | _ => simpa [put, value?_cons, Value.same, Value.sameAsInt, Value.toInt?] using ih

end Dict

end VolumeTunnel

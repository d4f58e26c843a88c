import VolumeTunnel.Proofs.Json.RoundTrip
import VolumeTunnel.Proofs.Text.Utf8
import Mathlib.Data.List.Induction

/-!
# Bytes and members of JSON documents

The text of a document holds no lone surrogate, whatever its strings hold, so it has bytes
(`Json.Data.encodable_write`). Joining surrogates does not touch a member whose name has none
(`Json.member?_joined`), and the members of an object are the values of the dictionary that it
stands for (`Json.valueD_toValue`).
-/

namespace VolumeTunnel

open Text

namespace Json

/-! ## The text of a document has bytes -/

theorem encodable_unitEscape (n : Nat) : Encodable (unitEscape n) := by
  simp [unitEscape, Text.padded]

theorem encodable_escaped (c : CodePoint) : Encodable (escaped c) := by
  have hwritten := written_escaped c
  generalize escaped c = w at hwritten
  cases hwritten with
  | marked hmark => simp
  | itself hval hmark hslash =>
    obtain ⟨d, rfl⟩ := CodePoint.exists_char_of_lt (show c.val < 0x80 by omega)
    simp
  | unit hval => exact encodable_unitEscape _
  | pair hval => simp [encodable_unitEscape]

theorem encodable_writeString (t : Text) : Encodable (writeString t) := by
  have hparts : Encodable (t.flatMap escaped) := by
    intro c hc
    obtain ⟨d, -, hd⟩ := List.mem_flatMap.1 hc
    exact encodable_escaped d c hd
  simp [writeString, hparts]

theorem encodable_writeItems {items : List Json} (h : ∀ j ∈ items, Encodable (write j)) :
    Encodable (writeItems items) := by
  induction items with
  | nil => exact encodable_nil
  | cons j js ih =>
    have hrest := ih fun k hk => h k (List.mem_cons_of_mem _ hk)
    have hj := h j List.mem_cons_self
    cases js with
    | nil => rwa [writeItems]
    | cons k js => simp [writeItems_cons_cons, hj, hrest]

theorem encodable_writeMembers {members : List (Text × Json)}
    (h : ∀ m ∈ members, Encodable (write m.2)) : Encodable (writeMembers members) := by
  induction members with
  | nil => exact encodable_nil
  | cons m ms ih =>
    have hrest := ih fun n hn => h n (List.mem_cons_of_mem _ hn)
    have hm := h m List.mem_cons_self
    cases ms with
    | nil => simp [writeMembers_singleton m.1 m.2, encodable_writeString, hm]
    | cons n ms => simp [writeMembers_cons_cons m.1 m.2, encodable_writeString, hm, hrest]

theorem Data.encodable_write {string : Text → Prop} {j : Json} (h : Data string j) :
    Encodable (write j) := by
  induction h with
  | null => exact encodable_ofChars _
  | bool b => cases b <;> exact encodable_ofChars _
  | @int i h => cases i <;> simp [write, Text.ofInt, Text.ofNat]
  | text h => exact encodable_writeString _
  | array h ih => simp [write, encodable_writeItems ih]
  | object hnames h ih => simp [write, encodable_writeMembers ih]

/-! ## A member of a document -/

/-- A name of small code points and without pairs is the name of the same members after joining. -/
theorem member?_joined (members : List (Text × Json)) {name : Text}
    (hsmall : ∀ c ∈ name, c.val < 0x10000) (hunpaired : name.Unpaired) :
    (joined (object members)).member? name = ((object members).member? name).map joined := by
  have hsame : ∀ t : Text, t.joinSurrogates = name ↔ t = name := by
    intro t
    refine ⟨eq_of_joinSurrogates_eq hsmall, ?_⟩
    rintro rfl
    exact hunpaired.joinSurrogates_eq
  rw [joined, joinedMembers_eq_map, member?, member?, ← List.map_reverse, List.find?_map,
    Option.map_map, Option.map_map]
  simp only [Function.comp_def, hsame]

theorem memberEntries_eq_map (members : List (Text × Json)) :
    memberEntries members = members.map fun m => (.text m.1, m.2.toValue) := by
  induction members with
  | nil => rfl
  | cons m ms ih => rw [memberEntries, ih, List.map_cons]

theorem value?_ofEntries (members : List (Text × Json)) (name : Text) :
    Dict.value? (Dict.ofEntries (memberEntries members)) (.text name) =
      ((object members).member? name).map toValue := by
  rw [memberEntries_eq_map]
  induction members using List.reverseRecOn with
  | nil => rfl
  | append_singleton ms m ih =>
    rw [Dict.ofEntries] at ih ⊢
    rw [List.map_append, List.foldl_append, List.map_singleton, List.foldl_cons, List.foldl_nil,
      Dict.value?_put_text, ih, member?, member?, List.reverse_append, List.reverse_singleton,
      List.singleton_append, List.find?_cons]
    by_cases hm : m.1 = name <;> simp [hm]

/-- A dictionary made of the members of an object has the member for its value. -/
theorem valueD_toValue {members : List (Text × Json)} {d : Dict}
    (h : (object members).toValue = .dict d) (name : Text) :
    d.valueD (.text name) = ((object members).member? name).elim .none toValue := by
  obtain rfl : Dict.ofEntries (memberEntries members) = d := Value.dict.inj h
  rw [Dict.valueD, value?_ofEntries]
  cases (object members).member? name <;> rfl

end Json

end VolumeTunnel

import VolumeTunnel.Proofs.Json.Documents
import VolumeTunnel.Value.Show
import Mathlib.Data.List.TakeWhile

/-!
# Documents that are read can be written

A whole number with too many digits is refused where it is read. So no document that was read holds
a number too long to be written (`Json.isWritable_of_read?`), nor does any member of it
(`Json.isWritable_of_member?`).

* `Value.areWritableEntries_iff` : entries can be written if each key and each value can be.
-/

namespace VolumeTunnel

namespace Value

theorem areWritableEntries_iff {es : List (Value × Value)} :
    areWritableEntries es = true ↔ ∀ e ∈ es, e.1.isWritable = true ∧ e.2.isWritable = true := by
  induction es with
  | nil => simp [areWritableEntries]
  | cons e es ih =>
    obtain ⟨k, v⟩ := e
    rw [areWritableEntries, Bool.and_eq_true, Bool.and_eq_true, ih, List.forall_mem_cons]

end Value

open Value

/-- A value that can be written may be put under a key that can. -/
theorem Dict.areWritableEntries_put {d : Dict} {key v : Value} (hd : areWritableEntries d = true)
    (hkey : key.isWritable = true) (hv : v.isWritable = true) :
    areWritableEntries (d.put key v) = true := by
  induction d with
  | nil => simp [put, areWritableEntries, hkey, hv]
  | cons e d ih =>
    obtain ⟨k, w⟩ := e
    simp only [areWritableEntries, Bool.and_eq_true] at hd
    obtain ⟨⟨hk, hw⟩, hd⟩ := hd
    rw [put]
    split
    · simp [areWritableEntries, hk, hv, hd]
    · simp [areWritableEntries, hk, hw, ih hd]

theorem Dict.areWritableEntries_ofEntries {es : List (Value × Value)}
    (h : areWritableEntries es = true) : areWritableEntries (Dict.ofEntries es) = true := by
  have hfold : ∀ d : Dict, areWritableEntries d = true →
      areWritableEntries (es.foldl (fun d e => put d e.1 e.2) d) = true := by
    induction es with
    | nil => exact fun d hd => hd
    | cons e es ih =>
      obtain ⟨he, hes⟩ := List.forall_mem_cons.1 (areWritableEntries_iff.1 h)
      intro d hd
      exact ih (areWritableEntries_iff.2 hes) _ (areWritableEntries_put hd he.1 he.2)
  exact hfold [] rfl

namespace Json

theorem isDigit_of_mem_takeWhole {t : Text} : ∀ c ∈ (takeWhole t).1, c.isDigit = true := by
  intro c hc
  rw [takeWhole.eq_def] at hc
  split at hc
  · rw [List.mem_singleton.1 hc]
    rfl
  · exact List.mem_takeWhile_imp hc

/-- A number that is read is not too long to be written. -/
theorem isWritable_of_readNumber {negative : Bool} {t rest : Text} {j : Json}
    (h : readNumber negative t = some (j, rest)) : j.toValue.isWritable = true := by
  rw [readNumber] at h
  dsimp only at h
  split at h
  · cases h
  split at h
  · split at h
    · cases h
    next hlength =>
      obtain ⟨rfl, -⟩ := Prod.mk.inj (Option.some.inj h)
      have hnatAbs : ∀ n : Nat, (if negative = true then -(n : Int) else n).natAbs = n := by
        intro n
        split <;> simp
      rw [toValue, isWritable, hnatAbs]
      exact Text.hasDecimalNumeral_of_lt (Nat.le_of_not_lt hlength)
        (Text.digitsValue_lt isDigit_of_mem_takeWhole)
  · obtain ⟨rfl, -⟩ := Prod.mk.inj (Option.some.inj h)
    rfl

theorem isWritable_of_readPlain {t rest : Text} {j : Json} (h : readPlain t = some (j, rest)) :
    j.toValue.isWritable = true := by
  have hwords : ∀ w ∈ words, w.2.toValue.isWritable = true := by decide
  unfold readPlain at h
  split at h
  next word j' hfind =>
    obtain ⟨rfl, -⟩ := Prod.mk.inj (Option.some.inj h)
    exact hwords _ (List.mem_of_find?_eq_some hfind)
  next =>
    split at h
    · exact isWritable_of_readNumber h
    · exact isWritable_of_readNumber h

/-- What is read with some fuel can be written. -/
structure ReadsWritable (fuel : Nat) : Prop where
  document : ∀ t j rest, readDocument fuel t = some (j, rest) → j.toValue.isWritable = true
  items : ∀ t js rest, readItems fuel t = some (js, rest) → areWritable (itemValues js) = true
  members : ∀ t ms rest, readMembers fuel t = some (ms, rest) →
    areWritableEntries (memberEntries ms) = true

namespace ReadsWritable

theorem zero : ReadsWritable 0 := by
  constructor <;> simp [readDocument, readItems, readMembers]

variable {fuel : Nat} (hfuel : ReadsWritable fuel) {t rest : Text}
include hfuel

theorem succ_document {j : Json} (h : readDocument (fuel + 1) t = some (j, rest)) :
    j.toValue.isWritable = true := by
  unfold readDocument at h
  split at h
  next hzero => cases hzero
  next =>
    obtain ⟨x, -, hx⟩ := Option.map_eq_some_iff.1 h
    obtain ⟨rfl, -⟩ := Prod.mk.inj hx
    rfl
  next heq =>
    cases Nat.succ.inj heq
    split at h
    next =>
      obtain ⟨rfl, -⟩ := Prod.mk.inj (Option.some.inj h)
      rfl
    next =>
      obtain ⟨x, hread, hx⟩ := Option.map_eq_some_iff.1 h
      obtain ⟨rfl, -⟩ := Prod.mk.inj hx
      exact hfuel.items _ _ _ hread
  next heq =>
    cases Nat.succ.inj heq
    split at h
    next =>
      obtain ⟨rfl, -⟩ := Prod.mk.inj (Option.some.inj h)
      rfl
    next =>
      obtain ⟨x, hread, hx⟩ := Option.map_eq_some_iff.1 h
      obtain ⟨rfl, -⟩ := Prod.mk.inj hx
      exact Dict.areWritableEntries_ofEntries (hfuel.members _ _ _ hread)
  next => exact isWritable_of_readPlain h

theorem succ_items {js : List Json} (h : readItems (fuel + 1) t = some (js, rest)) :
    areWritable (itemValues js) = true := by
  unfold readItems at h
  obtain ⟨x, hread, h⟩ := Option.bind_eq_some_iff.1 h
  have hj := hfuel.document _ _ _ hread
  dsimp only at h
  split at h
  next =>
    obtain ⟨rfl, -⟩ := Prod.mk.inj (Option.some.inj h)
    simp [itemValues, areWritable, hj]
  next =>
    obtain ⟨y, hrest, h⟩ := Option.bind_eq_some_iff.1 h
    obtain ⟨rfl, -⟩ := Prod.mk.inj (Option.some.inj h)
    simp [itemValues, areWritable, hj, hfuel.items _ _ _ hrest]
  next => cases h

theorem succ_members {ms : List (Text × Json)}
    (h : readMembers (fuel + 1) t = some (ms, rest)) :
    areWritableEntries (memberEntries ms) = true := by
  unfold readMembers at h
  split at h
  next hzero => cases hzero
  next heq =>
    cases Nat.succ.inj heq
    obtain ⟨x, -, h⟩ := Option.bind_eq_some_iff.1 h
    dsimp only at h
    split at h
    next =>
      obtain ⟨y, hread, h⟩ := Option.bind_eq_some_iff.1 h
      have hj := hfuel.document _ _ _ hread
      split at h
      next =>
        obtain ⟨rfl, -⟩ := Prod.mk.inj (Option.some.inj h)
        simp [memberEntries, areWritableEntries, isWritable, hj]
      next =>
        obtain ⟨z, hrest, h⟩ := Option.bind_eq_some_iff.1 h
        obtain ⟨rfl, -⟩ := Prod.mk.inj (Option.some.inj h)
        simp [memberEntries, areWritableEntries, isWritable, hj, hfuel.members _ _ _ hrest]
      next => cases h
    next => cases h
  next => cases h

omit hfuel in
theorem all (fuel : Nat) : ReadsWritable fuel := by
  induction fuel with
  | zero => exact zero
  | succ fuel ih =>
    exact ⟨fun _ _ _ h => ih.succ_document h, fun _ _ _ h => ih.succ_items h,
      fun _ _ _ h => ih.succ_members h⟩

end ReadsWritable

/-- A document that is read can be written. -/
theorem isWritable_of_read? {t : Text} {j : Json} (h : read? t = some j) :
    j.toValue.isWritable = true := by
  rw [read?] at h
  split at h
  next hread =>
    split at h
    · obtain rfl := Option.some.inj h
      exact (ReadsWritable.all _).document _ _ _ hread
    · cases h
  next => cases h

/-- So can each member of an object. -/
theorem isWritable_of_member? {j member : Json} {name : Text} (h : j.toValue.isWritable = true)
    (hmember : j.member? name = some member) : member.toValue.isWritable = true := by
  cases j with
  | object members =>
    have hvalue := value?_ofEntries members name
    rw [hmember, Option.map_some, Dict.value?, Option.map_eq_some_iff] at hvalue
    obtain ⟨e, hfind, he⟩ := hvalue
    rw [← he]
    exact (areWritableEntries_iff.1 h e (List.mem_of_find?_eq_some hfind)).2
  | _ => cases hmember

end Json

end VolumeTunnel

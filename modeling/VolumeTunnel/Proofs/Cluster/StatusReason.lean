import VolumeTunnel.Cluster.Rejection
import VolumeTunnel.Proofs.Json.Numbers

/-!
# The reason in a response body

The reason of a document is found in its text, and in the bytes of its text. It is the member of
that name with the surrogates of its strings joined (`Rejection.statusReason_write`), so it is the
member itself unless a high surrogate stands directly before a low one in a string of it
(`Rejection.statusReason_of_document`). Names that differ only in being such a pair or the character
that it names become one (`Rejection.statusReason_pairedNames`).

Whatever the body is, its reason can be written (`Rejection.isWritable_statusReason`), and so can
the message of the failure if the phrase is a text (`Rejection.isWritable_fullReason`).
-/

namespace VolumeTunnel

open Json

theorem reasonIn_write {j : Json} (h : IsData j) :
    reasonIn (write j) = ((j.joined.member? "reason").elim .none toValue).orElse .none := by
  rw [reasonIn, read?_write h]

theorem isWritable_orElse {v w : Value} (hv : v.isWritable = true) (hw : w.isWritable = true) :
    (v.orElse w).isWritable = true := by
  rw [Value.orElse]
  split
  · exact hv
  · exact hw

theorem isWritable_reasonIn (t : Text) : (reasonIn t).isWritable = true := by
  rw [reasonIn]
  split
  next j hread =>
    refine isWritable_orElse ?_ rfl
    cases hmember : j.member? "reason" with
    | none => rfl
    | some member => exact isWritable_of_member? (isWritable_of_read? hread) hmember
  next => rfl

namespace Rejection

/-- The reason in a body can be written. -/
theorem isWritable_statusReason (r : Rejection) : r.statusReason.isWritable = true := by
  rw [statusReason.eq_def]
  split
  · exact isWritable_reasonIn _
  · exact isWritable_reasonIn _
  · rfl

theorem isWritable_fullReason {r : Rejection} (h : r.reason.isWritable = true) :
    r.fullReason.isWritable = true :=
  isWritable_orElse r.isWritable_statusReason h

theorem statusReason_text (status phrase : Value) (t : Text) :
    statusReason ⟨status, phrase, .text t⟩ = reasonIn t := rfl

/-- The reason in a body is that in its bytes. -/
theorem statusReason_bodies {status phrase v : Value} {t : Text} (h : t.Encodable)
    (htext : statusReason ⟨status, phrase, .text t⟩ = v) :
    ∃ bs, Utf8.encode? t = some bs ∧
      ∀ body ∈ [Value.text t, .bytes bs], statusReason ⟨status, phrase, body⟩ = v := by
  obtain ⟨bs, hbs, hdecode⟩ := Utf8.exists_encode? h
  have hbytes : statusReason ⟨status, phrase, .bytes bs⟩ = v := by
    rw [← htext, statusReason_text, ← hdecode]
    rfl
  exact ⟨bs, hbs, by simp [htext, hbytes]⟩

/-- The reason in the text of an object is its member of that name, with surrogates joined. -/
theorem statusReason_write (status phrase : Value) {members : List (Text × Json)}
    (h : IsData (object members)) :
    statusReason ⟨status, phrase, .text (write (object members))⟩ =
      ((((object members).member? "reason").map joined).elim .none toValue).orElse .none := by
  rw [statusReason_text, reasonIn_write h, member?_joined members (by decide) (by decide)]

/-- The reason in the text of an object, and in its bytes, is the value of that name if it is there
and true, provided that no string of it holds a pair of surrogates. Any other document gives none.
Every text without lone surrogates gives the same as its bytes. -/
theorem statusReason_of_document (status phrase : Value) :
    (∀ members (d : Dict), IsData (object members) → (object members).toValue = .dict d →
      (∀ j, (object members).member? "reason" = some j → Data Text.Unpaired j) →
      ∃ bs, Utf8.encode? (write (object members)) = some bs ∧
        ∀ body ∈ [Value.text (write (object members)), .bytes bs],
          statusReason ⟨status, phrase, body⟩ = (d.valueD "reason").orElse .none) ∧
    (∀ j, IsData j → (∀ members, j ≠ object members) →
      ∃ bs, Utf8.encode? (write j) = some bs ∧
        ∀ body ∈ [Value.text (write j), .bytes bs],
          statusReason ⟨status, phrase, body⟩ = .none) ∧
    ∀ t : Text, t.Encodable →
      ∃ bs, Utf8.encode? t = some bs ∧
        statusReason ⟨status, phrase, .bytes bs⟩ = statusReason ⟨status, phrase, .text t⟩ := by
  refine ⟨fun members d hdata hvalue hreason => ?_, fun j hdata hother => ?_, fun t ht => ?_⟩
  · refine statusReason_bodies hdata.encodable_write ?_
    rw [statusReason_write status phrase hdata, valueD_toValue hvalue]
    cases hmember : (object members).member? "reason" with
    | none => rfl
    | some j => rw [Option.map_some, (hreason j hmember).joined_eq]
  · refine statusReason_bodies hdata.encodable_write ?_
    rw [statusReason_text, reasonIn_write hdata]
    cases j with
    | object members => exact absurd rfl (hother members)
    | _ => rfl
  · obtain ⟨bs, hbs, hbody⟩ := @statusReason_bodies status phrase _ t ht rfl
    exact ⟨bs, hbs, hbody _ (by simp)⟩

/-- The two surrogates of one character, each by itself. -/
def splitFace : Text :=
  [.lone ⟨0x3D, by decide⟩, .lone ⟨0x600, by decide⟩]

/-- A reason with a text and a code. -/
def detailedReason : Json :=
  .object [("text", .text "é\n"), ("codes", .array [.int 409, .int (-1)])]

/-- A status with such a reason and with surrogates elsewhere. -/
def detailed : List (Text × Json) :=
  [("kind", .text "Status"), (splitFace, .text splitFace), ("reason", detailedReason)]

theorem data_detailedReason {string : Text → Prop} (htext : string "text") (hcodes : string "codes")
    (hvalue : string "é\n") : Data string detailedReason := by
  have hcode : Text.hasDecimalNumeral 409 = true :=
    @Text.hasDecimalNumeral_of_lt 409 3 (by decide) (by decide)
  have hone : Text.hasDecimalNumeral 1 = true :=
    @Text.hasDecimalNumeral_of_lt 1 1 (by decide) (by decide)
  have hitems : Data string (.array [.int 409, .int (-1)]) :=
    .array (by simp [Data.int, hcode, hone])
  exact .object (by simp [htext, hcodes]) (by simp [Data.text hvalue, hitems])

theorem data_detailed : IsData (object detailed) :=
  .object (by simp) (by simp [detailed, Data.text, data_detailedReason])

theorem statusReason_of_document_detailed :
    (∃ bs, Utf8.encode? (write (object detailed)) = some bs ∧
      ∀ body ∈ [Value.text (write (object detailed)), .bytes bs],
        statusReason ⟨.int 409, "Conflict", body⟩ = detailedReason.toValue) ∧
    (∃ bs, Utf8.encode? (write (array [object detailed])) = some bs ∧
      ∀ body ∈ [Value.text (write (array [object detailed])), .bytes bs],
        statusReason ⟨.int 409, "Conflict", body⟩ = .none) ∧
    ∃ bs, Utf8.encode? "[é" = some bs ∧
      statusReason ⟨.int 409, "Conflict", .bytes bs⟩ =
        statusReason ⟨.int 409, "Conflict", .text "[é"⟩ := by
  obtain ⟨hobject, hother, hbytes⟩ := statusReason_of_document (.int 409) "Conflict"
  refine ⟨?_, ?_, ?_⟩
  · have hreason : ∀ j, (object detailed).member? "reason" = some j → Data Text.Unpaired j := by
      rintro j hmember
      obtain rfl : detailedReason = j := Option.some.inj hmember
      exact data_detailedReason (by decide) (by decide) (by decide)
    obtain ⟨bs, hbs, hbody⟩ := hobject detailed _ data_detailed rfl hreason
    refine ⟨bs, hbs, fun body hmem => (hbody body hmem).trans ?_⟩
    rw [valueD_toValue rfl]
    change detailedReason.toValue.orElse .none = detailedReason.toValue
    have hne : ("text" : Text) ≠ "codes" := by decide
    simp [detailedReason, toValue, memberEntries, Dict.ofEntries, Dict.put, Value.same_text,
      Value.orElse, Value.truthy, hne]
  · exact hother _ (.array (by simp [data_detailed])) (by simp)
  · exact hbytes _ (Text.encodable_ofChars _)

/-- A reason with two names : two surrogates, and the character that they name. -/
def pairedNames : Json :=
  .object [(splitFace, .bool true), ("😀", .bool false)]

/-- A status with that reason. -/
def pairedStatus : List (Text × Json) :=
  [("reason", pairedNames)]

theorem toValue_pairedNames :
    pairedNames.toValue = .dict [(.text splitFace, .bool true), (.text "😀", .bool false)] := by
  have hne : splitFace ≠ "😀" := by decide
  simp [pairedNames, toValue, memberEntries, Dict.ofEntries, Dict.put, Value.same_text, hne]

theorem toValue_joined_pairedNames :
    pairedNames.joined.toValue = .dict [(.text "😀", .bool false)] := by
  have hface : splitFace.joinSurrogates = "😀" := by decide
  have hself : Text.joinSurrogates "😀" = "😀" := by decide
  simp [pairedNames, joined, joinedMembers, toValue, memberEntries, Dict.ofEntries, Dict.put,
    Value.same_text, hface, hself]

/-- The two names become one, so that only the last of the two members is left. -/
theorem statusReason_pairedNames :
    ∃ d : Dict, IsData (object pairedStatus) ∧ (object pairedStatus).toValue = .dict d ∧
      (d.valueD "reason").orElse .none =
        .dict [(.text splitFace, .bool true), (.text "😀", .bool false)] ∧
      statusReason ⟨.int 409, "Conflict", .text (write (object pairedStatus))⟩ =
        .dict [(.text "😀", .bool false)] ∧
      statusReason ⟨.int 409, "Conflict", .text (write (object pairedStatus))⟩ ≠
        (d.valueD "reason").orElse .none := by
  have hreason : IsData pairedNames := .object (by simp) (by simp [Data.bool])
  have hdata : IsData (object pairedStatus) := .object (by simp) (by simp [pairedStatus, hreason])
  have hvalue : (Dict.valueD (Dict.ofEntries (memberEntries pairedStatus)) "reason").orElse .none =
      .dict [(.text splitFace, .bool true), (.text "😀", .bool false)] := by
    rw [valueD_toValue rfl]
    exact congrArg (Value.orElse · .none) toValue_pairedNames
  have hjoined : statusReason ⟨.int 409, "Conflict", .text (write (object pairedStatus))⟩ =
      .dict [(.text "😀", .bool false)] := by
    rw [statusReason_write _ _ hdata]
    exact congrArg (Value.orElse · .none) toValue_joined_pairedNames
  refine ⟨_, hdata, rfl, hvalue, hjoined, ?_⟩
  rw [hjoined, hvalue]
  simp

end Rejection

end VolumeTunnel

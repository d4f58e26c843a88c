import VolumeTunnel.Proofs.Cluster.Refinement
import VolumeTunnel.Transfer.Health

/-!
# What a label selector stands for

Labels are asked for by a text : a term for each of them, its key and its value around an equals
sign, and commas between the terms. If no key holds either sign and no value a comma
(`Labels.Plain`), the text is read back as these labels, in order (`readTerms_labelSelector`). A
value may hold equals signs, since a term is cut at its first one, and a key or a value may be
empty. No labels at all give the empty text, which is not sent.

So the text selects the objects that have all of the labels, and no others
(`selector_of_labels`).

* `Text.splitOn_join`, `Text.cutAt_append` : texts are taken apart where they were put together;
* `readTerms`, `Selects` : the terms of a selector, and whether it selects an object;
* `Object.Bears` : an object has all of some labels.
-/

namespace VolumeTunnel

/-! ## Taking texts apart -/

namespace Text

variable {sep : CodePoint}

theorem splitOn_of_not_mem {s : Text} (h : sep ∉ s) : splitOn sep s = [s] := by
  induction s with
  | nil => rfl
  | cons c s ih =>
    obtain ⟨hc, hs⟩ := not_or.1 (List.mem_cons.not.1 h)
    rw [splitOn, if_neg (Ne.symm hc), ih hs]

/-- What stands before the first separator is one piece. -/
theorem splitOn_append {s : Text} (h : sep ∉ s) (t : Text) :
    splitOn sep (s ++ sep :: t) = s :: splitOn sep t := by
  induction s with
  | nil => rw [List.nil_append, splitOn, if_pos rfl]
  | cons c s ih =>
    obtain ⟨hc, hs⟩ := not_or.1 (List.mem_cons.not.1 h)
    rw [List.cons_append, splitOn, if_neg (Ne.symm hc), ih hs]

/-- Texts without the separator are found again between its occurrences. -/
theorem splitOn_join {ts : List Text} (hne : ts ≠ []) (h : ∀ t ∈ ts, sep ∉ t) :
    splitOn sep (join [sep] ts) = ts := by
  induction ts with
  | nil => exact absurd rfl hne
  | cons t ts ih =>
    obtain ⟨ht, hts⟩ := List.forall_mem_cons.1 h
    cases ts with
    | nil => exact splitOn_of_not_mem ht
    | cons u ts =>
      have hjoin : join [sep] (t :: u :: ts) = t ++ sep :: join [sep] (u :: ts) :=
        List.append_assoc t [sep] _
      rw [hjoin, splitOn_append ht, ih (List.cons_ne_nil u ts) hts]

/-- A text is cut at the first separator, whatever comes after it. -/
theorem cutAt_append {s : Text} (h : sep ∉ s) (t : Text) : cutAt sep (s ++ sep :: t) = (s, t) := by
  induction s with
  | nil => rw [List.nil_append, cutAt, if_pos rfl]
  | cons c s ih =>
    obtain ⟨hc, hs⟩ := not_or.1 (List.mem_cons.not.1 h)
    rw [List.cons_append, cutAt, if_neg (Ne.symm hc), ih hs]

end Text

/-! ## Labels and their selector -/

/-- The labels as a dictionary. -/
def Labels.toDict (want : Labels) : Dict :=
  want.map fun e => (.text e.1, .text e.2)

/-- No key holds a comma or an equals sign, and no value a comma. -/
def Labels.Plain (want : Labels) : Prop :=
  ∀ e ∈ want, .char ',' ∉ e.1 ∧ .char '=' ∉ e.1 ∧ .char ',' ∉ e.2

/-- The term of a label. -/
def termText (e : Text × Text) : Text :=
  e.1 ++ .char '=' :: e.2

/-- The terms of a selector as it is written : what stands between its commas, each cut at its first
equals sign. The empty text has none. -/
def readTerms (selector : Text) : List SelectorTerm :=
  if selector = [] then [] else (selector.splitOn (.char ',')).map (Text.cutAt (.char '='))

/-- An object has all of some labels, each with its value. -/
def Object.Bears (o : Object) (want : Labels) : Prop :=
  ∀ e ∈ want, o.labels.lookup e.1 = some e.2

instance (want : Labels) : Decidable want.Plain :=
  inferInstanceAs (Decidable (∀ e ∈ want, .char ',' ∉ e.1 ∧ .char '=' ∉ e.1 ∧ .char ',' ∉ e.2))

instance (o : Object) (want : Labels) : Decidable (o.Bears want) :=
  inferInstanceAs (Decidable (∀ e ∈ want, o.labels.lookup e.1 = some e.2))

/-- A selector selects the objects that have all of its terms. -/
def Selects (selector : Text) (o : Object) : Prop :=
  o.Bears (readTerms selector)

variable {want : Labels}

theorem labelSelector_toDict (want : Labels) :
    labelSelector want.toDict = Text.join [.char ','] (want.map termText) := by
  rw [labelSelector, Labels.toDict, List.map_map]
  rfl

theorem termText_ne_nil (e : Text × Text) : termText e ≠ [] :=
  List.append_ne_nil_of_right_ne_nil _ (List.cons_ne_nil _ _)

/-- Only no labels have the empty selector, for every term has its equals sign. -/
theorem labelSelector_eq_nil_iff : labelSelector want.toDict = [] ↔ want = [] := by
  rw [labelSelector_toDict]
  cases want with
  | nil => exact iff_of_true rfl rfl
  | cons e want =>
    refine iff_of_false (fun h => ?_) (List.cons_ne_nil _ _)
    cases want with
    | nil => exact termText_ne_nil e h
    | cons e' want =>
      have happend := (List.append_eq_nil_iff.1 h).1
      exact termText_ne_nil e (List.append_eq_nil_iff.1 happend).1

theorem Labels.Plain.cutAt_termText (h : want.Plain) :
    (want.map termText).map (Text.cutAt (.char '=')) = want := by
  rw [List.map_map]
  have hcut : ∀ e ∈ want, (Text.cutAt (.char '=') ∘ termText) e = id e := fun e he =>
    Text.cutAt_append (h e he).2.1 e.2
  rw [List.map_congr_left hcut, List.map_id]

theorem Labels.Plain.splitOn_labelSelector (h : want.Plain) (hne : want ≠ []) :
    (labelSelector want.toDict).splitOn (.char ',') = want.map termText := by
  rw [labelSelector_toDict]
  refine Text.splitOn_join (List.map_eq_nil_iff.not.2 hne) fun t ht hcomma => ?_
  obtain ⟨e, he, rfl⟩ := List.mem_map.1 ht
  obtain ⟨hkey, -, hvalue⟩ := h e he
  rcases List.mem_append.1 hcomma with hcomma | hcomma
  · exact hkey hcomma
  · rcases List.mem_cons.1 hcomma with heq | hcomma
    · exact absurd heq (by decide)
    · exact hvalue hcomma

/-- The labels are read back from their selector, in order. -/
theorem readTerms_labelSelector (h : want.Plain) : readTerms (labelSelector want.toDict) = want := by
  rw [readTerms]
  split
  next hnil => exact (labelSelector_eq_nil_iff.1 hnil).symm
  next hnil =>
    rw [h.splitOn_labelSelector (labelSelector_eq_nil_iff.not.1 hnil), h.cutAt_termText]

/-- A reader that skips empty terms reads the same, since no term of a label is empty. -/
theorem selectorTerms_labelSelector (h : want.Plain) :
    selectorTerms (labelSelector want.toDict) = want := by
  by_cases hne : want = []
  · rw [labelSelector_eq_nil_iff.2 hne, hne]
    rfl
  · have hkept : ∀ t ∈ want.map termText, (!t.isEmpty) = true := by
      intro t ht
      obtain ⟨e, -, rfl⟩ := List.mem_map.1 ht
      rw [List.isEmpty_eq_false_iff.2 (termText_ne_nil e)]
      rfl
    rw [selectorTerms, h.splitOn_labelSelector hne, List.filter_eq_self.2 hkept, h.cutAt_termText]

/-! ## What is selected -/

theorem bindsAll_iff {o : Object} : bindsAll o.labels want = true ↔ o.Bears want := by
  simp [bindsAll, Object.Bears]

/-- Selecting by terms leaves out those objects of a kind and a namespace that do not have all of
the labels. -/
theorem Store.select_eq_filter (s : Store) (kind space : Value) (want : Labels) :
    s.select kind space want = (s.select kind space []).filter fun o => o.Bears want := by
  have hbind : ∀ e : Place × Object, bindsAll e.2.labels want = decide (e.2.Bears want) := fun e =>
    Bool.eq_iff_iff.2 (bindsAll_iff.trans (decide_eq_true_iff).symm)
  simp only [Store.select, List.filter_map, List.filter_filter, Function.comp_def, hbind]
  congr 2
  funext e
  simp [bindsAll, Bool.and_comm]

/-- The reply of a store to a request for the objects that a selector accepts. -/
theorem Store.list_labelSelector (h : want.Plain) (s : Store) (kind space : Value) :
    s.list kind space (.text (labelSelector want.toDict)) =
      .ok ((s.select kind space []).filter fun o => o.Bears want) := by
  rw [Store.list.eq_def]
  split
  · dsimp only
    rw [selectorTerms_labelSelector h, Store.select_eq_filter]
  next hfalse =>
    have hnil : labelSelector want.toDict = [] := by simpa [Value.truthy] using hfalse
    rw [← Store.select_eq_filter, labelSelector_eq_nil_iff.1 hnil]

/-! ## Over a connection -/

/-- A request for a list is one call. -/
theorem Request.Issues.list_eq {k : Kind} {space selector : Value} {call : Call}
    (h : Issues (.list (.text k.name) space selector) call) :
    call = .list k space (if selector.truthy then some selector else none) := by
  generalize hq : Request.list (.text k.name) space selector = q at h
  cases h with
  | list k' space' selector' =>
    obtain ⟨hname, rfl, rfl⟩ := Request.list.inj hq
    have hkind := Kind.ofName?_name k
    rw [Value.text.inj hname, Kind.ofName?_name] at hkind
    rw [Option.some.inj hkind]
  | _ => exact nomatch hq

theorem Request.SameReply.eq_ok {α : Type} {r : Except Failure α} {a : α}
    (h : SameReply r (.ok a)) : r = .ok a := by
  cases h
  rfl

section Connection

open Connection (serve)

variable {S : Type} {api : (q : Call) → S → q.Reply × S} {shows : S → Store → Prop}

/-- Over a connection to a keyed store, the objects that have all of the labels are listed, by one
call; without labels no selector is sent. -/
theorem serve_labelSelector (h : want.Plain) (hapi : KeyedApi api shows) {c : Connection}
    (hc : c.Consistent) {s : S} {st : Store} (hs : shows s st) (k : Kind) (space : Text) :
    let request : Request :=
      .list (.text k.name) (.text space) (.text (labelSelector want.toDict))
    let o := (serve request c).run api s
    o.result.1 =
        .ok ((st.select (.text k.name) (.text space) []).filter fun x => x.Bears want) ∧
      o.asked.filter Call.isRequest = [.list k (.text space)
        (if want = [] then none else some (.text (labelSelector want.toDict)))] := by
  intro request o
  have hproper : request.Proper := .list k space (Or.inr ⟨_, rfl⟩)
  obtain ⟨hreply, -, call, hissues, hasked⟩ :=
    Connection.refines hapi request c s st hproper ⟨hc, hs⟩
  have hsame : Request.SameReply o.result.1
      (st.list (.text k.name) (.text space) (.text (labelSelector want.toDict))) := hreply
  rw [Store.list_labelSelector h] at hsame
  refine ⟨hsame.eq_ok, hasked.trans ?_⟩
  rw [Request.Issues.list_eq hissues]
  have htruthy : (Value.text (labelSelector want.toDict)).truthy = true ↔ ¬want = [] := by
    rw [← labelSelector_eq_nil_iff]
    simp [Value.truthy]
  rw [if_congr htruthy rfl rfl, ite_not]

end Connection

/-- The selector of labels stands for these labels. It is read back as them, in order, whether or
not empty terms are skipped, so no other labels have it. It selects the objects that have all of the
labels, in whichever order these are given; and those are the objects that are listed over a
connection, the empty selector not being sent. -/
theorem selector_of_labels (h : want.Plain) :
    (readTerms (labelSelector want.toDict) = want ∧
      selectorTerms (labelSelector want.toDict) = want) ∧
    (∀ other : Labels, other.Plain →
      labelSelector other.toDict = labelSelector want.toDict → other = want) ∧
    (∀ o : Object, Selects (labelSelector want.toDict) o ↔
      ∀ e ∈ want, o.labels.lookup e.1 = some e.2) ∧
    (∀ other : Labels, other.Perm want → ∀ o : Object,
      Selects (labelSelector other.toDict) o ↔ Selects (labelSelector want.toDict) o) ∧
    ∀ (S : Type) (api : (q : Call) → S → q.Reply × S) (shows : S → Store → Prop),
      KeyedApi api shows → ∀ (c : Connection) (s : S) (st : Store) (k : Kind) (space : Text),
      c.Consistent → shows s st →
      let o := (Connection.serve (.list (.text k.name) (.text space)
        (.text (labelSelector want.toDict))) c).run api s
      o.result.1 =
          .ok ((st.select (.text k.name) (.text space) []).filter fun x => x.Bears want) ∧
        o.asked.filter Call.isRequest = [.list k (.text space)
          (if want = [] then none else some (.text (labelSelector want.toDict)))] := by
  have hread := readTerms_labelSelector h
  have hselects (o : Object) : Selects (labelSelector want.toDict) o ↔ o.Bears want := by
    rw [Selects, hread]
  refine ⟨⟨hread, selectorTerms_labelSelector h⟩, fun other hother heq => ?_, hselects,
    fun other hperm o => ?_, fun S api shows hapi c s st k space hc hs =>
      serve_labelSelector h hapi hc hs k space⟩
  · rw [← readTerms_labelSelector hother, heq, hread]
  · have hother : other.Plain := fun e he => h e (hperm.mem_iff.1 he)
    rw [hselects, Selects, readTerms_labelSelector hother]
    exact forall_congr' fun e => imp_congr_left hperm.mem_iff

/-- Labels with an empty key, a value that holds equals signs, and an empty value. -/
def oddLabels : Labels :=
  [("", "a=b="), ("app", "")]

/-- A pod with labels, or without any. -/
def labelledPod (name : Text) (labels : Option Labels) : Object :=
  ⟨Kind.pod.name, none, none, some ⟨some "dst", some name, labels⟩, none, none⟩

/-- A pod that has these labels and others, one that lacks the value of the second, and one without
labels. -/
def labelledPods : Store :=
  ⟨[(Place.of Kind.pod.name "dst" "one",
      labelledPod "one" (some [("app", ""), ("zone", "x"), ("", "a=b=")])),
    (Place.of Kind.pod.name "dst" "two", labelledPod "two" (some [("", "a=b="), ("app", "x")])),
    (Place.of Kind.pod.name "dst" "three", labelledPod "three" none)]⟩

/-- The first of these pods is listed over a connection, and no other. -/
theorem selector_of_oddLabels :
    oddLabels.Plain ∧ labelSelector oddLabels.toDict = "=a=b=,app=" ∧
    (readTerms "=a=b=,app=" = oddLabels ∧ selectorTerms "=a=b=,app=" = oddLabels) ∧
    ((Connection.serve (.list (.text Kind.pod.name) (.text "dst") (.text "=a=b=,app="))
      (.new .none .none)).run Server.answer { Server.new with store := labelledPods }).result.1 =
        .ok [labelledPod "one" (some [("app", ""), ("zone", "x"), ("", "a=b=")])] := by
  have hplain : oddLabels.Plain := by decide
  have htext : labelSelector oddLabels.toDict = "=a=b=,app=" := by decide
  obtain ⟨hread, -, -, -, hlisted⟩ := selector_of_labels hplain
  rw [htext] at hread hlisted
  have hserves : Server.Serves { Server.new with store := labelledPods } labelledPods :=
    ⟨Or.inr ⟨_, rfl⟩, rfl, rfl, rfl, rfl⟩
  have hfirst : ((labelledPods.select (.text Kind.pod.name) (.text "dst") []).filter
      fun x => x.Bears oddLabels) =
        [labelledPod "one" (some [("app", ""), ("zone", "x"), ("", "a=b=")])] := by
    have hall : labelledPods.select (.text Kind.pod.name) (.text "dst") [] =
        labelledPods.entries.map (·.2) := by
      simp [labelledPods, Store.select, Place.of, Value.same_text, bindsAll]
    rw [hall]
    rfl
  refine ⟨hplain, htext, hread, Eq.trans ?_ (congrArg Except.ok hfirst)⟩
  exact (hlisted _ _ _ Server.keyedApi _ _ _ .pod "dst"
    (Connection.consistent_new .none .none) hserves).1

end VolumeTunnel

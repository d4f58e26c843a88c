import VolumeTunnel.Proofs.Text.Numeral
import VolumeTunnel.Settings
import Mathlib.Data.List.Basic

/-!
# What becomes of records

Logging may be set up any number of times, others may add handlers, and records are logged in
between (`LogEvent`). The last call that was accepted decides what becomes of a record : its level
decides whether the record is written, and its destination where (`Choice.due`). This says nothing
of handlers. That the handlers come to the same is the invariant `LogState.InEffect` : there is
exactly one handler of the package, for that destination. One step keeps it
(`LogState.InEffect.apply`).

* `LogEvent.Admitted` : no file fails to open, and records are those of the package;
* `LogEvent.Regular` : also, a file that is opened keeps what is written to it, and a record that is
  due has a line that can be written where it is due;
* `LogState.records_written` : each record is written once or not at all, and what a destination
  holds is what it held before and the lines of its records, in order;
* `LogState.records_lost` : what becomes of other records.
-/

namespace VolumeTunnel

/-! ## Events -/

/-- What happens to the logger of the package. -/
inductive LogEvent where
  /-- Logging is set up for a level and a file, and opening the file comes to what is given. -/
  | setup (level file : Value) (opening : Except Failure Destination)
  /-- Logging is set up for the level of settings and a file. -/
  | configure (settings : Settings) (file : Value) (opening : Except Failure Destination)
  /-- Others add a handler. -/
  | foreign (id : Nat)
  /-- A record is logged at a time on a logger; the report is that of a line that cannot be
  written. -/
  | record (time logger report : Text) (r : Record)

/-- A level and a destination. -/
structure Choice where
  level : Int
  destination : Destination

namespace Choice

/-- The least level of a record that is written. -/
def threshold (c : Choice) : Int :=
  if c.level = 0 then warningLevel else c.level

/-- What is to be written for an event while a choice is in effect : for a record that is severe
enough, one line at the destination. -/
def due (c : Choice) : LogEvent → List (Destination × Text)
  | .record time _ _ r =>
    if c.threshold ≤ r.level then [(c.destination, LogState.line time r)] else []
  | _ => []

end Choice

namespace LogEvent

/-- The state after an event. -/
def apply (s : LogState) : LogEvent → LogState
  | setup level file opening => (s.setup level file opening).2
  | configure settings file opening => (settings.setUpLogging file opening s).2
  | foreign id => s.addForeign id
  | record time logger report r => (s.log time logger report r).2

/-- What an event writes. -/
def written (s : LogState) : LogEvent → Except Failure (List (Destination × Text))
  | record time logger report r => (s.log time logger report r).1
  | _ => .ok []

/-- The level that an event asks for, and the destination. -/
def asks? : LogEvent → Option (Value × Except Failure Destination)
  | setup level file opening => some (level, LogState.destination file opening)
  | configure settings file opening =>
    some (.text settings.logLevel, LogState.destination file opening)
  | _ => none

/-- An event that asks for a level and a destination sets up logging for them. -/
theorem exists_setup {e : LogEvent} {level : Value} {chosen : Except Failure Destination}
    (h : e.asks? = some (level, chosen)) : ∃ file opening,
      chosen = LogState.destination file opening ∧
        ∀ s : LogState, e.apply s = (s.setup level file opening).2 := by
  cases e with
  | setup level' file opening =>
    obtain ⟨rfl, rfl⟩ := Prod.mk.inj (Option.some.inj h)
    exact ⟨file, opening, rfl, fun _ => rfl⟩
  | configure settings file opening =>
    obtain ⟨rfl, rfl⟩ := Prod.mk.inj (Option.some.inj h)
    exact ⟨file, opening, rfl, fun _ => rfl⟩
  | foreign id => exact nomatch h
  | record time logger report r => exact nomatch h

/-- The choice that an event makes, if it asks for one that is accepted. -/
def choice? (e : LogEvent) : Option Choice :=
  e.asks?.bind fun (level, destination) =>
    match LogState.levelOf? level, destination with
    | .ok level, .ok d => some ⟨level, d⟩
    | _, _ => none

/-- The event opens the file that it asks for, unless its level is refused. A record is above level
zero, and its logger is that of the package or below it. -/
def Admitted : LogEvent → Prop
  | record _ logger _ r => 0 < r.level ∧ LogState.isOfPackage logger = true
  | e => ∀ level destination, e.asks? = some (level, destination) →
    (LogState.levelOf? level).isOk = true → ∃ d, destination = .ok d

/-- The event is admitted, and nothing is lost by it while a choice is in effect. A file that is
chosen is none of the devices that keep nothing. If a record is due, its level has a name, and its
line has bytes unless it goes to the error stream. -/
structure Regular (c : Choice) (e : LogEvent) : Prop where
  admitted : e.Admitted
  keeps : ∀ c', e.choice? = some c' → c'.destination ≠ .device
  named : ∀ time logger report r, e = .record time logger report r → c.threshold ≤ r.level →
    hasLevelName r.level = true
  encodable : ∀ time logger report r, e = .record time logger report r → c.threshold ≤ r.level →
    c.destination = .stderr ∨ Utf8.isEncodable (LogState.line time r) = true

/-- What is to be written for events in order, each by what is in effect then. -/
def dues : Choice → List LogEvent → List (Destination × Text)
  | _, [] => []
  | c, e :: es => c.due e ++ dues (e.choice?.getD c) es

/-- What is in effect after events: the last choice that is made, and the one before them if there
is none. -/
def choiceAfter (c : Choice) (es : List LogEvent) : Choice :=
  (es.filterMap choice?).getLastD c

theorem choiceAfter_cons (c : Choice) (e : LogEvent) (es : List LogEvent) :
    choiceAfter c (e :: es) = choiceAfter (e.choice?.getD c) es := by
  rw [choiceAfter, List.filterMap_cons]
  cases e.choice? with
  | none => rfl
  | some c' => exact List.getLastD_cons

/-- Events are regular one after another, each while the last choice before it is in effect. -/
def AllRegular (c : Choice) (es : List LogEvent) : Prop :=
  ∀ es₁ e es₂, es = es₁ ++ e :: es₂ → e.Regular (choiceAfter c es₁)

theorem allRegular_nil (c : Choice) : AllRegular c [] :=
  fun es₁ e es₂ h => absurd h.symm (by simp)

theorem allRegular_cons {c : Choice} {e : LogEvent} {es : List LogEvent} :
    AllRegular c (e :: es) ↔ e.Regular c ∧ AllRegular (e.choice?.getD c) es := by
  constructor
  · intro h
    refine ⟨h [] e es rfl, fun es₁ e' es₂ hes => ?_⟩
    rw [← choiceAfter_cons]
    exact h (e :: es₁) e' es₂ (congrArg _ hes)
  · rintro ⟨he, hes⟩ es₁ e' es₂ h
    cases es₁ with
    | nil =>
      obtain ⟨rfl, -⟩ := List.cons.inj h
      exact he
    | cons first es₁ =>
      obtain ⟨rfl, hrest⟩ := List.cons.inj h
      rw [choiceAfter_cons]
      exact hes es₁ e' es₂ hrest

theorem AllRegular.append {c : Choice} {es₁ es₂ : List LogEvent} (h : AllRegular c (es₁ ++ es₂)) :
    AllRegular c es₁ := by
  intro es e es' hes
  exact h es e (es' ++ es₂) (by rw [hes, List.append_assoc, List.cons_append])

end LogEvent

namespace LogState

/-- The state after events. -/
def after (s : LogState) (es : List LogEvent) : LogState :=
  es.foldl LogEvent.apply s

/-- The text of a file among others; none if it is not there. -/
def textOf (name : Text) : List (Text × Text) → Text
  | [] => []
  | f :: files => if f.1 = name then f.2 else textOf name files

/-- What a destination holds. -/
def content (s : LogState) : Destination → Text
  | .stderr => s.stderr
  | .file name => textOf name s.files
  | .device => []

/-- A choice is in effect : it has the level of the logger, and the only handler of the package is
for its destination, which keeps what is written to it. -/
structure InEffect (s : LogState) (c : Choice) : Prop where
  level : s.level = c.level
  handlers : s.handlers.filter (fun h => !isForeign h) = [.own c.destination]
  keeps : c.destination ≠ .device

variable {s : LogState} {c : Choice}

/-! ## What destinations hold -/

theorem textOf_append_empty (name other : Text) (files : List (Text × Text)) :
    textOf other (files ++ [(name, [])]) = textOf other files := by
  induction files with
  | nil => simp [textOf]
  | cons f files ih => rw [List.cons_append, textOf, textOf, ih]

theorem textOf_touch (name other : Text) (files : List (Text × Text)) :
    textOf other (touch name files) = textOf other files := by
  rw [touch]
  split
  · rfl
  · exact textOf_append_empty name other files

theorem any_touch (name : Text) (files : List (Text × Text)) :
    ((touch name files).any fun f => f.1 = name) = true := by
  rw [touch]
  split
  next h => exact h
  · simp

theorem textOf_appendTo_self {name : Text} (text : Text) {files : List (Text × Text)}
    (h : (files.any fun f => f.1 = name) = true) :
    textOf name (appendTo name text files) = textOf name files ++ text := by
  induction files with
  | nil => exact nomatch h
  | cons f files ih =>
    rw [appendTo, List.map_cons, textOf, textOf]
    by_cases hf : f.1 = name
    · simp only [hf, if_true]
    · have hrest : (files.any fun f => f.1 = name) = true := by simpa [hf] using h
      simp only [hf, if_false]
      exact ih hrest

theorem textOf_appendTo_of_ne {name other : Text} (text : Text) (files : List (Text × Text))
    (h : name ≠ other) : textOf other (appendTo name text files) = textOf other files := by
  induction files with
  | nil => rfl
  | cons f files ih =>
    rw [appendTo, List.map_cons, textOf, textOf, ← appendTo, ih]
    by_cases hf : f.1 = name
    · simp only [hf, if_true, h, if_false]
    · simp only [hf, if_false]

/-- Writing adds to the end of one destination. -/
theorem content_write (s : LogState) {w : Destination × Text} (hw : w.1 ≠ .device)
    (d : Destination) : (s.write w).content d = s.content d ++ if w.1 = d then w.2 else [] := by
  obtain ⟨target, text⟩ := w
  cases target with
  | stderr => cases d <;> simp [write, content]
  | device => exact absurd rfl hw
  | file name =>
    cases d with
    | file other =>
      by_cases h : name = other
      · subst h
        simp [write, content, textOf_appendTo_self text (any_touch name s.files), textOf_touch]
      · simp [write, content, textOf_appendTo_of_ne text _ h, textOf_touch, h]
    | _ => simp [write, content]

/-- What is written to one of the destinations. -/
def portion (d : Destination) (ws : List (Destination × Text)) : Text :=
  (ws.filter fun w => w.1 = d).flatMap (·.2)

theorem portion_append (d : Destination) (ws ws' : List (Destination × Text)) :
    portion d (ws ++ ws') = portion d ws ++ portion d ws' := by
  rw [portion, List.filter_append, List.flatMap_append]
  rfl

theorem content_foldl_write (s : LogState) {ws : List (Destination × Text)}
    (hws : ∀ w ∈ ws, w.1 ≠ .device) (d : Destination) :
    (ws.foldl write s).content d = s.content d ++ portion d ws := by
  induction ws generalizing s with
  | nil => exact (List.append_nil _).symm
  | cons w ws ih =>
    obtain ⟨hw, hrest⟩ := List.forall_mem_cons.1 hws
    rw [List.foldl_cons, ih _ hrest, content_write s hw, List.append_assoc]
    by_cases h : w.1 = d <;> simp [portion, h]

theorem content_opened (s : LogState) (opened d : Destination) :
    (s.opened opened).content d = s.content d := by
  cases opened with
  | file name =>
    cases d with
    | file other => exact textOf_touch name other s.files
    | _ => rfl
  | _ => rfl

/-- Setting up writes nothing. -/
theorem content_setup (level file : Value) (opening : Except Failure Destination) (s : LogState)
    (d : Destination) : (s.setup level file opening).2.content d = s.content d := by
  rw [setup]
  cases levelOf? level with
  | error e => rfl
  | ok l =>
    dsimp only
    split
    · cases d <;> rfl
    next opened h =>
      exact (content_opened _ opened d).trans (by cases d <;> rfl)

/-! ## What is written -/

/-- Nothing is added to a device. -/
theorem ne_device_of_mem_additions {report line : Text} {d : Destination}
    {w : Destination × Text} (hw : w ∈ additions report line d) : w.1 ≠ .device := by
  cases d with
  | stderr =>
    rw [List.mem_singleton.1 hw]
    simp
  | file name =>
    rw [additions] at hw
    split at hw <;>
    · rw [List.mem_singleton.1 hw]
      simp
  | device =>
    rw [additions] at hw
    split at hw
    · exact absurd hw List.not_mem_nil
    · rw [List.mem_singleton.1 hw]
      simp

theorem ne_device_of_mem_writes {time logger report : Text} {r : Record}
    {ws : List (Destination × Text)} (h : s.writes time logger report r = .ok ws) :
    ∀ w ∈ ws, w.1 ≠ .device := by
  rw [writes] at h
  split at h
  · rw [← Except.ok.inj h]
    exact fun w hw => absurd hw List.not_mem_nil
  split at h
  · exact nomatch h
  split at h
  · rw [← Except.ok.inj h]
    split <;> simp
  · rw [← Except.ok.inj h]
    intro w hw
    obtain ⟨handler, -, hw⟩ := List.mem_flatMap.1 hw
    cases handler with
    | own d => exact ne_device_of_mem_additions hw
    | foreign id => exact absurd hw List.not_mem_nil

/-- A line is added at a destination that keeps it, if it can be written there. -/
theorem additions_of_keeps {report line : Text} {d : Destination} (hd : d ≠ .device)
    (h : d = .stderr ∨ Utf8.isEncodable line = true) : additions report line d = [(d, line)] := by
  cases d with
  | stderr => rfl
  | file name => rw [additions, if_pos (h.resolve_left (by simp))]
  | device => exact absurd rfl hd

/-- An event adds to the end of destinations what it writes, and does nothing else to them. -/
theorem content_apply (s : LogState) {e : LogEvent} {ws : List (Destination × Text)}
    (h : e.written s = .ok ws) (d : Destination) :
    (e.apply s).content d = s.content d ++ portion d ws := by
  cases e with
  | setup level file opening =>
    rw [← Except.ok.inj h]
    exact (content_setup level file opening s d).trans (List.append_nil _).symm
  | configure settings file opening =>
    rw [← Except.ok.inj h]
    exact (content_setup _ file opening s d).trans (List.append_nil _).symm
  | foreign id =>
    rw [← Except.ok.inj h]
    cases d <;> exact (List.append_nil _).symm
  | record time logger report r =>
    rw [LogEvent.written, log] at h
    rw [LogEvent.apply, log]
    cases hws : s.writes time logger report r with
    | error e =>
      rw [hws] at h
      exact nomatch h
    | ok ws' =>
      rw [hws] at h
      obtain rfl := Except.ok.inj h
      exact content_foldl_write s (ne_device_of_mem_writes hws) d

/-! ## Handlers -/

theorem foldl_write_level (ws : List (Destination × Text)) (s : LogState) :
    (ws.foldl write s).level = s.level ∧ (ws.foldl write s).handlers = s.handlers := by
  induction ws generalizing s with
  | nil => exact ⟨rfl, rfl⟩
  | cons w ws ih =>
    obtain ⟨hlevel, hhandlers⟩ := ih (s.write w)
    rw [List.foldl_cons, hlevel, hhandlers]
    obtain ⟨target, text⟩ := w
    cases target <;> exact ⟨rfl, rfl⟩

/-- Logging a record changes neither the level nor the handlers. -/
theorem log_level (time logger report : Text) (r : Record) (s : LogState) :
    (s.log time logger report r).2.level = s.level ∧
      (s.log time logger report r).2.handlers = s.handlers := by
  rw [log]
  cases s.writes time logger report r with
  | error e => exact ⟨rfl, rfl⟩
  | ok ws => exact foldl_write_level ws s

theorem filter_own_of_foreign (hs : List Handler) (d : Destination) :
    (hs.filter isForeign ++ [Handler.own d]).filter (fun h => !isForeign h) = [.own d] := by
  rw [List.filter_append, List.filter_filter]
  simp [isForeign]

/-- A call that is accepted puts its choice into effect. -/
theorem inEffect_setup {level file : Value} {opening : Except Failure Destination} {l : Int}
    {d : Destination} (hlevel : levelOf? level = .ok l) (hfile : destination file opening = .ok d)
    (hd : d ≠ .device) (s : LogState) : (s.setup level file opening).2.InEffect ⟨l, d⟩ := by
  rw [setup, hlevel]
  dsimp only
  rw [hfile]
  cases d with
  | stderr => exact ⟨rfl, filter_own_of_foreign s.handlers .stderr, hd⟩
  | file name => exact ⟨rfl, filter_own_of_foreign s.handlers (.file name), hd⟩
  | device => exact absurd rfl hd

/-- A call whose level is refused changes nothing. -/
theorem setup_of_refused {level : Value} {e : Failure} (h : levelOf? level = .error e)
    (file : Value) (opening : Except Failure Destination) (s : LogState) :
    s.setup level file opening = (.error e, s) := by
  rw [setup, h]

/-- Of the handlers, one of the package counts. -/
theorem flatMap_handlers {α : Type} (f : Destination → List α) (hs : List Handler) :
    (hs.flatMap fun
      | .own d => f d
      | .foreign _ => []) =
    (hs.filter fun h => !isForeign h).flatMap fun
      | .own d => f d
      | .foreign _ => [] := by
  induction hs with
  | nil => rfl
  | cons h hs ih =>
    cases h with
    | own d => simp [isForeign, ih]
    | foreign id => simp [isForeign, ih]

/-- A record that is due is handed to the handler of the package. -/
theorem writes_of_due {d : Destination}
    (hhandlers : s.handlers.filter (fun h => !isForeign h) = [.own d]) {logger : Text}
    (hlogger : isOfPackage logger = true) {r : Record} (hpositive : 0 < r.level)
    (hsevere : s.effectiveLevel ≤ r.level) (hname : hasLevelName r.level = true)
    (time report : Text) :
    s.writes time logger report r = .ok (additions report (line time r) d) := by
  have hlevel : s.levelFor logger = s.effectiveLevel := if_pos hlogger
  have hall : s.handlersFor logger = s.handlers := if_pos hlogger
  rw [writes, hlevel, hall, if_neg (by omega), if_neg (by simp [hname])]
  cases hs : s.handlers with
  | nil =>
    rw [hs] at hhandlers
    exact nomatch hhandlers
  | cons h hs' =>
    dsimp only
    rw [← hs]
    refine congrArg Except.ok ?_
    refine (flatMap_handlers (additions report (line time r)) s.handlers).trans ?_
    rw [hhandlers]
    exact List.append_nil _

theorem InEffect.effectiveLevel (hs : s.InEffect c) : s.effectiveLevel = c.threshold := by
  rw [LogState.effectiveLevel, hs.level]
  rfl

/-- A regular record is written as its choice says. -/
theorem InEffect.writes (hs : s.InEffect c) {time logger report : Text} {r : Record}
    (hr : (LogEvent.record time logger report r).Regular c) :
    s.writes time logger report r = .ok (c.due (.record time logger report r)) := by
  obtain ⟨hpositive, hlogger⟩ := hr.admitted
  rw [Choice.due]
  by_cases hsevere : c.threshold ≤ r.level
  · have hname := hr.named time logger report r rfl hsevere
    have hline := hr.encodable time logger report r rfl hsevere
    rw [writes_of_due hs.handlers hlogger hpositive (hs.effectiveLevel ▸ hsevere) hname,
      if_pos hsevere, additions_of_keeps hs.keeps hline]
  · have hlevel : s.levelFor logger = c.threshold := (if_pos hlogger).trans hs.effectiveLevel
    rw [LogState.writes, hlevel, if_pos (Or.inr (by omega)), if_neg hsevere]

/-! ## Steps and runs -/

/-- A call that opens its file, if its level is accepted, puts its choice into effect if it makes
one, and otherwise changes nothing. -/
theorem InEffect.setup (hs : s.InEffect c) {e : LogEvent} {level file : Value}
    {opening : Except Failure Destination} (he : e.asks? = some (level, destination file opening))
    (hstate : e.apply s = (s.setup level file opening).2)
    (hopens : (levelOf? level).isOk = true → ∃ d, destination file opening = .ok d)
    (hkeeps : ∀ c', e.choice? = some c' → c'.destination ≠ .device) :
    (e.apply s).InEffect (e.choice?.getD c) := by
  have hchoice : e.choice? = match levelOf? level, destination file opening with
      | .ok l, .ok d => some ⟨l, d⟩
      | _, _ => none := by
    rw [LogEvent.choice?, he, Option.bind_some]
  rw [hstate]
  cases hlevel : levelOf? level with
  | error f =>
    rw [setup_of_refused hlevel, hchoice, hlevel]
    exact hs
  | ok l =>
    obtain ⟨d, hfile⟩ := hopens (by rw [hlevel]; rfl)
    rw [hlevel, hfile] at hchoice
    rw [hchoice]
    exact inEffect_setup hlevel hfile (hkeeps _ hchoice) s

/-- An event puts the choice into effect that it makes, and otherwise leaves the one that is. -/
theorem InEffect.apply (hs : s.InEffect c) {e : LogEvent} (he : e.Regular c) :
    (e.apply s).InEffect (e.choice?.getD c) := by
  cases e with
  | setup level file opening => exact hs.setup rfl rfl (he.admitted level _ rfl) he.keeps
  | configure settings file opening => exact hs.setup rfl rfl (he.admitted _ _ rfl) he.keeps
  | foreign id =>
    refine ⟨hs.level, ?_, hs.keeps⟩
    rw [LogEvent.apply, addForeign, List.filter_append, hs.handlers]
    rfl
  | record time logger report r =>
    obtain ⟨hlevel, hhandlers⟩ := log_level time logger report r s
    exact ⟨hlevel.trans hs.level, (congrArg _ hhandlers).trans hs.handlers, hs.keeps⟩

/-- An event writes what is due while a choice is in effect. -/
theorem InEffect.written (hs : s.InEffect c) {e : LogEvent} (he : e.Regular c) :
    e.written s = .ok (c.due e) := by
  cases e with
  | record time logger report r => rw [LogEvent.written, log, hs.writes he]
  | _ => rfl

theorem after_cons (s : LogState) (e : LogEvent) (es : List LogEvent) :
    s.after (e :: es) = (e.apply s).after es := rfl

theorem after_append (s : LogState) (es fs : List LogEvent) :
    s.after (es ++ fs) = (s.after es).after fs :=
  List.foldl_append

/-- After any events, the last choice is in effect. -/
theorem InEffect.after (hs : s.InEffect c) {es : List LogEvent} (hes : LogEvent.AllRegular c es) :
    (s.after es).InEffect (LogEvent.choiceAfter c es) := by
  induction es generalizing s c with
  | nil => exact hs
  | cons e es ih =>
    obtain ⟨he, hrest⟩ := LogEvent.allRegular_cons.1 hes
    rw [after_cons, LogEvent.choiceAfter_cons]
    exact ih (hs.apply he) hrest

/-- Over any events, each destination grows by what is due for it. -/
theorem InEffect.content_after (hs : s.InEffect c) {es : List LogEvent}
    (hes : LogEvent.AllRegular c es) (d : Destination) :
    (s.after es).content d = s.content d ++ portion d (LogEvent.dues c es) := by
  induction es generalizing s c with
  | nil => exact (List.append_nil _).symm
  | cons e es ih =>
    obtain ⟨he, hrest⟩ := LogEvent.allRegular_cons.1 hes
    rw [after_cons, ih (hs.apply he) hrest, content_apply s (hs.written he), LogEvent.dues,
      portion_append, List.append_assoc]

/-- A call whose choice is accepted puts it into effect, whatever was before. -/
theorem inEffect_of_choice? {call : LogEvent} (h : call.choice? = some c)
    (hkeeps : c.destination ≠ .device) (s : LogState) : (call.apply s).InEffect c := by
  obtain ⟨⟨level, chosen⟩, hasks, h⟩ := Option.bind_eq_some_iff.1 h
  dsimp only at h
  split at h
  next l d hlevel =>
    obtain rfl := Option.some.inj h
    obtain ⟨file, opening, hfile, hstate⟩ := LogEvent.exists_setup hasks
    rw [hstate]
    exact inEffect_setup hlevel hfile.symm hkeeps s
  next => exact nomatch h

/-- From an accepted call on, whatever was before, each regular record is written as the last
accepted call before it says : once, as a line at the end of its destination, or not at all if it is
below its level. So a destination holds what it held before, and then the lines of the records that
were due there, in order. -/
theorem records_written (s : LogState) (before : List LogEvent) {call : LogEvent}
    (hcall : call.choice? = some c) (hkeeps : c.destination ≠ .device) {es : List LogEvent}
    (hes : LogEvent.AllRegular c es) :
    let start := s.after (before ++ [call])
    (∀ es₁ e es₂, es = es₁ ++ e :: es₂ →
      e.written (start.after es₁) = .ok ((LogEvent.choiceAfter c es₁).due e)) ∧
    ∀ d, (start.after es).content d = start.content d ++ portion d (LogEvent.dues c es) := by
  intro start
  have hstart : start.InEffect c := by
    rw [show start = call.apply (s.after before) from after_append s before [call]]
    exact inEffect_of_choice? hcall hkeeps _
  refine ⟨fun es₁ e es₂ h => ?_, fun d => hstart.content_after hes d⟩
  subst h
  exact (hstart.after hes.append).written (hes es₁ e es₂ rfl)

/-! ## A file that is left and chosen again -/

/-- A file that can be opened. -/
def aLog : Except Failure Destination :=
  .ok (.file "/var/log/a.log")

/-- Details go to a file that holds something already. Another level is not known. Then errors go to
the error stream, one of them without bytes, and after that the level of the root goes to the file
again, which is reached by another path. -/
def leftAndChosenAgain : List LogEvent :=
  [.record "09:00" "kubeferry.k8s" "lost\n" (.debug "one"), .foreign 7,
    .setup (.text "loud") (.text "a/b") (.error (.fault .noSuchFile)),
    .configure { Settings.default with logLevel := "ERROR" } .none (.error (.fault .wrongType)),
    .record "09:01" "kubeferry" "lost\n" (.info "two"),
    .record "09:02" "kubeferry" "lost\n" ⟨40, [.lone 0]⟩,
    .setup (.int 0) (.text "../log/a.log") aLog,
    .record "09:03" "kubeferry" "lost\n" ⟨30, "four"⟩]

theorem hasLevelName_of_natAbs_lt {i : Int} (h : i.natAbs < 10 ^ 3) : hasLevelName i = true :=
  Text.hasDecimalNumeral_of_lt (by decide) h

theorem regular_record {time logger report : Text} {r : Record}
    (hlogger : isOfPackage logger = true) (hpositive : 0 < r.level) (hshort : r.level < 1000)
    (hline : c.destination = .stderr ∨ Utf8.isEncodable (line time r) = true) :
    (LogEvent.record time logger report r).Regular c where
  admitted := ⟨hpositive, hlogger⟩
  keeps := fun c' h => by cases h
  named := by
    rintro _ _ _ _ ⟨⟩ -
    exact hasLevelName_of_natAbs_lt (by omega)
  encodable := by
    rintro _ _ _ _ ⟨⟩ -
    exact hline

theorem regular_foreign (c : Choice) (id : Nat) : (LogEvent.foreign id).Regular c where
  admitted := by rintro level destination ⟨⟩
  keeps := fun c' h => by cases h
  named := by rintro _ _ _ _ ⟨⟩
  encodable := by rintro _ _ _ _ ⟨⟩

/-- A call is regular if it chooses a destination that keeps what is written to it, or its level is
refused. -/
theorem regular_of_asks? {e : LogEvent} {level : Value} {destination : Except Failure Destination}
    (he : e.asks? = some (level, destination))
    (h : (levelOf? level).isOk = true → ∃ d, destination = .ok d ∧ d ≠ .device) : e.Regular c where
  admitted := by
    cases e with
    | foreign id => cases he
    | record time logger report r => cases he
    | _ =>
      intro level' destination' hasks hok
      obtain ⟨rfl, rfl⟩ := Prod.mk.inj (Option.some.inj (he.symm.trans hasks))
      obtain ⟨d, hd, -⟩ := h hok
      exact ⟨d, hd⟩
  keeps c' hc := by
    rw [LogEvent.choice?, he, Option.bind_some] at hc
    dsimp only at hc
    split at hc
    next l d hlevel =>
      obtain rfl := Option.some.inj hc
      obtain ⟨d', hd', hkeeps⟩ := h (by rw [hlevel]; rfl)
      obtain rfl := Except.ok.inj hd'
      exact hkeeps
    next => cases hc
  named := by
    rintro _ _ _ _ rfl
    cases he
  encodable := by
    rintro _ _ _ _ rfl
    cases he

theorem records_written_leftAndChosenAgain :
    let s : LogState := { new with files := [("/var/log/a.log", "zero\n")] }
    let c : Choice := ⟨10, .file "/var/log/a.log"⟩
    let call : LogEvent := .setup (.text "debug") (.text "/var/log/a.log") aLog
    let start := s.after ([] ++ [call])
    call.choice? = some c ∧ c.destination ≠ .device ∧ LogEvent.AllRegular c leftAndChosenAgain ∧
    ((∀ es₁ e es₂, leftAndChosenAgain = es₁ ++ e :: es₂ →
      e.written (start.after es₁) = .ok ((LogEvent.choiceAfter c es₁).due e)) ∧
    ∀ d, (start.after leftAndChosenAgain).content d = start.content d ++
      portion d (LogEvent.dues c leftAndChosenAgain)) ∧
    portion (.file "/var/log/a.log") (LogEvent.dues c leftAndChosenAgain) =
      "09:00 - DEBUG - one\n09:03 - WARNING - four\n" ∧
    portion .stderr (LogEvent.dues c leftAndChosenAgain) =
      "09:02 - ERROR - " ++ ([.lone 0, .char '\n'] : Text) := by
  intro s c call start
  have hregular : LogEvent.AllRegular c leftAndChosenAgain := by
    simp only [leftAndChosenAgain, LogEvent.allRegular_cons]
    exact ⟨regular_record rfl (by decide) (by decide) (Or.inr rfl), regular_foreign _ 7,
      regular_of_asks? rfl (nomatch ·),
      regular_of_asks? rfl fun _ => ⟨.stderr, rfl, by decide⟩,
      regular_record rfl (by decide) (by decide) (Or.inr rfl),
      regular_record rfl (by decide) (by decide) (Or.inl rfl),
      regular_of_asks? rfl fun _ => ⟨.file "/var/log/a.log", rfl, by decide⟩,
      regular_record rfl (by decide) (by decide) (Or.inr rfl), LogEvent.allRegular_nil _⟩
  have hkeeps : c.destination ≠ .device := by decide
  exact ⟨rfl, hkeeps, hregular, records_written s [] rfl hkeeps hregular, rfl, rfl⟩

/-! ## Records that are lost -/

/-- A call for a file. -/
def toFile : LogEvent := .setup (.text "info") (.text "/var/log/a.log") aLog

/-- A call for a device that keeps nothing. -/
def toDevice : LogEvent := .setup (.text "info") (.text "/dev/null") (.ok .device)

/-- A severe record at a level without a name is not made. -/
theorem written_of_nameless {s : LogState} {time logger report : Text} {r : Record}
    (hpositive : 0 < r.level) (hsevere : s.levelFor logger ≤ r.level)
    (h : hasLevelName r.level = false) :
    (LogEvent.record time logger report r).written s = .error (.fault .wrongValue) := by
  rw [LogEvent.written, log, writes, if_neg (by omega), h]
  rfl

/-- A record at the least level that has no name. -/
def nameless : Record := ⟨(Nat.pow 10 Text.maxDecimalDigits : Nat), "far"⟩

theorem hasLevelName_nameless : hasLevelName nameless.level = false :=
  Value.isWritable_longNumber

theorem le_nameless {i : Int} (h : i < 1000) : i ≤ nameless.level := by
  by_contra hlt
  have hpositive : 0 ≤ nameless.level := Int.natCast_nonneg _
  have hname := @hasLevelName_of_natAbs_lt nameless.level (by omega)
  exact Bool.false_ne_true (hasLevelName_nameless.symm.trans hname)

/-- A record whose line has no bytes is lost on its way to a file, and reported on the error stream.
One for a device is kept nowhere. One at a level without a name is not even made. -/
theorem records_lost :
    let odd : LogEvent := .record "09:00" "kubeferry" "lost\n" (.info [.lone 0])
    let plain : LogEvent := .record "09:00" "kubeferry" "lost\n" (.info "one")
    let far : LogEvent := .record "09:00" "kubeferry" "lost\n" nameless
    (toFile.choice? = some ⟨20, .file "/var/log/a.log"⟩ ∧ odd.Admitted ∧
      odd.written (new.after [toFile]) = .ok [(.stderr, "lost\n")]) ∧
    (toDevice.choice? = some ⟨20, .device⟩ ∧ plain.Admitted ∧
      plain.written (new.after [toDevice]) = .ok []) ∧
    (far.Admitted ∧ far.written (new.after [toFile]) = .error (.fault .wrongValue)) ∧
    ¬∀ (before : List LogEvent) (call : LogEvent) (c : Choice) (es : List LogEvent),
      call.choice? = some c → (∀ e ∈ es, e.Admitted) → ∀ es₁ e es₂, es = es₁ ++ e :: es₂ →
        e.written ((new.after (before ++ [call])).after es₁) =
          .ok ((LogEvent.choiceAfter c es₁).due e) := by
  intro odd plain far
  have hodd : odd.Admitted := ⟨by decide, rfl⟩
  have hplain : plain.Admitted := ⟨by decide, rfl⟩
  have hfar : far.Admitted := ⟨Int.lt_of_lt_of_le (by decide) (@le_nameless 1 (by decide)), rfl⟩
  have hinfo : hasLevelName infoLevel = true := hasLevelName_of_natAbs_lt (by decide)
  have hlost : odd.written (new.after [toFile]) = .ok [(.stderr, "lost\n")] := by
    have h := @writes_of_due (new.after [toFile]) (.file "/var/log/a.log") rfl "kubeferry" rfl
      (.info [.lone 0]) hodd.1 (by decide) hinfo "09:00" "lost\n"
    rw [LogEvent.written, log, h]
    rfl
  have hnowhere : plain.written (new.after [toDevice]) = .ok [] := by
    have h := @writes_of_due (new.after [toDevice]) .device rfl "kubeferry" rfl
      (.info "one") hplain.1 (by decide) hinfo "09:00" "lost\n"
    rw [LogEvent.written, log, h]
    rfl
  refine ⟨⟨rfl, hodd, hlost⟩, ⟨rfl, hplain, hnowhere⟩, ⟨hfar, ?_⟩, fun h => ?_⟩
  · have hlevel : (new.after [toFile]).levelFor "kubeferry" = 20 := rfl
    refine written_of_nameless hfar.1 ?_ hasLevelName_nameless
    rw [hlevel]
    exact le_nameless (by decide)
  · have hwritten := h [] toFile _ [odd] rfl (List.forall_mem_singleton.2 hodd) [] odd [] rfl
    cases hlost.symm.trans hwritten

end LogState

end VolumeTunnel

import VolumeTunnel.Proofs.Logging.History

/-!
# The handlers of the logger

A call that sets up logging can be refused for its level, and then changes nothing. If its level is
accepted, the handler of the package is taken away, and another takes its place unless it cannot be
opened. Over any calls, handlers that others add and records in between, the level and the handlers
are those of the last call whose level was accepted (`LogState.Wired`). One event keeps it so
(`LogState.Wired.apply`).

* `LogEvent.lastAccepted` : the last call whose level was accepted;
* `LogState.handlers_wired` : after every event there is at most one handler of the package, that of
  the last call accepted if it opened one, and the handlers of others are all there in order;
* `LogState.longLevel_refused` : a level can be refused for its value, not its type, and a name can
  be accepted that is not that of a level in other letters.
-/

namespace VolumeTunnel

namespace LogEvent

/-- The level of a call, if it is accepted, and what opening its handler comes to. -/
def accepted? (e : LogEvent) : Option (Int × Except Failure Destination) :=
  e.asks?.bind fun (level, opening) =>
    (LogState.levelOf? level).toOption.map fun l => (l, opening)

/-- The handler that others add. -/
def foreign? : LogEvent → Option Nat
  | foreign id => some id
  | _ => none

/-- The last call whose level was accepted. -/
def lastAccepted (es : List LogEvent) : Option (Int × Except Failure Destination) :=
  (es.filterMap accepted?).getLast?

/-- The handlers that others have added, in order. -/
def foreigners (es : List LogEvent) : List Nat :=
  es.filterMap foreign?

variable {es : List LogEvent} {e : LogEvent}

theorem lastAccepted_append_of_none (h : e.accepted? = none) :
    lastAccepted (es ++ [e]) = lastAccepted es := by
  rw [lastAccepted, List.filterMap_append, List.filterMap_cons_none h, List.filterMap_nil,
    List.append_nil]
  rfl

theorem lastAccepted_append_of_some {a : Int × Except Failure Destination}
    (h : e.accepted? = some a) : lastAccepted (es ++ [e]) = some a := by
  rw [lastAccepted, List.filterMap_append, List.filterMap_cons_some h, List.filterMap_nil,
    List.getLast?_append, List.getLast?_singleton, Option.some_or]

theorem foreigners_append_of_none (h : e.foreign? = none) :
    foreigners (es ++ [e]) = foreigners es := by
  rw [foreigners, List.filterMap_append, List.filterMap_cons_none h, List.filterMap_nil,
    List.append_nil]
  rfl

theorem foreigners_append_of_some {id : Nat} (h : e.foreign? = some id) :
    foreigners (es ++ [e]) = foreigners es ++ [id] := by
  rw [foreigners, List.filterMap_append, List.filterMap_cons_some h, List.filterMap_nil]
  rfl

end LogEvent

namespace LogState

open LogEvent (lastAccepted foreigners)

/-- The handlers of the package. -/
def ownHandlers (s : LogState) : List Handler :=
  s.handlers.filter fun h => !isForeign h

/-- The level and the handlers are what events made them, on a logger that was not set up : the
level is that of the last call accepted, the handler of the package the one that it opened, and the
handlers of others are those that were added. -/
structure Wired (es : List LogEvent) (s : LogState) : Prop where
  level : s.level = ((lastAccepted es).map (·.1)).getD 0
  own : s.ownHandlers = ((lastAccepted es).bind (·.2.toOption)).toList.map .own
  foreign : s.handlers.filter isForeign = (foreigners es).map .foreign

variable {s : LogState} {es : List LogEvent}

/-! ## Levels -/

/-- The names of levels are distinct, so that one that is listed has its level. -/
theorem levelOfName?_eq_some_iff {name : Text} {l : Int} :
    levelOfName? name = some l ↔ (name, l) ∈ levelNames := by
  rw [levelOfName?, Option.map_eq_some_iff]
  constructor
  · rintro ⟨⟨name', l'⟩, hfind, rfl⟩
    obtain rfl : name' = name := by simpa using List.find?_some hfind
    exact List.mem_of_find?_eq_some hfind
  · have hdistinct : ∀ e ∈ levelNames, levelNames.find? (fun e' => e'.1 = e.1) = some e := by decide
    exact fun h => ⟨(name, l), hdistinct _ h, rfl⟩

theorem not_mem_levelNames {name : Text} (h : levelOfName? name = none) (l : Int) :
    (name, l) ∉ levelNames :=
  fun hl => Option.some_ne_none l ((levelOfName?_eq_some_iff.2 hl).symm.trans h)

/-- A level is accepted if and only if it is a number, or a text that is the name of a level when
its letters are made capital. -/
theorem levelOf?_eq_ok_iff {v : Value} {l : Int} : levelOf? v = .ok l ↔
    v.toInt? = some l ∨ ∃ name, v = .text name ∧ (name.map upper, l) ∈ levelNames := by
  cases v with
  | text name =>
    have htext : levelOf? (.text name) = .ok l ↔ levelOfName? (name.map upper) = some l := by
      rw [levelOf?]
      cases levelOfName? (name.map upper) <;> simp
    rw [htext, levelOfName?_eq_some_iff]
    simp [Value.toInt?]
  | _ => simp [levelOf?, Value.toInt?]

/-- A text that names no level is refused by its name. -/
theorem levelOf?_of_unknown {name : Text} (h : ∀ l, (name.map upper, l) ∉ levelNames) :
    levelOf? (.text name) = .error (.unknownLogLevel name) := by
  have hnone : levelOfName? (name.map upper) = none :=
    Option.eq_none_iff_forall_ne_some.2 fun l hl => h l (levelOfName?_eq_some_iff.1 hl)
  rw [levelOf?, hnone]

/-- A value that is neither a text nor a number is refused for its type. If it holds a number too
long to be written, it has no text to be compared with, and that is refused. -/
theorem levelOf?_of_other {v : Value} (htext : ∀ name, v ≠ .text name) (hint : v.toInt? = none) :
    levelOf? v = .error (.fault (if v.isWritable then .wrongType else .wrongValue)) := by
  have hnaming : Failure.naming v (.fault .wrongType) =
      .fault (if v.isWritable then .wrongType else .wrongValue) := by
    rw [Failure.naming]
    split <;> rfl
  rw [← hnaming]
  cases v with
  | text name => exact absurd rfl (htext name)
  | bool b => exact nomatch hint
  | int i => exact nomatch hint
  | _ => rfl

/-! ## Calls -/

/-- A call whose level is accepted leaves that level and the handlers of others, and the handler
that it opened. -/
theorem setup_of_accepted {level : Value} {l : Int} (h : levelOf? level = .ok l) (file : Value)
    (opening : Except Failure Destination) (s : LogState) :
    (s.setup level file opening).1 = (destination file opening).map (fun _ => ()) ∧
    (s.setup level file opening).2.level = l ∧
    (s.setup level file opening).2.handlers =
      s.handlers.filter isForeign ++ (destination file opening).toOption.toList.map .own := by
  rw [setup, h]
  cases destination file opening with
  | error e => exact ⟨rfl, rfl, (List.append_nil _).symm⟩
  | ok d => cases d <;> exact ⟨rfl, rfl, rfl⟩

/-! ## Steps and runs -/

theorem filter_isForeign_own (ds : List Destination) :
    (ds.map Handler.own).filter isForeign = [] :=
  List.filter_eq_nil_iff.2 fun h hh => by
    obtain ⟨d, -, rfl⟩ := List.mem_map.1 hh
    exact Bool.false_ne_true

theorem filter_not_isForeign_own (ds : List Destination) :
    (ds.map Handler.own).filter (fun h => !isForeign h) = ds.map .own :=
  List.filter_eq_self.2 fun h hh => by
    obtain ⟨d, -, rfl⟩ := List.mem_map.1 hh
    rfl

theorem filter_not_isForeign_append (hs : List Handler) (ds : List Destination) :
    (hs.filter isForeign ++ ds.map Handler.own).filter (fun h => !isForeign h) = ds.map .own := by
  rw [List.filter_append, List.filter_filter, filter_not_isForeign_own]
  simp

/-- A call keeps level and handlers what the events make them. -/
theorem Wired.setup (hs : Wired es s) {e : LogEvent} {level file : Value}
    {opening : Except Failure Destination} (he : e.asks? = some (level, destination file opening))
    (hstate : e.apply s = (s.setup level file opening).2) (hforeign : e.foreign? = none) :
    Wired (es ++ [e]) (e.apply s) := by
  have hothers := @LogEvent.foreigners_append_of_none es e hforeign
  have haccepted : e.accepted? =
      (levelOf? level).toOption.map fun l => (l, destination file opening) := by
    rw [LogEvent.accepted?, he]
    rfl
  -- only the level decides whether the call is the last one accepted, not what it opens
  cases hlevel : levelOf? level with
  | error f =>
    rw [hlevel] at haccepted
    have hlast := @LogEvent.lastAccepted_append_of_none es e haccepted
    rw [hstate, setup_of_refused hlevel]
    exact ⟨by rw [hlast]; exact hs.level, by rw [hlast]; exact hs.own,
      by rw [hothers]; exact hs.foreign⟩
  | ok l =>
    rw [hlevel] at haccepted
    have hlast := @LogEvent.lastAccepted_append_of_some es e _ haccepted
    obtain ⟨-, hnew, hhandlers⟩ := setup_of_accepted hlevel file opening s
    rw [hstate]
    refine ⟨by rw [hlast]; exact hnew, ?_, ?_⟩
    · rw [hlast, ownHandlers, hhandlers, filter_not_isForeign_append]
      rfl
    · rw [hothers, hhandlers, List.filter_append, List.filter_filter, filter_isForeign_own,
        List.append_nil, ← hs.foreign]
      simp

/-- An event keeps level and handlers what the events make them. -/
theorem Wired.apply (hs : Wired es s) (e : LogEvent) : Wired (es ++ [e]) (e.apply s) := by
  cases e with
  | setup level file opening => exact hs.setup rfl rfl rfl
  | configure settings file opening => exact hs.setup rfl rfl rfl
  | foreign id =>
    have hlast : lastAccepted (es ++ [.foreign id]) = lastAccepted es :=
      LogEvent.lastAccepted_append_of_none rfl
    have hothers : foreigners (es ++ [.foreign id]) = foreigners es ++ [id] :=
      LogEvent.foreigners_append_of_some rfl
    refine ⟨by rw [hlast]; exact hs.level, ?_, ?_⟩
    · rw [hlast, ← hs.own, LogEvent.apply, ownHandlers, addForeign, List.filter_append]
      exact List.append_nil _
    · rw [hothers, LogEvent.apply, addForeign, List.filter_append, hs.foreign, List.map_append]
      rfl
  | record time logger report r =>
    have hlast : lastAccepted (es ++ [.record time logger report r]) = lastAccepted es :=
      LogEvent.lastAccepted_append_of_none rfl
    have hothers : foreigners (es ++ [.record time logger report r]) = foreigners es :=
      LogEvent.foreigners_append_of_none rfl
    obtain ⟨hlevel, hhandlers⟩ := log_level time logger report r s
    refine ⟨?_, ?_, ?_⟩
    · rw [hlast]
      exact hlevel.trans hs.level
    · rw [hlast]
      exact (congrArg _ hhandlers).trans hs.own
    · rw [hothers]
      exact (congrArg _ hhandlers).trans hs.foreign

/-- Over any events, level and handlers are what the events made them. -/
theorem Wired.after {before : List LogEvent} (hs : Wired before s) (es : List LogEvent) :
    Wired (before ++ es) (s.after es) := by
  induction es generalizing s before with
  | nil => rwa [List.append_nil]
  | cons e es ih =>
    rw [← List.singleton_append, ← List.append_assoc]
    exact ih (hs.apply e)

/-! ## The handlers after any calls -/

/-- There is at most one handler of the package. -/
theorem Wired.length_ownHandlers_le (hs : Wired es s) : s.ownHandlers.length ≤ 1 := by
  rw [hs.own, List.length_map]
  cases (lastAccepted es).bind (·.2.toOption) <;> simp

/-- There is one if and only if the last call accepted opened its handler. -/
theorem Wired.length_ownHandlers_eq_one_iff (hs : Wired es s) :
    s.ownHandlers.length = 1 ↔ ∃ l d, lastAccepted es = some (l, .ok d) := by
  rw [hs.own, List.length_map]
  cases lastAccepted es with
  | none => simp
  | some call =>
    obtain ⟨l, opening⟩ := call
    cases opening <;> simp [Except.toOption]

/-- It is the one that this call opened. -/
theorem Wired.ownHandlers_eq (hs : Wired es s) {l : Int} {d : Destination}
    (h : lastAccepted es = some (l, .ok d)) : s.ownHandlers = [.own d] := by
  rw [hs.own, h]
  rfl

/-- The handlers of the logger, after any calls that set up logging, by themselves or for settings,
any handlers that others add and any records, on a logger that was not set up, whichever levels are
refused and whichever handlers cannot be opened. There is at most one handler of the package, and
one if and only if some call had its level accepted and the last such call opened its handler, which
is then the one. The handlers of others are all there, in the order in which they were added. The
level is that of the last call accepted, even if it could not open its handler. A level is accepted
if it is a number or the name of a level, and then the call fails only if its handler cannot be
opened. A call whose level is refused changes nothing, be it for an unknown name, for its type, or
for a number too long to be written. -/
theorem handlers_wired (files : List (Text × Text)) (stderr : Text) (es : List LogEvent) :
    let s := LogState.after ⟨0, [], files, stderr⟩ es
    s.ownHandlers.length ≤ 1 ∧
    (s.ownHandlers.length = 1 ↔ ∃ l d, lastAccepted es = some (l, .ok d)) ∧
    (∀ l d, lastAccepted es = some (l, .ok d) → s.ownHandlers = [.own d]) ∧
    s.handlers.filter isForeign = (foreigners es).map .foreign ∧
    s.level = ((lastAccepted es).map (·.1)).getD 0 ∧
    (∀ level l, levelOf? level = .ok l ↔ level.toInt? = some l ∨
      ∃ name, level = .text name ∧ (name.map upper, l) ∈ levelNames) ∧
    (∀ level l file opening, levelOf? level = .ok l →
      (s.setup level file opening).1 = (destination file opening).map fun _ => ()) ∧
    (∀ level file opening e, levelOf? level = .error e →
      s.setup level file opening = (.error e, s)) ∧
    (∀ settings : Settings, ∀ file opening e, levelOf? (.text settings.logLevel) = .error e →
      settings.setUpLogging file opening s = (.error e, s)) ∧
    (∀ name, (∀ l, (name.map upper, l) ∉ levelNames) →
      levelOf? (.text name) = .error (.unknownLogLevel name)) ∧
    ∀ level, (∀ name, level ≠ .text name) → level.toInt? = none →
      levelOf? level = .error (.fault (if level.isWritable then .wrongType else .wrongValue)) := by
  intro s
  have hnew : Wired [] ⟨0, [], files, stderr⟩ := ⟨rfl, rfl, rfl⟩
  have hs : Wired es s := hnew.after es
  exact ⟨hs.length_ownHandlers_le, hs.length_ownHandlers_eq_one_iff, fun _ _ => hs.ownHandlers_eq,
    hs.foreign, hs.level, fun _ _ => levelOf?_eq_ok_iff,
    fun _ _ file opening h => (setup_of_accepted h file opening s).1,
    fun _ file opening _ h => setup_of_refused h file opening s,
    fun _ file opening _ h => setup_of_refused h file opening s, fun _ => levelOf?_of_unknown,
    fun _ => levelOf?_of_other⟩

/-- Others add handlers, before a file is opened, and after. Then a level is accepted whose file
cannot be opened, and a name that is not known is refused. -/
def openedAndLost : List LogEvent :=
  [.foreign 1, .setup (.text "debug") (.text "a.log") (.ok (.file "/tmp/a.log")), .foreign 2,
    .configure { Settings.default with logLevel := "Error" } (.text "d")
      (.error (.fault .isDirectory)),
    .setup (.text "loud") .none (.error (.fault .wrongType))]

/-- The handler of the file is gone, those of others stay, and the level is that of the call that
could not open its file. Before that call, the handler of the file is the one. -/
theorem handlers_wired_openedAndLost :
    let s := LogState.new.after openedAndLost
    let before := LogState.new.after (openedAndLost.take 3)
    before.ownHandlers = [.own (.file "/tmp/a.log")] ∧ before.level = 10 ∧
      s.ownHandlers.length ≤ 1 ∧ s.ownHandlers.length ≠ 1 ∧
      s.handlers.filter isForeign = [.foreign 1, .foreign 2] ∧ s.level = 40 ∧
      s.setup (.text "loud") .none (.error (.fault .wrongType)) =
        (.error (.unknownLogLevel "loud"), s) := by
  intro s before
  obtain ⟨-, -, hown, -, hbefore, -⟩ := handlers_wired [] [] (openedAndLost.take 3)
  obtain ⟨hle, hone, -, hforeign, hlevel, -, -, hrefused, -, hunknown, -⟩ :=
    handlers_wired [] [] openedAndLost
  have hlast : lastAccepted openedAndLost = some (40, .error (.fault .isDirectory)) := rfl
  refine ⟨hown 10 (.file "/tmp/a.log") rfl, hbefore, hle, fun h => ?_, hforeign, hlevel, ?_⟩
  · obtain ⟨l, d, hd⟩ := hone.1 h
    cases hlast.symm.trans hd
  · exact hrefused _ _ _ _ (hunknown "loud" (not_mem_levelNames rfl))

/-- The capital letter of a letter from a to z. -/
def asciiUpper : CodePoint → CodePoint
  | .char c => .char c.toUpper
  | c => c

/-- A list that holds a number too long to be written is refused as a level, but not for its type. A
name with a dotless letter is accepted, although it is no name of a level in small letters. -/
theorem longLevel_refused :
    levelOf? (.list [.longNumber]) = .error (.fault .wrongValue) ∧
    levelOf? (.text "ınfo") = .ok 20 ∧
    (¬∀ level : Value, (∀ name, level ≠ .text name) → level.toInt? = none →
      levelOf? level = .error (.fault .wrongType)) ∧
    ¬∀ name : Text, (∀ l, (name.map asciiUpper, l) ∉ levelNames) →
      levelOf? (.text name) = .error (.unknownLogLevel name) := by
  have hlong : (Value.list [.longNumber]).isWritable = false := by
    rw [Value.isWritable, Value.areWritable, Value.isWritable_longNumber, Bool.false_and]
  have hrefused : levelOf? (.list [.longNumber]) = .error (.fault .wrongValue) := by
    rw [levelOf?_of_other (by simp) rfl, hlong]
    rfl
  have haccepted : levelOf? (.text "ınfo") = .ok 20 := rfl
  refine ⟨hrefused, haccepted, fun h => ?_, fun h => ?_⟩
  · cases hrefused.symm.trans (h (.list [.longNumber]) (by simp) rfl)
  · cases haccepted.symm.trans (h "ınfo" (not_mem_levelNames rfl))

end LogState

end VolumeTunnel

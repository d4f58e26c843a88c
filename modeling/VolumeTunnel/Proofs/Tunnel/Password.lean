import VolumeTunnel.Proofs.Cluster.Blindness
import VolumeTunnel.Tunnel.Config

/-!
# What a password changes

Options are alike if they differ in a password only, each of the two being a text
(`Options.Alike`). Such options have the same written form (`Options.Alike.quoted_eq`) and the same
server configuration (`Config.server_eq`). Whether a client configuration is refused, and why, does
not depend on which of them it is for (`Config.client_refused`).

Mappings that differ in texts for the password only give alike options, or the same failure
(`Options.ofMapping_alike`). That failure is one of configuration, unless the mapping holds a number
that is too long to be written (`Options.ofMapping_error`).
-/

namespace VolumeTunnel

namespace Options

/-- Options that differ in the text of the password only. -/
def Alike (o o' : Options) : Prop :=
  o' = o ∨ ∃ s s', o.proxyPassword = .text s ∧ o' = { o with proxyPassword := .text s' }

theorem Alike.refl (o : Options) : o.Alike o :=
  Or.inl rfl

theorem Alike.exists_password {o o' : Options} (h : o.Alike o') :
    ∃ password, o' = { o with proxyPassword := password } := by
  rcases h with rfl | ⟨s, s', -, rfl⟩
  · exact ⟨_, rfl⟩
  · exact ⟨_, rfl⟩

/-- The written form does not show the password. -/
theorem Alike.quoted_eq {o o' : Options} (h : o.Alike o') : o.quoted = o'.quoted := by
  obtain ⟨password, rfl⟩ := h.exists_password
  rfl

/-! ## Mappings -/

/-- Entries of a mapping that differ in a text for the password only. -/
inductive EntryAlike : Value × Value → Value × Value → Prop
  | same (e : Value × Value) : EntryAlike e e
  | password {key : Value} (h : Field.ofSpelling? key = some .proxyPassword) (s s' : Text) :
    EntryAlike (key, .text s) (key, .text s')

/-- Values of a field that are the same, or two texts for the password. -/
def FieldAlike (f : Field) (v v' : Value) : Prop :=
  v' = v ∨ f = .proxyPassword ∧ ∃ s s', v = .text s ∧ v' = .text s'

/-- What two entries give to the same field. -/
def GivenAlike (e e' : Field × Value) : Prop :=
  e.1 = e'.1 ∧ FieldAlike e.1 e.2 e'.2

theorem FieldAlike.eq {f : Field} {v v' : Value} (h : FieldAlike f v v') (hf : f ≠ .proxyPassword) :
    v' = v :=
  h.resolve_right fun hpassword => hf hpassword.1

theorem readEntry_password {key : Value} (h : Field.ofSpelling? key = some .proxyPassword)
    (s : Text) : readEntry key (.text s) = .ok (.proxyPassword, .text s) := by
  rw [readEntry.eq_def, h]
  rfl

theorem readEntry_alike {e e' : Value × Value} (h : EntryAlike e e') :
    SameResult GivenAlike (readEntry e.1 e.2) (readEntry e'.1 e'.2) := by
  cases h with
  | same e => exact SameResult.refl (fun _ => ⟨rfl, Or.inl rfl⟩) _
  | password hkey s s' =>
    rw [readEntry_password hkey, readEntry_password hkey]
    exact .ok ⟨rfl, Or.inr ⟨rfl, s, s', rfl, rfl⟩⟩

theorem readEntries_alike {mapping mapping' : Dict} (h : List.Forall₂ EntryAlike mapping mapping') :
    SameResult (List.Forall₂ GivenAlike) (mapping.mapM fun (key, v) => readEntry key v)
      (mapping'.mapM fun (key, v) => readEntry key v) := by
  induction h with
  | nil => exact .ok .nil
  | cons he h ih =>
    rw [List.mapM_cons, List.mapM_cons]
    refine (readEntry_alike he).bind fun given given' hgiven => ?_
    exact ih.bind fun rest rest' hrest => .ok (.cons hgiven hrest)

theorem find?_alike {given given' : List (Field × Value)}
    (h : List.Forall₂ GivenAlike given given') (f : Field) :
    Option.Rel GivenAlike (given.find? fun e => e.1 = f) (given'.find? fun e => e.1 = f) := by
  induction h with
  | nil => exact .none
  | @cons e e' given given' he h ih =>
    rw [List.find?_cons, List.find?_cons, he.1]
    split
    · exact .some he
    · exact ih

theorem chosen_alike {given given' : List (Field × Value)}
    (h : List.Forall₂ GivenAlike given given') (f : Field) :
    FieldAlike f (chosen given f) (chosen given' f) := by
  have hfind := find?_alike (List.forall₂_reverse_iff.2 h) f
  rw [chosen, chosen]
  cases hgiven : given.reverse.find? fun e => e.1 = f with
  | none =>
    rw [hgiven] at hfind
    cases hgiven' : given'.reverse.find? fun e => e.1 = f with
    | none => exact Or.inl rfl
    | some e' =>
      rw [hgiven'] at hfind
      exact nomatch hfind
  | some e =>
    rw [hgiven] at hfind
    cases hgiven' : given'.reverse.find? fun e => e.1 = f with
    | none =>
      rw [hgiven'] at hfind
      exact nomatch hfind
    | some e' =>
      rw [hgiven'] at hfind
      cases hfind with
      | some he =>
        have hf : e.1 = f := by simpa using List.find?_some hgiven
        rw [← hf]
        exact he.2

theorem ofFields_alike {given given' : List (Field × Value)}
    (h : List.Forall₂ GivenAlike given given') :
    SameResult Alike (ofFields given) (ofFields given') := by
  have hothers (f : Field) (hf : f ≠ .proxyPassword) : chosen given' f = chosen given f :=
    (chosen_alike h f).eq hf
  rw [ofFields, ofFields, hothers .level (by decide), hothers .proxyUrl (by decide),
    hothers .proxyUsername (by decide), hothers .noVerify (by decide)]
  cases level? (chosen given .level) with
  | none => exact .error _
  | some level =>
    refine .ok ?_
    rcases chosen_alike h .proxyPassword with hpassword | ⟨-, s, s', hs, hs'⟩
    · exact Or.inl (by rw [hpassword])
    · exact Or.inr ⟨s, s', hs, by rw [hs']⟩

/-- Mappings that differ in texts for the password only give alike options, or the same failure. -/
theorem ofMapping_alike {mapping mapping' : Dict} (h : List.Forall₂ EntryAlike mapping mapping') :
    SameResult Alike (ofMapping mapping) (ofMapping mapping') :=
  (readEntries_alike h).bind fun _ _ hgiven => ofFields_alike hgiven

/-- A failure of configuration, or that of writing a number that is too long. -/
def FailsBy (mapping : Dict) (e : Failure) : Prop :=
  (∃ p, e = .configuration p) ∨
    e = .fault .wrongValue ∧ ∃ entry ∈ mapping, (entry.1.isWritable && entry.2.isWritable) = false

theorem readEntry_error {key v : Value} {e : Failure} (h : readEntry key v = .error e) :
    (∃ p, e = .configuration p) ∨
      e = .fault .wrongValue ∧ (key.isWritable && v.isWritable) = false := by
  rw [readEntry.eq_def] at h
  split at h
  · obtain rfl := Except.error.inj h
    cases hkey : key.isWritable with
    | true => exact Or.inl ⟨_, Failure.naming_of_isWritable hkey _⟩
    | false => exact Or.inr ⟨Failure.naming_of_not_isWritable hkey _, rfl⟩
  · split at h
    · exact nomatch h
    · exact Or.inl ⟨_, (Except.error.inj h).symm⟩
  · split at h
    · exact nomatch h
    · split at h
      · exact nomatch h
      next hv =>
        exact Or.inr ⟨(Except.error.inj h).symm, by rw [Bool.eq_false_iff.2 hv, Bool.and_false]⟩

theorem readEntries_error {mapping : Dict} {e : Failure}
    (h : (mapping.mapM fun (key, v) => readEntry key v) = .error e) : FailsBy mapping e := by
  induction mapping with
  | nil => exact nomatch h
  | cons entry mapping ih =>
    rw [List.mapM_cons] at h
    rcases Failure.bind_eq_error.1 h with hentry | ⟨given, -, h⟩
    · exact (readEntry_error hentry).imp_right fun ⟨he, hw⟩ => ⟨he, entry, List.mem_cons_self, hw⟩
    · rcases Failure.bind_eq_error.1 h with hrest | ⟨rest, -, h⟩
      · exact (ih hrest).imp_right fun ⟨he, entry', hmem, hw⟩ =>
          ⟨he, entry', List.mem_cons_of_mem _ hmem, hw⟩
      · exact nomatch h

/-- What an entry gives to a field can be written. -/
theorem readEntry_isWritable {key v : Value} {e : Field × Value} (h : readEntry key v = .ok e) :
    e.2.isWritable = true := by
  rw [readEntry.eq_def] at h
  split at h
  · cases h
  · split at h
    · obtain rfl := Except.ok.inj h
      rfl
    · cases h
  · split at h
    · obtain rfl := Except.ok.inj h
      rfl
    · split at h
      · obtain rfl := Except.ok.inj h
        rfl
      · cases h

theorem readEntries_isWritable {mapping : Dict} {given : List (Field × Value)}
    (h : (mapping.mapM fun (key, v) => readEntry key v) = .ok given) :
    ∀ e ∈ given, e.2.isWritable = true := by
  induction mapping generalizing given with
  | nil =>
    obtain rfl := Except.ok.inj h
    exact fun _ he => absurd he List.not_mem_nil
  | cons entry mapping ih =>
    rw [List.mapM_cons] at h
    obtain ⟨e, hentry, h⟩ := Failure.bind_eq_ok.1 h
    obtain ⟨rest, hrest, h⟩ := Failure.bind_eq_ok.1 h
    obtain rfl := Except.ok.inj h
    exact List.forall_mem_cons.2 ⟨readEntry_isWritable hentry, ih hrest⟩

theorem isWritable_chosen_level {given : List (Field × Value)}
    (h : ∀ e ∈ given, e.2.isWritable = true) : (chosen given .level).isWritable = true := by
  rw [chosen]
  cases hfind : given.reverse.find? fun e => e.1 = .level with
  | none => rfl
  | some e => exact h e (List.mem_reverse.1 (List.mem_of_find?_eq_some hfind))

theorem ofMapping_error {mapping : Dict} {e : Failure} (h : ofMapping mapping = .error e) :
    FailsBy mapping e := by
  rcases Failure.bind_eq_error.1 h with hread | ⟨given, hgiven, h⟩
  · exact readEntries_error hread
  · rw [ofFields] at h
    split at h
    · obtain rfl := Except.error.inj h
      have hlevel := isWritable_chosen_level (readEntries_isWritable hgiven)
      exact Or.inl ⟨_, Failure.naming_of_isWritable hlevel _⟩
    · exact nomatch h

theorem readEntry_proxyUrl {i : Int} (h : (Value.int i).isWritable = false) :
    readEntry "proxyURL" (.int i) = .error (.fault .wrongValue) := by
  rw [readEntry.eq_def, show Field.ofSpelling? "proxyURL" = some .proxyUrl from rfl]
  dsimp only
  rw [h]
  rfl

/-- With such a number as the proxy there are no options, and the failure is not one of
configuration. -/
theorem longNumber_refused :
    (∀ password : Text, ofMapping [("proxyPassword", .text password), ("proxyURL", .longNumber)] =
      .error (.fault .wrongValue)) ∧
    ¬∀ mapping mapping' : Dict, List.Forall₂ EntryAlike mapping mapping' →
      (∃ o o', ofMapping mapping = .ok o ∧ ofMapping mapping' = .ok o') ∨
      ∃ p p', ofMapping mapping = .error (.configuration p) ∧
        ofMapping mapping' = .error (.configuration p') ∧ p.text = p'.text := by
  have hurl : readEntry "proxyURL" .longNumber = .error (.fault .wrongValue) :=
    readEntry_proxyUrl Value.isWritable_longNumber
  have hrefused (password : Text) :
      ofMapping [("proxyPassword", .text password), ("proxyURL", .longNumber)] =
        .error (.fault .wrongValue) := by
    have hpassword : readEntry "proxyPassword" (.text password) =
        .ok (.proxyPassword, .text password) := readEntry_password rfl password
    simp only [ofMapping, List.mapM_cons, hpassword, hurl]
    rfl
  refine ⟨hrefused, fun h => ?_⟩
  have hentry : EntryAlike ("proxyPassword", .text "first") ("proxyPassword", .text "second") :=
    .password rfl _ _
  rcases h _ _ (.cons hentry (.cons (.same ("proxyURL", .longNumber)) .nil)) with
    ⟨o, o', ho, -⟩ | ⟨p, p', hp, -⟩
  · exact nomatch (hrefused "first").symm.trans ho
  · exact nomatch (hrefused "first").symm.trans hp

end Options

/-! ## Configurations -/

namespace Config

/-- A password that is a text does not decide whether the credentials can be written. -/
theorem all_credentials_eq (username : Value) (t : Text) :
    ([username, .text t].filter Value.truthy).all Value.isWritable =
      ([username].filter Value.truthy).all Value.isWritable := by
  have hpassword : ([Value.text t].filter Value.truthy).all Value.isWritable = true := by
    cases t <;> rfl
  have happend : [username, .text t] = [username] ++ [.text t] := rfl
  rw [happend, List.filter_append, List.all_append, hpassword, Bool.and_true]

theorem all_unchecked_eq {o o' : Options} (h : o.Alike o') (hostname : Value) :
    (unchecked hostname o').all Value.isWritable = (unchecked hostname o).all Value.isWritable := by
  rcases h with rfl | ⟨s, s', hs, rfl⟩
  · rfl
  unfold unchecked
  dsimp only
  split
  · simp only [hs, List.all_cons, all_credentials_eq]
  · rfl

/-- Alike options decide neither whether a client configuration is refused nor why. -/
theorem client_refused {o o' : Options} (h : o.Alike o') (acceptPort hostname port : Value) :
    SameResult (fun _ _ => True) (client acceptPort hostname port o)
      (client acceptPort hostname port o') := by
  refine (SameResult.refl (fun _ => rfl) (checkPort "accept port" acceptPort)).bind fun _ _ _ => ?_
  refine (SameResult.refl (fun _ => rfl) (checkPort "endpoint port" port)).bind fun _ _ _ => ?_
  rw [all_unchecked_eq h]
  split
  · exact .error _
  · split
    · exact .ok trivial
    · exact .error _

/-- A server configuration does not use the password. -/
theorem server_eq {o o' : Options} (h : o.Alike o') (acceptPort connectPort : Value) :
    server acceptPort connectPort o' = server acceptPort connectPort o := by
  obtain ⟨password, rfl⟩ := h.exists_password
  rfl

end Config

end VolumeTunnel

import VolumeTunnel.Proofs.Tunnel.ConfigText

/-!
# The settings that a configuration tells

Lines that set keys are told apart by their texts. So a configuration whose lines stand each on a
line of its own can be had back from its text (`Config.text_inj`), and with it the values that it
gives to its keys (`Config.values`). The values at the client end give back the settings that it was
written for, but for the credentials of a proxy that is not used (`Config.client_eq_iff`,
`Config.client_text_settings`).

A value that is no port is refused by its written form, as a setting that cannot be used. If it has
none, that is what it is refused for (`Config.client_of_refusedPort`, `Config.longPort_refused`).

* `Options.verification` : the verification in effect;
* `Options.OnLines` : proxy settings that are texts without line feeds;
* `Config.refusedPort?` : the first of the two values for ports that is none.
-/

namespace VolumeTunnel

/-- The value that a line gives to a key. -/
def ConfigLine.value? (key : Text) : ConfigLine → Option Text
  | setting k v => if k = key then some v else none
  | _ => none

/-- The level at which the peer is verified, if it is verified at all. -/
def Options.verification (o : Options) : Option Text :=
  if o.noVerify.truthy then none else some o.resolvedLevel

/-- A value that is a text without line feeds. -/
def Value.OnLine (v : Value) : Prop :=
  ∃ t : Text, v = .text t ∧ .char '\n' ∉ t

/-- Proxy settings that are texts without line feeds. -/
structure Options.OnLines (o : Options) : Prop where
  url : o.proxyUrl.OnLine
  username : o.proxyUsername.OnLine
  password : o.proxyPassword.OnLine

namespace Config

/-! ## Lines and their texts -/

section Lines

variable {l l' : ConfigLine} (h : ∀ k, l.key? = some k → IsKey k)
  (h' : ∀ k, l'.key? = some k → IsKey k)

include h h'

/-- Lines with the same text set the same key. -/
theorem key?_eq_of_text (ht : l.text = l'.text) : l.key? = l'.key? := by
  cases hk : l.key? with
  | none =>
    have hheader := isHeader_text h'
    rw [← ht, isHeader_text h, hk] at hheader
    exact (Option.isNone_iff_eq_none.1 hheader.symm).symm
  | some k =>
    have hsets := setsKey_text (h k hk) h'
    rw [← ht, setsKey_text (h k hk) h, hk] at hsets
    simpa [eq_comm] using hsets

/-- Lines are told apart by their texts. -/
theorem line_eq_of_text (ht : l.text = l'.text) : l = l' := by
  have hkey := key?_eq_of_text h h' ht
  have hsign : ∀ v : Text, (" =" : Text) ≠ " = " ++ v := by
    intro v hv
    have hlength := congrArg List.length hv
    simp [Text.ofString, Text.ofChars] at hlength
  cases l with
  | header s =>
    cases l' with
    | header s' => simpa [ConfigLine.text] using ht
    | unset k' => simp [ConfigLine.key?] at hkey
    | setting k' v' => simp [ConfigLine.key?] at hkey
  | unset k =>
    cases l' with
    | header s' => simp [ConfigLine.key?] at hkey
    | unset k' => simpa [ConfigLine.key?] using hkey
    | setting k' v' =>
      obtain rfl : k = k' := by simpa [ConfigLine.key?] using hkey
      simp only [ConfigLine.text, List.append_assoc, List.append_cancel_left_eq] at ht
      exact absurd ht (hsign v')
  | setting k v =>
    cases l' with
    | header s' => simp [ConfigLine.key?] at hkey
    | unset k' =>
      obtain rfl : k = k' := by simpa [ConfigLine.key?] using hkey
      simp only [ConfigLine.text, List.append_assoc, List.append_cancel_left_eq] at ht
      exact absurd ht.symm (hsign v)
    | setting k' v' =>
      obtain rfl : k = k' := by simpa [ConfigLine.key?] using hkey
      simp only [ConfigLine.text, List.append_cancel_left_eq] at ht
      rw [ht]

end Lines

variable {c d : Config}

theorem eq_of_map_text (hc : ∀ k ∈ keys c, IsKey k) (hd : ∀ k ∈ keys d, IsKey k)
    (h : c.map ConfigLine.text = d.map ConfigLine.text) : c = d := by
  induction c generalizing d with
  | nil => exact (List.map_eq_nil_iff.1 h.symm).symm
  | cons l c ih =>
    cases d with
    | nil => simp at h
    | cons l' d =>
      obtain ⟨hl, ht⟩ := List.cons.inj h
      have hline : l = l' := line_eq_of_text
        (fun k hk => hc k (mem_keys.2 ⟨l, List.mem_cons_self, hk⟩))
        (fun k hk => hd k (mem_keys.2 ⟨l', List.mem_cons_self, hk⟩)) hl
      have hrest {e : Config} {m : ConfigLine} (he : ∀ k ∈ keys (m :: e), IsKey k) :
          ∀ k ∈ keys e, IsKey k := fun k hk => by
        obtain ⟨line, hline, hk⟩ := mem_keys.1 hk
        exact he k (mem_keys.2 ⟨line, List.mem_cons_of_mem _ hline, hk⟩)
      rw [hline, ih (hrest hc) (hrest hd) ht]

/-- A configuration whose lines stand each on a line of its own can be had back from its text. -/
theorem text_inj (hc : ∀ k ∈ keys c, IsKey k) (hd : ∀ k ∈ keys d, IsKey k) (hcline : OneLined c)
    (hdline : OneLined d) : c.text = d.text ↔ c = d := by
  refine ⟨fun h => eq_of_map_text hc hd ?_, fun h => by rw [h]⟩
  rw [← (lines_text_eq_iff c).2 hcline, h, (lines_text_eq_iff d).2 hdline]

/-! ## Values of keys -/

/-- The values that a configuration gives to a key, in order. -/
def values (key : Text) (c : Config) : List Text :=
  c.filterMap (ConfigLine.value? key)

theorem values_append (key : Text) (c d : Config) :
    values key (c ++ d) = values key c ++ values key d :=
  List.filterMap_append

theorem values_eq_nil {key : Text} (h : key ∉ keys c) : values key c = [] := by
  refine List.filterMap_eq_nil_iff.2 fun line hline => ?_
  cases line with
  | setting k v =>
    have hk : k ≠ key := fun hk => h (mem_keys.2 ⟨_, hline, congrArg some hk⟩)
    simp [ConfigLine.value?, hk]
  | _ => rfl

theorem values_optional (key key' : Text) (v : Value) :
    values key (optional key' v) = if key' = key ∧ v.truthy = true then [v.shown] else [] := by
  unfold optional
  by_cases hv : v.truthy = true <;> by_cases hkey : key' = key <;>
    simp [values, ConfigLine.value?, hv, hkey]

theorem values_verifyLines (o : Options) :
    values "verify" (verifyLines o) = o.verification.toList := by
  unfold verifyLines Options.verification
  split <;> rfl

/-! ## The client end -/

/-- The keys that say where the client end connects to. -/
def connectKeys : List Text :=
  ["protocol", "connect", "protocolHost", "protocolUsername", "protocolPassword"]

theorem values_connectLines_direct {hostname port : Value} {o : Options}
    (h : o.proxyUrl.truthy = false) :
    values "protocol" (connectLines hostname port o) = [] ∧
      values "connect" (connectLines hostname port o) = [address hostname port] := by
  unfold connectLines
  rw [if_neg (by simp [h])]
  exact ⟨rfl, rfl⟩

theorem values_connectLines_proxy {hostname port : Value} {o : Options}
    (h : o.proxyUrl.truthy = true) :
    values "protocol" (connectLines hostname port o) = [("connect" : Text)] ∧
      values "connect" (connectLines hostname port o) = [o.proxyUrl.shown] ∧
      values "protocolHost" (connectLines hostname port o) = [address hostname port] ∧
      values "protocolUsername" (connectLines hostname port o) =
        (if o.proxyUsername.truthy then [o.proxyUsername.shown] else []) ∧
      values "protocolPassword" (connectLines hostname port o) =
        (if o.proxyPassword.truthy then [o.proxyPassword.shown] else []) := by
  unfold connectLines
  rw [if_pos h]
  simp only [values_append, values_optional]
  refine ⟨rfl, rfl, rfl, ?_, ?_⟩
  · have hkey : ("protocolPassword" : Text) ≠ "protocolUsername" := by decide
    simp only [hkey, true_and, false_and, if_false, List.append_nil]
    rfl
  · have hkey : ("protocolUsername" : Text) ≠ "protocolPassword" := by decide
    simp only [hkey, true_and, false_and, if_false, List.append_nil]
    rfl

section Client

variable {acceptPort hostname port : Value} {o : Options}
  (h : client acceptPort hostname port o = .ok c)

include h

theorem values_accept : values "accept" c = [acceptPort.shown] := by
  obtain ⟨-, rfl⟩ := client_eq_ok.1 h
  have hconnect : ("accept" : Text) ∉ keys (connectLines hostname port o) := fun hk =>
    absurd ((keys_connectLines_sublist hostname port o).mem hk) (by decide)
  have hverify : ("accept" : Text) ∉ keys (verifyLines o) := fun hk =>
    absurd ((keys_verifyLines_sublist o).mem hk) (by decide)
  rw [values_append, values_append, values_eq_nil hconnect, values_eq_nil hverify]
  rfl

theorem values_verify : values "verify" c = o.verification.toList := by
  obtain ⟨-, rfl⟩ := client_eq_ok.1 h
  have hfront : ("verify" : Text) ∉ keys (globalLines .client ++ serviceLines acceptPort
      ++ connectLines hostname port o) := fun hk =>
    absurd ((keys_front_sublist acceptPort hostname port o).mem hk) (by decide)
  rw [values_append, values_eq_nil hfront, values_verifyLines]
  rfl

/-- The keys of the connection get their values from its lines. -/
theorem values_connectKey : ∀ key ∈ connectKeys,
    values key c = values key (connectLines hostname port o) := by
  intro key hkey
  obtain ⟨-, rfl⟩ := client_eq_ok.1 h
  have hothers : ∀ key ∈ connectKeys, key ∉ keys (globalLines .client) ++
      [("debug" : Text), "accept", "cert", "key"] ∧ key ∉ [("verify" : Text)] := by decide
  have hfront : key ∉ keys (globalLines .client ++ serviceLines acceptPort) :=
    (hothers key hkey).1
  have hverify : key ∉ keys (verifyLines o) := fun hk =>
    (hothers key hkey).2 ((keys_verifyLines_sublist o).mem hk)
  rw [values_append, values_append, values_eq_nil hfront, values_eq_nil hverify, List.nil_append,
    List.append_nil]

end Client

/-! ## Ports, addresses and credentials -/

theorem isPort_iff {v : Value} : isPort v = true ↔ ∃ n : Int, v = .int n ∧ 0 < n ∧ n < 65536 := by
  cases v <;> simp [isPort]

/-- The number of a port is short. -/
theorem isWritable_of_isPort {v : Value} (h : isPort v = true) : v.isWritable = true := by
  obtain ⟨i, rfl, hpos, hlt⟩ := isPort_iff.1 h
  have hshort : i.natAbs < 10 ^ 5 := by omega
  exact Text.hasDecimalNumeral_of_lt (by decide) hshort

/-- Ports are told apart by their numerals. -/
theorem port_eq_of_shown {port port' : Value} (h : isPort port = true) (h' : isPort port' = true)
    (heq : port.shown = port'.shown) : port = port' := by
  obtain ⟨n, rfl, -⟩ := isPort_iff.1 h
  obtain ⟨n', rfl, -⟩ := isPort_iff.1 h'
  rw [Text.ofInt_injective heq]

/-- Texts are told apart at the last of several marks. -/
theorem append_mark_inj {mark : CodePoint} {s s' t t' : Text} (ht : mark ∉ t) (ht' : mark ∉ t')
    (h : s ++ mark :: t = s' ++ mark :: t') : s = s' ∧ t = t' := by
  rcases List.append_eq_append_iff.1 h with ⟨r, rfl, hr⟩ | ⟨r, rfl, hr⟩
  · cases r with
    | nil => simpa using hr
    | cons d r =>
      obtain ⟨-, rfl⟩ := List.cons.inj hr
      simp at ht
  · cases r with
    | nil => simpa [eq_comm] using hr
    | cons d r =>
      obtain ⟨-, rfl⟩ := List.cons.inj hr
      simp at ht'

/-- An address tells its host, which may hold colons, and its port. -/
theorem address_inj {host host' : Text} {port port' : Value} (h : isPort port = true)
    (h' : isPort port' = true) (heq : address host port = address host' port') :
    host = host' ∧ port = port' := by
  have hcolon {p : Value} (hp : isPort p = true) : CodePoint.char ':' ∉ p.shown := by
    obtain ⟨n, rfl, -⟩ := isPort_iff.1 hp
    exact Text.not_mem_ofInt (by decide) (by decide) n
  obtain ⟨hhost, hport⟩ := append_mark_inj (hcolon h) (hcolon h') heq
  exact ⟨hhost, port_eq_of_shown h h' hport⟩

/-- A credential is told by whether it is written, and how. -/
theorem credential_eq {v v' : Value} (hv : v.OnLine) (hv' : v'.OnLine)
    (h : (if v.truthy = true then [v.shown] else []) =
      if v'.truthy = true then [v'.shown] else []) : v = v' := by
  obtain ⟨t, rfl, -⟩ := hv
  obtain ⟨t', rfl, -⟩ := hv'
  cases t <;> cases t' <;> simp_all [Value.truthy]

/-! ## Both writings of the client end -/

theorem mem_unchecked {hostname v : Value} {o : Options} (h : v ∈ unchecked hostname o) :
    v = hostname ∨ v = o.proxyUrl ∨ v = o.proxyUsername ∨ v = o.proxyPassword := by
  unfold unchecked at h
  split at h <;> grind

theorem oneLined_client {acceptPort port : Value} {hostname : Text} {o : Options}
    (h : client acceptPort hostname port o = .ok c) (hhost : .char '\n' ∉ hostname)
    (ho : o.OnLines) : OneLined c := by
  refine (lines_text_eq_iff c).1 ((lines_text_iff h).2 fun v hv => ?_)
  have hline : ∀ {v : Value}, v.OnLine → .char '\n' ∉ v.shown := by
    rintro v ⟨t, rfl, ht⟩
    exact ht
  rcases mem_unchecked hv with rfl | rfl | rfl | rfl
  · exact hhost
  · exact hline ho.url
  · exact hline ho.username
  · exact hline ho.password

/-- The lines of the verification are those of the verification in effect. -/
theorem verifyLines_eq_iff {o o' : Options} :
    verifyLines o = verifyLines o' ↔ o.verification = o'.verification := by
  unfold verifyLines Options.verification
  split <;> split <;> simp

section TwoClients

variable {acceptPort acceptPort' port port' : Value} {hostname hostname' : Text} {o o' : Options}

/-- The connection of the client end tells its endpoint and its proxy. -/
theorem connection_eq (ho : o.OnLines) (ho' : o'.OnLines) (hport : isPort port = true)
    (hport' : isPort port' = true)
    (h : ∀ key ∈ connectKeys,
      values key (connectLines hostname port o) = values key (connectLines hostname' port' o')) :
    hostname = hostname' ∧ port = port' ∧ o.proxyUrl = o'.proxyUrl ∧
      (o.proxyUrl ≠ "" →
        o.proxyUsername = o'.proxyUsername ∧ o.proxyPassword = o'.proxyPassword) := by
  have hprotocol := h "protocol" (by decide)
  have hconnect := h "connect" (by decide)
  obtain ⟨url, hurl, -⟩ := ho.url
  obtain ⟨url', hurl', -⟩ := ho'.url
  cases hp : o.proxyUrl.truthy with
  | false =>
    have hdirect := @values_connectLines_direct hostname port o hp
    cases hp' : o'.proxyUrl.truthy with
    | false =>
      -- no proxy at either end, so both texts of the proxy are empty
      have hdirect' := @values_connectLines_direct hostname' port' o' hp'
      rw [hdirect.2, hdirect'.2] at hconnect
      obtain ⟨hhost, hports⟩ := address_inj hport hport' (List.singleton_inj.1 hconnect)
      obtain rfl : url = [] := by simpa [hurl, Value.truthy] using hp
      obtain rfl : url' = [] := by simpa [hurl', Value.truthy] using hp'
      exact ⟨hhost, hports, hurl.trans hurl'.symm, fun hne => absurd hurl hne⟩
    | true =>
      have hproxy' := @values_connectLines_proxy hostname' port' o' hp'
      simp [hdirect.1, hproxy'.1] at hprotocol
  | true =>
    have hproxy := @values_connectLines_proxy hostname port o hp
    cases hp' : o'.proxyUrl.truthy with
    | false =>
      have hdirect' := @values_connectLines_direct hostname' port' o' hp'
      simp [hproxy.1, hdirect'.1] at hprotocol
    | true =>
      have hproxy' := @values_connectLines_proxy hostname' port' o' hp'
      have hhost := h "protocolHost" (by decide)
      have huser := h "protocolUsername" (by decide)
      have hpassword := h "protocolPassword" (by decide)
      obtain ⟨-, hurlValue, hhostValue, huserValue, hpasswordValue⟩ := hproxy
      obtain ⟨-, hurlValue', hhostValue', huserValue', hpasswordValue'⟩ := hproxy'
      rw [hurlValue, hurlValue'] at hconnect
      rw [hhostValue, hhostValue'] at hhost
      rw [huserValue, huserValue'] at huser
      rw [hpasswordValue, hpasswordValue'] at hpassword
      obtain ⟨hhost, hports⟩ := address_inj hport hport' (List.singleton_inj.1 hhost)
      have hurls : o.proxyUrl = o'.proxyUrl := by
        rw [hurl, hurl'] at hconnect ⊢
        exact congrArg Value.text (List.singleton_inj.1 hconnect)
      exact ⟨hhost, hports, hurls, fun _ => ⟨credential_eq ho.username ho'.username huser,
        credential_eq ho.password ho'.password hpassword⟩⟩

/-- What the connection does not tell, its lines do not depend on. -/
theorem connectLines_congr (hurl : o.proxyUrl = o'.proxyUrl)
    (hcredentials : o.proxyUrl ≠ "" →
      o.proxyUsername = o'.proxyUsername ∧ o.proxyPassword = o'.proxyPassword) :
    connectLines hostname port o = connectLines hostname port o' := by
  unfold connectLines
  rw [← hurl]
  by_cases hp : o.proxyUrl.truthy = true
  · have hne : o.proxyUrl ≠ "" := by
      intro h
      rw [h] at hp
      exact absurd hp (by decide)
    rw [(hcredentials hne).1, (hcredentials hne).2]
  · rw [if_neg hp, if_neg hp]

/-- Two configurations of the client end are the same if and only if they say the same. -/
theorem client_eq_iff {c' : Config} (ho : o.OnLines) (ho' : o'.OnLines)
    (h : client acceptPort hostname port o = .ok c)
    (h' : client acceptPort' hostname' port' o' = .ok c') :
    c = c' ↔ acceptPort = acceptPort' ∧ hostname = hostname' ∧ port = port' ∧
      o.proxyUrl = o'.proxyUrl ∧ o.verification = o'.verification ∧
      (o.proxyUrl ≠ "" →
        o.proxyUsername = o'.proxyUsername ∧ o.proxyPassword = o'.proxyPassword) := by
  obtain ⟨hu, hc⟩ := client_eq_ok.1 h
  obtain ⟨hu', hc'⟩ := client_eq_ok.1 h'
  constructor
  · rintro rfl
    have hshown : acceptPort.shown = acceptPort'.shown :=
      List.singleton_inj.1 ((values_accept h).symm.trans (values_accept h'))
    have hverification := congrArg List.head? ((values_verify h).symm.trans (values_verify h'))
    rw [Option.head?_toList, Option.head?_toList] at hverification
    have hconnection := connection_eq ho ho' hu.port hu'.port fun key hkey =>
      (values_connectKey h key hkey).symm.trans (values_connectKey h' key hkey)
    obtain ⟨hhost, hports, hurl, hcredentials⟩ := hconnection
    exact ⟨port_eq_of_shown hu.accept hu'.accept hshown, hhost, hports, hurl, hverification,
      hcredentials⟩
  · rintro ⟨rfl, rfl, rfl, hurl, hverification, hcredentials⟩
    rw [hc, hc', connectLines_congr hurl hcredentials, verifyLines_eq_iff.2 hverification]

end TwoClients

/-- Texts can be written. -/
theorem all_unchecked {hostname : Text} {o : Options} (ho : o.OnLines) :
    (unchecked hostname o).all Value.isWritable = true := by
  refine List.all_eq_true.2 fun v hv => ?_
  have hline : ∀ {v : Value}, v.OnLine → v.isWritable = true := by
    rintro v ⟨t, rfl, -⟩
    rfl
  rcases mem_unchecked hv with rfl | rfl | rfl | rfl
  · rfl
  · exact hline ho.url
  · exact hline ho.username
  · exact hline ho.password

/-- The client end is written exactly for ports and a hostname that is not empty. -/
theorem client_written_iff {acceptPort port : Value} {hostname : Text} {o : Options}
    (ho : o.OnLines) :
    (∃ c, client acceptPort hostname port o = .ok c) ↔
      isPort acceptPort = true ∧ isPort port = true ∧ hostname ≠ [] := by
  have hhost : (Value.text hostname).truthy = true ↔ hostname ≠ [] := by simp [Value.truthy]
  constructor
  · rintro ⟨c, h⟩
    obtain ⟨hu, -⟩ := client_eq_ok.1 h
    exact ⟨hu.accept, hu.port, hhost.1 hu.host⟩
  · rintro ⟨haccept, hport, hne⟩
    exact ⟨_, client_eq_ok.2 ⟨⟨haccept, hport, hhost.2 hne, all_unchecked ho⟩, rfl⟩⟩

/-- The first of two values that is not the number of a port. -/
def refusedPort? (acceptPort port : Value) : Option Value :=
  [acceptPort, port].find? fun v => !isPort v

/-- A port that is refused is named, if it can be. -/
theorem client_of_refusedPort {acceptPort port v : Value}
    (h : refusedPort? acceptPort port = some v) (hostname : Value) (o : Options) :
    ∃ role, client acceptPort hostname port o =
      .error (.naming v (.configuration (.notAPort role v))) := by
  unfold client checkPort
  cases haccept : isPort acceptPort with
  | false =>
    obtain rfl : acceptPort = v := by simpa [refusedPort?, haccept] using h
    exact ⟨"accept port", rfl⟩
  | true =>
    cases hport : isPort port with
    | false =>
      obtain rfl : port = v := by simpa [refusedPort?, haccept, hport] using h
      exact ⟨"endpoint port", rfl⟩
    | true => simp [refusedPort?, haccept, hport] at h

/-- Between ports the client end is written, or refused without a hostname. -/
theorem client_of_ports {acceptPort port : Value} (h : refusedPort? acceptPort port = none)
    {hostname : Text} {o : Options} (ho : o.OnLines) :
    (∃ c, client acceptPort hostname port o = .ok c) ∨
      client acceptPort hostname port o = .error (.configuration .emptyHostname) := by
  obtain ⟨haccept, hport⟩ : isPort acceptPort = true ∧ isPort port = true := by
    simpa [refusedPort?] using h
  cases hostname with
  | nil =>
    refine Or.inr ?_
    unfold client checkPort
    rw [haccept, hport]
    rfl
  | cons a t => exact Or.inl ((client_written_iff ho).2 ⟨haccept, hport, List.cons_ne_nil a t⟩)

/-- The client end is written exactly for ports that are numbers of ports and a hostname that is not
empty. Otherwise it is refused as a setting that cannot be used, unless it is refused for a port
that cannot even be named. Two texts of it are the same if and only if the settings in effect are:
the ports, the hostname, the proxy with its credentials if there is one, the verification. -/
theorem client_text_settings {acceptPort acceptPort' port port' : Value} {hostname hostname' : Text}
    {o o' : Options} (hhost : .char '\n' ∉ hostname) (hhost' : .char '\n' ∉ hostname')
    (ho : o.OnLines) (ho' : o'.OnLines) :
    ((∃ c, client acceptPort hostname port o = .ok c) ↔
      (∃ n : Int, acceptPort = .int n ∧ 0 < n ∧ n < 65536) ∧
        (∃ n : Int, port = .int n ∧ 0 < n ∧ n < 65536) ∧ hostname ≠ []) ∧
    ((∀ v, refusedPort? acceptPort port = some v → v.isWritable = true) →
      (∃ c, client acceptPort hostname port o = .ok c) ∨
        ∃ problem, client acceptPort hostname port o = .error (.configuration problem)) ∧
    (∀ v, refusedPort? acceptPort port = some v → v.isWritable = false →
      client acceptPort hostname port o = .error (.fault .wrongValue)) ∧
    ∀ c c', client acceptPort hostname port o = .ok c →
      client acceptPort' hostname' port' o' = .ok c' →
      (c.text = c'.text ↔
        acceptPort = acceptPort' ∧ hostname = hostname' ∧ port = port' ∧
        o.proxyUrl = o'.proxyUrl ∧ o.verification = o'.verification ∧
        (o.proxyUrl ≠ "" →
          o.proxyUsername = o'.proxyUsername ∧ o.proxyPassword = o'.proxyPassword)) := by
  refine ⟨?_, fun hwritable => ?_, fun v hv hlong => ?_, fun c c' h h' => ?_⟩
  · rw [client_written_iff ho, isPort_iff, isPort_iff]
  · cases hrefused : refusedPort? acceptPort port with
    | none => exact (client_of_ports hrefused ho).imp_right fun h => ⟨_, h⟩
    | some v =>
      obtain ⟨role, h⟩ := client_of_refusedPort hrefused hostname o
      rw [Failure.naming_of_isWritable (hwritable v hrefused)] at h
      exact Or.inr ⟨_, h⟩
  · obtain ⟨role, h⟩ := client_of_refusedPort hv hostname o
    rw [h, Failure.naming_of_not_isWritable hlong]
  · rw [text_inj (isKey_of_mem_keys h) (isKey_of_mem_keys h') (oneLined_client h hhost ho)
      (oneLined_client h' hhost' ho')]
    exact client_eq_iff ho ho' h h'

theorem onLines_behindProxy {password : Text} (h : .char '\n' ∉ password) :
    (behindProxy password).OnLines :=
  ⟨⟨_, rfl, by decide⟩, ⟨_, rfl, by decide⟩, ⟨_, rfl, h⟩⟩

/-- A password that looks like another setting is told from an ordinary one. A port that is a text
is refused as a setting. -/
theorem client_text_settings_behindProxy :
    (behindProxy "secret").OnLines ∧ (behindProxy "verify = 0").OnLines ∧
      (∃ c c', client (.int 2222) "[::1]" (.int 443) (behindProxy "secret") = .ok c ∧
        client (.int 2222) "[::1]" (.int 443) (behindProxy "verify = 0") = .ok c' ∧
        c.text ≠ c'.text) ∧
      ∃ problem, client (.int 2222) "[::1]" (.text "443") (behindProxy "secret") =
        .error (.configuration problem) := by
  have ho : (behindProxy "secret").OnLines := onLines_behindProxy (by decide)
  have ho' : (behindProxy "verify = 0").OnLines := onLines_behindProxy (by decide)
  have hhost : CodePoint.char '\n' ∉ ("[::1]" : Text) := by decide
  refine ⟨ho, ho', ⟨_, _, rfl, rfl, fun htext => ?_⟩, ?_⟩
  · obtain ⟨-, -, -, hsame⟩ := @client_text_settings (.int 2222) (.int 2222) (.int 443) (.int 443)
      _ _ _ _ hhost hhost ho ho'
    obtain ⟨-, -, -, -, -, hcredentials⟩ := (hsame _ _ rfl rfl).1 htext
    have hpassword := (hcredentials (by simp [behindProxy, Text.ofString, Text.ofChars])).2
    exact absurd (Value.text.inj hpassword) (by decide)
  · obtain ⟨hwritten, hrefused, -⟩ := @client_text_settings (.int 2222) (.int 2222) (.text "443")
      (.int 443) _ _ _ _ hhost hhost ho ho'
    have hnamed : ∀ v, refusedPort? (.int 2222) (.text "443") = some v → v.isWritable = true := by
      rintro v hv
      obtain rfl : Value.text "443" = v := Option.some.inj hv
      rfl
    refine (hrefused hnamed).resolve_left fun hok => ?_
    obtain ⟨-, ⟨n, hn, -⟩, -⟩ := hwritten.1 hok
    cases hn

/-- A number too long to be written is refused as a port, and not as a setting. A float is refused
as a setting, even one that equals the number of a port. -/
theorem longPort_refused :
    client .longNumber "transfer.example.com" (.int 443) Options.default =
      .error (.fault .wrongValue) ∧
    client (.int 2222) "transfer.example.com" (.float (.ofDecimal false 443 0)) Options.default =
      .error (.configuration (.notAPort "endpoint port" (.float (.ofDecimal false 443 0)))) ∧
    ¬∀ (acceptPort port : Value) (hostname : Text) (o : Options), .char '\n' ∉ hostname →
      o.OnLines → (∃ c, client acceptPort hostname port o = .ok c) ∨
        ∃ problem, client acceptPort hostname port o = .error (.configuration problem) := by
  have hport : isPort .longNumber = false := by
    refine Bool.eq_false_iff.2 fun h => ?_
    exact Bool.false_ne_true (Value.isWritable_longNumber.symm.trans (isWritable_of_isPort h))
  have hrefused : client .longNumber "transfer.example.com" (.int 443) Options.default =
      .error (.fault .wrongValue) := by
    obtain ⟨role, h⟩ := @client_of_refusedPort .longNumber (.int 443) .longNumber
      (by simp [refusedPort?, hport]) "transfer.example.com" Options.default
    rw [h, Failure.naming_of_not_isWritable Value.isWritable_longNumber]
  have honLines : Options.default.OnLines :=
    ⟨⟨_, rfl, by decide⟩, ⟨_, rfl, by decide⟩, ⟨_, rfl, by decide⟩⟩
  refine ⟨hrefused, rfl, fun h => ?_⟩
  rcases h .longNumber (.int 443) "transfer.example.com" Options.default (by decide) honLines with
    ⟨c, hc⟩ | ⟨problem, hp⟩
  · cases hrefused.symm.trans hc
  · cases hrefused.symm.trans hp

end Config

end VolumeTunnel

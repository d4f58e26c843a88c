import VolumeTunnel.Proofs.Text.Lines
import VolumeTunnel.Proofs.Text.Numeral
import VolumeTunnel.Proofs.Tunnel.Provisioning

/-!
# Configurations as they are read

A configuration is written one line after the other, and read again line by line. Its hostname and
its proxy settings are written as they are given. So the lines that are read are those that were
written if and only if none of these settings holds a line feed (`Config.lines_text_iff`), and then
there is one service, no key is set twice, nothing but known keys is set, and the peer is verified
unless that is switched off (`Config.AsDeclared`). A setting with a line feed can add a service, to
which all that follows then belongs.

What stands before these settings is always read as it was written (`Config.find?_lines`).

* `Config.isHeader`, `Config.setsKey` : what a line of text does;
* `Config.keys` : the keys that a configuration sets, in order;
* `Config.ClientUsable` : the settings for which the client end is written.
-/

namespace VolumeTunnel

/-- The key that a line sets. -/
def ConfigLine.key? : ConfigLine → Option Text
  | header _ => none
  | unset key => some key
  | setting key _ => some key

namespace Config

/-! ## Lines of text -/

/-- Whether a line of text is the header of a service. -/
def isHeader (l : Text) : Bool :=
  l.startsWith [.char '[']

/-- Whether a line of text sets a key. -/
def setsKey (key l : Text) : Bool :=
  l.startsWith (key ++ " =")

/-- A word that can be told from a header and from other words at the beginning of a line. -/
def IsKey (key : Text) : Prop :=
  .char ' ' ∉ key ∧ key ≠ [] ∧ key.head? ≠ some (.char '[')

theorem isHeader_append {key : Text} (h : IsKey key) (t : Text) : isHeader (key ++ t) = false := by
  obtain ⟨-, hne, hhead⟩ := h
  cases key with
  | nil => exact absurd rfl hne
  | cons c key =>
    have hc : CodePoint.char '[' ≠ c := fun hc => hhead (by rw [hc]; rfl)
    simp [isHeader, Text.startsWith, List.isPrefixOf, hc]

theorem setsKey_header {key : Text} (h : IsKey key) (service : Text) :
    setsKey key (ConfigLine.header service).text = false := by
  obtain ⟨-, hne, hhead⟩ := h
  cases key with
  | nil => exact absurd rfl hne
  | cons c key =>
    have hc : c ≠ CodePoint.char '[' := fun hc => hhead (by rw [hc]; rfl)
    simp [setsKey, ConfigLine.text, Text.startsWith, List.isPrefixOf, hc]

theorem setsKey_append {key key' : Text} (h : IsKey key) (h' : IsKey key') (t : Text) :
    setsKey key (key' ++ .char ' ' :: .char '=' :: t) = decide (key = key') := by
  have hword := Text.startsWith_word h.1 h'.1 [.char '='] (.char '=' :: t)
  have hsign : Text.startsWith (.char '=' :: t) [.char '='] = true := rfl
  rw [hsign, Bool.and_true] at hword
  exact hword

variable {c : Config} {line : ConfigLine}

theorem isHeader_text (h : ∀ k, line.key? = some k → IsKey k) :
    isHeader line.text = line.key?.isNone := by
  cases line with
  | header service => rfl
  | unset key => exact isHeader_append (h key rfl) _
  | setting key v =>
    rw [ConfigLine.text, List.append_assoc]
    exact isHeader_append (h key rfl) _

theorem setsKey_text {key : Text} (hkey : IsKey key) (h : ∀ k, line.key? = some k → IsKey k) :
    setsKey key line.text = decide (line.key? = some key) := by
  cases line with
  | header service => exact setsKey_header hkey service
  | unset key' =>
    refine (setsKey_append hkey (h key' rfl) []).trans ?_
    simp [ConfigLine.key?, eq_comm]
  | setting key' v =>
    rw [ConfigLine.text, List.append_assoc]
    refine (setsKey_append hkey (h key' rfl) (.char ' ' :: v)).trans ?_
    simp [ConfigLine.key?, eq_comm]

/-! ## The keys of a configuration -/

/-- The keys that a configuration sets, in order. -/
def keys (c : Config) : List Text :=
  c.filterMap ConfigLine.key?

@[simp] theorem keys_append (c d : Config) : keys (c ++ d) = keys c ++ keys d :=
  List.filterMap_append

theorem mem_keys {k : Text} : k ∈ keys c ↔ ∃ line ∈ c, line.key? = some k :=
  List.mem_filterMap

theorem filter_isHeader (hc : ∀ k ∈ keys c, IsKey k) :
    (c.map ConfigLine.text).filter isHeader =
      (c.filter fun line => line.key?.isNone).map ConfigLine.text := by
  rw [List.filter_map]
  refine congrArg _ (List.filter_congr fun line hline => ?_)
  exact isHeader_text fun k hk => hc k (mem_keys.2 ⟨line, hline, hk⟩)

theorem filter_setsKey {key : Text} (hkey : IsKey key) (hc : ∀ k ∈ keys c, IsKey k) :
    (c.map ConfigLine.text).filter (setsKey key) =
      (c.filter fun line => line.key? = some key).map ConfigLine.text := by
  rw [List.filter_map]
  refine congrArg _ (List.filter_congr fun line hline => ?_)
  exact setsKey_text hkey fun k hk => hc k (mem_keys.2 ⟨line, hline, hk⟩)

/-- As many lines set a key as it is set in the configuration. -/
theorem countP_setsKey {key : Text} (hkey : IsKey key) (hc : ∀ k ∈ keys c, IsKey k) :
    (c.map ConfigLine.text).countP (setsKey key) = (keys c).count key := by
  rw [List.countP_eq_length_filter, filter_setsKey hkey hc, List.length_map, keys,
    List.count_filterMap, ← List.countP_eq_length_filter]
  exact List.countP_congr fun line _ => by simp

theorem filter_key_eq_nil {key : Text} (h : key ∉ keys c) :
    (c.filter fun line => line.key? = some key) = [] := by
  refine List.filter_eq_nil_iff.2 fun line hline hk => h (mem_keys.2 ⟨line, hline, ?_⟩)
  exact of_decide_eq_true hk

/-! ## Line feeds -/

/-- Every line stands on a line of its own. -/
def OneLined (c : Config) : Prop :=
  ∀ line ∈ c, .char '\n' ∉ line.text

theorem oneLined_append {c d : Config} : OneLined (c ++ d) ↔ OneLined c ∧ OneLined d :=
  List.forall_mem_append

theorem text_eq_flatMap (c : Config) :
    c.text = (c.map ConfigLine.text).flatMap fun t => t ++ [.char '\n'] := by
  rw [text, List.flatMap_map]

/-- The lines that are read are those that were written if and only if each stands on a line of its
own. -/
theorem lines_text_eq_iff (c : Config) :
    Text.lines c.text = c.map ConfigLine.text ↔ OneLined c := by
  rw [text_eq_flatMap, Text.lines_flatMap_eq_iff]
  exact List.forall_mem_map

/-- The lines of a configuration are those of its parts. -/
theorem lines_text_append (c d : Config) :
    Text.lines (text (c ++ d)) = Text.lines c.text ++ Text.lines d.text := by
  rw [text_eq_flatMap, text_eq_flatMap, text_eq_flatMap, Text.lines_flatMap, Text.lines_flatMap,
    Text.lines_flatMap, List.map_append, List.flatMap_append]

/-- Where one line of the first part of a configuration sets a key, it is the first to do so,
whatever the second part holds. -/
theorem find?_lines {key : Text} (hkey : IsKey key) (hc : ∀ k ∈ keys c, IsKey k) (hone : OneLined c)
    (h : (c.filter fun line => line.key? = some key) = [line]) (d : Config) :
    (Text.lines (text (c ++ d))).find? (setsKey key) = some line.text := by
  have hfirst : (c.map ConfigLine.text).find? (setsKey key) = some line.text := by
    rw [← List.head?_filter, filter_setsKey hkey hc, h]
    rfl
  rw [lines_text_append, (lines_text_eq_iff c).2 hone, List.find?_append, hfirst]
  rfl

theorem lineFeed_not_mem_setting {key v : Text} (hkey : .char '\n' ∉ key) :
    .char '\n' ∉ (ConfigLine.setting key v).text ↔ .char '\n' ∉ v := by
  have hsign : CodePoint.char '\n' ∉ (" = " : Text) := by decide
  simp [ConfigLine.text, hkey, hsign]

theorem lineFeed_not_mem_port {port : Value} (h : isPort port = true) :
    .char '\n' ∉ port.shown := by
  cases port with
  | int i => exact Text.not_mem_ofInt (by decide) (by decide) i
  | _ => exact nomatch h

theorem oneLined_globalLines (side : Side) : OneLined (globalLines side) := by
  unfold OneLined
  cases side <;> decide

theorem oneLined_serviceLines {acceptPort : Value} (h : isPort acceptPort = true) :
    OneLined (serviceLines acceptPort) := by
  intro line hline
  simp only [serviceLines, List.mem_cons, List.not_mem_nil, or_false] at hline
  rcases hline with rfl | rfl | rfl | rfl | rfl
  · decide
  · decide
  · exact (lineFeed_not_mem_setting (by decide)).2 (lineFeed_not_mem_port h)
  · decide
  · decide

/-! ## The two ends -/

theorem checkPort_eq_ok {role : Text} {port : Value} {u : Unit} :
    checkPort role port = .ok u ↔ isPort port = true := by
  unfold checkPort
  split
  · next h => exact iff_of_true rfl h
  · next h => exact iff_of_false (nomatch ·) h

/-- The settings of the client end that are used: ports, a hostname, and what can be written. -/
structure ClientUsable (acceptPort hostname port : Value) (o : Options) : Prop where
  accept : isPort acceptPort = true
  port : isPort port = true
  host : hostname.truthy = true
  written : (unchecked hostname o).all Value.isWritable = true

/-- The configuration of the client end, part by part. -/
theorem client_eq_ok {acceptPort hostname port : Value} {o : Options} :
    client acceptPort hostname port o = .ok c ↔
      ClientUsable acceptPort hostname port o ∧
        c = globalLines .client ++ serviceLines acceptPort ++ connectLines hostname port o
          ++ verifyLines o := by
  constructor
  · intro h
    obtain ⟨u, haccept, h⟩ := Failure.bind_eq_ok.1 h
    obtain ⟨u', hport, h⟩ := Failure.bind_eq_ok.1 h
    split at h
    next => cases h
    next hhost =>
      split at h
      next hwritten =>
        have hhost : hostname.truthy = true := by simpa using hhost
        exact ⟨⟨checkPort_eq_ok.1 haccept, checkPort_eq_ok.1 hport, hhost, hwritten⟩,
          (Except.ok.inj h).symm⟩
      next => cases h
  · rintro ⟨hu, rfl⟩
    simp only [client, checkPort, hu.accept, hu.port, hu.host, hu.written, Bool.not_true,
      Bool.false_eq_true, if_true, if_false]
    rfl

/-- The configuration of the server end, part by part. -/
theorem server_eq_ok {acceptPort connectPort : Value} {o : Options} :
    server acceptPort connectPort o = .ok c ↔
      isPort acceptPort = true ∧ isPort connectPort = true ∧
        c = globalLines .server ++ serviceLines acceptPort
          ++ [.setting "connect" (address "localhost" connectPort)] ++ verifyLines o := by
  constructor
  · intro h
    obtain ⟨u, haccept, h⟩ := Failure.bind_eq_ok.1 h
    obtain ⟨u', hconnect, h⟩ := Failure.bind_eq_ok.1 h
    exact ⟨checkPort_eq_ok.1 haccept, checkPort_eq_ok.1 hconnect, (Except.ok.inj h).symm⟩
  · rintro ⟨haccept, hconnect, rfl⟩
    simp only [server, checkPort, haccept, hconnect, if_true]
    rfl

/-! ## The keys of the client end -/

/-- The keys that the client end may set, in their order. -/
def clientKeys : List Text :=
  ["pid", "sslVersion", "client", "syslog", "output", "debug", "accept", "cert", "key",
   "protocol", "connect", "protocolHost", "protocolUsername", "protocolPassword", "verify"]

theorem isKey_of_mem_clientKeys : ∀ key ∈ clientKeys, IsKey key := by
  unfold IsKey
  decide

theorem nodup_clientKeys : clientKeys.Nodup := by
  decide

theorem keys_optional_sublist (key : Text) (v : Value) : (keys (optional key v)).Sublist [key] := by
  unfold optional
  split
  · exact List.Sublist.refl _
  · exact List.nil_sublist _

theorem keys_connectLines_sublist (hostname port : Value) (o : Options) :
    (keys (connectLines hostname port o)).Sublist
      ["protocol", "connect", "protocolHost", "protocolUsername", "protocolPassword"] := by
  unfold connectLines
  split
  · rw [keys_append, keys_append]
    have husername := keys_optional_sublist "protocolUsername" o.proxyUsername
    have hpassword := keys_optional_sublist "protocolPassword" o.proxyPassword
    exact ((List.Sublist.refl _).append husername).append hpassword
  · have hkeys : List.Sublist [("connect" : Text)]
        ["protocol", "connect", "protocolHost", "protocolUsername", "protocolPassword"] := by
      decide
    exact hkeys

theorem keys_verifyLines_sublist (o : Options) : (keys (verifyLines o)).Sublist ["verify"] := by
  unfold verifyLines
  split
  · exact List.nil_sublist _
  · exact List.Sublist.refl _

/-- What is set before the verification of the peer. -/
theorem keys_front_sublist (acceptPort hostname port : Value) (o : Options) :
    (keys (globalLines .client ++ serviceLines acceptPort ++ connectLines hostname port o)).Sublist
      ["pid", "sslVersion", "client", "syslog", "output", "debug", "accept", "cert", "key",
       "protocol", "connect", "protocolHost", "protocolUsername", "protocolPassword"] := by
  rw [keys_append]
  exact (List.Sublist.refl _).append (keys_connectLines_sublist hostname port o)

variable {acceptPort hostname port : Value} {o : Options}

/-- Known keys are set, in their order. -/
theorem keys_client_sublist (h : client acceptPort hostname port o = .ok c) :
    (keys c).Sublist clientKeys := by
  obtain ⟨-, rfl⟩ := client_eq_ok.1 h
  rw [keys_append]
  exact (keys_front_sublist acceptPort hostname port o).append (keys_verifyLines_sublist o)

theorem isKey_of_mem_keys (h : client acceptPort hostname port o = .ok c) :
    ∀ k ∈ keys c, IsKey k :=
  fun k hk => isKey_of_mem_clientKeys k ((keys_client_sublist h).mem hk)

/-! ## What is declared -/

/-- Lines that do what a configuration of the client end is declared to do. -/
structure AsDeclared (o : Options) (ls : List Text) : Prop where
  /-- There is one service. -/
  service : ls.filter isHeader = [("[rsync]" : Text)]
  /-- No key is set twice. -/
  once : ∀ key ∈ clientKeys, ls.countP (setsKey key) ≤ 1
  /-- Nothing but known keys is set. -/
  known : ∀ l ∈ ls, l = ("[rsync]" : Text) ∨ ∃ key ∈ clientKeys, setsKey key l = true
  /-- The peer is verified unless that is switched off. -/
  verify : ls.filter (setsKey "verify") =
    if o.noVerify.truthy then [] else ["verify = " ++ o.resolvedLevel]

theorem filter_isNone_client (h : client acceptPort hostname port o = .ok c) :
    (c.filter fun line => line.key?.isNone) = [.header Tunnel.serviceName] := by
  obtain ⟨-, rfl⟩ := client_eq_ok.1 h
  have hoptional : ∀ key v, (optional key v).filter (fun line => line.key?.isNone) = [] := by
    intro key v
    unfold optional
    split <;> rfl
  have hconnect : (connectLines hostname port o).filter (fun line => line.key?.isNone) = [] := by
    unfold connectLines
    split
    · rw [List.filter_append, List.filter_append, hoptional, hoptional]
      rfl
    · rfl
  have hverify : (verifyLines o).filter (fun line => line.key?.isNone) = [] := by
    unfold verifyLines
    split <;> rfl
  rw [List.filter_append, List.filter_append, hconnect, hverify]
  rfl

/-- The lines of a configuration, as they are written, do what is declared. -/
theorem asDeclared_map_text (h : client acceptPort hostname port o = .ok c) :
    AsDeclared o (c.map ConfigLine.text) where
  service := by
    rw [filter_isHeader (isKey_of_mem_keys h), filter_isNone_client h]
    decide
  once key hkey := by
    rw [countP_setsKey (isKey_of_mem_clientKeys key hkey) (isKey_of_mem_keys h)]
    have hnodup := nodup_clientKeys.sublist (keys_client_sublist h)
    exact List.nodup_iff_count.1 hnodup key
  known l hl := by
    obtain ⟨line, hline, rfl⟩ := List.mem_map.1 hl
    have hkeys : ∀ k, line.key? = some k → k ∈ clientKeys := fun k hk =>
      (keys_client_sublist h).mem (mem_keys.2 ⟨line, hline, hk⟩)
    cases hkey : line.key? with
    | none =>
      have hmem : line ∈ c.filter fun line => line.key?.isNone :=
        List.mem_filter.2 ⟨hline, by rw [hkey]; rfl⟩
      rw [filter_isNone_client h] at hmem
      rw [List.mem_singleton.1 hmem]
      exact Or.inl (by decide)
    | some key =>
      refine Or.inr ⟨key, hkeys key hkey, ?_⟩
      rw [setsKey_text (isKey_of_mem_clientKeys key (hkeys key hkey))
        fun k hk => isKey_of_mem_clientKeys k (hkeys k hk), hkey]
      exact decide_eq_true rfl
  verify := by
    have hverifyKey : IsKey "verify" := isKey_of_mem_clientKeys _ (by decide)
    rw [filter_setsKey hverifyKey (isKey_of_mem_keys h)]
    obtain ⟨-, rfl⟩ := client_eq_ok.1 h
    have hfront : (("verify" : Text)) ∉ keys (globalLines .client ++ serviceLines acceptPort
        ++ connectLines hostname port o) := fun hmem =>
      absurd ((keys_front_sublist acceptPort hostname port o).mem hmem) (by decide)
    rw [List.filter_append, filter_key_eq_nil hfront, List.nil_append]
    unfold verifyLines
    split
    · rfl
    · rfl

/-! ## Unchecked settings -/

theorem oneLined_verifyLines (o : Options) : OneLined (verifyLines o) := by
  intro line hline
  unfold verifyLines at hline
  split at hline
  · exact absurd hline List.not_mem_nil
  · rw [List.mem_singleton.1 hline]
    exact (lineFeed_not_mem_setting (by decide)).2 (Text.not_mem_ofNat (by decide) _)

theorem oneLined_optional {key : Text} (hkey : .char '\n' ∉ key) (v : Value) :
    OneLined (optional key v) ↔ (v.truthy = true → .char '\n' ∉ v.shown) := by
  unfold optional
  split
  · next h => simp [OneLined, h, lineFeed_not_mem_setting hkey]
  · next h => simp [OneLined, h]

theorem lineFeed_not_mem_address (h : isPort port = true) :
    .char '\n' ∉ address hostname port ↔ .char '\n' ∉ hostname.shown := by
  have hcolon : CodePoint.char '\n' ≠ .char ':' := by decide
  simp [address, hcolon, lineFeed_not_mem_port h]

theorem oneLined_connectLines (h : isPort port = true) :
    OneLined (connectLines hostname port o) ↔
      ∀ v ∈ unchecked hostname o, .char '\n' ∉ v.shown := by
  unfold connectLines unchecked
  have husername := @oneLined_optional "protocolUsername" (by decide) o.proxyUsername
  have hpassword := @oneLined_optional "protocolPassword" (by decide) o.proxyPassword
  have hurl := @lineFeed_not_mem_setting "connect" o.proxyUrl.shown (by decide)
  have hhost := @lineFeed_not_mem_setting "protocolHost" (address hostname port) (by decide)
  have hdirect := @lineFeed_not_mem_setting "connect" (address hostname port) (by decide)
  have hprotocol : CodePoint.char '\n' ∉ (ConfigLine.setting "protocol" "connect").text := by decide
  rw [lineFeed_not_mem_address h] at hhost hdirect
  split
  · rw [oneLined_append, oneLined_append, husername, hpassword]
    simp [OneLined, hprotocol, hurl, hhost, and_assoc]
  · simp [OneLined, hdirect]

/-- The lines that are read are those that were written if and only if no setting that is written as
it is holds a line feed. -/
theorem lines_text_iff (h : client acceptPort hostname port o = .ok c) :
    Text.lines c.text = c.map ConfigLine.text ↔
      ∀ v ∈ unchecked hostname o, .char '\n' ∉ v.shown := by
  rw [lines_text_eq_iff]
  obtain ⟨hu, rfl⟩ := client_eq_ok.1 h
  rw [oneLined_append, oneLined_append, oneLined_append, oneLined_connectLines hu.port]
  have hglobal := oneLined_globalLines .client
  have hservice := oneLined_serviceLines hu.accept
  have hverify := oneLined_verifyLines o
  simp [hglobal, hservice, hverify]

/-- What is read from the text of a configuration of the client end. It is what was written if and
only if no unchecked setting holds a line feed, and then it does what is declared. -/
theorem client_text_read (h : client acceptPort hostname port o = .ok c) :
    (Text.lines c.text = c.map ConfigLine.text ↔
      ∀ v ∈ unchecked hostname o, .char '\n' ∉ v.shown) ∧
    ((∀ v ∈ unchecked hostname o, .char '\n' ∉ v.shown) → AsDeclared o (Text.lines c.text)) := by
  refine ⟨lines_text_iff h, fun hv => ?_⟩
  rw [(lines_text_iff h).2 hv]
  exact asDeclared_map_text h

/-- Options with a proxy, a user and the given password. -/
def behindProxy (password : Text) : Options :=
  { Options.default with
    level := some ⟨3, by decide⟩
    proxyUrl := "proxy.example.com:3128"
    proxyUsername := "tunnel"
    proxyPassword := password }

/-- Behind a proxy with an ordinary password, the configuration does what is declared. -/
theorem client_text_read_behindProxy :
    ∃ c, client (.int 2222) "transfer.example.com" (.int 443) (behindProxy "secret = [1]") = .ok c ∧
      (∀ v ∈ unchecked "transfer.example.com" (behindProxy "secret = [1]"),
        .char '\n' ∉ v.shown) ∧
      Text.lines c.text = c.map ConfigLine.text ∧
      AsDeclared (behindProxy "secret = [1]") (Text.lines c.text) := by
  have hv : ∀ v ∈ unchecked "transfer.example.com" (behindProxy "secret = [1]"),
      .char '\n' ∉ v.shown := by
    decide
  refine ⟨_, rfl, hv, ?_⟩
  have h := @client_text_read _ (.int 2222) "transfer.example.com" (.int 443)
    (behindProxy "secret = [1]") rfl
  exact ⟨h.1.2 hv, h.2 hv⟩

/-- A password with a line feed adds a service, to which the verification of the peer then
belongs. -/
theorem password_adds_service :
    ∃ c, client (.int 2222) "transfer.example.com" (.int 443) (behindProxy "secret\n[other]") = .ok c ∧
      ("[other]" : Text) ∈ Text.lines c.text ∧
      ¬AsDeclared (behindProxy "secret\n[other]") (Text.lines c.text) := by
  refine ⟨_, rfl, ?_⟩
  have hother : ("[other]" : Text) ∈ Text.lines (text (globalLines .client
      ++ serviceLines (.int 2222)
      ++ connectLines "transfer.example.com" (.int 443) (behindProxy "secret\n[other]")
      ++ verifyLines (behindProxy "secret\n[other]"))) := by
    rw [text_eq_flatMap, Text.lines_flatMap]
    refine List.mem_flatMap.2
      ⟨(ConfigLine.setting "protocolPassword" "secret\n[other]").text, ?_, by decide⟩
    refine List.mem_map_of_mem (List.mem_append_left _ (List.mem_append_right _ ?_))
    exact List.mem_append_right _ List.mem_cons_self
  refine ⟨hother, fun hdeclared => ?_⟩
  have hheader := List.mem_filter.2 ⟨hother, (by decide : isHeader "[other]" = true)⟩
  rw [hdeclared.service] at hheader
  exact absurd (List.mem_singleton.1 hheader) (by decide)

end Config

end VolumeTunnel

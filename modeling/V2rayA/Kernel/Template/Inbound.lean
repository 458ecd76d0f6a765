import V2rayA.Kernel.Template.Routing

/-!
# The inbounds of a template

The ports of the service, the custom inbounds with their rules, the inbound of transparent
proxying, and the twins of all of them on the IPv6 loopback address. The last pass over a template
checks that no two inbounds or outbounds have the same tag, and no two inbounds the same socket
(`nodup_of_checkDuplicatedTags`).
-/

namespace V2rayA

variable {ν : Type}

/-! ### The inbounds of the service -/

/-- What an inbound of the template listens to at first. -/
def defaultSniffing : Sniffing where
  destOverride := ["http", "tls"]

/-- The inbounds of `TemplateJson`. -/
def templateInbounds : List Inbound :=
  [{ port := 20170
     listen := "0.0.0.0"
     protocol := "socks"
     sniffing := defaultSniffing
     settings := some { auth := "noauth", udp := true }
     tag := "socks" },
   { port := 20171
     listen := "0.0.0.0"
     protocol := "http"
     sniffing := defaultSniffing
     tag := "http" },
   { port := 0
     listen := "0.0.0.0"
     protocol := "socks"
     sniffing := defaultSniffing
     settings := some { auth := "noauth", udp := true }
     tag := "rule-socks" },
   { port := 20172
     listen := "0.0.0.0"
     protocol := "http"
     sniffing := defaultSniffing
     tag := "rule-http" },
   { port := 0
     listen := "0.0.0.0"
     protocol := "vmess"
     settings := some { clients := [""] }
     tag := "vmess" }]

/-- The address that the inbounds listen on. -/
def listenAddr (setting : Setting) : String := if setting.portSharing then "0.0.0.0" else "127.0.0.1"

/-- The inbounds of the service with their ports; those without a port are left out. -/
def serviceInbounds (env : TemplateEnv ν) (setting : Setting) (clients : List String) :
    List Inbound :=
  let p := env.ports
  let ports := [p.socks5, p.http, p.socks5WithPac, p.httpWithPac, p.vmess]
  let inbounds := templateInbounds.zipWith
    (fun ib port => { ib with port, listen := listenAddr setting }) ports
  (inbounds.map fun ib => if ib.tag = "vmess" then { ib with settings := some { clients } } else ib)
    |>.filter fun ib => ib.port ≠ 0

/-- The identifiers of the clients of the VMess inbound. -/
def vmessClients (env : TemplateEnv ν) : Except Go.Error (List String) :=
  if env.ports.vmess > 0 then
    match env.generateId with
    | .error e => .error e
    | .ok id => .ok [id]
  else .ok [""]

/-! ### Custom inbounds -/

/-- Custom inbounds that are not used: they have no port or no known protocol. -/
def CustomInbound.usable (ci : CustomInbound) : Bool :=
  ci.port > 0 ∧ (ci.protocol = .socks ∨ ci.protocol = .http)

/-- The inbound of a custom inbound. -/
def CustomInbound.inbound (ci : CustomInbound) (setting : Setting) : Inbound :=
  let settings : Option InboundSettings := if ci.protocol = .socks then some { udp := true } else none
  { port := ci.port
    protocol := ci.protocol.text
    listen := listenAddr setting
    tag := ci.tag
    settings :=
      if ci.username ≠ "" ∨ ci.password ≠ "" then
        some
          { settings.getD {} with
            auth := "password"
            accounts := [{ user := ci.username, pass := ci.password }] }
      else settings }

/-- The rules of a custom inbound. A RoutingA text that cannot be parsed has none. -/
def CustomInbound.rules (env : TemplateEnv ν) (ci : CustomInbound) : List RoutingRule :=
  if ci.outbound = "" then []
  else
    match ci.outboundType with
    | .direct => [{ outboundTag := ci.outbound, inboundTag := [ci.tag] }]
    | .routingA =>
      if ci.routingARules = "" then []
      else
        match parseRoutingARules env ci.routingARules ci.tag with
        | .error _ => []
        | .ok rules => rules
    | .other _ => []

/-! ### Transparent proxying -/

/-- The text that is stored for a way to intercept traffic. -/
def TransparentType.text : TransparentType → String
  | tproxy => "tproxy"
  | redirect => "redirect"
  | systemProxy => "system_proxy"
  | tun => "tun"
  | other raw => raw

/-- The inbound that intercepted traffic is sent to. -/
def dokodemoTProxy (tproxy : String) (port : ℤ) (tag : String) : Inbound where
  listen := "127.0.0.1"
  port := port
  protocol := "dokodemo-door"
  sniffing := { enabled := true, destOverride := ["http", "tls"] }
  settings := some { network := "tcp,udp", followRedirect := true }
  streamSettings := some { sockopt := some { tproxy := some tproxy } }
  tag := tag

/-- The inbounds of transparent proxying. -/
def transparentInbounds (env : TemplateEnv ν) (setting : Setting) : List Inbound :=
  if ¬isTransparentOn env.environment setting then []
  else
    match setting.transparentType with
    | .tproxy | .redirect => [dokodemoTProxy setting.transparentType.text 52345 "transparent"]
    | .systemProxy =>
      [{ port := 52345, protocol := "http", listen := "127.0.0.1", tag := "transparent" },
       { port := 52306
         protocol := "socks"
         listen := "127.0.0.1"
         settings := some { udp := true }
         tag := "transparent-socks" }]
    | .tun =>
      [{ protocol := "tun-mips"
         settings := some (env.tunInboundSettings setting)
         tag := "transparent" }]
    | .other _ => []

/-- `splitNonEmptyLines`. -/
def splitNonEmptyLines (text : String) : List String :=
  ((Go.lines text).map Go.trimSpace).filter (· ≠ "")

/-- Have an inbound look into the traffic, if the settings say so. -/
def setSniffing (env : TemplateEnv ν) (setting : Setting) (ib : Inbound) : Inbound :=
  if setting.inboundSniffing = .disable ∨ setting.inboundSniffing = .other "" then ib
  else
    { ib with
      sniffing :=
        { enabled := true
          destOverride :=
            if setting.inboundSniffing = .httpTLS then ["http", "tls"] else ["http", "tls", "quic"]
          domainsExcluded := splitNonEmptyLines env.domainsExcluded
          routeOnly := env.setting.routeOnly } }

/-- `setInbound`. -/
def setInbound (env : TemplateEnv ν) (t : Template ν) : Except Go.Error (Template ν) := do
  let clients ← vmessClients env
  let customs := env.store.customInbounds.filter CustomInbound.usable
  let inbounds := serviceInbounds env t.setting clients ++
    customs.map (CustomInbound.inbound · t.setting) ++ transparentInbounds env t.setting
  return { t with
    inbounds := inbounds.map (setSniffing env t.setting)
    rules := t.rules ++ customs.flatMap (CustomInbound.rules env) }

/-! ### Twins on the IPv6 loopback address -/

/-- An inbound that gets a twin. The kernel sends redirected traffic to the address of the
interface, so that inbound is left alone; a TUN device has no address to listen on. -/
def Inbound.twinned (setting : Setting) (ib : Inbound) : Bool :=
  ¬(ib.tag = "transparent" ∧ setting.transparentType = .redirect) ∧ ib.tag ≠ "dns-in" ∧
    ib.protocol ≠ "tun-mips" ∧ Go.hasPrefix ib.listen "127."

/-- A suffix for the tag of an inbound that has one. -/
def Inbound.suffix (s : String) (ib : Inbound) : Inbound :=
  if ib.tag = "" then ib else { ib with tag := ib.tag ++ s }

/-- Refer to both twins. -/
def RoutingRule.twin (ipv6 : Bool) (tags : List String) (rule : RoutingRule) : RoutingRule :=
  let tag6 := (rule.inboundTag.filter (· ∈ tags)).map (· ++ "_ipv6")
  { rule with
    inboundTag :=
      (rule.inboundTag.map fun tag => if tag ∈ tags then tag ++ "_ipv4" else tag) ++
        if ipv6 then tag6 else [] }

/-- The inbounds on the IPv4 loopback address get twins on the IPv6 one. -/
def addTwins (env : TemplateEnv ν) (t : Template ν) : Template ν :=
  let twinned := t.inbounds.filter (Inbound.twinned t.setting)
  let inbounds4 := t.inbounds.map fun ib =>
    if ib.twinned t.setting then ib.suffix "_ipv4" else ib
  let inbounds6 := twinned.map fun ib => { ib.suffix "_ipv6" with listen := "::1" }
  let tags := (twinned.map Inbound.tag).filter (· ≠ "")
  { t with
    inbounds := if env.ipv6Supported then inbounds4 ++ inbounds6 else inbounds4
    rules := t.rules.map (RoutingRule.twin env.ipv6Supported tags) }

/-- Refer to the local copy of the inbound for DNS queries. -/
def RoutingRule.addLocalDns (rule : RoutingRule) : RoutingRule :=
  if "dns-in" ∈ rule.inboundTag then { rule with inboundTag := rule.inboundTag ++ ["dns-in-local"] }
  else rule

/-- The inbound for DNS queries also listens on a local address of its own. -/
def addLocalDns (env : TemplateEnv ν) (t : Template ν) : Template ν :=
  match t.inbounds.findIdx? (·.tag = "dns-in") with
  | none => t
  | some i =>
    if ¬t.setting.portSharing ∨ (env.couldLocalDnsListen.1 ∧ env.couldLocalDnsListen.2.isSome) then
      { t with inbounds := t.inbounds.modify i fun ib => { ib with listen := "127.2.0.17" } }
    else
      { t with
        inbounds := t.inbounds ++
          (t.inbounds[i]?.map fun ib =>
            { ib with listen := "127.2.0.17", tag := "dns-in-local" }).toList
        rules := t.rules.map RoutingRule.addLocalDns }

/-- `setDualStack`. -/
def setDualStack (env : TemplateEnv ν) (t : Template ν) : Template ν :=
  addLocalDns env (addTwins env t)

/-! ### Checks -/

/-- The first entry that occurs before. -/
def firstDuplicate (l : List String) (seen : List String := []) : Option String :=
  match l with
  | [] => none
  | a :: l => if a ∈ seen then some a else firstDuplicate l (a :: seen)

/-- `checkDuplicatedTags`. -/
def checkDuplicatedTags (t : Template ν) : Except Go.Error Unit :=
  match firstDuplicate (t.inbounds.map Inbound.tag),
      firstDuplicate (t.outbounds.map OutboundObject.tag) with
  | some tag, _ => .error { text := "duplicated inbound tag: " ++ tag }
  | none, some tag => .error { text := "duplicated outbound tag: " ++ tag }
  | none, none => .ok ()

/-- The address and port of an inbound. -/
def Inbound.socket (ib : Inbound) : String :=
  Go.joinHostPort (if ib.listen = "" then "0.0.0.0" else ib.listen) (toString ib.port)

/-- `checkDuplicatedInboundSockets`. -/
def checkDuplicatedInboundSockets (t : Template ν) : Except Go.Error Unit :=
  match firstDuplicate (t.inbounds.map Inbound.socket) with
  | some socket => .error { text := "duplicated inbound listening address: " ++ socket }
  | none => .ok ()

lemma firstDuplicate_eq_none {l seen : List String} (h : firstDuplicate l seen = none) :
    l.Nodup ∧ ∀ a ∈ l, a ∉ seen := by
  induction l generalizing seen with
  | nil => simp
  | cons a l ih =>
    rw [firstDuplicate] at h
    split_ifs at h with ha
    obtain ⟨hl, hseen⟩ := ih h
    refine ⟨List.nodup_cons.mpr ⟨fun hmem => hseen a hmem List.mem_cons_self, hl⟩, ?_⟩
    intro b hb
    rcases List.mem_cons.mp hb with rfl | hb
    · exact ha
    · exact fun hmem => hseen b hb (List.mem_cons_of_mem _ hmem)

lemma nodup_of_checkDuplicatedTags {t : Template ν} (h : checkDuplicatedTags t = .ok ()) :
    (t.outbounds.map OutboundObject.tag).Nodup := by
  unfold checkDuplicatedTags at h
  split at h
  · contradiction
  · contradiction
  · exact (firstDuplicate_eq_none ‹_›).1

end V2rayA

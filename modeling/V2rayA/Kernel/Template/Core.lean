import V2rayA.Kernel.Template.Inbound
import V2rayA.Kernel.Template.Outbound

/-!
# Building a template

`newTemplate` runs the passes in their order. The template before the last passes
(`routedTemplate`) has all outbounds and rules; the last passes rewrite the targets of the rules
and the sockets, and check the tags.
-/

namespace V2rayA

variable {ν : Type}

/-! ### The API -/

/-- The text that is stored for the type of a group. -/
def ObservatoryType.text : ObservatoryType → String
  | leastPing => "leastping"
  | keepCurrent => "keepcurrent"
  | roundRobin => "roundrobin"
  | random => "random"
  | other raw => raw

/-- The tags of the nodes of a group. -/
def ServerData.selector [ServerObj ν] (data : ServerData ν) (name : String) : List String :=
  (data.outboundName2ServerObjs name).map fun obj => groupWrapper (getName obj)

/-- The balancer of a group. -/
def ServerData.balancer [ServerObj ν] (data : ServerData ν) (name : String) : Balancer where
  tag := name
  selector := data.selector name
  fallbackTag := "block"
  strategy := (data.outboundName2Setting name).type.text
  observerTag := name

/-- A group of this type is observed. -/
def ObservatoryType.observed (type : ObservatoryType) : Bool :=
  Go.toLower type.text ∈ ["leastping", "random", "roundrobin"]

/-- The observer of a group. -/
def ServerData.observer [ServerObj ν] (env : TemplateEnv ν) (data : ServerData ν) (name : String) :
    ObservatoryItem :=
  let setting := data.outboundName2Setting name
  { tag := name
    subjectSelector := data.selector name
    probeURL :=
      if env.parseURL setting.probeURL then setting.probeURL
      else "https://gstatic.com/generate_204"
    probeInterval :=
      match Go.parseDuration setting.probeInterval with
      | .ok interval => interval
      | .error _ => 10 * Go.Duration.second }

/-- The groups of a template, in the order in which the statement `site` visits them. -/
def groupNames (env : TemplateEnv ν) (site : ℕ) (outbounds : List OutboundObject) : List String :=
  ((env.runtime.mapOrder site (outNames outbounds)).filter fun e => e.2).map Prod.fst

/-- The port of the API. -/
def TemplateEnv.apiPort (env : TemplateEnv ν) : ℤ :=
  if env.ports.apiPort ≠ 0 then env.ports.apiPort else env.freePort

/-- `SetAPI`. The observers are there before the observatory is asked for. -/
def setAPI [ServerObj ν] (env : TemplateEnv ν) (data : ServerData ν) (t : Template ν) :
    Template ν :=
  let port := env.apiPort
  let groups := groupNames env 6 t.outbounds
  let observed := groups.filter fun name => (data.outboundName2Setting name).type.observed
  let multiObservatory :=
    if observed = [] then t.multiObservatory
    else some (t.multiObservatory.getD [] ++ observed.map (data.observer env))
  let observatory :=
    if multiObservatory.isSome then [.observatory port (groupNames env 7 t.outbounds)] else []
  { t with
    balancers := t.balancers ++ groups.map data.balancer
    multiObservatory
    apiCloses := t.apiCloses ++ observatory ++ [.traffic port]
    api :=
      some
        { tag := "api-out"
          services := (["LoggerService", "StatsService"] ++ env.ports.apiServices).eraseDups }
    inbounds := t.inbounds ++
      [{ port
         protocol := "dokodemo-door"
         listen := "127.0.0.1"
         settings := some { address := "127.0.0.1" }
         tag := "api-in" }]
    rules := t.rules ++ [{ inboundTag := ["api-in"], outboundTag := "api-out" }]
    apiPort := port }

/-! ### The passes -/

/-- The log of the core for a log level. -/
def logFor (logLevel : String) : Option Log :=
  match Go.toLower logLevel with
  | "trace" | "debug" => some { loglevel := "debug", access := "", error := "" }
  | "info" => some { loglevel := "info", access := "", error := "none" }
  | "warn" | "warning" => some { loglevel := "warning", access := "none", error := "" }
  | "error" => some { loglevel := "error", access := "none", error := "" }
  | _ => none

/-- The template at first: `TemplateJson` and the settings. -/
def initialTemplate (env : TemplateEnv ν) (setting : Setting) : Template ν where
  inbounds := templateInbounds
  domainStrategy := "IPOnDemand"
  coreVersion := env.coreVersion
  setting := setting
  log := logFor (if setting.logLevel = "" then env.logLevel else setting.logLevel)

/-- The rule that all other traffic falls through to. -/
def spareTireRule : RoutingRule where
  port := "0-65535"
  outboundTag := "proxy"

/-- The rules for intercepted traffic, if traffic is intercepted. -/
def routeTransparent (env : TemplateEnv ν) (setting : Setting) (t : Template ν) :
    Except Go.Error (Template ν) :=
  if isTransparentOn env.environment setting then setTransparentRouting env t else .ok t

/-- The passes from `setVmessInboundRouting` to the rule that all other traffic falls through
to. -/
def completeRouting [ServerObj ν] (env : TemplateEnv ν) (data : ServerData ν) (t : Template ν) :
    Template ν :=
  let t := setAPI env data (setVmessInboundRouting env t)
  let t := updatePrivateRouting env (setWhitelistRouting env data.serverInfos t)
  { t with rules := t.rules ++ [spareTireRule] }

/-- `NewTemplate` up to the last passes. -/
def routedTemplate [Configurable ν] (env : TemplateEnv ν) (serverInfos : List (ServerInfo ν))
    (setting : Setting) : Except Go.Error (Template ν) := do
  let data := newServerData env serverInfos
  let t ← resolveOutbounds env data (initialTemplate env setting)
  let t ← setInbound env t
  let dns ← env.dnsModuleConfig setting serverInfos
  let t := { t with dnsModuleConfig := some dns, domainMatcher := "mph" }
  let t ← setRulePortRouting env t
  let t ← routeTransparent env setting t
  return completeRouting env data t

/-- The last passes of `NewTemplate`. -/
def finishTemplate (env : TemplateEnv ν) (t : Template ν) : Template ν :=
  setDualStack env
    (setOutboundSockopt env (optimizeGeoipMemoryOccupation env (setGroupRouting t)))

/-- `NewTemplate`. -/
def newTemplate [Configurable ν] (env : TemplateEnv ν) (serverInfos : List (ServerInfo ν))
    (setting : Option Setting) : Except Go.Error (Template ν) := do
  let t ← routedTemplate env serverInfos (setting.getD env.setting)
  let t := finishTemplate env t
  checkDuplicatedTags t
  checkDuplicatedInboundSockets t
  return t

/-! ### From the connected servers -/

/-- Give the nodes that need one the port of their plugin. -/
def assignPluginPorts [Configurable ν] (env : TemplateEnv ν) (serverInfos : List (ServerInfo ν)) :
    List (ServerInfo ν) :=
  serverInfos.zipIdx.map fun p =>
    if needPluginPort p.1.info then { p.1 with pluginPort := env.pluginPort p.2 } else p.1

/-- The error when there is nothing to run a core for. -/
def noConnectedServerErr : Go.Error where
  text := "no selected servers"
  code := "NO_SERVER_SELECTED"

/-- `NewTemplateFromConnectedServers`. -/
def newTemplateFromConnectedServers [Configurable ν] (env : TemplateEnv ν)
    (setting : Option Setting) : Except Go.Error (Template ν) := do
  let serverInfos ← getConnectedServerObjs env.nodeFingerprint env.store
  if serverInfos.isEmpty ∧ ¬env.store.hasFailClosedGroup then .error noConnectedServerErr
  else newTemplate env (assignPluginPorts env serverInfos) setting

end V2rayA

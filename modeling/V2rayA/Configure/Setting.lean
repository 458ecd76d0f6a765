import Mathlib

/-!
# The settings

The settings of the user and the part of the environment of the service that decides how
transparent proxying works. Two settings are compared field by field when a core is replaced,
so all fields are here.
-/

namespace V2rayA

/-- What transparent proxying sends through the proxy. -/
inductive TransparentMode
  | close
  /-- All traffic. -/
  | proxy
  | whitelist
  | gfwlist
  /-- As the rule port does. -/
  | followRule
  | other (raw : String)
  deriving DecidableEq, Repr

/-- How transparent proxying intercepts traffic. -/
inductive TransparentType
  | tproxy
  | redirect
  | systemProxy
  | tun
  | other (raw : String)
  deriving DecidableEq, Repr

/-- The routing of the rule port. -/
inductive RulePortMode
  | whitelist
  | gfwlist
  | custom
  | routingA
  | other (raw : String)
  deriving DecidableEq, Repr

/-- How subscriptions are fetched. -/
inductive ProxyMode
  | direct
  | pac
  | proxy
  | other (raw : String)
  deriving DecidableEq, Repr

/-- When lists are updated without being asked. -/
inductive AutoUpdateMode
  | notAutoUpdate
  | autoUpdate
  | autoUpdateAtIntervals
  | other (raw : String)
  deriving DecidableEq, Repr

/-- A switch with a default. -/
inductive DefaultYesNo
  | default
  | yes
  | no
  | other (raw : String)
  deriving DecidableEq, Repr

/-- The protocols that inbounds look into. -/
inductive InboundSniffing
  | disable
  | httpTLS
  | httpTlsQuic
  | other (raw : String)
  deriving DecidableEq, Repr

/-- The settings of the user. The defaults are those of `NewSetting`, except for IP forwarding
and the excluded interfaces, which depend on the system. -/
structure Setting where
  logLevel : String := "info"
  rulePortMode : RulePortMode := .whitelist
  proxyModeWhenSubscribe : ProxyMode := .direct
  gfwListAutoUpdateMode : AutoUpdateMode := .notAutoUpdate
  gfwListAutoUpdateIntervalHour : ℤ := 0
  subscriptionAutoUpdateMode : AutoUpdateMode := .notAutoUpdate
  subscriptionAutoUpdateIntervalHour : ℤ := 0
  tcpFastOpen : DefaultYesNo := .default
  muxOn : DefaultYesNo := .no
  mux : ℤ := 8
  inboundSniffing : InboundSniffing := .httpTlsQuic
  transparent : TransparentMode := .close
  ipForward : Bool := false
  routeOnly : Bool := false
  portSharing : Bool := false
  transparentType : TransparentType := .redirect
  tproxyExcludedInterfaces : String := "docker*,veth*,wg*,ppp*,br-*"
  tunAutoRoute : Bool := true
  tunRouteShellType : String := ""
  tunRouteShellPath : String := ""
  tunSetupScript : String := ""
  tunTeardownScript : String := ""
  tunExcludeProcesses : String := ""
  ssBackend : String := ""
  trojanBackend : String := ""
  dnsListenAddr : String := "0.0.0.0:52353"
  dnsCacheEnabled : Bool := true
  dnsCacheSize : ℤ := 4096
  dnsCacheMinTTL : ℤ := 60
  dnsCacheMaxTTL : ℤ := 86400
  dnsPrefetch : Bool := true
  dnsNegativeCache : Bool := true
  deriving DecidableEq, Repr

/-- What the environment says about transparent proxying. -/
structure Environment where
  /-- Run without the right to change the host. -/
  lite : Bool := false
  /-- A command that runs around the setup of the rules. -/
  transparentHook : String := ""
  /-- A command that runs around the start and the stop of the core. -/
  coreHook : String := ""
  deriving DecidableEq, Repr

/-- `IsTransparentOn`. -/
def isTransparentOn (env : Environment) (setting : Setting) : Bool :=
  if setting.transparent = .close then false
  else if env.lite ∧ (setting.transparentType = .tproxy ∨ setting.transparentType = .redirect) then
    false
  else true

lemma transparent_ne_close {env : Environment} {setting : Setting}
    (h : isTransparentOn env setting) : setting.transparent ≠ .close := by
  intro hclose
  simp [isTransparentOn, hclose] at h

end V2rayA

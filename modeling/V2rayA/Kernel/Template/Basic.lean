import V2rayA.Configure.Setting
import V2rayA.Kernel.CoreObj
import V2rayA.Kernel.Socks

/-!
# The template of a core configuration

A template is built from the connected nodes, the stored configuration and the machine it runs
on; the last two are a `TemplateEnv`. This module has the template, what a node of any protocol
contributes to it, and the names that its rules may refer to:

* `outNames`: the tags of the outbounds, and the groups that are balancers.
* `mem_outbounds_of_outNames`: what a name that is not a balancer stands for.
-/

namespace V2rayA

open List OutboundObject

/-! ### Nodes -/

/-- What a node is told when it generates its outbound. -/
structure PriorInfo where
  coreVersion : String := ""
  tag : String
  pluginPort : ℤ := 0
  /-- The backend to use; empty for the default of the system. -/
  backend : String := ""

/-- What a node generates. -/
structure Configuration where
  coreOutbound : OutboundObject
  extraOutbounds : List OutboundObject := []

/-- A node that can be part of a template. Every protocol gives its outbound the tag that it is
told, and leaves the groups to the template. -/
class Configurable (ν : Type) extends ServerObj ν where
  setName : ν → String → ν
  needPluginPort : ν → Bool
  /-- The backend that the node asks for; `none` if its protocol has only one. -/
  getBackend : ν → Option String
  configuration : ν → PriorInfo → Except Go.Error Configuration
  tag_configuration {obj : ν} {info : PriorInfo} {c : Configuration}
    (h : configuration obj info = .ok c) : c.coreOutbound.tag = info.tag
  balancers_configuration {obj : ν} {info : PriorInfo} {c : Configuration}
    (h : configuration obj info = .ok c) :
    c.coreOutbound.balancers = [] ∧ ∀ o ∈ c.extraOutbounds, o.balancers = []

export Configurable (setName needPluginPort getBackend configuration tag_configuration
  balancers_configuration)

instance : Configurable SOCKS where
  setName h name := { h with name }
  needPluginPort _ := false
  getBackend _ := none
  configuration h info :=
    let users := if h.username = "" then [] else [{ user := h.username, pass := h.password }]
    .ok
      { coreOutbound :=
          { tag := info.tag
            protocol := "socks"
            settings := { servers := [{ address := h.server, port := h.port, users }] } } }
  tag_configuration h := by
    cases h
    rfl
  balancers_configuration h := by
    cases h
    simp

/-! ### The environment -/

namespace RoutingA

/-- A function of a RoutingA text with its arguments. -/
structure Function where
  name : String
  params : List String := []
  namedParams : Go.Map String (List String) := []
  deriving DecidableEq, Repr

/-- What a definition defines. -/
inductive Value
  | text (s : String)
  | bound (name : String) (value : Function)
  | other
  deriving DecidableEq, Repr

/-- A statement of a RoutingA text. -/
inductive Rule
  | define (name : String) (value : Value)
  | routing (and : List Function) (out : String)
  deriving DecidableEq, Repr

end RoutingA

/-- The ports of the service. -/
structure Ports where
  socks5 : ℤ := 20170
  http : ℤ := 20171
  socks5WithPac : ℤ := 0
  httpWithPac : ℤ := 20172
  vmess : ℤ := 0
  /-- The port of the API; zero for any. -/
  apiPort : ℤ := 0
  apiServices : List String := []

/-- What a template depends on besides the connected nodes. The functions are those of the
machine and of libraries: any of them may return anything. -/
structure TemplateEnv (ν : Type) where
  store : Store ν
  environment : Environment := {}
  setting : Setting := {}
  ports : Ports := {}
  routingA : String := ""
  domainsExcluded : String := ""
  /-- The log level of the service. -/
  logLevel : String := "info"
  coreVersion : String := ""
  /-- `GenerateIdFromAccounts`. -/
  generateId : Except Go.Error String := .ok ""
  /-- A port that nothing listens on. -/
  freePort : ℤ := 0
  /-- The port that is found for the plugin of the node at a position. -/
  pluginPort : ℕ → ℤ := fun _ => 0
  nodeFingerprint : String → String := id
  /-- `DoesV2rayAssetExist`. -/
  assetExists : String → Bool := fun _ => false
  ipv6Supported : Bool := false
  localCIDR : List String := []
  couldLocalDnsListen : Bool × Option Go.Error := (true, none)
  /-- `net.ParseIP` succeeds. -/
  parseIP : String → Bool := fun _ => false
  /-- `url.Parse` succeeds. -/
  parseURL : String → Bool := fun _ => true
  /-- `RoutingA.Parse`, after the variables of the environment have been filled in. -/
  parseRoutingA : String → Except Go.Error (List RoutingA.Rule) := fun _ => .ok []
  tunInboundSettings : Setting → InboundSettings := fun _ => {}
  tunEgressInterfaceIfTun : Setting → String := fun _ => ""
  dnsModuleConfig : Setting → List (ServerInfo ν) → Except Go.Error String := fun _ _ => .ok ""
  runtime : Go.Runtime := .inOrder

/-! ### The template -/

/-- A goroutine that polls the API of the core until it is told to stop. -/
inductive Producer
  | observatory (apiPort : ℤ) (observatoryTags : List String)
  | traffic (apiPort : ℤ)
  deriving DecidableEq, Repr

/-- The configuration of a core, and what the service remembers about it. -/
structure Template (ν : Type) where
  log : Option Log := none
  inbounds : List Inbound := []
  outbounds : List OutboundObject := []
  domainStrategy : String := ""
  domainMatcher : String := ""
  rules : List RoutingRule := []
  balancers : List Balancer := []
  /-- The observers; `none` when there is no observatory. -/
  multiObservatory : Option (List ObservatoryItem) := none
  api : Option APIObject := none
  dnsModuleConfig : Option String := none
  coreVersion : String := ""
  /-- The tags of the connected nodes, in their order. -/
  outboundTags : List String := []
  /-- The producers that stop when the template is closed. -/
  apiCloses : List Producer := []
  apiPort : ℤ := 0
  setting : Setting
  /-- The node behind each tag. -/
  serverInfoMap : Go.Map String (ServerInfo ν) := []

/-- The names that an outbound stands for, and whether they are groups. -/
def OutboundObject.names (o : OutboundObject) : List (String × Bool) :=
  match o.balancers with
  | [] => [(o.tag, false)]
  | groups => groups.map (·, true)

/-- The names that a rule may refer to, with `true` for the groups that are balancers. -/
def outNames (outbounds : List OutboundObject) : Go.Map String Bool :=
  .ofWrites (outbounds.flatMap OutboundObject.names)

/-- The name behind the first outbound that is not one of the template's own; empty if there is
none. The callers pass no filter. -/
def firstProxyOutboundName (outbounds : List OutboundObject) : String :=
  let ofNodes := outbounds.filter fun o => o.tag ∉ ["direct", "block", "dns-out"]
  match ofNodes.flatMap OutboundObject.names with
  | [] => ""
  | (name, _) :: _ => name

section Names

variable {outbounds : List OutboundObject} {name : String}

variable {o : OutboundObject}

variable {isGroup : Bool}

lemma OutboundObject.mem_names :
    (name, isGroup) ∈ o.names ↔
      if isGroup then name ∈ o.balancers else o.balancers = [] ∧ o.tag = name := by
  unfold names
  cases o.balancers <;> cases isGroup <;> simp [eq_comm]

lemma exists_of_outNames (h : (outNames outbounds).get? name = some isGroup) :
    ∃ o ∈ outbounds, (name, isGroup) ∈ o.names :=
  mem_flatMap.mp (Go.Map.mem_of_get?_ofWrites h)

/-- A balancer has an outbound. -/
lemma mem_balancers_of_outNames (h : (outNames outbounds).get? name = some true) :
    ∃ o ∈ outbounds, name ∈ o.balancers := by
  obtain ⟨o, ho, hname⟩ := exists_of_outNames h
  exact ⟨o, ho, by simpa using mem_names.mp hname⟩

/-- A name that is not a balancer is the tag of an outbound. -/
lemma mem_outbounds_of_outNames (h : (outNames outbounds).get? name = some false) :
    ∃ o ∈ outbounds, o.tag = name := by
  obtain ⟨o, ho, hname⟩ := exists_of_outNames h
  exact ⟨o, ho, (mem_names.mp hname).2⟩

/-- What an outbound stands for can be referred to. -/
lemma exists_outNames (ho : o ∈ outbounds) (hname : (name, isGroup) ∈ o.names) :
    ∃ b, (outNames outbounds).get? name = some b :=
  Go.Map.exists_get?_ofWrites (mem_flatMap.mpr ⟨o, ho, hname⟩)

lemma exists_outNames_of_mem_balancers (ho : o ∈ outbounds) (hname : name ∈ o.balancers) :
    ∃ b, (outNames outbounds).get? name = some b := by
  have hgroup : (name, true) ∈ o.names := mem_names.mpr (by simpa using hname)
  exact exists_outNames ho hgroup

lemma exists_outNames_of_tag (ho : o ∈ outbounds) (hbalancers : o.balancers = []) :
    ∃ b, (outNames outbounds).get? o.tag = some b := by
  have htag : (o.tag, false) ∈ o.names := mem_names.mpr ⟨hbalancers, rfl⟩
  exact exists_outNames ho htag

/-- Later outbounds decide what a name stands for. -/
lemma outNames_append {others : List OutboundObject} :
    (outNames (outbounds ++ others)).get? name =
      ((outNames others).get? name).or ((outNames outbounds).get? name) := by
  rw [outNames, flatMap_append, Go.Map.get?_ofWrites_append]
  rfl

/-- The first name is one of the names, if there is one. -/
lemma outNames_firstProxyOutboundName (h : firstProxyOutboundName outbounds ≠ "") :
    ∃ b, (outNames outbounds).get? (firstProxyOutboundName outbounds) = some b := by
  unfold firstProxyOutboundName at h ⊢
  dsimp only at h ⊢
  split
  · rename_i heq
    rw [heq] at h
    simp at h
  · rename_i n isGroup _ heq
    have hmem : (n, isGroup) ∈ (outbounds.filter fun o =>
        o.tag ∉ ["direct", "block", "dns-out"]).flatMap names := by
      rw [heq]
      exact mem_cons_self
    obtain ⟨o, ho, hname⟩ := mem_flatMap.mp hmem
    exact exists_outNames (mem_of_mem_filter ho) hname

end Names

end V2rayA

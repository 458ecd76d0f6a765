import V2rayA.Kernel.Template.Basic

/-!
# The outbounds of a template

The connected nodes are collected by their share links, so that one outbound serves every group
that balances over the node. A group with one node has an outbound of its own name. A group that
must stay routable without a node has a blackhole.

* `length_outboundName2ServerObjs`: the nodes of a group are counted once for each connection.
* `Contributed`: what one node contributes to the template.
* `exists_contribution`: every connection is served by what its node contributes.
* `getElem?_assignTags`: the connections that a tag is given to.
* `mem_resolvedOutbounds`: the outbounds of a template.
-/

namespace V2rayA

open List Except

variable {ν : Type}

/-- `GroupWrapper`. -/
def groupWrapper (ps : String) : String := "『" ++ ps ++ "』"

/-! ### The connected nodes by their links -/

/-- The connections of the nodes with one share link, each with its position among the connected
nodes. The node that is connected last stands for all of them. -/
structure LinkedNode (ν : Type) where
  link : String
  obj : ν
  infos : List (ServerInfo ν × ℕ)

/-- The connections with a link. -/
def connectionsOf [ServerObj ν] (serverInfos : List (ServerInfo ν)) (link : String) :
    List (ServerInfo ν × ℕ) :=
  serverInfos.zipIdx.filter fun p => exportToURL p.1.info = link

/-- The connected nodes by their links. -/
def linkedNodes [ServerObj ν] (serverInfos : List (ServerInfo ν)) : List (LinkedNode ν) :=
  (serverInfos.map fun info => exportToURL info.info).dedup.filterMap fun link =>
    let infos := connectionsOf serverInfos link
    infos.getLast?.map fun last => { link, obj := last.1.info, infos }

/-- The names that are tried for a node, in turn. -/
def nameCandidate (name : String) (i : ℕ) : String :=
  if i = 0 then name else name ++ "(" ++ toString (i + 1) ++ ")"

/-- The first name that is not in use. One of the candidates is free, since there is one more of
them than there are names in use. -/
def freshName (used : List String) (name : String) : String :=
  (((List.range (used.length + 1)).map (nameCandidate name)).find? (· ∉ used)).getD name

/-- Make the name of one node unique. -/
def renameStep [Configurable ν] (acc : List String × List (LinkedNode ν)) (node : LinkedNode ν) :
    List String × List (LinkedNode ν) :=
  let ps := freshName acc.1 (getName node.obj)
  (ps :: acc.1, acc.2 ++ [{ node with obj := setName node.obj ps }])

/-- Make the names of the nodes unique. -/
def uniqueNames [Configurable ν] (nodes : List (LinkedNode ν)) : List (LinkedNode ν) :=
  (nodes.foldl renameStep ([], [])).2

/-- The connected nodes as the template uses them. -/
structure ServerData (ν : Type) where
  serverInfos : List (ServerInfo ν)
  nodes : List (LinkedNode ν)
  /-- The nodes of a group. -/
  outboundName2ServerObjs : String → List ν
  outboundName2Setting : String → OutboundSetting

/-- The nodes of a group, one for each connection. -/
def serverObjsOf (nodes : List (LinkedNode ν)) (name : String) : List ν :=
  nodes.flatMap fun node => (node.infos.filter fun p => p.1.outboundName = name).map fun _ => node.obj

/-- `NewServerData`. -/
def newServerData [Configurable ν] (env : TemplateEnv ν) (serverInfos : List (ServerInfo ν)) :
    ServerData ν :=
  let nodes := uniqueNames (env.runtime.mapOrder 2 (linkedNodes serverInfos))
  let objs := serverObjsOf (env.runtime.mapOrder 3 nodes)
  { serverInfos
    nodes
    outboundName2ServerObjs := objs
    outboundName2Setting := fun name =>
      if (objs name).isEmpty then {} else env.store.getOutboundSetting name }

/-! ### The outbounds -/

/-- The backend of a node: its own, or else that of the settings. -/
def resolveEffectiveBackend [Configurable ν] (obj : ν) (setting : Setting) : String :=
  match getBackend obj with
  | none => ""
  | some nodeBackend =>
    if nodeBackend ≠ "" then nodeBackend
    else if getProtocol obj ∈ ["shadowsocks", "ss"] then setting.ssBackend
    else if getProtocol obj ∈ ["trojan", "trojan-go"] then setting.trojanBackend
    else ""

/-- Have a node generate its outbound. -/
def configure [Configurable ν] (env : TemplateEnv ν) (obj : ν) (tag : String) (pluginPort : ℤ) :
    Except Go.Error Configuration :=
  configuration obj
    { coreVersion := env.coreVersion
      tag
      pluginPort
      backend := resolveEffectiveBackend obj env.setting }

/-- An outbound that a node contributes, with its connections. -/
structure Contribution (ν : Type) where
  tag : String
  /-- The position of the first connection. -/
  weight : ℕ
  outbound : OutboundObject
  extraOutbounds : List OutboundObject
  /-- The positions of the connections. -/
  indices : List ℕ
  /-- The connection that `serverInfoMap` remembers. -/
  serverInfo : ServerInfo ν

/-- The outbound for a group with one node. -/
def pureOutbound [Configurable ν] (env : TemplateEnv ν) (obj : ν) (p : ServerInfo ν × ℕ) :
    Except Go.Error (Contribution ν) :=
  match configure env obj p.1.outboundName p.1.pluginPort with
  | .error e => .error e
  | .ok c =>
    .ok
      { tag := p.1.outboundName
        weight := p.2
        outbound := c.coreOutbound
        extraOutbounds := c.extraOutbounds
        indices := [p.2]
        serverInfo := p.1 }

/-- The outbound that the balancers of a node share; none if it has no balancer. -/
def sharedOutbound [Configurable ν] (env : TemplateEnv ν) (obj : ν) :
    List (ServerInfo ν × ℕ) → Except Go.Error (List (Contribution ν))
  | [] => .ok []
  | first :: rest =>
    let tag := groupWrapper (getName obj)
    match configure env obj tag 0 with
    | .error e => .error e
    | .ok c =>
      let groups := (first :: rest).map fun p => p.1.outboundName
      .ok
        [{ tag
           weight := rest.foldl (fun weight p => min weight p.2) first.2
           outbound := { c.coreOutbound with balancers := c.coreOutbound.balancers ++ groups }
           extraOutbounds := c.extraOutbounds
           indices := (first :: rest).map Prod.snd
           serverInfo := first.1 }]

/-- The group of a connection has several nodes. -/
def ServerData.balanced (data : ServerData ν) (p : ServerInfo ν × ℕ) : Bool :=
  1 < (data.outboundName2ServerObjs p.1.outboundName).length

/-- What a node contributes. -/
def resolveNode [Configurable ν] (env : TemplateEnv ν) (data : ServerData ν)
    (node : LinkedNode ν) : Except Go.Error (List (Contribution ν)) := do
  let pures ← (node.infos.filter fun p => ¬data.balanced p).mapM (pureOutbound env node.obj)
  let shared ← sharedOutbound env node.obj (node.infos.filter data.balanced)
  return pures ++ shared

/-- What the nodes contribute, in the order in which they are visited. -/
def contributions [Configurable ν] (env : TemplateEnv ν) (data : ServerData ν) :
    Except Go.Error (List (Contribution ν)) := do
  let cs ← (env.runtime.mapOrder 4 data.nodes).mapM (resolveNode env data)
  return cs.flatten

/-- The outbound of a group that must stay routable without a node. -/
def blackhole (name : String) : OutboundObject where
  tag := name
  protocol := "blackhole"

/-- The outbound that does not use a proxy. -/
def directOutbound : OutboundObject where
  tag := "direct"
  protocol := "freedom"

/-- Give a group without a node its blackhole. -/
def addBlackhole (env : TemplateEnv ν) (data : ServerData ν) (outbounds : List OutboundObject)
    (name : String) : List OutboundObject :=
  if (env.store.getOutboundSetting name).FailClosed ∧
      (data.outboundName2ServerObjs name).isEmpty then
    if name = defaultOutboundName then blackhole name :: outbounds
    else outbounds ++ [blackhole name]
  else outbounds

/-- The tags of the connections, in their order. -/
def assignTags (count : ℕ) (cs : List (Contribution ν)) : List String :=
  cs.foldl (fun tags c => c.indices.foldl (fun tags i => tags.set i c.tag) tags)
    (List.replicate count "")

/-- The outbounds of a template: those of the nodes, the blackholes of the groups without a node,
the template's own, and what the nodes need besides. -/
def resolvedOutbounds (env : TemplateEnv ν) (data : ServerData ν)
    (outbounds : List OutboundObject) (cs : List (Contribution ν)) : List OutboundObject :=
  let sorted := env.runtime.sort (fun a b => a.weight < b.weight) cs
  env.store.getOutbounds.foldl (addBlackhole env data)
      (outbounds ++ sorted.map Contribution.outbound) ++
    [directOutbound, blackhole "block"] ++ cs.flatMap Contribution.extraOutbounds

/-- `resolveOutbounds`. Which nodes carry UDP is not used by its caller. -/
def resolveOutbounds [Configurable ν] (env : TemplateEnv ν) (data : ServerData ν)
    (t : Template ν) : Except Go.Error (Template ν) := do
  let cs ← contributions env data
  return { t with
    outbounds := resolvedOutbounds env data t.outbounds cs
    outboundTags := assignTags data.serverInfos.length cs
    serverInfoMap := .ofWrites (cs.map fun c => (c.tag, c.serverInfo)) }

/-! ### The options of the sockets -/

/-- `checkAndSetMark`. -/
def checkAndSetMark (env : TemplateEnv ν) (setting : Setting) (o : OutboundObject) :
    OutboundObject :=
  if ¬isTransparentOn env.environment setting then o
  else
    let stream := o.streamSettings.getD {}
    let sockopt := stream.sockopt.getD {}
    let iface := env.tunEgressInterfaceIfTun setting
    let sockopt :=
      { sockopt with
        mark := some 0x80
        interface := if iface ≠ "" then iface else sockopt.interface }
    { o with streamSettings := some { stream with sockopt := some sockopt } }

/-- The options of one outbound. -/
def setSockopt (env : TemplateEnv ν) (setting : Setting) (o : OutboundObject) : OutboundObject :=
  if o.protocol = "blackhole" ∨ o.protocol = "dns" then o
  else
    let stream := o.streamSettings.getD {}
    let sockopt := stream.sockopt.getD {}
    let sockopt :=
      if setting.tcpFastOpen ≠ .default then
        { sockopt with tcpFastOpen := some (setting.tcpFastOpen = .yes) }
      else sockopt
    checkAndSetMark env setting
      { o with
        settings :=
          if o.protocol = "freedom" ∧ o.tag = "direct" then
            { o.settings with domainStrategy := "UseIP" }
          else o.settings
        streamSettings := some { stream with sockopt := some sockopt }
        mux :=
          if setting.muxOn = .yes ∧ o.protocol = "vmess" ∧ o.mux = none then
            some { enabled := true, concurrency := setting.mux }
          else o.mux }

/-- `SetOutboundSockopt`. -/
def setOutboundSockopt (env : TemplateEnv ν) (t : Template ν) : Template ν :=
  { t with outbounds := t.outbounds.map (setSockopt env t.setting) }

/-! ### Names -/

/-! ### Every connection belongs to one node -/

/-- The nodes have all connections, by their links. -/
structure Linked [ServerObj ν] (serverInfos : List (ServerInfo ν)) (nodes : List (LinkedNode ν)) :
    Prop where
  perm : (nodes.flatMap LinkedNode.infos).Perm serverInfos.zipIdx
  link : ∀ node ∈ nodes, ∀ p ∈ node.infos, exportToURL p.1.info = node.link
  nodup : (nodes.map LinkedNode.link).Nodup

section Linked

variable [ServerObj ν] {serverInfos : List (ServerInfo ν)} {nodes nodes' : List (LinkedNode ν)}

omit [ServerObj ν] in
lemma nodup_zipIdx (l : List (ServerInfo ν)) : l.zipIdx.Nodup := by
  refine List.Nodup.of_map Prod.snd ?_
  rw [zipIdx_map_snd]
  exact nodup_range'

variable {p : ServerInfo ν × ℕ}

lemma mem_connectionsOf {link : String} :
    p ∈ connectionsOf serverInfos link ↔
      p ∈ serverInfos.zipIdx ∧ exportToURL p.1.info = link := by
  simp [connectionsOf]

lemma mem_linkedNodes {node : LinkedNode ν} (h : node ∈ linkedNodes serverInfos) :
    node.infos = connectionsOf serverInfos node.link := by
  obtain ⟨link, -, hnode⟩ := mem_filterMap.mp h
  obtain ⟨last, -, rfl⟩ := Option.map_eq_some_iff.mp hnode
  rfl

/-- A connection is among the connections with its link. -/
lemma exists_linkedNode (hp : p ∈ serverInfos.zipIdx) :
    ∃ node ∈ linkedNodes serverInfos, p ∈ node.infos := by
  have hmem : p ∈ connectionsOf serverInfos (exportToURL p.1.info) :=
    mem_connectionsOf.mpr ⟨hp, rfl⟩
  obtain ⟨last, hlast⟩ : ∃ last,
      (connectionsOf serverInfos (exportToURL p.1.info)).getLast? = some last :=
    Option.isSome_iff_exists.mp (getLast?_isSome.mpr (ne_nil_of_mem hmem))
  refine ⟨⟨exportToURL p.1.info, last.1.info, connectionsOf serverInfos (exportToURL p.1.info)⟩,
    mem_filterMap.mpr ⟨exportToURL p.1.info, ?_, by simp [hlast]⟩, hmem⟩
  rw [mem_dedup, mem_map]
  exact ⟨p.1, fst_mem_of_mem_zipIdx hp, rfl⟩

lemma nodup_link_linkedNodes (serverInfos : List (ServerInfo ν)) :
    ((linkedNodes serverInfos).map LinkedNode.link).Nodup := by
  unfold linkedNodes
  rw [map_filterMap]
  refine (nodup_dedup _).filterMap ?_
  intro link link' b hb hb'
  simp only [Option.map_map, Option.mem_def, Option.map_eq_some_iff, Function.comp] at hb hb'
  obtain ⟨-, -, rfl⟩ := hb
  obtain ⟨-, -, rfl⟩ := hb'
  rfl

lemma linked_linkedNodes (serverInfos : List (ServerInfo ν)) :
    Linked serverInfos (linkedNodes serverInfos) where
  perm := by
    refine (perm_ext_iff_of_nodup ?_ (nodup_zipIdx _)).mpr fun p => ?_
    · refine nodup_flatMap.mpr ⟨fun node hnode => ?_, ?_⟩
      · rw [mem_linkedNodes hnode]
        exact (nodup_zipIdx _).filter _
      · have hlinks := pairwise_map.mp (nodup_link_linkedNodes serverInfos)
        refine hlinks.imp_of_mem fun {node node'} hnode hnode' hne p hp hp' => hne ?_
        rw [mem_linkedNodes hnode] at hp
        rw [mem_linkedNodes hnode'] at hp'
        rw [← (mem_connectionsOf.mp hp).2, ← (mem_connectionsOf.mp hp').2]
    · rw [mem_flatMap]
      refine ⟨fun ⟨node, hnode, hp⟩ => ?_, exists_linkedNode⟩
      rw [mem_linkedNodes hnode] at hp
      exact (mem_connectionsOf.mp hp).1
  link node hnode p hp := by
    rw [mem_linkedNodes hnode] at hp
    exact (mem_connectionsOf.mp hp).2
  nodup := nodup_link_linkedNodes serverInfos

section

variable (h : Linked serverInfos nodes)
include h

/-- The order of the nodes does not matter. -/
lemma Linked.of_perm (hperm : nodes'.Perm nodes) :
    Linked serverInfos nodes' where
  perm := (hperm.flatMap_right _).trans h.perm
  link node hnode := h.link node (hperm.mem_iff.mp hnode)
  nodup := (hperm.map _).nodup_iff.mpr h.nodup

/-- A connection belongs to a node. -/
lemma Linked.exists_node (hp : p ∈ serverInfos.zipIdx) :
    ∃ node ∈ nodes, p ∈ node.infos :=
  mem_flatMap.mp (h.perm.mem_iff.mpr hp)

lemma Linked.exists_node_of_mem {info : ServerInfo ν} (hinfo : info ∈ serverInfos) :
    ∃ node ∈ nodes, ∃ i, (info, i) ∈ node.infos := by
  obtain ⟨i, hi⟩ := mem_iff_getElem?.mp hinfo
  obtain ⟨node, hnode, hp⟩ := h.exists_node (mk_mem_zipIdx_iff_getElem?.mpr hi)
  exact ⟨node, hnode, i, hp⟩

lemma Linked.mem_zipIdx {node : LinkedNode ν}
    (hnode : node ∈ nodes) (hp : p ∈ node.infos) :
    p ∈ serverInfos.zipIdx :=
  h.perm.mem_iff.mp (mem_flatMap.mpr ⟨node, hnode, hp⟩)

/-- A connection belongs to one node only. -/
lemma Linked.node_unique {node node' : LinkedNode ν}
    (hnode : node ∈ nodes) (hnode' : node' ∈ nodes) (hp : p ∈ node.infos) (hp' : p ∈ node'.infos) :
    node = node' := by
  refine inj_on_of_nodup_map h.nodup hnode hnode' ?_
  rw [← h.link node hnode p hp, ← h.link node' hnode' p hp']

/-- The nodes of a group are counted once for each connection. -/
lemma Linked.length_serverObjsOf (name : String) :
    (serverObjsOf nodes name).length = serverInfos.countP fun info => info.outboundName = name := by
  have hnodes : (serverObjsOf nodes name).length =
      (nodes.flatMap LinkedNode.infos).countP fun p => p.1.outboundName = name := by
    simp only [serverObjsOf, length_flatMap, length_map, countP_flatMap,
      ← countP_eq_length_filter]
    rfl
  have hinfos : (serverInfos.zipIdx.countP fun p => p.1.outboundName = name) =
      serverInfos.countP fun info => info.outboundName = name := by
    rw [← zipIdx_map_fst 0 serverInfos, countP_map, zipIdx_map_fst]
    rfl
  rw [hnodes, h.perm.countP_eq, hinfos]

end

end Linked

section Renaming

variable [Configurable ν] {serverInfos : List (ServerInfo ν)} {nodes : List (LinkedNode ν)}

/-- Nothing but the names of the nodes changes. -/
lemma map_uniqueNames {β : Type} {f : LinkedNode ν → β}
    (hf : ∀ node obj, f { node with obj } = f node) (nodes : List (LinkedNode ν)) :
    (uniqueNames nodes).map f = nodes.map f := by
  have hloop (acc : List String × List (LinkedNode ν)) :
      (nodes.foldl renameStep acc).2.map f = acc.2.map f ++ nodes.map f := by
    induction nodes generalizing acc with
    | nil => simp
    | cons node nodes ih => simp [ih, renameStep, hf]
  simpa [uniqueNames] using hloop ([], [])

lemma Linked.uniqueNames (h : Linked serverInfos nodes) :
    Linked serverInfos (uniqueNames nodes) where
  perm := by
    rw [flatMap_def, map_uniqueNames (fun _ _ => rfl), ← flatMap_def]
    exact h.perm
  link := by
    have hmap := map_uniqueNames (f := fun node => (node.link, node.infos)) (fun _ _ => rfl) nodes
    intro node hnode p hp
    have hmem : (node.link, node.infos) ∈ nodes.map fun node => (node.link, node.infos) :=
      hmap ▸ mem_map_of_mem hnode
    obtain ⟨node', hnode', heq⟩ := mem_map.mp hmem
    obtain ⟨hlink, hinfos⟩ := Prod.mk.inj heq
    rw [← hlink]
    exact h.link node' hnode' p (hinfos ▸ hp)
  nodup := by
    rw [map_uniqueNames fun _ _ => rfl]
    exact h.nodup

lemma linked_newServerData (env : TemplateEnv ν) (serverInfos : List (ServerInfo ν)) :
    Linked serverInfos (newServerData env serverInfos).nodes :=
  ((linked_linkedNodes serverInfos).of_perm (env.runtime.mapOrder_perm 2 _)).uniqueNames

/-- How many nodes a group has. -/
lemma length_outboundName2ServerObjs (env : TemplateEnv ν) (serverInfos : List (ServerInfo ν))
    (name : String) :
    ((newServerData env serverInfos).outboundName2ServerObjs name).length =
      serverInfos.countP fun info => info.outboundName = name :=
  ((linked_newServerData env serverInfos).of_perm
    (env.runtime.mapOrder_perm 3 _)).length_serverObjsOf name

/-- A group without a node is not connected. -/
lemma outboundName2ServerObjs_eq_nil {env : TemplateEnv ν} {name : String} :
    (newServerData env serverInfos).outboundName2ServerObjs name = [] ↔
      ∀ info ∈ serverInfos, info.outboundName ≠ name := by
  rw [← length_eq_zero_iff, length_outboundName2ServerObjs]
  simp

end Renaming

/-! ### What the nodes contribute -/

/-- The tag of a connection. -/
def tagOf [ServerObj ν] (data : ServerData ν) (node : LinkedNode ν) (p : ServerInfo ν × ℕ) :
    String :=
  if data.balanced p then groupWrapper (getName node.obj) else p.1.outboundName

section Contributions

variable [Configurable ν] (env : TemplateEnv ν) (data : ServerData ν)

/-- What one node contributes. -/
inductive Contributed : Contribution ν → Prop
  | pure {node : LinkedNode ν} {p : ServerInfo ν × ℕ} {c : Configuration}
      (hnode : node ∈ data.nodes) (hp : p ∈ node.infos) (hbalanced : data.balanced p = false)
      (hc : configure env node.obj p.1.outboundName p.1.pluginPort = .ok c) :
      Contributed
        { tag := p.1.outboundName
          weight := p.2
          outbound := c.coreOutbound
          extraOutbounds := c.extraOutbounds
          indices := [p.2]
          serverInfo := p.1 }
  | shared {node : LinkedNode ν} {first : ServerInfo ν × ℕ} {rest : List (ServerInfo ν × ℕ)}
      {c : Configuration} (hnode : node ∈ data.nodes)
      (hinfos : node.infos.filter data.balanced = first :: rest)
      (hc : configure env node.obj (groupWrapper (getName node.obj)) 0 = .ok c) :
      Contributed
        { tag := groupWrapper (getName node.obj)
          weight := rest.foldl (fun weight p => min weight p.2) first.2
          outbound :=
            { c.coreOutbound with
              balancers := c.coreOutbound.balancers ++
                (first :: rest).map fun p => p.1.outboundName }
          extraOutbounds := c.extraOutbounds
          indices := (first :: rest).map Prod.snd
          serverInfo := first.1 }

variable {env data} {c : Contribution ν} {cs : List (Contribution ν)}

variable {p : ServerInfo ν × ℕ}

lemma pureOutbound_eq_ok {obj : ν} (h : pureOutbound env obj p = .ok c) :
    ∃ conf, configure env obj p.1.outboundName p.1.pluginPort = .ok conf ∧
      c = { tag := p.1.outboundName
            weight := p.2
            outbound := conf.coreOutbound
            extraOutbounds := conf.extraOutbounds
            indices := [p.2]
            serverInfo := p.1 } := by
  unfold pureOutbound at h
  split at h
  · contradiction
  · exact ⟨_, ‹_›, (ok.inj h).symm⟩

variable {node : LinkedNode ν}

lemma mem_resolveNode (hnode : node ∈ data.nodes) (h : resolveNode env data node = .ok cs)
    (hc : c ∈ cs) : Contributed env data c := by
  obtain ⟨pures, hpures, h⟩ := bind_eq_ok_iff.mp h
  obtain ⟨shared, hshared, h⟩ := bind_eq_ok_iff.mp h
  cases h
  rcases mem_append.mp hc with hc | hc
  · obtain ⟨p, hp, hpure⟩ := (mapM_eq_ok_iff.mp hpures).exists_of_mem_right hc
    obtain ⟨conf, hconf, rfl⟩ := pureOutbound_eq_ok hpure
    obtain ⟨hp, hbalanced⟩ := mem_filter.mp hp
    exact .pure hnode hp (by simpa using hbalanced) hconf
  · cases hinfos : node.infos.filter data.balanced with
    | nil =>
      rw [hinfos] at hshared
      cases hshared
      simp at hc
    | cons first rest =>
      rw [hinfos, sharedOutbound] at hshared
      split at hshared
      · contradiction
      · cases hshared
        obtain rfl := mem_singleton.mp hc
        exact .shared hnode hinfos ‹_›

section

variable (h : contributions env data = .ok cs)
include h

lemma contributed_of_mem (hc : c ∈ cs) :
    Contributed env data c := by
  obtain ⟨css, hcss, h⟩ := bind_eq_ok_iff.mp h
  cases h
  obtain ⟨cs, hcs, hc⟩ := mem_flatten.mp hc
  obtain ⟨node, hnode, hresolve⟩ := (mapM_eq_ok_iff.mp hcss).exists_of_mem_right hcs
  exact mem_resolveNode ((Go.Runtime.mem_mapOrder _).mp hnode) hresolve hc

/-- What a node contributes is there if nothing fails. -/
lemma resolveNode_of_contributions
    (hnode : node ∈ data.nodes) :
    ∃ pures shared, (node.infos.filter fun p => ¬data.balanced p).mapM (pureOutbound env node.obj) =
        .ok pures ∧
      sharedOutbound env node.obj (node.infos.filter data.balanced) = .ok shared ∧
      pures ++ shared ⊆ cs := by
  obtain ⟨css, hcss, h⟩ := bind_eq_ok_iff.mp h
  cases h
  obtain ⟨cs, hcs, hresolve⟩ := (mapM_eq_ok_iff.mp hcss).exists_of_mem_left
    ((Go.Runtime.mem_mapOrder _).mpr hnode)
  obtain ⟨pures, hpures, h⟩ := bind_eq_ok_iff.mp hresolve
  obtain ⟨shared, hshared, h⟩ := bind_eq_ok_iff.mp h
  cases h
  exact ⟨pures, shared, hpures, hshared, fun c hc => mem_flatten.mpr ⟨_, hcs, hc⟩⟩

lemma mem_of_contributed (hc : Contributed env data c) :
    c ∈ cs := by
  cases hc with
  | @pure node p conf hnode hp hbalanced hconf =>
    obtain ⟨pures, shared, hpures, -, hcs⟩ := resolveNode_of_contributions h hnode
    obtain ⟨c, hc, hpure⟩ := (mapM_eq_ok_iff.mp hpures).exists_of_mem_left
      (mem_filter.mpr ⟨hp, by simpa using hbalanced⟩)
    rw [pureOutbound, hconf] at hpure
    rw [ok.inj hpure]
    exact hcs (mem_append_left _ hc)
  | shared hnode hinfos hconf =>
    obtain ⟨pures, shared, -, hshared, hcs⟩ := resolveNode_of_contributions h hnode
    simp only [hinfos, sharedOutbound, hconf] at hshared
    cases hshared
    exact hcs (mem_append_right _ mem_cons_self)

/-- The balancers of a node share what it contributes. -/
lemma exists_sharedContribution (hnode : node ∈ data.nodes)
    (hp : p ∈ node.infos) (hbalanced : data.balanced p) :
    ∃ c ∈ cs, c.tag = groupWrapper (getName node.obj) ∧
      (∀ p ∈ node.infos, data.balanced p → p.1.outboundName ∈ c.outbound.balancers) ∧
      (∀ i, i ∈ c.indices ↔ ∃ info, (info, i) ∈ node.infos ∧ data.balanced (info, i)) ∧
      ∃ i, (c.serverInfo, i) ∈ node.infos := by
  obtain ⟨pures, shared, -, hshared, hcs⟩ := resolveNode_of_contributions h hnode
  have hmem (p : ServerInfo ν × ℕ) :
      p ∈ node.infos.filter data.balanced ↔ p ∈ node.infos ∧ data.balanced p = true :=
    mem_filter
  cases hinfos : node.infos.filter data.balanced with
  | nil =>
    rw [hinfos] at hmem
    exact absurd ((hmem p).mpr ⟨hp, hbalanced⟩) not_mem_nil
  | cons first rest =>
    rw [hinfos] at hmem
    rw [hinfos, sharedOutbound] at hshared
    split at hshared
    · contradiction
    · cases hshared
      refine ⟨_, hcs (mem_append_right _ mem_cons_self), rfl, fun p hp hbalanced => ?_,
        fun i => ?_, first.2, ((hmem first).mp mem_cons_self).1⟩
      · exact mem_append_right _ (mem_map.mpr ⟨p, (hmem p).mpr ⟨hp, hbalanced⟩, rfl⟩)
      · rw [mem_map]
        constructor
        · rintro ⟨p, hp, rfl⟩
          exact ⟨p.1, (hmem p).mp hp⟩
        · rintro ⟨info, hinfo⟩
          exact ⟨(info, i), (hmem _).mpr hinfo, rfl⟩

/-- Every connection is served by what its node contributes. -/
lemma exists_contribution (hnode : node ∈ data.nodes)
    (hp : p ∈ node.infos) :
    ∃ c ∈ cs, p.2 ∈ c.indices ∧ c.tag = tagOf data node p ∧
      if data.balanced p then p.1.outboundName ∈ c.outbound.balancers
      else c.outbound.balancers = [] := by
  cases hbalanced : data.balanced p with
  | false =>
    obtain ⟨pures, shared, hpures, -, hcs⟩ := resolveNode_of_contributions h hnode
    obtain ⟨c, hc, hpure⟩ := (mapM_eq_ok_iff.mp hpures).exists_of_mem_left
      (mem_filter.mpr ⟨hp, by simpa using hbalanced⟩)
    obtain ⟨conf, hconf, rfl⟩ := pureOutbound_eq_ok hpure
    refine ⟨_, hcs (mem_append_left _ hc), by simp, by simp [tagOf, hbalanced], ?_⟩
    simpa using (balancers_configuration hconf).1
  | true =>
    obtain ⟨c, hc, htag, hgroups, hindices, -⟩ := exists_sharedContribution h hnode hp hbalanced
    refine ⟨c, hc, (hindices p.2).mpr ⟨p.1, hp, hbalanced⟩, by simp [tagOf, hbalanced, htag], ?_⟩
    exact hgroups p hp hbalanced

end

lemma resolveOutbounds_eq_ok {t t' : Template ν} (h : resolveOutbounds env data t = .ok t') :
    ∃ cs, contributions env data = .ok cs ∧
      t' = { t with
        outbounds := resolvedOutbounds env data t.outbounds cs
        outboundTags := assignTags data.serverInfos.length cs
        serverInfoMap := .ofWrites (cs.map fun c => (c.tag, c.serverInfo)) } := by
  obtain ⟨cs, hcs, h⟩ := bind_eq_ok_iff.mp h
  exact ⟨cs, hcs, (ok.inj h).symm⟩

namespace Contributed

section

variable (h : Contributed env data c)
include h

/-- An outbound has the tag that its node was told. -/
lemma tag_outbound : c.outbound.tag = c.tag := by
  cases h with
  | pure hnode hp hbalanced hc => exact tag_configuration hc
  | shared hnode hinfos hc => exact tag_configuration hc

lemma balancers_extraOutbounds :
    ∀ o ∈ c.extraOutbounds, o.balancers = [] := by
  cases h with
  | pure hnode hp hbalanced hc => exact (balancers_configuration hc).2
  | shared hnode hinfos hc => exact (balancers_configuration hc).2

/-- The balancers of an outbound are groups of its node with several nodes. -/
lemma exists_of_mem_balancers {name : String}
    (hname : name ∈ c.outbound.balancers) :
    ∃ node ∈ data.nodes, ∃ p ∈ node.infos, p.1.outboundName = name ∧ data.balanced p ∧
      p.2 ∈ c.indices ∧ c.tag = groupWrapper (getName node.obj) := by
  cases h with
  | pure hnode hp hbalanced hc => simp [(balancers_configuration hc).1] at hname
  | @shared node first rest conf hnode hinfos hc =>
    simp only [(balancers_configuration hc).1] at hname
    obtain ⟨p, hp, rfl⟩ := mem_map.mp hname
    have hindex := mem_map_of_mem (f := Prod.snd) hp
    rw [← hinfos] at hp
    obtain ⟨hp, hbalanced⟩ := mem_filter.mp hp
    exact ⟨node, hnode, p, hp, rfl, hbalanced, hindex, rfl⟩

/-- An outbound without groups is that of a group with one node. -/
lemma exists_of_balancers_eq_nil (hnil : c.outbound.balancers = []) :
    ∃ node ∈ data.nodes, ∃ p ∈ node.infos, p.1.outboundName = c.tag ∧ data.balanced p = false := by
  cases h with
  | @pure node p conf hnode hp hbalanced hc => exact ⟨node, hnode, p, hp, rfl, hbalanced⟩
  | shared hnode hinfos hc => simp at hnil

/-- The connections of a contribution are connections of one node, which have its tag. -/
lemma exists_node :
    ∃ node ∈ data.nodes, (∃ i, (c.serverInfo, i) ∈ node.infos) ∧
      ∀ i ∈ c.indices, ∃ info, (info, i) ∈ node.infos ∧ c.tag = tagOf data node (info, i) := by
  cases h with
  | @pure node p conf hnode hp hbalanced hc =>
    refine ⟨node, hnode, ⟨p.2, hp⟩, fun i hi => ?_⟩
    obtain rfl := mem_singleton.mp hi
    exact ⟨p.1, hp, by simp [tagOf, hbalanced]⟩
  | @shared node first rest conf hnode hinfos hc =>
    have hmem (p : ServerInfo ν × ℕ) (hp : p ∈ first :: rest) :
        p ∈ node.infos ∧ data.balanced p = true := by
      rw [← hinfos] at hp
      exact mem_filter.mp hp
    refine ⟨node, hnode, ⟨first.2, (hmem first mem_cons_self).1⟩, fun i hi => ?_⟩
    obtain ⟨p, hp, rfl⟩ := mem_map.mp hi
    obtain ⟨hp, hbalanced⟩ := hmem p hp
    exact ⟨p.1, hp, by simp [tagOf, hbalanced]⟩

end

end Contributed

end Contributions

/-! ### The tags of the connections -/

section Tags

variable [Configurable ν] {env : TemplateEnv ν} {serverInfos : List (ServerInfo ν)}
  {cs : List (Contribution ν)} {c : Contribution ν}

/-- The connections of a node are those with its link. -/
lemma Linked.mem_infos {nodes : List (LinkedNode ν)} (h : Linked serverInfos nodes)
    {node : LinkedNode ν} (hnode : node ∈ nodes) {info : ServerInfo ν} {i : ℕ} :
    (info, i) ∈ node.infos ↔ serverInfos[i]? = some info ∧ exportToURL info.info = node.link := by
  constructor
  · intro hp
    exact ⟨mem_zipIdx_iff_getElem?.mp (h.mem_zipIdx hnode hp), h.link node hnode _ hp⟩
  · rintro ⟨hget, hlink⟩
    obtain ⟨node', hnode', hp⟩ := h.exists_node (mk_mem_zipIdx_iff_getElem?.mpr hget)
    have hsame : node' = node :=
      inj_on_of_nodup_map h.nodup hnode' hnode ((h.link node' hnode' _ hp).symm.trans hlink)
    exact hsame ▸ hp

omit [Configurable ν] in
lemma assignTags_eq (count : ℕ) (cs : List (Contribution ν)) :
    assignTags count cs = (cs.flatMap fun c => c.indices.map (·, c.tag)).foldl
      (fun tags w => tags.set w.1 w.2) (List.replicate count "") := by
  rw [foldl_flatMap]
  simp only [foldl_map]
  rfl

omit [Configurable ν] in
@[simp]
lemma length_assignTags (count : ℕ) (cs : List (Contribution ν)) :
    (assignTags count cs).length = count := by
  rw [assignTags_eq]
  refine foldlRecOn (motive := fun tags : List String => tags.length = count)
    _ _ (by simp) ?_
  intro tags htags w _
  simpa using htags

/-- The positions that a contribution with a tag of its own gives its tag to. -/
lemma getElem?_assignTags (hcs : contributions env (newServerData env serverInfos) = .ok cs)
    (hnodup : (cs.map Contribution.tag).Nodup) (hc : c ∈ cs) {i : ℕ} :
    (assignTags serverInfos.length cs)[i]? = some c.tag ↔ i ∈ c.indices := by
  have hlinked := linked_newServerData env serverInfos
  have hset {c : Contribution ν} (hc : c ∈ cs) {i : ℕ} (hi : i ∈ c.indices) :
      (assignTags serverInfos.length cs)[i]? = some c.tag := by
    obtain ⟨node, hnode, -, hindices⟩ := (contributed_of_mem hcs hc).exists_node
    obtain ⟨info, hp, htag⟩ := hindices i hi
    have hget := (hlinked.mem_infos hnode).mp hp
    rw [assignTags_eq]
    refine getElem?_foldl_set ?_ ?_ (.inr ⟨(i, c.tag), ?_, rfl⟩)
    · simpa using (List.getElem?_eq_some_iff.mp hget.1).1
    · -- All assignments to the position come from the one node that is connected there.
      rintro ⟨j, tag⟩ hw rfl
      obtain ⟨c', hc', hw⟩ := mem_flatMap.mp hw
      obtain ⟨_, hi', hpair⟩ := mem_map.mp hw
      cases hpair
      obtain ⟨node', hnode', -, hindices'⟩ := (contributed_of_mem hcs hc').exists_node
      obtain ⟨info', hp', htag'⟩ := hindices' _ hi'
      have hinfo : info' = info :=
        Option.some.inj (((hlinked.mem_infos hnode').mp hp').1.symm.trans hget.1)
      rw [hinfo] at hp' htag'
      obtain rfl := hlinked.node_unique hnode hnode' hp hp'
      exact htag'.trans htag.symm
    · exact mem_flatMap.mpr ⟨c, hc, mem_map_of_mem hi⟩
  refine ⟨fun hget => ?_, hset hc⟩
  have hlt : i < serverInfos.length := by
    simpa using (List.getElem?_eq_some_iff.mp hget).1
  obtain ⟨node, hnode, hp⟩ := hlinked.exists_node
    (mk_mem_zipIdx_iff_getElem?.mpr (getElem?_eq_getElem hlt))
  obtain ⟨c', hc', hi, -, -⟩ := exists_contribution hcs hnode hp
  have htag : c'.tag = c.tag := Option.some.inj ((hset hc' hi).symm.trans hget)
  rwa [← inj_on_of_nodup_map hnodup hc' hc htag]

end Tags

/-! ### The outbounds of a template -/

section Resolved

variable {env : TemplateEnv ν} {data : ServerData ν} {cs : List (Contribution ν)}
  {o : OutboundObject}

variable {outbounds : List OutboundObject}

lemma mem_addBlackhole {name : String} :
    o ∈ addBlackhole env data outbounds name ↔ o ∈ outbounds ∨
      (env.store.getOutboundSetting name).FailClosed ∧
        data.outboundName2ServerObjs name = [] ∧ o = blackhole name := by
  unfold addBlackhole
  simp
  split_ifs with h hname
  · simp [h, or_comm]
  · simp [h]
  · tauto

lemma mem_foldl_addBlackhole {names : List String} :
    o ∈ names.foldl (addBlackhole env data) outbounds ↔ o ∈ outbounds ∨
      ∃ name ∈ names, (env.store.getOutboundSetting name).FailClosed ∧
        data.outboundName2ServerObjs name = [] ∧ o = blackhole name := by
  induction names generalizing outbounds with
  | nil => simp
  | cons name names ih =>
    rw [foldl_cons, ih, mem_addBlackhole]
    simp [or_assoc]

/-- The outbounds of a template. -/
lemma mem_resolvedOutbounds :
    o ∈ resolvedOutbounds env data [] cs ↔ (∃ c ∈ cs, o = c.outbound) ∨
      (∃ name ∈ env.store.getOutbounds, (env.store.getOutboundSetting name).FailClosed ∧
        data.outboundName2ServerObjs name = [] ∧ o = blackhole name) ∨
      o = directOutbound ∨ o = blackhole "block" ∨ ∃ c ∈ cs, o ∈ c.extraOutbounds := by
  unfold resolvedOutbounds
  simp only [mem_append, mem_foldl_addBlackhole, nil_append, mem_map,
    Go.Runtime.mem_sort, mem_flatMap, mem_cons, not_mem_nil, or_false, or_assoc,
    eq_comm]

end Resolved

section Sockopt

variable (env : TemplateEnv ν) (setting : Setting) (o : OutboundObject)

/-- The options of a socket do not change what an outbound is. -/
lemma setSockopt_frame : (setSockopt env setting o).tag = o.tag ∧
    (setSockopt env setting o).protocol = o.protocol ∧
    (setSockopt env setting o).balancers = o.balancers := by
  unfold setSockopt checkAndSetMark
  split_ifs <;> exact ⟨rfl, rfl, rfl⟩

@[simp]
lemma setSockopt_blackhole (name : String) :
    setSockopt env setting (blackhole name) = blackhole name := by
  simp [setSockopt, blackhole]

end Sockopt

end V2rayA

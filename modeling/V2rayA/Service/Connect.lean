import V2rayA.Service.World

/-!
# Connecting nodes to groups

`Connect`, `Disconnect` and `ReplaceOutboundConnections` edit the members of one group and
have the core apply the change. When the core cannot, the members are restored, each operation
in its own way: `Connect` restores them in any case, `Disconnect` only while a core is still
running, and a replacement only if it was running before.

`Connect` looks a node up before it stores a reference to it. A replacement checks the types
and the signs of its touches, and leaves the rest to the core.
-/

namespace V2rayA

open List

variable {ν : Type}

/-- The members of an automatic group cannot be edited. -/
def automaticGroup (outbound : String) : Go.Error where
  text := "group " ++ Go.quote outbound ++
    " manages its membership automatically; turn automatic membership off before editing it"

/-- Store the members `backup` of a group again. -/
def restoreConnects (outbound : String) (backup : Option (List NodeRef)) (s : Store ν) :
    Store ν :=
  if (backup.getD []).length > 0 then s.overwriteConnects (backup.getD [])
  else s.clearConnects outbound

/-- Store the references of a replacement, in one write. -/
def replaceConnects (outbound : String) (normalized : List NodeRef) (s : Store ν) : Store ν :=
  if normalized.length = 0 then s.clearConnects outbound else s.overwriteConnects normalized

/-- Remove a node from its group, or all nodes. -/
def removeFromGroup (which : NodeRef) (clearOutbound : Bool) (s : Store ν) :
    Except Go.Error (Store ν) :=
  if clearOutbound then .ok (s.clearConnects which.outbound) else s.removeConnect which

/-- Add the reference of a touch to those of the touches before it, unless it is there. -/
def addTouch (outbound : String) (normalized : List NodeRef) (wt : NodeRef) (sub : ℤ) :
    List NodeRef :=
  -- All references of the list are to one group.
  if normalized.any fun v => v.type = wt.type ∧ v.id = wt.id ∧ v.sub = sub then normalized
  else normalized ++ [{ wt with sub, outbound }]

/-- One iteration of the loop over the touches of a replacement. -/
def normalizeTouch (outbound : String) (normalized : List NodeRef) (touch : NodeRef × ℕ) :
    Except Go.Error (List NodeRef) :=
  let (wt, i) := touch
  if wt.id ≤ 0 then .error { text := s!"invalid touch id at index {i}: {wt.id}" }
  else
    match wt.type with
    | .server => .ok (addTouch outbound normalized wt 0)
    | .subscriptionServer =>
      if wt.sub < 0 then .error { text := s!"invalid subscription index at index {i}: {wt.sub}" }
      else .ok (addTouch outbound normalized wt wt.sub)
    | type => .error { text := s!"invalid touch type at index {i}: " ++ Go.quote type.text }

/-- The members that the touches of a replacement stand for, each of them once. -/
def normalizeTouches (outbound : String) (touches : List NodeRef) :
    Except Go.Error (List NodeRef) :=
  touches.zipIdx.foldlM (normalizeTouch outbound) []

/-- The group that a name stands for. -/
def groupOf (outbound : String) : String :=
  if outbound = "" then defaultOutboundName else outbound

variable {outbound : String}

/-- Writing the previous members again undoes what happened to the group, and nothing else. -/
lemma members_restoreConnects {s s' : Store ν}
    (hfiled : ∀ w ∈ s.members (groupOf outbound), w.outbound = groupOf outbound) (out : String) :
    (restoreConnects outbound (s.getConnectedServersByOutbound outbound) s').members out =
      if out = groupOf outbound then s.members out else s'.members out := by
  have hbackup : (s.getConnectedServersByOutbound outbound).getD [] =
      s.members (groupOf outbound) := rfl
  have hclear : s'.clearConnects outbound = s'.setConnects (groupOf outbound) [] := rfl
  unfold restoreConnects
  rw [hbackup, hclear]
  split_ifs with hlength hout hout
  · rw [s'.members_overwriteConnects_of_forall (length_pos_iff.mp hlength) hfiled,
      if_pos hout, hout]
  · rw [s'.members_overwriteConnects_of_forall (length_pos_iff.mp hlength) hfiled,
      if_neg hout]
  · rw [Store.members_setConnects, if_pos hout, hout]
    exact (eq_nil_of_length_eq_zero (by omega)).symm
  · rw [Store.members_setConnects, if_neg hout]

/-- A replacement writes the members of one group. -/
lemma members_replaceConnects {s : Store ν} (hne : outbound ≠ "") {refs : List NodeRef}
    (hrefs : ∀ r ∈ refs, r.outbound = outbound) (out : String) :
    (replaceConnects outbound refs s).members out =
      if out = outbound then refs else s.members out := by
  unfold replaceConnects
  split_ifs with hnil hout hout
  · rw [Store.members_clearConnects hne, if_pos hout, eq_nil_of_length_eq_zero hnil]
  · rw [Store.members_clearConnects hne, if_neg hout]
  all_goals
    rw [s.members_overwriteConnects_of_forall (fun h => hnil (by rw [h]; rfl)) hrefs]
    simp [hout]

/-- A replacement stores references to its own group. -/
lemma outbound_of_normalizeTouches {touches refs : List NodeRef}
    (h : normalizeTouches outbound touches = .ok refs) : ∀ r ∈ refs, r.outbound = outbound := by
  refine Except.invariant_foldlM (P := fun refs => ∀ r ∈ refs, r.outbound = outbound) h (by simp) ?_
  rintro ⟨wt, i⟩ - acc acc' hacc hstep
  have hadd (sub : ℤ) : ∀ r ∈ addTouch outbound acc wt sub, r.outbound = outbound := by
    unfold addTouch
    split_ifs
    · exact hacc
    · exact forall_mem_append.mpr ⟨hacc, forall_mem_singleton.mpr rfl⟩
  unfold normalizeTouch at hstep
  dsimp only at hstep
  split at hstep
  · contradiction
  · split at hstep
    · exact Except.ok.inj hstep ▸ hadd 0
    · split at hstep
      · contradiction
      · exact Except.ok.inj hstep ▸ hadd wt.sub
    · contradiction

variable [ServerObj ν]

/-- `Connect`: add a node to its group and start the core, or restart it. `support` is what
`checkSupport` says about the assets of the core. -/
def connect (which : Option NodeRef) (support : Option Go.Error) : Go.Op (World ν) := fun w =>
  let fail (e : Go.Error) := some (e.wrap "failed to connect")
  match which with
  | none => (fail { text := "no server was given to connect to" }, w)
  | some which =>
    let which := Store.normalizeOutbound which
    if (w.store.getOutboundSetting which.outbound).autoAdd then
      (fail (automaticGroup which.outbound), w)
    else
      match w.store.locate which, support with
      | .error e, _ => (fail e, w)
      | .ok _, some e => (fail e, w)
      | .ok _, none =>
        let currentConnected := w.store.getConnectedServersByOutbound which.outbound
        match World.updateV2RayConfig { w with store := w.store.addConnect which } with
        | (none, w) => (none, w)
        | (some e, w) =>
          let w := { w with store := restoreConnects which.outbound currentConnected w.store }
          (fail e, if w.running then (World.updateV2RayConfig w).2 else w)

/-- `Disconnect`: remove a node from its group, or all nodes, and reload a running core. -/
def disconnect (which : NodeRef) (clearOutbound : Bool) : Go.Op (World ν) := fun w =>
  let fail (e : Go.Error) := some (e.wrap "failed to disconnect")
  let which := Store.normalizeOutbound which
  if (w.store.getOutboundSetting which.outbound).autoAdd then
    (some (automaticGroup which.outbound), w)
  else
    let lastConnected := w.store.getConnectedServersByOutbound which.outbound
    match removeFromGroup which clearOutbound w.store with
    | .error e => (fail e, w)
    | .ok store =>
      let w := { w with store }
      if w.running then
        match World.updateV2RayConfig w, lastConnected with
        | (none, w), _ => (none, w)
        | (some e, w), none => (fail e, w)
        | (some e, w), some ws =>
          -- A core that has gone down stays down, and the node stays disconnected.
          (fail e, if w.running then
              (World.updateV2RayConfig { w with store := w.store.overwriteConnects ws }).2
            else w)
      else (none, w)

/-- `replaceOutboundConnections`: replace the members of a group and reload a running core.
`managed` is set by the worker, which edits automatic groups and no others. -/
def replaceOutboundConnections (outbound : String) (touches : List NodeRef) (managed : Bool) :
    Go.Op (World ν) := fun w =>
  let fail (e : Go.Error) := some (e.wrap "failed to replace outbound connections")
  let outbound := if outbound = "" then "proxy" else outbound
  if (w.store.getOutboundSetting outbound).autoAdd ≠ managed then
    if managed then
      (fail { text := "group " ++ Go.quote outbound ++ " is no longer automatic" }, w)
    else (fail (automaticGroup outbound), w)
  else
    match normalizeTouches outbound touches with
    | .error e => (fail e, w)
    | .ok normalized =>
      let backup := w.store.getConnectedServersByOutbound outbound
      let w := { w with store := replaceConnects outbound normalized w.store }
      if w.running then
        match World.updateGroupConfig w with
        | (none, w) => (none, w)
        | (some e, w) =>
          let w := { w with store := restoreConnects outbound backup w.store }
          (fail e, (World.updateGroupConfig w).2)
      else (none, w)

end V2rayA

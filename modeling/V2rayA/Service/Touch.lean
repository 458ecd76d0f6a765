import V2rayA.Kernel.Socks
import V2rayA.Service.World

/-!
# Deleting catalog entries

`DeleteWhich` deletes the touched servers and subscriptions and renumbers the connected
references. A reference is dropped or moved down touch by touch, while the catalog loses all
touched entries at once; the two agree when the touches of each type come in strictly
decreasing order. The touches are brought into that order by `GetNonDuplicated`, which tells
touches apart by the whole reference, and by `SortSameTypeReverse`, which compares
subscriptions by `Sub` before `ID`. Both look at fields of a touch that the deletion ignores.

* `foldl_deleteStep`: the loop in terms of `Renumbering.renumber`.
* `TouchesOrdered`: the touch lists whose ignored fields do no harm.
* `deleteWhich_consistent_iff`: these are the touch lists for which deletion keeps references
  and catalog consistent in every store.
-/

namespace V2rayA

open List Store

open Renumbering

/-! ### The operation -/

/-- What the deletion of the subscription at index `ind` does to a connected reference. -/
def forgetSubscription (ind : ℤ) (cs : NodeRef) : Option NodeRef :=
  if cs.type = .subscriptionServer then
    if ind = cs.sub then none
    else if ind < cs.sub then some { cs with sub := cs.sub - 1 }
    else some cs
  else some cs

/-- What the deletion of the server with the ordinal `id` does to a connected reference. -/
def forgetServer (id : ℤ) (cs : NodeRef) : Option NodeRef :=
  if cs.type = .server then
    if id = cs.id then none
    else if id < cs.id then some { cs with id := cs.id - 1 }
    else some cs
  else some cs

/-- The variables of the loop in `DeleteWhich`. -/
structure DeleteState where
  cssAfter : List NodeRef
  subscriptionsIndexes : List ℤ
  serversIndexes : List ℤ

/-- One iteration of the loop in `DeleteWhich`. -/
def deleteStep (s : DeleteState) (v : Which) : DeleteState :=
  let ind := v.id - 1
  match v.type with
  | .subscription =>
    { s with
      cssAfter := Go.editDown (forgetSubscription ind) s.cssAfter
      subscriptionsIndexes := s.subscriptionsIndexes ++ [ind] }
  | .server =>
    { s with
      cssAfter := Go.editDown (forgetServer v.id) s.cssAfter
      serversIndexes := s.serversIndexes ++ [ind] }
  -- A server of a subscription cannot be deleted by itself.
  | .subscriptionServer => s
  | .other _ => s

variable {ν : Type}

/-- The touches in the order in which `DeleteWhich` processes them. -/
def deletionOrder (rt : Go.Runtime) (ws : List Which) (s : Store ν) : List Which :=
  Whiches.sortSameTypeReverse rt (s.getNonDuplicated rt ws)

/-- The store after `RemoveNodes`. -/
def deleteFromStore (rt : Go.Runtime) (ws : List Which) (s : Store ν) : Store ν :=
  let final := (deletionOrder rt ws s).foldl deleteStep
    { cssAfter := s.getConnectedServers, subscriptionsIndexes := [], serversIndexes := [] }
  s.removeNodes final.subscriptionsIndexes final.serversIndexes final.cssAfter

/-- `DeleteWhich`: delete the touched entries and renumber the references, then reload a
running core. -/
def deleteWhich [ServerObj ν] (rt : Go.Runtime) (ws : List Which) : Go.Op (World ν) := fun w =>
  let w := { w with store := deleteFromStore rt ws w.store }
  if w.running then World.updateGroupConfig w else (none, w)

@[simp]
lemma store_deleteWhich [ServerObj ν] (rt : Go.Runtime) (ws : List Which) (w : World ν) :
    (deleteWhich rt ws w).2.store = deleteFromStore rt ws w.store := by
  unfold deleteWhich
  dsimp only
  split_ifs <;> simp

/-! ### The loop as a renumbering -/

/-- The ordinals of the servers that a list of touches deletes. -/
def serverIDs (touches : List Which) : List ℤ :=
  (touches.filter (·.type = .server)).map (·.id)

/-- The indexes of the subscriptions that a list of touches deletes. -/
def subscriptionIndexes (touches : List Which) : List ℤ :=
  (touches.filter (·.type = .subscription)).map (·.id - 1)

/-- The effect of a list of touches on a connected reference. -/
def renumberRef (touches : List Which) (r : NodeRef) : Option NodeRef :=
  match r.type with
  | .server => (renumber (serverIDs touches) r.id).map fun id => { r with id }
  | .subscriptionServer =>
    (renumber (subscriptionIndexes touches) r.sub).map fun sub => { r with sub }
  | _ => some r

lemma forgetServer_eq (id : ℤ) (r : NodeRef) :
    forgetServer id r =
      if r.type = .server then (dropShift id r.id).map fun id => { r with id } else some r := by
  unfold forgetServer dropShift
  split_ifs <;> rfl

lemma forgetSubscription_eq (ind : ℤ) (r : NodeRef) :
    forgetSubscription ind r =
      if r.type = .subscriptionServer then (dropShift ind r.sub).map fun sub => { r with sub }
      else some r := by
  unfold forgetSubscription dropShift
  split_ifs <;> rfl

/-- A touch of a server acts on the references to servers. -/
private lemma renumberRef_cons_server {v : Which} (hv : v.type = .server)
    (touches : List Which) (r : NodeRef) :
    renumberRef (v :: touches) r = (forgetServer v.id r).bind (renumberRef touches) := by
  rw [forgetServer_eq]
  obtain ⟨type, id, sub, outbound⟩ := r
  cases type with
  | server =>
    simp only [renumberRef, serverIDs, hv, filter_cons, decide_true, if_true,
      map_cons, renumber_cons]
    cases dropShift v.id id <;> rfl
  | subscriptionServer => simp [renumberRef, subscriptionIndexes, hv]
  | subscription => rfl
  | other raw => rfl

/-- A touch of a subscription acts on the references to its servers and to those behind it. -/
private lemma renumberRef_cons_subscription {v : Which} (hv : v.type = .subscription)
    (touches : List Which) (r : NodeRef) :
    renumberRef (v :: touches) r =
      (forgetSubscription (v.id - 1) r).bind (renumberRef touches) := by
  rw [forgetSubscription_eq]
  obtain ⟨type, id, sub, outbound⟩ := r
  cases type with
  | subscriptionServer =>
    simp only [renumberRef, subscriptionIndexes, hv, filter_cons, decide_true, if_true,
      map_cons, renumber_cons]
    cases dropShift (v.id - 1) sub <;> rfl
  | server => simp [renumberRef, serverIDs, hv]
  | subscription => rfl
  | other raw => rfl

/-- The loop of `DeleteWhich` renumbers every reference and collects the indexes to delete. -/
lemma foldl_deleteStep (touches : List Which) (s : DeleteState) :
    touches.foldl deleteStep s =
      { cssAfter := s.cssAfter.filterMap (renumberRef touches)
        subscriptionsIndexes := s.subscriptionsIndexes ++ subscriptionIndexes touches
        serversIndexes := s.serversIndexes ++ (serverIDs touches).map (· - 1) } := by
  induction touches generalizing s with
  | nil =>
    have hid : renumberRef [] = some := by
      funext r
      obtain ⟨type, id, sub, outbound⟩ := r
      cases type <;> rfl
    simp [hid, subscriptionIndexes, serverIDs]
  | cons v touches ih =>
    rw [foldl_cons, ih]
    cases hv : v.type with
    | server =>
      have hcons := renumberRef_cons_server hv touches
      simp only [deleteStep, hv, Go.editDown_eq_filterMap, filterMap_filterMap]
      simp [serverIDs, subscriptionIndexes, hv, ← hcons]
    | subscription =>
      have hcons := renumberRef_cons_subscription hv touches
      simp only [deleteStep, hv, Go.editDown_eq_filterMap, filterMap_filterMap]
      simp [serverIDs, subscriptionIndexes, hv, ← hcons]
    | subscriptionServer | other raw =>
      have hcons : renumberRef (v :: touches) = renumberRef touches := by
        funext r
        simp [renumberRef, serverIDs, subscriptionIndexes, hv]
      simp [deleteStep, serverIDs, subscriptionIndexes, hv, hcons]

/-! ### The order of the touches -/

/-- A touch list whose `Sub` and `Outbound` fields do no harm: two touches of one entry agree
in all fields, and a subscription with a larger ordinal does not have a smaller `Sub`. -/
structure TouchesOrdered (ws : List Which) : Prop where
  server_unique : ∀ u ∈ ws, ∀ v ∈ ws, u.type = .server → v.type = .server →
    u.id = v.id → u.toNodeRef = v.toNodeRef
  subscription_unique : ∀ u ∈ ws, ∀ v ∈ ws, u.type = .subscription → v.type = .subscription →
    u.id = v.id → u.toNodeRef = v.toNodeRef
  subscription_sub_le : ∀ u ∈ ws, ∀ v ∈ ws, u.type = .subscription → v.type = .subscription →
    u.id < v.id → u.sub ≤ v.sub

/-- The part of `TouchesOrdered` that is about subscriptions. -/
def SubscriptionTouchesOrdered (ws : List Which) : Prop :=
  ∀ u ∈ ws, ∀ v ∈ ws, u.type = .subscription → v.type = .subscription →
    (u.id = v.id → u.toNodeRef = v.toNodeRef) ∧ (u.id < v.id → u.sub ≤ v.sub)

section Order

variable {s : Store ν} (rt : Go.Runtime) {ws : List Which}

lemma known_of_inRange {r : NodeRef} (h : s.inRange r) : r.type.Known := by
  obtain ⟨type, id, sub, outbound⟩ := r
  cases type <;> simp_all [inRange, TouchType.Known]

private lemma known_getNonDuplicated :
    ∀ w ∈ s.getNonDuplicated rt ws, w.type.Known := by
  intro w hw
  obtain ⟨v, -, hrange, hv⟩ := (s.exists_mem_getNonDuplicated_iff rt ws w.toNodeRef).mp
    ⟨w, hw, rfl⟩
  have hknown := known_of_inRange hrange
  rwa [hv] at hknown

lemma deletionOrder_perm :
    (deletionOrder rt ws s).Perm (s.getNonDuplicated rt ws) :=
  Whiches.sortSameTypeReverse_perm rt (known_getNonDuplicated rt)

/-- Touches of one type are processed from the last to the first. -/
lemma deletionOrder_not_less : (deletionOrder rt ws s).Pairwise fun a b =>
    a.type = b.type → Whiches.less a b = false := by
  refine (Whiches.sortSameTypeReverse_pairwise rt (known_getNonDuplicated rt)).imp ?_
  rintro a b (hrank | ⟨-, hless⟩) htype
  · exact absurd (htype ▸ hrank) (lt_irrefl _)
  · exact hless

/-- No reference is processed twice. -/
lemma deletionOrder_pairwise_ne :
    (deletionOrder rt ws s).Pairwise fun a b => a.toNodeRef ≠ b.toNodeRef := by
  have hnodup := ((deletionOrder_perm rt).map Which.toNodeRef).nodup_iff.mpr
    (s.nodup_getNonDuplicated rt ws)
  exact pairwise_map.mp hnodup

section

variable (hws : ∀ w ∈ ws, s.inRange w.toNodeRef)
include hws

/-- When all touches are in range, their references are those that are processed. -/
lemma exists_mem_deletionOrder_iff (r : NodeRef) :
    (∃ w ∈ deletionOrder rt ws s, w.toNodeRef = r) ↔ ∃ w ∈ ws, w.toNodeRef = r := by
  have hperm : ∀ w, w ∈ deletionOrder rt ws s ↔ w ∈ s.getNonDuplicated rt ws := fun w =>
    (deletionOrder_perm rt).mem_iff
  simp only [hperm, s.exists_mem_getNonDuplicated_iff]
  constructor
  · rintro ⟨w, hw, -, rfl⟩
    exact ⟨w, hw, rfl⟩
  · rintro ⟨w, hw, rfl⟩
    exact ⟨w, hw, hws w hw, rfl⟩

/-- A property of references holds of the processed touches if it holds of the given ones. -/
private lemma forall_mem_deletionOrder_iff {P : NodeRef → Prop} :
    (∀ w ∈ deletionOrder rt ws s, P w.toNodeRef) ↔ ∀ w ∈ ws, P w.toNodeRef := by
  refine forall_mem_map.symm.trans (.trans ?_ forall_mem_map)
  refine forall_congr' fun r => imp_congr_left ?_
  simpa using exists_mem_deletionOrder_iff rt hws r

private lemma exists_deletionOrder_iff {P : NodeRef → Prop} :
    (∃ w ∈ deletionOrder rt ws s, P w.toNodeRef) ↔ ∃ w ∈ ws, P w.toNodeRef := by
  simpa using not_congr (forall_mem_deletionOrder_iff rt hws (P := fun r => ¬P r))

lemma mem_serverIDs_iff {x : ℤ} :
    x ∈ serverIDs (deletionOrder rt ws s) ↔ ∃ w ∈ ws, w.type = .server ∧ w.id = x := by
  rw [← exists_deletionOrder_iff rt hws (P := fun r => r.type = .server ∧ r.id = x)]
  simp [serverIDs, and_assoc]

lemma mem_subscriptionIndexes_iff {x : ℤ} :
    x ∈ subscriptionIndexes (deletionOrder rt ws s) ↔
      ∃ w ∈ ws, w.type = .subscription ∧ w.id = x + 1 := by
  rw [← exists_deletionOrder_iff rt hws
    (P := fun r => r.type = .subscription ∧ r.id = x + 1)]
  simp [subscriptionIndexes, and_assoc, sub_eq_iff_eq_add]

private lemma forall_deletionOrder_iff {P : NodeRef → NodeRef → Prop} :
    (∀ u ∈ deletionOrder rt ws s, ∀ v ∈ deletionOrder rt ws s, P u.toNodeRef v.toNodeRef) ↔
      ∀ u ∈ ws, ∀ v ∈ ws, P u.toNodeRef v.toNodeRef := by
  rw [forall_mem_deletionOrder_iff rt hws
    (P := fun r => ∀ v ∈ deletionOrder rt ws s, P r v.toNodeRef)]
  exact forall₂_congr fun u _ => forall_mem_deletionOrder_iff rt hws

/-- The ordinals of the deleted servers come in strictly decreasing order unless one server
is touched in two ways. -/
lemma pairwise_serverIDs_iff :
    (serverIDs (deletionOrder rt ws s)).Pairwise (· > ·) ↔
      ∀ u ∈ ws, ∀ v ∈ ws, u.type = .server → v.type = .server →
        u.id = v.id → u.toNodeRef = v.toNodeRef := by
  rw [serverIDs, pairwise_map, pairwise_filter,
    ← forall_deletionOrder_iff rt hws
      (P := fun u v => u.type = .server → v.type = .server → u.id = v.id → u = v)]
  simp
  constructor
  · intro h u hu v hv hut hvt hid
    by_contra hne
    have hdiff := h.imp (S := fun a b => a.type = .server → b.type = .server → a.id ≠ b.id)
      fun {a b} hab ha hb => (hab ha hb).ne'
    have hsymm : Std.Symm fun a b : Which =>
        a.type = .server → b.type = .server → a.id ≠ b.id :=
      ⟨fun a b hab hb ha => (hab ha hb).symm⟩
    exact hdiff.forall hu hv (fun h => hne (by rw [h])) hut hvt hid
  · intro h
    refine ((deletionOrder_not_less rt).and (deletionOrder_pairwise_ne rt)).imp_of_mem ?_
    rintro a b ha hb ⟨hless, hne⟩ hat hbt
    have hle : b.id ≤ a.id := by simpa [Whiches.less, hat, hbt] using hless (hat.trans hbt.symm)
    have hid : a.id ≠ b.id := fun hid => hne (h a ha b hb hat hbt hid)
    omega

end

/-- The ordinals of the deleted servers never increase. -/
lemma pairwise_ge_serverIDs : (serverIDs (deletionOrder rt ws s)).Pairwise (· ≥ ·) := by
  rw [serverIDs, pairwise_map, pairwise_filter]
  refine (deletionOrder_not_less rt).imp fun {a b} hless hat hbt => ?_
  rw [decide_eq_true_eq] at hat hbt
  simpa [Whiches.less, hat, hbt] using hless (hat.trans hbt.symm)

/-- The indexes of the deleted subscriptions come in strictly decreasing order unless one
subscription is touched in two ways or the `Sub` fields contradict the ordinals. -/
lemma pairwise_subscriptionIndexes_iff (hws : ∀ w ∈ ws, s.inRange w.toNodeRef) :
    (subscriptionIndexes (deletionOrder rt ws s)).Pairwise (· > ·) ↔
      SubscriptionTouchesOrdered ws := by
  rw [SubscriptionTouchesOrdered, subscriptionIndexes, pairwise_map, pairwise_filter,
    ← forall_deletionOrder_iff rt hws
      (P := fun u v => u.type = .subscription → v.type = .subscription →
        (u.id = v.id → u = v) ∧ (u.id < v.id → u.sub ≤ v.sub))]
  simp
  constructor
  · intro h u hu v hv hut hvt
    let Agree (a b : Which) : Prop := a.type = .subscription → b.type = .subscription →
      a.id ≠ b.id ∧ (a.id < b.id → a.sub ≤ b.sub) ∧ (b.id < a.id → b.sub ≤ a.sub)
    have hagree : (deletionOrder rt ws s).Pairwise Agree := by
      refine ((deletionOrder_not_less rt).and h).imp ?_
      rintro a b ⟨hless, hgt⟩ hat hbt
      have hid := hgt hat hbt
      have hsub : b.sub ≤ a.sub := by
        by_contra hlt
        have hne : a.sub ≠ b.sub := by omega
        simp [Whiches.less, hat, hbt, hne] at hless
        omega
      exact ⟨by omega, by omega, fun _ => hsub⟩
    have hsymm : Std.Symm Agree := ⟨fun a b hab hb ha =>
      ⟨(hab ha hb).1.symm, (hab ha hb).2.2, (hab ha hb).2.1⟩⟩
    by_cases huv : u = v
    · subst huv
      exact ⟨fun _ => rfl, fun hlt => absurd hlt (lt_irrefl _)⟩
    · have := hagree.forall hu hv huv hut hvt
      exact ⟨fun hid => absurd hid this.1, this.2.1⟩
  · intro h
    refine ((deletionOrder_not_less rt).and (deletionOrder_pairwise_ne rt)).imp_of_mem ?_
    rintro a b ha hb ⟨hless, hne⟩ hat hbt
    obtain ⟨huniq, hsub⟩ := h a ha b hb hat hbt
    have hid : a.id ≠ b.id := fun hid => hne (huniq hid)
    by_cases hsubeq : a.sub = b.sub
    · have hle : b.id ≤ a.id := by simpa [Whiches.less, hat, hbt, hsubeq] using hless
      omega
    · have hle : b.sub ≤ a.sub := by simpa [Whiches.less, hat, hbt, hsubeq] using hless
      omega

end Order

/-! ### References and catalog after a deletion -/

/-- The touches `ws` delete the node of a reference. -/
def Deleted (ws : List Which) (r : NodeRef) : Prop :=
  match r.type with
  | .server => ∃ w ∈ ws, w.type = .server ∧ w.id = r.id
  | .subscriptionServer => ∃ w ∈ ws, w.type = .subscription ∧ w.id = r.sub + 1
  | _ => False

instance (ws : List Which) : DecidablePred (Deleted ws)
  | ⟨.server, id, _, _⟩ =>
    inferInstanceAs (Decidable (∃ w ∈ ws, w.type = .server ∧ w.id = id))
  | ⟨.subscriptionServer, _, sub, _⟩ =>
    inferInstanceAs (Decidable (∃ w ∈ ws, w.type = .subscription ∧ w.id = sub + 1))
  | ⟨.subscription, _, _, _⟩ => inferInstanceAs (Decidable False)
  | ⟨.other _, _, _, _⟩ => inferInstanceAs (Decidable False)

/-- `r'` is the reference `r` after a change from the store `s` to `s'`: it has the type and
the group of `r` and resolves to the same node. -/
def SameNode (s s' : Store ν) (r r' : NodeRef) : Prop :=
  r'.type = r.type ∧ r'.outbound = r.outbound ∧
    ∃ sr, s.locate r = .ok sr ∧ s'.locate r' = .ok sr

/-- References and catalog after the touches `ws` have been deleted from `s`. -/
structure DeletionConsistent (ws : List Which) (s s' : Store ν) : Prop where
  /-- The catalog has lost the touched servers and no others. -/
  servers : s'.servers = s.servers.removeIdxs fun i => ∃ w ∈ ws, w.type = .server ∧ w.id = i + 1
  /-- The catalog has lost the touched subscriptions and no others. -/
  subscriptions : s'.subscriptions =
    s.subscriptions.removeIdxs fun i => ∃ w ∈ ws, w.type = .subscription ∧ w.id = i + 1
  /-- The groups are the same. -/
  outbounds : s'.getOutbounds = s.getOutbounds
  /-- The members of each group are those whose nodes were not deleted, in their order, and
  each still refers to its node. -/
  members : ∀ outbound ∈ s.getOutbounds,
    List.Forall₂ (SameNode s s') ((s.members outbound).filter fun r => ¬Deleted ws r)
      (s'.members outbound)

section Consistency

variable {s : Store ν} (rt : Go.Runtime) {ws : List Which}

/-- The store after a deletion in terms of the processed touches. -/
lemma deleteFromStore_eq :
    deleteFromStore rt ws s =
      s.removeNodes (subscriptionIndexes (deletionOrder rt ws s))
        ((serverIDs (deletionOrder rt ws s)).map (· - 1))
        (s.getConnectedServers.filterMap (renumberRef (deletionOrder rt ws s))) := by
  simp [deleteFromStore, foldl_deleteStep]

lemma renumberRef_outbound {touches : List Which} {r r' : NodeRef}
    (h : renumberRef touches r = some r') : r'.outbound = r.outbound := by
  unfold renumberRef at h
  split at h
  · obtain ⟨id, -, rfl⟩ := Option.map_eq_some_iff.mp h
    rfl
  · obtain ⟨sub, -, rfl⟩ := Option.map_eq_some_iff.mp h
    rfl
  · rw [Option.some.inj h]

/-- The catalog loses exactly the touched servers, in whatever order they are processed. -/
lemma servers_deleteFromStore (hws : ∀ w ∈ ws, s.inRange w.toNodeRef) :
    (deleteFromStore rt ws s).servers =
      s.servers.removeIdxs fun i => ∃ w ∈ ws, w.type = .server ∧ w.id = i + 1 := by
  rw [deleteFromStore_eq]
  refine removeIdxs_congr _ fun i _ => ?_
  rw [mem_map, ← mem_serverIDs_iff rt hws]
  constructor
  · rintro ⟨x, hx, hxi⟩
    rwa [show (i : ℤ) + 1 = x by omega]
  · intro h
    exact ⟨i + 1, h, by omega⟩

/-- The catalog loses exactly the touched subscriptions. -/
lemma subscriptions_deleteFromStore (hws : ∀ w ∈ ws, s.inRange w.toNodeRef) :
    (deleteFromStore rt ws s).subscriptions =
      s.subscriptions.removeIdxs fun i => ∃ w ∈ ws, w.type = .subscription ∧ w.id = i + 1 := by
  rw [deleteFromStore_eq]
  exact removeIdxs_congr _ fun i _ => mem_subscriptionIndexes_iff rt hws

variable {r : NodeRef}

private lemma one_le_of_inRange (h : s.inRange r) : 1 ≤ r.id := by
  obtain ⟨type, id, sub, outbound⟩ := r
  cases type <;> simp [inRange] at h ⊢ <;> omega

/-- The touched servers by their indexes, in which the catalog is numbered. -/
private lemma exists_droppedIndexes (hws : ∀ w ∈ ws, s.inRange w.toNodeRef) :
    ∃ ds : List ℤ, serverIDs (deletionOrder rt ws s) = ds.map (· + 1) ∧
      ∀ x : ℤ, x ∈ ds ↔ ∃ w ∈ ws, w.type = .server ∧ w.id = x + 1 := by
  refine ⟨(serverIDs (deletionOrder rt ws s)).map (· - 1),
    by simp [Function.comp_def], fun x => ?_⟩
  rw [← mem_serverIDs_iff rt hws, mem_map]
  exact ⟨fun ⟨y, hy, hyx⟩ => hyx ▸ by simpa using hy, fun h => ⟨x + 1, h, by omega⟩⟩

/-- A reference is dropped if its node is deleted, and renumbered to the same node otherwise. -/
def Follows (rt : Go.Runtime) (ws : List Which) (s : Store ν) (r : NodeRef) : Prop :=
  (Deleted ws r ∧ renumberRef (deletionOrder rt ws s) r = none) ∨
    (¬Deleted ws r ∧ ∃ r', renumberRef (deletionOrder rt ws s) r = some r' ∧
      SameNode s (deleteFromStore rt ws s) r r')

section

variable (hws : ∀ w ∈ ws, s.inRange w.toNodeRef)
include hws

/-- A surviving reference to a server is renumbered to the same server. -/
private lemma renumberRef_server
    (hord : (serverIDs (deletionOrder rt ws s)).Pairwise (· > ·)) (htype : r.type = .server)
    (hres : s.Resolves r) : Follows rt ws s r := by
  obtain ⟨sr, hloc⟩ := s.resolves_iff_locate.mp hres
  obtain ⟨i, hid⟩ : ∃ i : ℕ, r.id = i + 1 := by
    rw [Resolves, htype] at hres
    exact ⟨(r.id - 1).toNat, by omega⟩
  obtain ⟨ds, hds, hmem⟩ := exists_droppedIndexes rt hws
  have hdec : ds.Pairwise (· > ·) := by
    rw [hds, pairwise_map] at hord
    exact hord.imp fun {a b} (h : a + 1 > b + 1) => by omega
  have hnonneg : ∀ d ∈ ds, 0 ≤ d := by
    intro d hd
    obtain ⟨w, hw, -, hwid⟩ := (hmem d).mp hd
    have := one_le_of_inRange (hws w hw)
    omega
  have hren : renumberRef (deletionOrder rt ws s) r =
      (renumber ds i).map fun x => { r with id := x + 1 } := by
    simp only [renumberRef, htype, hds, hid, renumber_map_add, Option.map_map]
    rfl
  have hdel : Deleted ws r ↔ (i : ℤ) ∈ ds := by
    rw [Deleted, htype, hmem, hid]
  rw [Follows, hren, renumber_of_decreasing hdec hnonneg]
  by_cases hi : (i : ℤ) ∈ ds
  · exact .inl ⟨hdel.mpr hi, by simp [hi]⟩
  · refine .inr ⟨fun h => hi (hdel.mp h), ?_⟩
    rw [if_neg hi]
    refine ⟨_, rfl, by simp, rfl, sr, hloc, ?_⟩
    rw [locate_server _ (by simp [htype]) rfl, servers_deleteFromStore rt hws]
    have hkeep := getElem?_removeIdxs (fun j : ℕ => (j : ℤ) ∈ ds) s.servers i hi
    rw [← (s.locate_server htype hid).mp hloc, ← hkeep]
    congr 1
    exact removeIdxs_congr _ fun j _ => (hmem j).symm

/-- A surviving reference into a subscription is renumbered to the same node. -/
private lemma renumberRef_subscriptionServer
    (hord : (subscriptionIndexes (deletionOrder rt ws s)).Pairwise (· > ·))
    (htype : r.type = .subscriptionServer) (hres : s.Resolves r) : Follows rt ws s r := by
  obtain ⟨sr, hloc⟩ := s.resolves_iff_locate.mp hres
  rw [Resolves, htype] at hres
  obtain ⟨i, hsub⟩ : ∃ i : ℕ, r.sub = i := ⟨r.sub.toNat, by omega⟩
  obtain ⟨j, hid⟩ : ∃ j : ℕ, r.id = j + 1 := ⟨(r.id - 1).toNat, by omega⟩
  have hmem : ∀ x : ℤ, x ∈ subscriptionIndexes (deletionOrder rt ws s) ↔
      ∃ w ∈ ws, w.type = .subscription ∧ w.id = x + 1 := fun x => mem_subscriptionIndexes_iff rt hws
  have hnonneg : ∀ d ∈ subscriptionIndexes (deletionOrder rt ws s), 0 ≤ d := by
    intro d hd
    obtain ⟨w, hw, -, hwid⟩ := (hmem d).mp hd
    have := one_le_of_inRange (hws w hw)
    omega
  have hdel : Deleted ws r ↔ (i : ℤ) ∈ subscriptionIndexes (deletionOrder rt ws s) := by
    rw [Deleted, htype, hmem, hsub]
  have hren : renumberRef (deletionOrder rt ws s) r =
      (renumber (subscriptionIndexes (deletionOrder rt ws s)) i).map
        fun x => { r with sub := x } := by
    simp only [renumberRef, htype, hsub]
  rw [Follows, hren, renumber_of_decreasing hord hnonneg]
  by_cases hi : (i : ℤ) ∈ subscriptionIndexes (deletionOrder rt ws s)
  · exact .inl ⟨hdel.mpr hi, by simp [hi]⟩
  · refine .inr ⟨fun h => hi (hdel.mp h), ?_⟩
    rw [if_neg hi]
    refine ⟨_, rfl, by simp, rfl, sr, hloc, ?_⟩
    rw [locate_subscriptionServer _ (by simp [htype]) rfl (j := j) (by simp [hid]),
      subscriptions_deleteFromStore rt hws]
    have hkeep := getElem?_removeIdxs
      (fun j : ℕ => (j : ℤ) ∈ subscriptionIndexes (deletionOrder rt ws s)) s.subscriptions i hi
    rw [← (s.locate_subscriptionServer htype hsub hid).mp hloc, ← hkeep]
    congr 2
    exact removeIdxs_congr _ fun j _ => (hmem j).symm

/-- Under touches in order every reference that resolves follows its node. -/
lemma renumberRef_cases (hord : TouchesOrdered ws)
    (hres : s.Resolves r) : Follows rt ws s r := by
  cases htype : r.type with
  | server =>
    refine renumberRef_server rt hws ((pairwise_serverIDs_iff rt hws).mpr ?_) htype hres
    exact hord.server_unique
  | subscriptionServer =>
    refine renumberRef_subscriptionServer rt hws
      ((pairwise_subscriptionIndexes_iff rt hws).mpr ?_) htype hres
    exact fun u hu v hv hut hvt => ⟨hord.subscription_unique u hu v hv hut hvt,
      hord.subscription_sub_le u hu v hv hut hvt⟩
  | subscription => simp [Resolves, htype] at hres
  | other raw => simp [Resolves, htype] at hres

/-- Under touches of subscriptions in order, references that resolve still resolve. Servers
may be touched twice: a reference is then moved too far, but not out of the list. -/
lemma resolves_of_renumberRef
    (hord : SubscriptionTouchesOrdered ws) {r r' : NodeRef}
    (hres : s.Resolves r) (hren : renumberRef (deletionOrder rt ws s) r = some r') :
    (deleteFromStore rt ws s).Resolves r' := by
  cases htype : r.type with
  | server =>
    rw [Resolves, htype] at hres
    simp only [renumberRef, htype] at hren
    obtain ⟨id, hid, rfl⟩ := Option.map_eq_some_iff.mp hren
    obtain ⟨ds, hds, hmem⟩ := exists_droppedIndexes rt hws
    have hge : ds.Pairwise (· ≥ ·) := by
      have hpair : (serverIDs (deletionOrder rt ws s)).Pairwise (· ≥ ·) :=
        pairwise_ge_serverIDs rt
      rw [hds, pairwise_map] at hpair
      exact hpair.imp fun {a b} (h : a + 1 ≥ b + 1) => by omega
    have hrange : ∀ d ∈ ds, 0 ≤ d ∧ d < s.servers.length := by
      intro d hd
      obtain ⟨w, hw, hwtype, hwid⟩ := (hmem d).mp hd
      have hin := hws w hw
      simp [inRange, hwtype, getLenServers] at hin
      omega
    rw [show r.id = r.id - 1 + 1 by omega, hds, renumber_map_add] at hid
    obtain ⟨y, hy, rfl⟩ := Option.map_eq_some_iff.mp hid
    have hbound := renumber_lt_count hge hrange ⟨by omega, by omega⟩ hy
    have hlength : (deleteFromStore rt ws s).servers.length =
        Nat.count (fun j : ℕ => ¬(j : ℤ) ∈ ds) s.servers.length := by
      rw [servers_deleteFromStore rt hws,
        removeIdxs_congr s.servers (q := fun j : ℕ => (j : ℤ) ∈ ds) fun j _ => (hmem j).symm,
        length_removeIdxs]
    simp only [Resolves]
    omega
  | subscriptionServer =>
    have hdec := (pairwise_subscriptionIndexes_iff rt hws).mpr hord
    rcases renumberRef_subscriptionServer rt hws hdec htype hres with
      ⟨-, hnone⟩ | ⟨-, r₁, hsome, -, -, sr, -, hloc⟩
    · rw [hnone] at hren
      exact absurd hren (by simp)
    · obtain rfl : r₁ = r' := Option.some.inj (hsome.symm.trans hren)
      exact (resolves_iff_locate _).mpr ⟨sr, hloc⟩
  | subscription => simp [Resolves, htype] at hres
  | other raw => simp [Resolves, htype] at hres

end

/-- Touches out of range are ignored. -/
lemma deleteFromStore_filter :
    deleteFromStore rt (ws.filter fun w => s.inRange w.toNodeRef) s = deleteFromStore rt ws s := by
  have hdup : s.getNonDuplicated rt (ws.filter fun w => s.inRange w.toNodeRef) =
      s.getNonDuplicated rt ws := by
    unfold getNonDuplicated
    dsimp only
    rw [foldl_filter]
    congr 3
    refine foldl_ext _ _ _ fun ts w _ => ?_
    split_ifs <;> rfl
  simp only [deleteFromStore, deletionOrder, hdup]

lemma getOutbounds_deleteFromStore :
    (deleteFromStore rt ws s).getOutbounds = s.getOutbounds := by
  rfl

lemma members_deleteFromStore {outbound : String} (h : outbound ∈ s.getOutbounds) :
    (deleteFromStore rt ws s).members outbound =
      (s.getConnectedServers.filterMap (renumberRef (deletionOrder rt ws s))).filter
        (·.outbound = outbound) := by
  rw [deleteFromStore_eq, s.members_removeNodes _ _ _ h]

/-- Every member whose node is not deleted names the group it is stored in. -/
def SurvivorsTagged (ws : List Which) (s : Store ν) : Prop :=
  ∀ outbound ∈ s.getOutbounds, ∀ r ∈ s.members outbound, ¬Deleted ws r → r.outbound = outbound

/-- If the members name their groups, a deletion leaves them there. -/
private lemma members_deleteFromStore_of_tagged
    (hws : ∀ w ∈ ws, s.inRange w.toNodeRef)
    (hres : ∀ r ∈ s.getConnectedServers, s.Resolves r) (hord : TouchesOrdered ws)
    (htag : SurvivorsTagged ws s) {outbound : String} (h : outbound ∈ s.getOutbounds) :
    (deleteFromStore rt ws s).members outbound =
      (s.members outbound).filterMap (renumberRef (deletionOrder rt ws s)) := by
  -- What the members of one group become still names that group.
  have hgroup : ∀ g ∈ s.getOutbounds, ∀ r' ∈
      (s.members g).filterMap (renumberRef (deletionOrder rt ws s)), r'.outbound = g := by
    intro g hg r' hr'
    obtain ⟨r, hr, hren⟩ := mem_filterMap.mp hr'
    have hresr := hres r (s.mem_getConnectedServers.mpr ⟨g, hg, hr⟩)
    rcases renumberRef_cases rt hws hord hresr with ⟨-, hnone⟩ | ⟨hkept, -⟩
    · rw [hnone] at hren
      exact absurd hren (by simp)
    · rw [renumberRef_outbound hren]
      exact htag g hg r hr hkept
  rw [members_deleteFromStore rt h, s.getConnectedServers_eq, filterMap_flatMap,
    filter_flatMap, flatMap_eq_of_nodup s.nodup_getOutbounds h]
  · exact filter_eq_self.mpr fun r' hr' => by simpa using hgroup outbound h r' hr'
  · intro g hg hne
    refine filter_eq_nil_iff.mpr fun r' hr' => ?_
    simpa [hgroup g hg r' hr'] using hne

/-- Touches in order leave references and catalog consistent exactly when the members name
their groups. -/
lemma deletionConsistent_iff_of_ordered (hws : ∀ w ∈ ws, s.inRange w.toNodeRef)
    (hres : ∀ r ∈ s.getConnectedServers, s.Resolves r) (hord : TouchesOrdered ws) :
    DeletionConsistent ws s (deleteFromStore rt ws s) ↔ SurvivorsTagged ws s := by
  constructor
  · intro hcons outbound hout r hr hkept
    -- The image of `r` stands in the group, so it names the group, and so does `r`.
    have hsurvives : r ∈ (s.members outbound).filter fun r => ¬Deleted ws r := by
      simpa using ⟨hr, hkept⟩
    obtain ⟨r', hr', -, hout', -⟩ := (hcons.members outbound hout).exists_of_mem_left hsurvives
    rw [members_deleteFromStore rt hout, mem_filter] at hr'
    rw [← hout']
    exact of_decide_eq_true hr'.2
  · intro htag
    refine ⟨servers_deleteFromStore rt hws, subscriptions_deleteFromStore rt hws,
      getOutbounds_deleteFromStore rt, fun outbound hout => ?_⟩
    rw [members_deleteFromStore_of_tagged rt hws hres hord htag hout]
    have hcases : ∀ r ∈ s.members outbound, _ := fun r hr =>
      renumberRef_cases rt hws hord
        (hres r (s.mem_getConnectedServers.mpr ⟨outbound, hout, hr⟩))
    refine forall₂_filter_filterMap ?_ ?_
    · intro r hr hdel
      rcases hcases r hr with ⟨-, hnone⟩ | ⟨hkept, -⟩
      · exact hnone
      · exact absurd hkept (by simpa using hdel)
    · intro r hr hkept
      rcases hcases r hr with ⟨hdel, -⟩ | ⟨-, hsome⟩
      · exact absurd hdel (by simpa using hkept)
      · exact hsome

end Consistency

/-! ### Touches out of order -/

section OutOfOrder

/-- A store with `n` servers and `n` subscriptions of one server each, in which `r` is the
only connected reference. -/
def uniformStore (node : ν) (n : ℕ) (r : NodeRef) : Store ν where
  servers := List.replicate n { serverObj := node }
  subscriptions := List.replicate n { servers := [{ serverObj := node }] }
  connectedServers := fun outbound => if outbound = defaultOutboundName then some [r] else none

variable {node : ν} {n : ℕ} {r : NodeRef} (rt : Go.Runtime) {ws : List Which}

lemma getOutbounds_uniformStore :
    (uniformStore node n r).getOutbounds = [defaultOutboundName] := rfl

lemma members_uniformStore :
    (uniformStore node n r).members defaultOutboundName = [r] := rfl

lemma getConnectedServers_uniformStore :
    (uniformStore node n r).getConnectedServers = [r] := by
  simp [getConnectedServers_eq, getOutbounds_uniformStore, members_uniformStore]

/-- The only reference is dropped although its node is not touched. -/
lemma not_deletionConsistent_of_dropped
    (hdrop : renumberRef (deletionOrder rt ws (uniformStore node n r)) r = none)
    (hkept : ¬Deleted ws r) :
    ¬DeletionConsistent ws (uniformStore node n r)
      (deleteFromStore rt ws (uniformStore node n r)) := by
  intro hcons
  have hmem := hcons.members defaultOutboundName (by simp)
  rw [members_deleteFromStore rt (by simp), getConnectedServers_uniformStore,
    members_uniformStore] at hmem
  simp [hdrop, hkept] at hmem

/-- A deletion in range loses a reference to a node that it keeps, though all references name their
groups. -/
private def LosesReference (ν : Type) [ServerObj ν] (rt : Go.Runtime) (ws : List Which) : Prop :=
  ∃ w w' : World ν, (∀ v ∈ ws, w.store.inRange v.toNodeRef = true) ∧
    (∀ r ∈ w.store.getConnectedServers, w.store.Resolves r) ∧
    deleteWhich rt ws w = (none, w') ∧ SurvivorsTagged ws w.store ∧
    ¬DeletionConsistent ws w.store w'.store

private lemma exists_bound (ws : List Which) : ∃ n : ℕ, ∀ w ∈ ws, w.id ≤ n := by
  refine ⟨(ws.map fun w => w.id.toNat).sum, fun w hw => ?_⟩
  have := le_sum_of_mem (mem_map_of_mem (f := fun w : Which => w.id.toNat) hw)
  omega

variable (hws : ∀ w ∈ ws, (w.type = .server ∨ w.type = .subscription) ∧ 1 ≤ w.id)
include hws

lemma inRange_uniformStore (node : ν) (r : NodeRef) (hn : ∀ w ∈ ws, w.id ≤ n) :
    ∀ w ∈ ws, (uniformStore node n r).inRange w.toNodeRef := by
  intro w hw
  have hle := hn w hw
  obtain ⟨htype | htype, hone⟩ := hws w hw
  all_goals
    simp [inRange, htype, getLenServers, getLenSubscriptions, uniformStore]
    omega

/-- The processing order is the same in all stores that are large enough. -/
private lemma deletionOrder_uniformStore_congr {node : ν} {n m : ℕ} {r r' : NodeRef}
    (hn : ∀ w ∈ ws, w.id ≤ n) (hm : ∀ w ∈ ws, w.id ≤ m) :
    deletionOrder rt ws (uniformStore node n r) =
      deletionOrder rt ws (uniformStore node m r') := by
  have hrange : ∀ w ∈ ws, (uniformStore node n r).inRange w.toNodeRef =
      (uniformStore node m r').inRange w.toNodeRef := fun w hw =>
    (inRange_uniformStore hws node r hn w hw).trans (inRange_uniformStore hws node r' hm w hw).symm
  rw [deletionOrder, deletionOrder, getNonDuplicated_congr rt hrange]

/-- Touches whose processing order depends on ignored fields: `r` is dropped although its
node is not touched. -/
private lemma losesReference_of_dropped [ServerObj ν] {m : ℕ} {r₀ : NodeRef}
    (hn : ∀ w ∈ ws, w.id ≤ n) (hnm : n ≤ m) (hres : (uniformStore node m r).Resolves r)
    (hout : r.outbound = defaultOutboundName)
    (hdrop : renumberRef (deletionOrder rt ws (uniformStore node n r₀)) r = none)
    (hkept : ¬Deleted ws r) : LosesReference ν rt ws := by
  have hm : ∀ w ∈ ws, w.id ≤ m := fun w hw => (hn w hw).trans (by exact_mod_cast hnm)
  have hdropped : renumberRef (deletionOrder rt ws (uniformStore node m r)) r = none := by
    rw [← deletionOrder_uniformStore_congr rt (r := r₀) hws hn hm]
    exact hdrop
  refine ⟨{ store := uniformStore node m r }, _, inRange_uniformStore hws node r hm, ?_, rfl, ?_,
    not_deletionConsistent_of_dropped rt hdropped hkept⟩
  · intro r' hr'
    rw [getConnectedServers_uniformStore, mem_singleton] at hr'
    rwa [hr']
  · intro outbound houtbound r' hr' _
    rw [getOutbounds_uniformStore, mem_singleton] at houtbound
    subst houtbound
    rw [members_uniformStore, mem_singleton] at hr'
    rw [hr', hout]

/-- If a server is touched in two ways, some store loses a reference to another server. -/
private lemma losesReference_server [ServerObj ν] (node : ν)
    (hdup : ¬∀ u ∈ ws, ∀ v ∈ ws, u.type = .server → v.type = .server →
      u.id = v.id → u.toNodeRef = v.toNodeRef) : LosesReference ν rt ws := by
  obtain ⟨n, hn⟩ := exists_bound ws
  let r₀ : NodeRef := ⟨.server, 1, 0, defaultOutboundName⟩
  have hrange := inRange_uniformStore hws node r₀ hn
  -- A position that the touches, in their processing order, drop without naming it.
  obtain ⟨x, hx, hfree⟩ := exists_removedBy_not_mem
    (mt (pairwise_serverIDs_iff rt hrange).mp hdup)
  rw [mem_serverIDs_iff rt hrange] at hfree
  have hone : 1 ≤ x := by
    obtain ⟨d, hd, hdx⟩ := exists_le_of_mem_removedBy hx
    obtain ⟨w, hw, -, hwd⟩ := (mem_serverIDs_iff rt hrange).mp hd
    have := (hws w hw).2
    omega
  let r : NodeRef := ⟨.server, x, 0, defaultOutboundName⟩
  have hdrop : renumberRef (deletionOrder rt ws (uniformStore node n r₀)) r = none := by
    simp [renumberRef, r, (renumber_eq_none_iff _ x).mpr hx]
  refine losesReference_of_dropped rt hws hn (le_max_left n x.toNat) ?_ rfl hdrop hfree
  have hle : x ≤ (max n x.toNat : ℕ) := by omega
  simp only [Resolves, uniformStore, length_replicate]
  exact ⟨hone, hle⟩

/-- If the `Sub` fields decide the order of the subscriptions, some store loses a reference
into a subscription that is not touched. -/
private lemma losesReference_subscription [ServerObj ν] (node : ν)
    (hdup : ¬∀ u ∈ ws, ∀ v ∈ ws, u.type = .subscription → v.type = .subscription →
      (u.id = v.id → u.toNodeRef = v.toNodeRef) ∧ (u.id < v.id → u.sub ≤ v.sub)) :
    LosesReference ν rt ws := by
  obtain ⟨n, hn⟩ := exists_bound ws
  let r₀ : NodeRef := ⟨.server, 1, 0, defaultOutboundName⟩
  have hrange := inRange_uniformStore hws node r₀ hn
  obtain ⟨x, hx, hfree⟩ := exists_removedBy_not_mem
    (mt (pairwise_subscriptionIndexes_iff rt hrange).mp hdup)
  rw [mem_subscriptionIndexes_iff rt hrange] at hfree
  have hzero : 0 ≤ x := by
    obtain ⟨d, hd, hdx⟩ := exists_le_of_mem_removedBy hx
    obtain ⟨w, hw, -, hwd⟩ := (mem_subscriptionIndexes_iff rt hrange).mp hd
    have := (hws w hw).2
    omega
  let r : NodeRef := ⟨.subscriptionServer, 1, x, defaultOutboundName⟩
  have hdrop : renumberRef (deletionOrder rt ws (uniformStore node n r₀)) r = none := by
    simp [renumberRef, r, (renumber_eq_none_iff _ x).mpr hx]
  refine losesReference_of_dropped rt hws hn (le_max_left n (x.toNat + 1)) ?_ rfl hdrop hfree
  have hsub : (uniformStore node (max n (x.toNat + 1)) r).getLenSubscriptionServers x = 1 := by
    simp [getLenSubscriptionServers, uniformStore]
  simp only [r]
  refine ⟨hzero, ?_, le_refl 1, hsub.ge⟩
  simp only [uniformStore, length_replicate]
  omega

end OutOfOrder

/-- Deletion keeps references and catalog consistent, in every store in range whose
references resolve and name their groups, exactly when the touches are in order. A surviving
reference that does not name its group is lost in any case. -/
theorem deleteWhich_consistent_iff [ServerObj ν] [Nonempty ν] (ws : List Which)
    (hws : ∀ w ∈ ws, (w.type = .server ∨ w.type = .subscription) ∧ 1 ≤ w.id) :
    (∀ (rt : Go.Runtime) (w w' : World ν),
        (∀ v ∈ ws, w.store.inRange v.toNodeRef = true) →
        (∀ r ∈ w.store.getConnectedServers, w.store.Resolves r) →
        deleteWhich rt ws w = (none, w') →
        (DeletionConsistent ws w.store w'.store ↔ SurvivorsTagged ws w.store)) ↔
      TouchesOrdered ws := by
  constructor
  · intro h
    have hkept : ¬LosesReference ν .inOrder ws := by
      rintro ⟨w, w', hrange, hres, hrun, htag, hcons⟩
      exact hcons ((h _ w w' hrange hres hrun).mpr htag)
    have hserver := by_contra fun hdup =>
      hkept (losesReference_server .inOrder hws (Classical.arbitrary ν) hdup)
    have hsubscription := by_contra fun hdup =>
      hkept (losesReference_subscription .inOrder hws (Classical.arbitrary ν) hdup)
    exact ⟨hserver, fun u hu v hv hut hvt => (hsubscription u hu v hv hut hvt).1,
      fun u hu v hv hut hvt => (hsubscription u hu v hv hut hvt).2⟩
  · intro hord rt w w' hrange hres hrun
    have hstore : w'.store = deleteFromStore rt ws w.store := by
      rw [← store_deleteWhich, hrun]
    rw [hstore]
    exact deletionConsistent_iff_of_ordered rt hrange hres hord

/-- Three servers, the second of which is connected, and a core that is not running. -/
def threeServers : World SOCKS where
  store :=
    { servers := ["a", "b", "c"].map fun name => { serverObj := { name } }
      connectedServers := fun outbound =>
        if outbound = "proxy" then some [⟨.server, 2, 0, "proxy"⟩] else none }

/-- The first of three servers is deleted; the reference to the second one follows it. -/
theorem deleteWhich_consistent_threeServers :
    DeletionConsistent [⟨⟨.server, 1, 0, ""⟩, "", "", false⟩] threeServers.store
      (deleteWhich .inOrder [⟨⟨.server, 1, 0, ""⟩, "", "", false⟩] threeServers).2.store := by
  have hord : TouchesOrdered [⟨⟨.server, 1, 0, ""⟩, "", "", false⟩] := by
    constructor <;> simp
  have htag : SurvivorsTagged [⟨⟨.server, 1, 0, ""⟩, "", "", false⟩] threeServers.store := by
    unfold SurvivorsTagged
    decide
  exact ((deleteWhich_consistent_iff _ (by decide)).mpr hord .inOrder threeServers _
    (by decide) (by decide) rfl).mpr htag

/-- The same touch twice, with different groups in the field that the deletion ignores: the
reference to the second server is lost with the first. -/
theorem deleteWhich_not_consistent :
    ∃ (rt : Go.Runtime) (ws : List Which) (w w' : World SOCKS),
      (∀ v ∈ ws, v.type = .server ∧ w.store.inRange v.toNodeRef = true) ∧
      (∀ r ∈ w.store.getConnectedServers, w.store.Resolves r) ∧ SurvivorsTagged ws w.store ∧
      deleteWhich rt ws w = (none, w') ∧ ¬DeletionConsistent ws w.store w'.store := by
  refine ⟨.inOrder, [⟨⟨.server, 1, 0, ""⟩, "", "", false⟩, ⟨⟨.server, 1, 0, "proxy"⟩, "", "", false⟩],
    threeServers, _, by decide, by decide, ?_, rfl, fun hcons => ?_⟩
  · unfold SurvivorsTagged
    decide
  · have hmem := hcons.members "proxy" (by decide)
    have hlength := hmem.length_eq
    revert hlength
    decide

end V2rayA

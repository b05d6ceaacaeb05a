import ClusterKeeper.Proofs.Confinement
import ClusterKeeper.Proofs.HaltingPasses
import ClusterKeeper.Proofs.Interleaving
import ClusterKeeper.Proofs.Paces
import ClusterKeeper.Proofs.Routing
import ClusterKeeper.Proofs.VolumeTags

/-!
# Passes of different clusters

However the calls of two passes are interleaved, each of them is answered as it
would be on its own, as long as the two clusters have nothing in common. What is
left in the end is the same for all interleavings.
-/

set_option autoImplicit false

namespace ClusterKeeper

open Memory

namespace Memory

variable {β : Type}

/-! One of the two programs. -/

section Side

variable {e : Estate} {p : Program Cloud β} {a : β} {final own shared shared' : Stores}

structure Side (e : Estate) (a : β) (final : Stores) (p : Program Cloud β) (own shared : Stores) :
    Prop where
  run : p.run (Stores.answer e.conduct) own = (some a, final)
  confined : p.Meets (confining e).environment (fun _ _ => True) own
  solid : e.Solid own
  agree : e.Agree own shared

theorem Side.step {x : Cloud.Call} {next : Cloud.Reply x → Program Cloud β}
    (h : Side e a final (.request (S := Cloud) x next) own shared)
    (hk : e.conduct.updatesInPlace = false) (hn : (e.stores.volumes.map (·.id)).Nodup)
    (hshared : e.Solid shared) :
    Side e a final (next (shared.answer e.conduct x).1) (own.answer e.conduct x).2
      (shared.answer e.conduct x).2 := by
  obtain ⟨hr, hagree⟩ := h.agree.answer h.confined.1 h.solid hshared hn e.conduct
  rw [← hr]
  exact ⟨h.run, h.confined.2 _ _ rfl, h.solid.answer hk x, hagree⟩

/-- What happens elsewhere does not matter. -/
theorem Side.frame (h : Side e a final p own shared)
    (heq : ∀ place, e.Has place → shared'.held place = shared.held place) :
    Side e a final p own shared' :=
  { h with agree := fun place hp => (h.agree place hp).trans (heq place hp).symm }

theorem Side.ended {b : β} (h : Side e a final (.pure b) own shared) :
    b = a ∧ e.Agree final shared := by
  cases h.run
  exact ⟨rfl, h.agree⟩

/-- On the shared stores the program would end alike. -/
theorem Side.run_shared (h : Side e a final p own shared) (hk : e.conduct.updatesInPlace = false)
    (hn : (e.stores.volumes.map (·.id)).Nodup) (hshared : e.Solid shared) :
    ∃ s, p.run (Stores.answer e.conduct) shared = (some a, s) := by
  induction p generalizing own shared with
  | pure b => exact ⟨shared, by rw [h.ended.1]; rfl⟩
  | request x next ih => exact ih _ (h.step hk hn hshared) (hshared.answer hk x)
  | unfinished => cases h.run

/-- A program that keeps to a cluster changes nothing that does not belong to it. -/
theorem elsewhere_of_run (hp : p.Meets (confining e).environment (fun _ _ => True) own)
    (hk : e.conduct.updatesInPlace = false) (hs : e.Solid own)
    (hrun : p.run (Stores.answer e.conduct) own = (some a, final)) {place : Location}
    (hplace : ¬e.Has place) : final.held place = own.held place := by
  induction p generalizing own with
  | pure b =>
    cases hrun
    rfl
  | request x next ih =>
    exact (ih _ (hp.2 _ _ rfl) (hs.answer hk x) hrun).trans
      (Estate.held_of_not_has hp.1 hs.nodup hplace)
  | unfinished => cases hrun

end Side

/-! Both of them. -/

variable {k : Conduct} {one two : Cluster} {s final₁ final₂ shared : Stores} {a₁ a₂ : β}
  {p q : Program Cloud β}

structure Neighbours (k : Conduct) (one two : Cluster) (s : Stores) (a₁ a₂ : β)
    (final₁ final₂ : Stores) (p q : Program Cloud β) (shared : Stores) : Prop where
  first : ∃ own, Side ⟨k, one, s⟩ a₁ final₁ p own shared
  second : ∃ own, Side ⟨k, two, s⟩ a₂ final₂ q own shared
  solid : (Estate.mk k one s).Solid shared ∧ (Estate.mk k two s).Solid shared
  others : ∀ place, ¬(Estate.mk k one s).Has place → ¬(Estate.mk k two s).Has place →
    shared.held place = s.held place

structure Apart (k : Conduct) (one two : Cluster) (s : Stores) : Prop where
  leavesStacks : k.updatesInPlace = false
  nodup : (s.volumes.map (·.id)).Nodup
  disjoint : ∀ place, (Estate.mk k one s).Has place → ¬(Estate.mk k two s).Has place

theorem Apart.symm (h : Apart k one two s) : Apart k two one s :=
  { h with disjoint := fun place hp hp' => h.disjoint place hp' hp }

namespace Neighbours

theorem symm (h : Neighbours k one two s a₁ a₂ final₁ final₂ p q shared) :
    Neighbours k two one s a₂ a₁ final₂ final₁ q p shared :=
  ⟨h.second, h.first, h.solid.symm, fun place hp hp' => h.others place hp' hp⟩

/-- The next call of one program is of no consequence for the other. -/
theorem respects {x : Cloud.Call} {next : Cloud.Reply x → Program Cloud β}
    (h : Neighbours k one two s a₁ a₂ final₁ final₂ (.request (S := Cloud) x next) q shared)
    {place : Location} (hplace : ¬(Estate.mk k one s).Has place) :
    (shared.answer k x).2.held place = shared.held place := by
  obtain ⟨own, hfirst⟩ := h.first
  exact Estate.held_of_not_has hfirst.confined.1 h.solid.1.nodup hplace

theorem step {x : Cloud.Call} {next : Cloud.Reply x → Program Cloud β}
    (h : Neighbours k one two s a₁ a₂ final₁ final₂ (.request (S := Cloud) x next) q shared)
    (hapart : Apart k one two s) :
    Neighbours k one two s a₁ a₂ final₁ final₂ (next (shared.answer k x).1) q
      (shared.answer k x).2 := by
  obtain ⟨own₁, hfirst⟩ := h.first
  obtain ⟨own₂, hsecond⟩ := h.second
  refine ⟨⟨_, hfirst.step hapart.leavesStacks hapart.nodup h.solid.1⟩,
    ⟨own₂, hsecond.frame fun place hp => h.respects fun hp' => hapart.disjoint place hp' hp⟩,
    ⟨h.solid.1.answer hapart.leavesStacks x, h.solid.2.answer hapart.leavesStacks x⟩, ?_⟩
  exact fun place hp hp' => (h.respects hp).trans (h.others place hp hp')

theorem reaches {t : Crowd Cloud β Stores} (hapart : Apart k one two s)
    (h : Neighbours k one two s a₁ a₂ final₁ final₂ p q shared)
    (ht : Crowd.Reaches (truthful k) ⟨[p, q], shared⟩ t) :
    ∃ p' q', t.programs = [p', q'] ∧
      Neighbours k one two s a₁ a₂ final₁ final₂ p' q' t.state := by
  induction ht with
  | refl => exact ⟨p, q, rfl, h⟩
  | @tail t₁ t₂ _ hstep ih =>
    obtain ⟨p', q', hprograms, h'⟩ := ih
    obtain ⟨programs, state⟩ := t₁
    subst hprograms
    rcases hstep.pair with ⟨x, next, r, s', rfl, hr, rfl⟩ | ⟨x, next, r, s', rfl, hr, rfl⟩
    · cases hr with
      | truthful => exact ⟨_, _, rfl, h'.step hapart⟩
      | lost ht _ => exact ht.elim
      | refused ht _ => exact ht.elim
    · cases hr with
      | truthful => exact ⟨_, _, rfl, (h'.symm.step hapart.symm).symm⟩
      | lost ht _ => exact ht.elim
      | refused ht _ => exact ht.elim

/-- Once both programs have ended, what the stores hold is settled. -/
theorem holdings_eq {b₁ b₂ c₁ c₂ : β} {shared' : Stores} (hapart : Apart k one two s)
    (h : Neighbours k one two s a₁ a₂ final₁ final₂ (.pure b₁) (.pure b₂) shared)
    (h' : Neighbours k one two s a₁ a₂ final₁ final₂ (.pure c₁) (.pure c₂) shared') :
    shared.holdings = shared'.holdings := by
  refine Stores.holdings_eq hapart.nodup h.solid.1.volumes h'.solid.1.volumes fun place => ?_
  obtain ⟨_, hfirst⟩ := h.first
  obtain ⟨_, hsecond⟩ := h.second
  obtain ⟨_, hfirst'⟩ := h'.first
  obtain ⟨_, hsecond'⟩ := h'.second
  by_cases hone : (Estate.mk k one s).Has place
  · exact (hfirst.ended.2 place hone).symm.trans (hfirst'.ended.2 place hone)
  by_cases htwo : (Estate.mk k two s).Has place
  · exact (hsecond.ended.2 place htwo).symm.trans (hsecond'.ended.2 place htwo)
  · exact (h.others place hone htwo).trans (h'.others place hone htwo).symm

/-- If neither program can go on, then both have ended as they would on their own. -/
theorem ended (h : Neighbours k one two s a₁ a₂ final₁ final₂ p q shared)
    (hstuck : ∀ t, ¬Crowd.Step (truthful k) ⟨[p, q], shared⟩ t) :
    p = .pure a₁ ∧ q = .pure a₂ := by
  have hfirst : ∀ {one two : Cluster} {a₁ a₂ : β} {final₁ final₂ : Stores} {p q : Program Cloud β},
      Neighbours k one two s a₁ a₂ final₁ final₂ p q shared →
      (∀ x next, p ≠ .request (S := Cloud) x next) → p = .pure a₁ := by
    intro one two a₁ a₂ final₁ final₂ p q h hp
    obtain ⟨own, hside⟩ := h.first
    cases p with
    | pure b => rw [hside.ended.1]
    | request x next => exact absurd rfl (hp x next)
    | unfinished => cases hside.run
  refine ⟨hfirst h fun x next hp => ?_, hfirst h.symm fun x next hq => ?_⟩
  · subst hp
    have hstep : Crowd.Step (truthful k) ⟨[] ++ .request (S := Cloud) x next :: [q], shared⟩
        ⟨[] ++ next _ :: [q], _⟩ := .answered .truthful
    exact hstuck _ hstep
  · subst hq
    have hstep : Crowd.Step (truthful k) ⟨[p] ++ .request (S := Cloud) x next :: [], shared⟩
        ⟨[p] ++ next _ :: [], _⟩ := .answered .truthful
    exact hstuck _ hstep

end Neighbours

def Estate.Respected (e : Estate) (p : Program Cloud β) (s : Stores) : Prop :=
  ∀ x next, p = .request (S := Cloud) x next → ∀ place, ¬e.Has place →
    (s.answer e.conduct x).2.held place = s.held place

def InTurn (k : Conduct) (cluster : Cluster) (s : Stores) (p q : Program Cloud β) (a b : β)
    (final : Stores) : Prop :=
  ∃ s₁ s₂, p.run (Stores.answer k) s = (some a, s₁) ∧
    (∀ place, ¬(Estate.mk k cluster s).Has place → s₁.held place = s.held place) ∧
    q.run (Stores.answer k) s₁ = (some b, s₂) ∧ s₂.holdings = final

/-- What can be said of two programs underway together that started from `s`. -/
structure Independent (k : Conduct) (one two : Cluster) (s : Stores) (a₁ a₂ : β) (final : Stores)
    (t : Crowd Cloud β Stores) : Prop where
  respected : ∃ p q, t.programs = [p, q] ∧ (Estate.mk k one s).Respected p t.state ∧
    (Estate.mk k two s).Respected q t.state
  terminates : Acc (fun t' t => Crowd.Step (truthful k) t t') t
  ends : (∀ t', ¬t.Step (truthful k) t') →
    t.programs = [.pure a₁, .pure a₂] ∧ t.state.holdings = final

theorem Neighbours.inTurn (hapart : Apart k one two s)
    (h : Neighbours k one two s a₁ a₂ final₁ final₂ p q s)
    (hp : p.Meets (confining ⟨k, one, s⟩).environment (fun _ _ => True) s)
    (hrun : p.run (Stores.answer k) s = (some a₁, final₁)) :
    ∃ s₂, InTurn k one s p q a₁ a₂ s₂.holdings ∧
      Neighbours k one two s a₁ a₂ final₁ final₂ (.pure a₁) (.pure a₂) s₂ := by
  have htruthful : ∀ x (s : Stores), (truthful k).Answers x s (s.answer k x).1 (s.answer k x).2 :=
    fun _ _ => .truthful
  have hturn : Crowd.Reaches (truthful k) ⟨[p, q], s⟩ ⟨[.pure a₁, q], final₁⟩ :=
    Crowd.reaches_of_run htruthful hrun [] [q]
  obtain ⟨_, _, heq, h₁⟩ := h.reaches hapart hturn
  cases heq
  obtain ⟨own, hsecond⟩ := h₁.second
  obtain ⟨s₂, hrun₂⟩ := hsecond.run_shared hapart.leavesStacks hapart.nodup h₁.solid.2
  have hturn₂ : Crowd.Reaches (truthful k) ⟨[.pure a₁, q], final₁⟩ ⟨[.pure a₁, .pure a₂], s₂⟩ :=
    Crowd.reaches_of_run htruthful hrun₂ [.pure a₁] []
  obtain ⟨_, _, heq, h₂⟩ := h₁.reaches hapart hturn₂
  cases heq
  exact ⟨s₂, ⟨final₁, s₂, hrun, fun place hplace =>
    elsewhere_of_run hp hapart.leavesStacks h.solid.1 hrun hplace, hrun₂, rfl⟩, h₂⟩

/-- Programs that keep to clusters with nothing in common do not depend on each
other. -/
theorem Apart.independent (hapart : Apart k one two s)
    (hp : p.Meets (confining ⟨k, one, s⟩).environment (fun _ _ => True) s)
    (hq : q.Meets (confining ⟨k, two, s⟩).environment (fun _ _ => True) s)
    (hprun : p.run (Stores.answer k) s = (some a₁, final₁))
    (hqrun : q.run (Stores.answer k) s = (some a₂, final₂)) :
    ∃ final, InTurn k one s p q a₁ a₂ final ∧ InTurn k two s q p a₂ a₁ final ∧
      ∀ t, Crowd.Reaches (truthful k) ⟨[p, q], s⟩ t → Independent k one two s a₁ a₂ final t := by
  have hstart : Neighbours k one two s a₁ a₂ final₁ final₂ p q s :=
    ⟨⟨s, hprun, hp, .start hapart.nodup, fun _ _ => rfl⟩,
      ⟨s, hqrun, hq, .start hapart.nodup, fun _ _ => rfl⟩,
      ⟨.start hapart.nodup, .start hapart.nodup⟩, fun _ _ _ => rfl⟩
  obtain ⟨s₂, hturn, hend⟩ := hstart.inTurn hapart hp hprun
  obtain ⟨s₂', hturn', hend'⟩ := hstart.symm.inTurn hapart.symm hq hqrun
  have hsame : s₂'.holdings = s₂.holdings := hend'.symm.holdings_eq hapart hend
  refine ⟨s₂.holdings, hturn, hsame ▸ hturn', fun t ht => ?_⟩
  obtain ⟨p', q', hprograms, h⟩ := hstart.reaches hapart ht
  obtain ⟨programs, state⟩ := t
  subst hprograms
  refine ⟨⟨p', q', rfl, ?_, ?_⟩, (Crowd.terminates _).apply _, fun hstuck => ?_⟩
  · rintro x next rfl place hplace
    exact h.respects hplace
  · rintro x next rfl place hplace
    exact h.symm.respects hplace
  · obtain ⟨rfl, rfl⟩ := h.ended hstuck
    exact ⟨rfl, h.holdings_eq hapart hend⟩

/-- The calls of a pass keep to its cluster, whatever the pace. -/
theorem confined_pass {config : Config} {bundle : VersionBundle} {r : Reconciler Cloud Cluster}
    {e : Estate} (hk : e.conduct.updatesInPlace = false)
    (hn : (e.stores.volumes.map (·.id)).Nodup)
    (hr : r.router.route e.cluster = .ok (Operator.bundleSet config bundle)) (direction : Direction)
    (pace : Pace) :
    (r.calls direction e.cluster pace).Meets (confining e).environment (fun _ _ => True) e.stores :=
  (Confinement.reaches_end hk (.start hn) hr).paced trivial pace []

end Memory

/-- One pass for each of two clusters, in whichever direction and at whichever pace
each of them goes. -/
theorem clusters_apart (k : Conduct) (config : Config) (one two : Cluster)
    (direction₁ direction₂ : Direction) (pace₁ pace₂ : Pace) (s : Stores)
    (hstacks : k.updatesInPlace = false) (hvalid : config.validate = .ok ())
    (hcovers₁ : config.Covers one) (hcovers₂ : config.Covers two) (hids : one.id ≠ two.id)
    (hn : (s.volumes.map (·.id)).Nodup)
    (howned : ∀ v ∈ s.volumes, v.OwnedBy one.id → ¬v.OwnedBy two.id)
    (hgroups : ∀ group, (Estate.mk k one s).group? = some group →
      (Estate.mk k two s).group? ≠ some group) :
    ∃ r, Operator.reconciler config = .ok r ∧
      (∀ place, (Estate.mk k one s).Has place → ¬(Estate.mk k two s).Has place) ∧
      ∃ ended₁ ended₂ final,
        InTurn k one s (r.calls direction₁ one pace₁) (r.calls direction₂ two pace₂)
          ended₁ ended₂ final ∧
        InTurn k two s (r.calls direction₂ two pace₂) (r.calls direction₁ one pace₁)
          ended₂ ended₁ final ∧
        (∀ limit, pace₁.Bounded limit → ∃ result, ended₁.1 = some result) ∧
        (∀ limit, pace₂.Bounded limit → ∃ result, ended₂.1 = some result) ∧
        ∀ t, Crowd.Reaches (truthful k)
            ⟨[r.calls direction₁ one pace₁, r.calls direction₂ two pace₂], s⟩ t →
          Independent k one two s ended₁ ended₂ final t := by
  obtain ⟨r, hr, hroute⟩ := Operator.reconciler_of_validate hvalid
  obtain ⟨bundle₁, -, -, hroute₁⟩ := hroute one hcovers₁
  obtain ⟨bundle₂, -, -, hroute₂⟩ := hroute two hcovers₂
  have hapart : Apart k one two s :=
    ⟨hstacks, hn, fun _ => Estate.not_has_of_has hids hn howned hgroups⟩
  have hrun₁ := Program.run_paced pace₁ (Stores.answer k) (r.ensure direction₁ one) [] s
  have hrun₂ := Program.run_paced pace₂ (Stores.answer k) (r.ensure direction₂ two) [] s
  obtain ⟨final, hturn₁, hturn₂, hcrowd⟩ := hapart.independent
    (confined_pass (e := ⟨k, one, s⟩) hstacks hn hroute₁ direction₁ pace₁)
    (confined_pass (e := ⟨k, two, s⟩) hstacks hn hroute₂ direction₂ pace₂) hrun₁ hrun₂
  refine ⟨r, hr, hapart.disjoint, _, _, final, hturn₁, hturn₂, ?_, ?_, hcrowd⟩
  · exact fun limit hb => (Operator.ensure_halts direction₁ hroute₁).returns hb hrun₁
  · exact fun limit hb => (Operator.ensure_halts direction₂ hroute₂).returns hb hrun₂

namespace Trial

def neighbour : Cluster := { cluster with spec := { cluster.spec with id := "other" } }

def district : Stores :=
  let stack : Stack := ⟨Names.guestMainStack "other", .updateComplete,
    [(workerGroupOutput, "others")]⟩
  (stores.insertStack .guest (Names.guestMainStack "other") stack).insertMember "others"
    ⟨"i-4", GroupMember.parkedState⟩

def hasty : Pace where
  delay _ turn := if turn.pauses < 10 then some turn.interval else none
  patience _ := 20

theorem group_cluster (k : Conduct) : (Estate.mk k cluster district).group? = some "workers" := by
  have hstack : district.guest.present[Names.guestMainStack "a1b2c"]? =
      some ⟨Names.guestMainStack "a1b2c", .createComplete, outputs⟩ :=
    (Table.getElem?_insert _ _ _ _).trans ((if_neg (by decide)).trans
      ((Table.getElem?_insert _ _ _ _).trans (if_pos rfl)))
  show Drainer.groupOf district.guest.present[Names.guestMainStack "a1b2c"]? = _
  rw [hstack]
  decide

theorem group_neighbour (k : Conduct) :
    (Estate.mk k neighbour district).group? = some "others" := by
  have hstack : district.guest.present[Names.guestMainStack "other"]? =
      some ⟨Names.guestMainStack "other", .updateComplete, [(workerGroupOutput, "others")]⟩ :=
    (Table.getElem?_insert _ _ _ _).trans (if_pos rfl)
  show Drainer.groupOf district.guest.present[Names.guestMainStack "other"]? = _
  rw [hstack]
  decide

theorem groups_differ (k : Conduct) (group : String)
    (h : (Estate.mk k cluster district).group? = some group) :
    (Estate.mk k neighbour district).group? ≠ some group := by
  rw [group_cluster] at h
  cases h
  rw [group_neighbour]
  decide

end Trial

theorem clusters_apart_trial :
    (Sandbox.conduct true).updatesInPlace = false ∧ Trial.config.validate = .ok () ∧
      Trial.config.Covers Trial.cluster ∧ Trial.config.Covers Trial.neighbour ∧
      Trial.cluster.id ≠ Trial.neighbour.id ∧ (Trial.district.volumes.map (·.id)).Nodup ∧
      (∀ v ∈ Trial.district.volumes, v.OwnedBy Trial.cluster.id →
        ¬v.OwnedBy Trial.neighbour.id) ∧
      (∀ group, (Estate.mk (Sandbox.conduct true) Trial.cluster Trial.district).group? =
          some group →
        (Estate.mk (Sandbox.conduct true) Trial.neighbour Trial.district).group? ≠ some group) ∧
      Trial.hasty.Bounded 10 ∧
      ∃ r, Operator.reconciler Trial.config = .ok r ∧ ∃ ended₁ ended₂ final,
        InTurn (Sandbox.conduct true) Trial.cluster Trial.district
          (r.calls .create Trial.cluster Trial.hasty) (r.calls .delete Trial.neighbour Trial.hasty)
          ended₁ ended₂ final ∧
        (∃ result, ended₁.1 = some result) ∧
        ∀ t, Crowd.Reaches (truthful (Sandbox.conduct true))
            ⟨[r.calls .create Trial.cluster Trial.hasty,
              r.calls .delete Trial.neighbour Trial.hasty], Trial.district⟩ t →
          Independent (Sandbox.conduct true) Trial.cluster Trial.neighbour Trial.district
            ended₁ ended₂ final t := by
  have hbounded : Trial.hasty.Bounded 10 :=
    ⟨fun _ turn hl => if_neg (by omega), fun _ => (by decide : 10 < 20)⟩
  obtain ⟨r, hr, -, ended₁, ended₂, final, hturn, -, hreturns, -, hcrowd⟩ :=
    clusters_apart (Sandbox.conduct true) Trial.config Trial.cluster Trial.neighbour .create .delete
      Trial.hasty Trial.hasty Trial.district rfl Trial.config_valid Trial.config_covers
      Trial.config_covers (by decide) Trial.volumes_nodup (by decide) (Trial.groups_differ _)
  exact ⟨rfl, Trial.config_valid, Trial.config_covers, Trial.config_covers, by decide,
    Trial.volumes_nodup, by decide, Trial.groups_differ _, hbounded, r, hr, ended₁, ended₂, final,
    hturn, hreturns 10 hbounded, hcrowd⟩

end ClusterKeeper

import ClusterKeeper.Proofs.Regime
import ClusterKeeper.Proofs.Tables
import ClusterKeeper.Proofs.VolumeTags

/-!
# What passes observe

Each observation of a pass tells what the stores hold at the moment of the last
call it makes.
-/

set_option autoImplicit false

namespace ClusterKeeper

def StackState.observed (name : String) : Option Stack → StackState
  | none => absent
  | some stack =>
    if stack.status.outputsAccessible then
      match ofOutputs ⟨stack.name, stack.outputs⟩ name with
      | .ok state => state
      | .error _ => unread name
    else unread name

theorem StackOutputs.get_cases (o : StackOutputs) (key : String) :
    (∃ value, o.get key = .ok value) ∨ ∃ what, o.get key = .error (.notFound what) := by
  rw [get]
  split
  · exact .inl ⟨_, rfl⟩
  · exact .inr ⟨_, rfl⟩

/-- Reading outputs fails in one way only. -/
theorem StackState.ofOutputs_cases (o : StackOutputs) (name : String) :
    (∃ state, ofOutputs o name = .ok state) ∨
      ∃ what, ofOutputs o name = .error (.notFound what) := by
  have hbind : ∀ (key : String) (f : String → Except Error StackState),
      (∀ value, (∃ state, f value = .ok state) ∨ ∃ what, f value = .error (.notFound what)) →
      (∃ state, (o.get key >>= f) = .ok state) ∨
        ∃ what, (o.get key >>= f) = .error (.notFound what) := by
    intro key f hf
    rcases o.get_cases key with ⟨value, h⟩ | ⟨what, h⟩
    · rw [h]; exact hf value
    · rw [h]; exact .inr ⟨what, rfl⟩
  rw [ofOutputs]
  iterate 9 refine hbind _ _ fun _ => ?_
  exact .inl ⟨_, rfl⟩

def Drainer.groupOf : Option Stack → Option String
  | none => none
  | some stack =>
    if stack.status.outputsAccessible then lastValue? workerGroupOutput stack.outputs else none

namespace Memory

def Conduct.bucket (k : Conduct) (cluster : Cluster) : String :=
  Names.bucket k.accountId cluster.id

theorem Conduct.bucket_ne_empty (k : Conduct) (cluster : Cluster) : k.bucket cluster ≠ "" := by
  intro h
  have hlist := congrArg String.toList h
  simp [Conduct.bucket, Names.bucket] at hlist

theorem Stores.keyName_ne_empty (cluster : String) : keyName cluster ≠ "" := by
  intro h
  have hlist := congrArg String.toList h
  simp [keyName] at hlist

variable (s : Stores) (account : Account) (name : String)

theorem ofAnswer_describeStack :
    StackState.ofAnswer name (s.describeStack account name) =
      .ok (.observed name (s.stackStore account).present[name]?) := by
  rw [Stores.describeStack]
  cases (s.stackStore account).present[name]? with
  | none => rfl
  | some stack =>
    cases ha : stack.status.outputsAccessible with
    | false =>
      simp only [StackState.ofAnswer, StackOutputs.ofAnswer, StackState.observed, ha]
      rfl
    | true =>
      simp only [StackState.ofAnswer, StackOutputs.ofAnswer, StackState.observed, ha, if_true]
      rcases StackState.ofOutputs_cases ⟨stack.name, stack.outputs⟩ name with ⟨_, h⟩ | ⟨_, h⟩ <;>
        simp only [h]

theorem groupOfAnswer_describeStack :
    Drainer.groupOfAnswer name (s.describeStack account name) =
      .ok (Drainer.groupOf (s.stackStore account).present[name]?) := by
  rw [Stores.describeStack]
  cases (s.stackStore account).present[name]? with
  | none => rfl
  | some stack =>
    cases ha : stack.status.outputsAccessible with
    | false =>
      simp only [Drainer.groupOfAnswer, StackOutputs.ofAnswer, Drainer.groupOf, ha]
      rfl
    | true => simp only [Drainer.groupOfAnswer, StackOutputs.ofAnswer, Drainer.groupOf, ha, if_true]

theorem headBucket_of_answer (k : Conduct) :
    s.answer k (.headBucket name) = ((s.listObjects name).map fun _ => (), s) := by
  rw [Stores.answer, Stores.attempt]
  cases s.listObjects name <;> rfl

namespace Regime

open Discipline

variable {g : Regime} {P : Prop} {c : Cancellation} {s : Stores} {cluster : Cluster}
  {context : PassContext}

theorem does_lookUpAccount (hP : (∃ x, g.tampered x) → P) :
    g.Does P lookUpAccount (fun account _ => account = g.conduct.accountId) c s :=
  .exchange .accountId (f := id) (fun _ _ => .of_unchanging rfl rfl) ⟨rfl, fun _ _ => rfl⟩
    fun h => hP ⟨_, h⟩

theorem does_currentKey (hP : (∃ x, g.tampered x) → P) :
    g.Does P (EncryptionKey.resource.currentState context cluster)
      (fun key s => key = s.currentKey cluster.id) c s :=
  .exchange (.currentKey cluster.id) (f := id) (fun _ _ => .of_unchanging rfl rfl)
    ⟨rfl, fun _ _ => rfl⟩ fun h => hP ⟨_, h⟩

theorem does_desiredKey (hP : (∃ x, g.tampered x) → P) :
    g.Does P (EncryptionKey.resource.desiredState context cluster) (fun _ _ => True) c s :=
  .exchange (.desiredKey cluster.id) (f := id) (fun _ _ => .of_unchanging rfl trivial)
    ⟨rfl, fun _ _ => rfl⟩ fun h => hP ⟨_, h⟩

theorem does_bucketName (hP : (∃ x, g.tampered x) → P) :
    g.Does P (Bucket.nameFor cluster) (fun bucket _ => bucket = g.conduct.bucket cluster) c s :=
  .bind (does_lookUpAccount hP) fun _ _ _ h => .pure (congrArg (Names.bucket · cluster.id) h)

theorem does_currentBucket (hP : (∃ x, g.tampered x) → P) :
    g.Does P (Bucket.resource.currentState context cluster) (fun current s => current =
      if g.conduct.bucket cluster ∈ s.buckets then g.conduct.bucket cluster else "") c s := by
  apply Does.bind (does_bucketName hP)
  intro bucket s₁ _ hb
  subst hb
  refine Does.exchange (.headBucket (g.conduct.bucket cluster))
    (f := fun answer => Cloud.accept CloudError.isNotFound ""
      (answer.map fun _ => g.conduct.bucket cluster)) (fun s₂ _ => .of_unchanging rfl ?_)
    ⟨rfl, fun _ _ => rfl⟩ fun h => hP ⟨_, h⟩
  rw [headBucket_of_answer, Stores.listObjects]
  cases hr : s₂.buckets[g.conduct.bucket cluster]? with
  | none => exact (if_neg (Table.not_mem_of_none hr)).symm
  | some objects => exact (if_pos (Table.mem_of_some hr)).symm

theorem does_currentStack {cloudConfigVersion : String} {policy : RetryPolicy}
    (hP : (∃ x, g.tampered x) → P) :
    g.Does P ((MainStack.resource cloudConfigVersion policy).currentState context cluster)
      (fun current s => current = .observed (Names.guestMainStack cluster.id)
        s.guest.present[Names.guestMainStack cluster.id]?) c s := by
  refine .bind (Does.expect (.describeStack .guest (Names.guestMainStack cluster.id))
    (f := StackState.ofAnswer (Names.guestMainStack cluster.id))
    (F := fun current s => current = .observed (Names.guestMainStack cluster.id)
      s.guest.present[Names.guestMainStack cluster.id]?) (fun s₁ _ => .of_unchanging rfl ?_)
    ⟨rfl, fun _ _ => rfl⟩ fun h => hP ⟨_, h⟩) fun _ _ _ h => .except h
  rw [Stores.answer_of_reading rfl]
  exact .of_ok (ofAnswer_describeStack s₁ .guest _) rfl

theorem does_groupOf (hP : (∃ x, g.tampered x) → P) :
    g.Does P (do
      let answer ← Cloud.describeStack .guest (Names.guestMainStack cluster.id)
      liftM (Drainer.groupOfAnswer (Names.guestMainStack cluster.id) answer))
      (fun group s => group =
        Drainer.groupOf s.guest.present[Names.guestMainStack cluster.id]?) c s := by
  refine .bind (Does.expect (.describeStack .guest (Names.guestMainStack cluster.id))
    (f := Drainer.groupOfAnswer (Names.guestMainStack cluster.id))
    (F := fun group s => group =
      Drainer.groupOf s.guest.present[Names.guestMainStack cluster.id]?)
    (fun s₁ _ => .of_unchanging rfl ?_) ⟨rfl, fun _ _ => rfl⟩ fun h => hP ⟨_, h⟩)
    fun _ _ _ h => .except h
  rw [Stores.answer_of_reading rfl]
  exact .of_ok (groupOfAnswer_describeStack s₁ .guest _) rfl

end Regime

end Memory

namespace Trial

def outputs : List (String × String) :=
  [("MasterImageID", "ami-1"), ("MasterInstanceType", "m4.large"),
   ("MasterCloudConfigVersion", "v1"), ("MasterInstanceResourceName", "MasterInstance0"),
   ("WorkerCount", "2"), ("WorkerImageID", "ami-1"), ("WorkerInstanceType", "m5.xlarge"),
   ("WorkerCloudConfigVersion", "v1"), ("VersionBundleVersion", "1.0.0"),
   (workerGroupOutput, "workers")]

def stores : Memory.Stores where
  guest := ⟨(∅ : Memory.Table Stack).insert (Names.guestMainStack "a1b2c")
    ⟨Names.guestMainStack "a1b2c", .createComplete, outputs⟩, [], []⟩
  host := .empty
  volumes := volumes
  groups := (∅ : Memory.Table (List GroupMember)).insert "workers"
    [⟨"i-2", GroupMember.parkedState⟩, ⟨"i-3", "InService"⟩]
  completed := []
  buckets := (∅ : Memory.Table (List String)).insert
    (Names.bucket Memory.Sandbox.accountId "a1b2c") ["key"]
  keys := (∅ : Std.ExtTreeSet String).insert "a1b2c"

end Trial

end ClusterKeeper

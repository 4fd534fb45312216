import Mathlib
import Testbed.CommandLine
import Testbed.Proofs.OperatorRole
import Testbed.Proofs.Usable

/-!
Collecting and installing agree.

Manifests that are collected are written to the log and nothing else is done, so every cluster
gives the same. Manifests that are installed are sent one by one, each at most once and as it would
have been collected; a run that finds nothing there and meets no fault sends all of them.
-/

namespace Testbed.DryRun

open Rehearsal
open Presence
open Bootstrap
open Bundled (operatorName operatorRef PermitsIn)
open Install (Outcomes Target)
open Naming (Names)
open Yaml (Value)

variable {τ α β : Type}

/-! ### Setting up everything -/

/-- Sets up a cluster, and then a namespace. -/
def setUpAll [Seconds τ] (timeout : τ) (roleName ns account : String) (target : Target) :
    Program τ (Outcomes × Target) := do
  let (done, target) ← Install.setUpCluster timeout roleName target
  let (more, target) ← Install.setUpNamespace ns account target
  return (done ++ more, target)

lemma setUpAll_eq [Seconds τ] (timeout : τ) (roleName ns account : String) (target : Target) :
    setUpAll timeout roleName ns account target =
      (Install.setUpCluster timeout roleName target).bind fun x =>
        (Install.setUpNamespace ns account x.2).bind fun y => .done (.ok (x.1 ++ y.1, y.2)) := rfl

/-- Where objects go, by whether there is a client and a collection. -/
def chosen (client : Bool) : Option Collection → Target
  | some c => .collection c
  | none => if client then .cluster else .nowhere

/-- The manifests that are set up, in order. -/
def planned (roleName ns account : String) : Except Refusal (List Manifest) := do
  let ofInstance ← Bundle.load "crd-instance.yaml"
  let ofTest ← Bundle.load "crd-test.yaml"
  let ofRole ← Bundle.load "user-cluster-role.yaml"
  let ofOperator ← Bundle.load "role.yaml"
  let ofBinding ← Bundle.load "role-binding.yaml"
  return [ofInstance, ofTest, Install.renamed roleName ofRole, Install.placed ns ofOperator,
    Install.bound account ns (Install.placed ns ofBinding)]

/-- The objects that the manifests name. -/
def objects (roleName ns : String) : List ObjectKey :=
  types.map (fun type => definitionKey type.2) ++ [roleKey roleName,
    Store.readKey .role (some ns) operatorName, Store.readKey .roleBinding (some ns) operatorName]

/-- The manifests that are installed in a cluster and a namespace. -/
structure FullKit (roleName ns account : String)
    (ofInstance ofTest ofRole ofOperator ofBinding : Manifest) : Prop
    extends Kit roleName ofInstance ofTest ofRole where
  loadOperator : ∃ m, Bundle.load "role.yaml" = .ok m ∧ Install.placed ns m = ofOperator
  loadBinding : ∃ m, Bundle.load "role-binding.yaml" = .ok m ∧
    Install.bound account ns (Install.placed ns m) = ofBinding
  forOperator : PermitsIn ofOperator .role ns
  forBinding : PermitsIn ofBinding .roleBinding ns

lemma exists_fullKit (roleName account : String) {ns : String} (hns : ns ≠ "") :
    ∃ ofInstance ofTest ofRole ofOperator ofBinding,
      FullKit roleName ns account ofInstance ofTest ofRole ofOperator ofBinding := by
  obtain ⟨ofInstance, ofTest, ofRole, kit⟩ := exists_kit roleName
  obtain ⟨operator, ho, operatorPermits⟩ := Bundled.load_operatorRole
  obtain ⟨binding, hb, bindingPermits⟩ := Bundled.load_operatorRoleBinding
  exact ⟨ofInstance, ofTest, ofRole, _, _, kit, ⟨operator, ho, rfl⟩, ⟨binding, hb, rfl⟩,
    operatorPermits.placed rfl hns, bindingPermits.bound rfl hns account⟩

section

variable {roleName ns account : String}
  {ofInstance ofTest ofRole ofOperator ofBinding : Manifest}

lemma FullKit.planned_eq
    (kit : FullKit roleName ns account ofInstance ofTest ofRole ofOperator ofBinding) :
    planned roleName ns account =
      .ok [ofInstance, ofTest, ofRole, ofOperator, ofBinding] := by
  obtain ⟨role, hr, rfl⟩ := kit.loadRole
  obtain ⟨operator, ho, rfl⟩ := kit.loadOperator
  obtain ⟨binding, hb, rfl⟩ := kit.loadBinding
  unfold planned
  rw [kit.loadInstance, kit.loadTest, hr, ho, hb]
  rfl

lemma FullKit.refs
    (kit : FullKit roleName ns account ofInstance ofTest ofRole ofOperator ofBinding) :
    [ofInstance, ofTest, ofRole, ofOperator, ofBinding].map (·.ref) =
      types.map typeRef ++ [Bundled.roleRef roleName, operatorRef .role (some ns),
        operatorRef .roleBinding (some ns)] := by
  simp only [List.map_cons, List.map_nil, kit.forInstance.ref, kit.forTest.ref, kit.forRole.ref,
    kit.forOperator.ref, kit.forBinding.ref]
  rfl

lemma FullKit.namespace_eq
    (kit : FullKit roleName ns account ofInstance ofTest ofRole ofOperator ofBinding)
    (target : Target) :
    (Install.setUpNamespace ns account target : Program τ _) =
      (Install.add ofOperator ([], target)).bind fun done => Install.add ofBinding done := by
  obtain ⟨operator, ho, rfl⟩ := kit.loadOperator
  obtain ⟨binding, hb, rfl⟩ := kit.loadBinding
  unfold Install.setUpNamespace Install.bundled
  rw [ho, hb]
  rfl

end

/-! ### Programs that only write to the log -/

/-- The program, after a record for each manifest that it is collected. -/
def said (ms : List Manifest) (p : Program τ α) : Program τ α :=
  ms.foldr (fun m p => .note .debug ("Collected " ++ m.ref.text) p) p

/-- What is written to the log when manifests are collected. -/
def collectedRecords (ms : List Manifest) : List (Level × String) :=
  ms.map fun m => (.debug, "Collected " ++ m.ref.text)

lemma said_bind (ms : List Manifest) (p : Program τ α) (f : α → Program τ β) :
    (said ms p).bind f = said ms (p.bind f) := by
  induction ms with
  | nil => rfl
  | cons m ms ih => exact congrArg (Program.note _ _) ih

lemma said_attempt (ms : List Manifest) (p : Program τ α) :
    (said ms p).attempt = said ms p.attempt := by
  induction ms with
  | nil => rfl
  | cons m ms ih => exact congrArg (Program.note _ _) ih

/-- The same cluster after some records more. -/
def noted (records : List (Level × String)) (r : Rehearsal τ) : Rehearsal τ :=
  { r with record := { r.record with log := r.record.log ++ records } }

/-- In every cluster the program does nothing but writing these records, and ends with this
result. -/
def Inert [Seconds τ] (p : Program τ α) (result : Except (Failure τ) α)
    (records : List (Level × String)) : Prop :=
  ∀ r, run p r = (result, noted records r) ∧
    trace p r = records.map fun x => .noted x.1 x.2

lemma inert_said [Seconds τ] (ms : List Manifest) (result : Except (Failure τ) α) :
    Inert (said ms (.done result)) result (collectedRecords ms) := by
  induction ms with
  | nil =>
    intro r
    refine ⟨?_, rfl⟩
    show (result, r) = (result, noted [] r)
    unfold noted
    rw [List.append_nil]
  | cons m ms ih =>
    intro r
    obtain ⟨hrun, htrace⟩ := ih (r.note .debug ("Collected " ++ m.ref.text))
    refine ⟨hrun.trans ?_, congrArg (_ :: ·) htrace⟩
    unfold noted Rehearsal.note collectedRecords
    rw [List.append_assoc]
    rfl

/-! ### Collecting -/

/-- What collecting some manifests gives. -/
def gathered (ms : List Manifest) (done : Outcomes) (c : Collection) : Outcomes × Target :=
  (done ++ ms.map fun m => (m.ref, .collected), .collection ⟨c.items ++ ms.map (·.body)⟩)

lemma add_collects (m : Manifest) (done : Outcomes) (c : Collection) :
    (Install.add m (done, .collection c) : Program τ _) =
      said [m] (.done (.ok (gathered [m] done c))) := rfl

lemma add_gathers (m : Manifest) (ms : List Manifest) (done : Outcomes) (c : Collection) :
    (said ms (.done (.ok (gathered ms done c)))).bind (Install.add m) =
      (said (ms ++ [m]) (.done (.ok (gathered (ms ++ [m]) done c))) : Program τ _) := by
  have hgather : gathered [m] (gathered ms done c).1 ⟨c.items ++ ms.map (·.body)⟩ =
      gathered (ms ++ [m]) done c := by
    simp [gathered, List.append_assoc]
  rw [said_bind]
  unfold said
  rw [List.foldr_append]
  show ms.foldr _ (Install.add m ((gathered ms done c).1, .collection _)) = _
  rw [add_collects, hgather]
  rfl

lemma gathered_append (ms ms' : List Manifest) (c : Collection) :
    ((gathered ms [] c).1 ++ (gathered ms' [] ⟨c.items ++ ms.map (·.body)⟩).1,
      (gathered ms' [] ⟨c.items ++ ms.map (·.body)⟩).2) = gathered (ms ++ ms') [] c := by
  simp [gathered]

section

variable {roleName ns account : String} {ofInstance ofTest ofRole ofOperator ofBinding : Manifest}

lemma collects_cluster [Seconds τ] (kit : Kit roleName ofInstance ofTest ofRole) (timeout : τ)
    (c : Collection) :
    Install.setUpCluster timeout roleName (.collection c) =
      said [ofInstance, ofTest, ofRole]
        (.done (.ok (gathered [ofInstance, ofTest, ofRole] [] c))) := by
  obtain ⟨role, hr, rfl⟩ := kit.loadRole
  have steps : Install.setUpCluster timeout roleName (.collection c) =
      ((Install.add ofInstance ([], .collection c)).bind (Install.add ofTest)).bind
        (Install.add (Install.renamed roleName role)) := by
    unfold Install.setUpCluster Install.bundled
    rw [kit.loadInstance, kit.loadTest, hr]
    rfl
  rw [steps, add_collects, add_gathers, List.singleton_append, add_gathers]
  rfl

lemma FullKit.collectsNamespace
    (kit : FullKit roleName ns account ofInstance ofTest ofRole ofOperator ofBinding)
    (c : Collection) :
    (Install.setUpNamespace ns account (.collection c) : Program τ _) =
      said [ofOperator, ofBinding] (.done (.ok (gathered [ofOperator, ofBinding] [] c))) := by
  rw [kit.namespace_eq, add_collects]
  exact add_gathers ofBinding [ofOperator] [] c

lemma FullKit.collects [Seconds τ]
    (kit : FullKit roleName ns account ofInstance ofTest ofRole ofOperator ofBinding)
    (timeout : τ) (c : Collection) :
    let plan := [ofInstance, ofTest, ofRole, ofOperator, ofBinding]
    setUpAll timeout roleName ns account (.collection c) =
      said plan (.done (.ok (gathered plan [] c))) := by
  intro plan
  have target : (gathered [ofInstance, ofTest, ofRole] [] c).2 =
      .collection ⟨c.items ++ [ofInstance, ofTest, ofRole].map (·.body)⟩ := rfl
  have whole := gathered_append [ofInstance, ofTest, ofRole] [ofOperator, ofBinding] c
  rw [setUpAll_eq, collects_cluster kit.toKit, said_bind, Program.bind_done_ok, target,
    kit.collectsNamespace, said_bind, Program.bind_done_ok, whole]
  rfl

lemma commandLine_setUp (hns : ns ≠ "") (s : Settings Float) (target : Target) :
    CommandLine.setUp (some ns) s target =
      setUpAll s.crdTimeout s.clusterRoleName ns s.serviceAccount target := by
  have given : Cluster.nonEmpty (some ns) = some ns := by simp [Cluster.nonEmpty, hns]
  unfold CommandLine.setUp
  rw [given]
  rfl

/-- A line that asks to collect for a namespace. -/
lemma FullKit.collectsLine
    (kit : FullKit roleName ns account ofInstance ofTest ofRole ofOperator ofBinding)
    (hns : ns ≠ "") (screen : Console.Screen) {line : List String} {a : CommandLine.Arguments}
    {sources : Settings.Sources} {s : Settings Float} (hline : CommandLine.parse line = .ok a)
    (hcommand : a.command = .install true (some ns)) (hload : Settings.load sources = .ok s)
    (hrole : s.clusterRoleName = roleName) (haccount : s.serviceAccount = account) :
    let plan := [ofInstance, ofTest, ofRole, ofOperator, ofBinding]
    CommandLine.run screen line sources =
      said plan (.done (.ok (.ran ⟨0, Collection.render ⟨plan.map (·.body)⟩, ""⟩))) := by
  intro plan
  have performs : CommandLine.perform a s =
      (CommandLine.setUp (some ns) s (.collection .empty)).bind fun x =>
        .done (.ok (.collected x.2.collected)) := by
    unfold CommandLine.perform
    rw [hcommand]
    rfl
  have operation : CommandLine.operation a sources =
      said plan (.done (.ok (.collected ⟨plan.map (·.body)⟩))) := by
    unfold CommandLine.operation
    rw [hload]
    refine performs.trans ?_
    rw [commandLine_setUp hns, hrole, haccount, kit.collects, said_bind]
    rfl
  have runs : CommandLine.run screen line sources =
      (CommandLine.operation a sources).attempt.bind (CommandLine.report screen) := by
    unfold CommandLine.run
    rw [hline]
    rfl
  rw [runs, operation, said_attempt, said_bind]
  rfl

end

/-! ### Installing -/

section

variable [Seconds τ]

/-- The bodies that are sent to be created, in order. -/
def submitted (cs : List (Call τ)) : List Value :=
  cs.filterMap fun c => match c.request with
    | .create _ _ body => some body
    | _ => none

/-- The bodies that any run sends are some of these, in their order. -/
def Submits (bodies : List Value) (p : Program τ α) : Prop :=
  ∀ r, (submitted (calls p r)).Sublist bodies

lemma Submits.bind {p : Program τ α} {f : α → Program τ β} {bodies bodies' : List Value}
    (hp : Submits bodies p) (hf : ∀ a, Submits bodies' (f a)) :
    Submits (bodies ++ bodies') (p.bind f) := by
  intro r
  rcases h : run p r with ⟨e | a, s⟩
  · rw [calls_bind_error h]
    exact (hp r).trans (List.sublist_append_left _ _)
  · rw [calls_bind_ok h]
    unfold submitted
    rw [List.filterMap_append]
    exact (hp r).append (hf a s)

omit [Seconds τ] in
lemma submitted_of_looks {cs : List (Call τ)} (h : ∀ c ∈ cs, Looks c.request) :
    submitted cs = [] := by
  refine List.filterMap_eq_nil_iff.2 fun c hc => ?_
  split
  · rename_i hreq
    exact absurd hreq (h c hc _ _ _)
  · rfl

lemma submits_of_looks {p : Program τ α} (h : Asks Looks p) : Submits [] p := by
  intro r
  rw [submitted_of_looks (h.calls r)]

section

variable {m : Manifest} {route : Route} {ns : Option String} {name : String}

/-- An object is sent at most once, and as it is in its manifest. -/
lemma submits_ensure (h : Names m route ns name) :
    Submits [m.body] (Install.ensure m.ref m.body : Program τ _) := by
  have looks : Asks Looks (Install.isInstalled m.ref m.body : Program τ _) :=
    Requests.asks_isInstalled (fun _ _ _ => nofun) fun _ _ _ _ _ => nofun
  rw [Naming.ensure_eq]
  refine (submits_of_looks looks).bind fun present => ?_
  intro r
  cases present with
  | true => exact List.nil_sublist _
  | false =>
    obtain ⟨s, -, -, -, hcalls⟩ := run_settle h r
    rw [hcalls]
    exact List.Sublist.refl _

lemma submits_add (h : Names m route ns name) (done : Outcomes × Target) :
    Submits [m.body] (Install.add m done : Program τ _) := by
  obtain ⟨done, target⟩ := done
  cases target with
  | cluster =>
    rw [add_eq]
    exact (submits_ensure h).bind fun _ => submits_of_looks (.done _)
  | collection c => exact fun r => List.nil_sublist _
  | nowhere => exact fun r => List.nil_sublist _

end

variable {roleName ns account : String}
  {ofInstance ofTest ofRole ofOperator ofBinding : Manifest}

lemma submits_cluster (kit : Kit roleName ofInstance ofTest ofRole) (timeout : τ) :
    Submits ([ofInstance, ofTest, ofRole].map (·.body)) (setUp timeout roleName) := by
  have looks : Asks Looks (Install.awaitType timeout ofTest .cluster) :=
    Requests.asks_awaitType fun _ _ _ => nofun
  rw [Usable.setUp_steps kit]
  exact (submits_add kit.forInstance.names _).bind fun done =>
    (submits_add kit.forTest.names done).bind fun done =>
      (submits_of_looks looks).bind fun _ => submits_add kit.forRole.names done

lemma FullKit.submitsNamespace
    (kit : FullKit roleName ns account ofInstance ofTest ofRole ofOperator ofBinding)
    (target : Target) : Submits ([ofOperator, ofBinding].map (·.body))
      (Install.setUpNamespace ns account target : Program τ _) := by
  rw [kit.namespace_eq]
  exact (submits_add kit.forOperator.names _).bind fun done =>
    submits_add kit.forBinding.names done

/-- The program comes to a result, and has sent these bodies. -/
structure Sends (p : Program τ α) (r : Rehearsal τ) (a : α) (s : Rehearsal τ)
    (bodies : List Value) : Prop where
  run : run p r = (.ok a, s)
  sent : submitted (calls p r) = bodies

lemma Sends.bind {p : Program τ α} {f : α → Program τ β} {r s t : Rehearsal τ} {a : α} {b : β}
    {bodies bodies' : List Value} (h : Sends p r a s bodies) (h' : Sends (f a) s b t bodies') :
    Sends (p.bind f) r b t (bodies ++ bodies') := by
  refine ⟨(run_bind_ok h.run).trans h'.run, ?_⟩
  rw [calls_bind_ok h.run]
  unfold submitted
  rw [List.filterMap_append]
  exact congrArg₂ _ h.sent h'.sent

omit [Seconds τ] in
lemma submitted_ne_nil {cs : List (Call τ)} {key : ObjectKey} (h : key ∈ created cs) :
    submitted cs ≠ [] := by
  intro hnil
  obtain ⟨⟨start, request, answer, finish⟩, hc, hcreated⟩ := List.mem_filterMap.1 h
  have hnone := List.filterMap_eq_nil_iff.1 hnil _ hc
  cases request with
  | create route ns body => cases hnone
  | _ => cases hcreated

/-- An object that is not there, and whose type is not listed if it defines one, is sent and
installed if no fault is met. -/
lemma add_new {m : Manifest} {route : Route} {ns : Option String} {name : String}
    (h : Names m route ns name) (done : Outcomes) {r : Rehearsal τ}
    (free : Undisturbed (Install.add m (done, .cluster)) r)
    (unlisted : route = .definition →
      ∀ now, ¬ Listed r.store m.ref.group m.ref.version m.ref.kind now)
    (absent : Store.readKey route ns name ∉ r.store.objects) :
    ∃ s, Sends (Install.add m (done, .cluster)) r (done ++ [(m.ref, .installed)], .cluster) s
        [m.body] ∧ s.store.objects = r.store.objects ++ [Store.readKey route ns name] := by
  rw [add_eq] at free ⊢
  obtain ⟨outcome, s, hrun, hensured⟩ := ensured_of_undisturbed h free.first
  have hmiss : ¬ Found m.ref route (Store.readKey route ns name) (r.atTime (r.clock + r.cost)) := by
    unfold Found
    split
    · rename_i hroute
      exact unlisted hroute _
    · exact absent
  cases hensured with
  | found hfound _ _ => exact absurd hfound hmiss
  | there _ hk _ _ => exact absurd hk absent
  | new _ _ hstore _ =>
    have sent : submitted (calls (Install.ensure m.ref m.body) r) = [m.body] :=
      (List.sublist_singleton.1 (submits_ensure h r)).resolve_left
        (submitted_ne_nil (created_of_installed h hrun))
    refine ⟨s, Sends.bind ⟨hrun, sent⟩ ⟨rfl, rfl⟩, ?_⟩
    rw [hstore]
    rfl

/-- What a program sends that creates nothing. -/
lemma objects_of_looks {p : Program τ α} (h : Asks Looks p) (r : Rehearsal τ) :
    (run p r).2.store.objects = r.store.objects := by
  have hnone : created (calls p r) = [] := by
    refine List.filterMap_eq_nil_iff.2 fun c hc => ?_
    obtain ⟨start, request, answer, finish⟩ := c
    have hlooks : Looks request := h.calls r _ hc
    cases request with
    | create route ns body => exact absurd rfl (hlooks route ns body)
    | _ => rfl
  rw [objects_run, hnone, List.append_nil]

/-- In the cluster nothing is there that is set up, and no entry of discovery lists a type. -/
structure Blank (roleName ns : String) (r : Rehearsal τ) : Prop where
  absent : ∀ key ∈ objects roleName ns, key ∉ r.store.objects
  unlisted : ∀ type ∈ types, ∀ e ∈ r.store.served, Usable.lists type.1 e = false

/-- The wait for the type of tests that setting up a cluster comes to. -/
def testsAreServed (timeout : τ) (r : Rehearsal τ) : Prop :=
  (run (Install.awaitServed ⟨"Test", Bundled.version, Install.ownGroup, timeout⟩)
    (run installTypes r).2).1 = .ok ()

omit [Seconds τ] in
/-- What is there after some objects of a list with different ones have been added. -/
lemma absent_after {before : List ObjectKey} {key : ObjectKey} {r s : Rehearsal τ}
    (distinct : (before ++ [key]).Nodup) (hr : key ∉ r.store.objects)
    (hs : s.store.objects = r.store.objects ++ before) : key ∉ s.store.objects := by
  rw [hs, List.mem_append]
  rintro (hk | hk)
  · exact hr hk
  · exact (List.nodup_append.1 distinct).2.2 key hk key (List.mem_singleton_self _) rfl

lemma sends_cluster (kit : Kit roleName ofInstance ofTest ofRole) {timeout : τ}
    {r : Rehearsal τ} (free : Undisturbed (setUp timeout roleName) r) (blank : Blank roleName ns r)
    (served : testsAreServed timeout r) :
    ∃ s, Sends (setUp timeout roleName) r
        ([ofInstance, ofTest, ofRole].map (fun m => (m.ref, .installed)), .cluster) s
        ([ofInstance, ofTest, ofRole].map (·.body)) ∧
      s.store.objects = r.store.objects ++
        (types.map (fun type => definitionKey type.2) ++ [roleKey roleName]) := by
  have unlisted {type : String × String} (ht : type ∈ types) (now : τ) :
      ¬ Listed r.store Install.ownGroup Bundled.version type.1 now := by
    rw [Usable.listed_iff_lists]
    rintro ⟨e, he, -⟩
    obtain ⟨he, hlists⟩ := List.mem_filter.1 he
    rw [blank.unlisted type ht e he] at hlists
    cases hlists
  have absent {key : ObjectKey} (hk : key ∈ objects roleName ns) := blank.absent key hk
  rw [Usable.setUp_steps kit] at free ⊢
  -- the definitions
  obtain ⟨s₁, sends₁, hobjects₁⟩ := add_new kit.forInstance.names [] free.first
    (fun _ => by rw [kit.forInstance.ref]; exact unlisted (.head _)) (absent (.head _))
  have free₁ := free.second sends₁.run
  have spares := Usable.sameEntries_run (Usable.asks_addDefinition kit.forInstance
    (show "Instance" ≠ "Test" by decide) ([], .cluster)) r
  rw [sends₁.run] at spares
  have hunlisted₁ (now : τ) :
      ¬ Listed s₁.store ofTest.ref.group ofTest.ref.version ofTest.ref.kind now := by
    rw [kit.forTest.ref, spares.listed]
    exact unlisted (.tail _ (.head _)) now
  obtain ⟨s₂, sends₂, hobjects₂⟩ := add_new kit.forTest.names _ free₁.first (fun _ => hunlisted₁)
    (absent_after (by simp [Store.readKey]) (absent (.tail _ (.head _))) hobjects₁)
  rw [hobjects₁, List.append_assoc] at hobjects₂
  have free₂ := free₁.second sends₂.run
  -- the wait, which changes no objects
  have wait_eq : Install.awaitType timeout ofTest .cluster = Install.awaitServed
      ⟨"Test", Bundled.version, Install.ownGroup, timeout⟩ := by
    unfold Install.awaitType
    rw [kit.forTest.ref]
  have looks : Asks Looks (Install.awaitType timeout ofTest .cluster) :=
    Requests.asks_awaitType fun _ _ _ h => by cases h
  unfold testsAreServed at served
  rw [kit.run_types sends₁.run sends₂.run, ← wait_eq] at served
  have sends₃ : Sends (Install.awaitType timeout ofTest .cluster) s₂ ()
      (run (Install.awaitType timeout ofTest .cluster) s₂).2 [] :=
    ⟨Prod.ext served rfl, submitted_of_looks (looks.calls s₂)⟩
  have hobjects₃ := (objects_of_looks looks s₂).trans hobjects₂
  have free₃ := free₂.second sends₃.run
  -- the role
  obtain ⟨s₄, sends₄, hobjects₄⟩ := add_new kit.forRole.names _ free₃
    (fun h => by cases h) (absent_after (by simp [Store.readKey])
      (absent (show roleKey roleName ∈ objects roleName ns by simp [objects])) hobjects₃)
  rw [hobjects₃, List.append_assoc] at hobjects₄
  exact ⟨s₄, sends₁.bind (sends₂.bind (sends₃.bind sends₄)), hobjects₄⟩

lemma FullKit.sendsNamespace
    (kit : FullKit roleName ns account ofInstance ofTest ofRole ofOperator ofBinding)
    {r : Rehearsal τ} (free : Undisturbed (Install.setUpNamespace ns account .cluster) r)
    (noRole : Store.readKey .role (some ns) operatorName ∉ r.store.objects)
    (noBinding : Store.readKey .roleBinding (some ns) operatorName ∉ r.store.objects) :
    ∃ s, Sends (Install.setUpNamespace ns account .cluster) r
      ([ofOperator, ofBinding].map (fun m => (m.ref, .installed)), .cluster) s
      ([ofOperator, ofBinding].map (·.body)) := by
  rw [kit.namespace_eq] at free ⊢
  obtain ⟨s, sends, hobjects⟩ := add_new kit.forOperator.names [] free.first nofun noRole
  obtain ⟨t, sends', -⟩ := add_new kit.forBinding.names _ (free.second sends.run) nofun
    (absent_after (by simp [Store.readKey]) noBinding hobjects)
  exact ⟨t, sends.bind sends'⟩

/-- Where nothing is there, everything is sent. -/
lemma FullKit.installs
    (kit : FullKit roleName ns account ofInstance ofTest ofRole ofOperator ofBinding)
    {timeout : τ} {r : Rehearsal τ}
    (free : Undisturbed (setUpAll timeout roleName ns account .cluster) r)
    (blank : Blank roleName ns r) (served : testsAreServed timeout r) :
    let plan := [ofInstance, ofTest, ofRole, ofOperator, ofBinding]
    ∃ s, Sends (setUpAll timeout roleName ns account .cluster) r
      (plan.map (fun m => (m.ref, .installed)), .cluster) s (plan.map (·.body)) := by
  intro plan
  rw [setUpAll_eq] at free ⊢
  obtain ⟨s, sends, hobjects⟩ := sends_cluster kit.toKit free.first blank served
  have free' := free.second sends.run
  have noRole : Store.readKey .role (some ns) operatorName ∉ s.store.objects :=
    absent_after (by simp [types, definitionKey, roleKey, Store.readKey])
      (blank.absent _ (by simp [objects])) hobjects
  have noBinding : Store.readKey .roleBinding (some ns) operatorName ∉ s.store.objects :=
    absent_after (by simp [types, definitionKey, roleKey, Store.readKey])
      (blank.absent _ (by simp [objects])) hobjects
  obtain ⟨t, sends'⟩ := kit.sendsNamespace free'.first noRole noBinding
  exact ⟨t, sends.bind (sends'.bind ⟨rfl, rfl⟩)⟩

end

/-! ### Main result -/

/-- How collecting the manifests of a plan and installing them agree. -/
structure Agrees (roleName ns account : String) (plan : List Manifest) : Prop where
  planned : planned roleName ns account = .ok plan
  five : plan.length = 5
  distinct : (plan.map (·.ref)).Nodup
  /-- Collecting asks nothing of the cluster, does not wait, and gives the same everywhere. -/
  collects : ∀ {τ : Type} [Seconds τ] (timeout : τ) (client : Bool) (c : Collection),
    Inert (setUpAll timeout roleName ns account (chosen client (some c)))
      (.ok (plan.map fun m => (m.ref, .collected),
        .collection ⟨c.items ++ plan.map (·.body)⟩))
      (collectedRecords plan)
  /-- So does a command line that asks for it. -/
  prints : ∀ (screen : Console.Screen) (line : List String) (a : CommandLine.Arguments)
    (sources : Settings.Sources) (s : Settings Float), CommandLine.parse line = .ok a →
      a.command = .install true (some ns) → Settings.load sources = .ok s →
      s.clusterRoleName = roleName → s.serviceAccount = account →
        Inert (CommandLine.run screen line sources)
          (.ok (.ran ⟨0, Collection.render ⟨plan.map (·.body)⟩, ""⟩)) (collectedRecords plan)
  /-- What is sent to the cluster is some of what is collected, in the same order. -/
  sends : ∀ {τ : Type} [Seconds τ] (timeout : τ) (r r' : Rehearsal τ),
    (submitted (calls (setUpAll timeout roleName ns account (chosen true none)) r)).Sublist
        (plan.map (·.body)) ∧
      (submitted (calls (setUp timeout roleName) r ++
          calls (Install.setUpNamespace ns account .cluster) r')).Sublist
        (plan.map (·.body))
  /-- Where nothing is there, it is all of it, and all of it is installed. -/
  installs : ∀ {τ : Type} [Seconds τ] (timeout : τ) (r : Rehearsal τ),
    Undisturbed (setUpAll timeout roleName ns account (chosen true none)) r →
      Blank roleName ns r → testsAreServed timeout r →
        (run (setUpAll timeout roleName ns account (chosen true none)) r).1 =
            .ok (plan.map fun m => (m.ref, .installed), .cluster) ∧
          submitted (calls (setUpAll timeout roleName ns account (chosen true none)) r) =
            plan.map (·.body)

/-- **A dry run tells what a run would do.** For a namespace there are five manifests. Collecting
gives all of them and touches nothing; whatever a cluster answers, installing sends some of them in
the same order and as they are collected, and all of them where nothing is in the way. -/
theorem dry_run_agrees (roleName ns account : String) (hns : ns ≠ "") :
    ∃ plan, Agrees roleName ns account plan := by
  obtain ⟨ofInstance, ofTest, ofRole, ofOperator, ofBinding, kit⟩ :=
    exists_fullKit roleName account hns
  refine ⟨[ofInstance, ofTest, ofRole, ofOperator, ofBinding], kit.planned_eq, rfl, ?_, ?_, ?_, ?_,
    ?_⟩
  · rw [kit.refs]
    simp [types, typeRef, Bundled.roleRef, operatorRef, Route.kind]
  · intro τ _ timeout client c
    show Inert (setUpAll timeout roleName ns account (.collection c)) _ _
    rw [kit.collects]
    exact inert_said _ _
  · intro screen line a sources s hline hcommand hload hrole haccount
    rw [kit.collectsLine hns screen hline hcommand hload hrole haccount]
    exact inert_said _ _
  · intro τ _ timeout r r'
    have cluster := submits_cluster kit.toKit timeout
    have space := kit.submitsNamespace (τ := τ)
    constructor
    · have whole : Submits ([ofInstance, ofTest, ofRole, ofOperator, ofBinding].map (·.body))
          (setUpAll timeout roleName ns account .cluster) := by
        rw [setUpAll_eq]
        exact cluster.bind fun x => (space x.2).bind fun y => submits_of_looks (.done _)
      exact whole r
    · unfold submitted
      rw [List.filterMap_append]
      exact (cluster r).append (space .cluster r')
  · intro τ _ timeout r free blank served
    obtain ⟨s, hrun, hsent⟩ := kit.installs free blank served
    exact ⟨congrArg Prod.fst hrun, hsent⟩

lemma testsAreServed_of_ends [Seconds τ] {roleName : String}
    {ofInstance ofTest ofRole : Manifest} (kit : Kit roleName ofInstance ofTest ofRole)
    {timeout : τ} {r s : Rehearsal τ} {result : Outcomes × Target}
    (h : run (setUp timeout roleName) r = (.ok result, s)) : testsAreServed timeout r := by
  rw [kit.setUp_eq] at h
  obtain ⟨done, t, htypes, h⟩ := ok_of_run_bind h
  obtain ⟨_, u, hwait, -⟩ := ok_of_run_bind h
  unfold Install.awaitType at hwait
  rw [kit.forTest.ref] at hwait
  unfold testsAreServed
  rw [htypes, hwait]

/-- The namespace for which a line collects manifests. -/
def collectedFor : Except CommandLine.Stop CommandLine.Arguments → Option String
  | .ok ⟨_, _, _, .install true ns⟩ => ns
  | _ => none

lemma exists_of_collectedFor {parsed : Except CommandLine.Stop CommandLine.Arguments}
    {ns : String} (h : collectedFor parsed = some ns) :
    ∃ a, parsed = .ok a ∧ a.command = .install true (some ns) := by
  match parsed, h with
  | .ok ⟨_, _, _, .install true _⟩, h => exact ⟨_, rfl, congrArg _ h⟩

/-- A line that collects what is for a namespace of tests, and the same installed on an empty
cluster. -/
theorem tests_collected_and_installed : ∃ plan, Agrees "yaks:edit" "tests" "yaks" plan ∧
    Inert (CommandLine.run Console.screen ["install", "--collect", "-n", "tests"] ⟨[], [], none⟩)
      (.ok (.ran ⟨0, Collection.render ⟨plan.map (·.body)⟩, ""⟩)) (collectedRecords plan) ∧
    (run (setUpAll (25 : Rat) "yaks:edit" "tests" "yaks" .cluster) bareWorld).1 =
      .ok (plan.map fun m => (m.ref, .installed), .cluster) := by
  obtain ⟨plan, agrees⟩ := dry_run_agrees "yaks:edit" "tests" "yaks" (by decide)
  have hline : collectedFor (CommandLine.parse ["install", "--collect", "-n", "tests"]) =
      some "tests" := by
    decide +kernel
  obtain ⟨a, hparse, hcommand⟩ := exists_of_collectedFor hline
  obtain ⟨ofInstance, ofTest, ofRole, kit⟩ := exists_kit "yaks:edit"
  have calm : Calm bareWorld := ⟨by decide, by simp [Faultless, bareWorld]⟩
  have served : Bootstrap.Served bareWorld bareWorld.clock := by
    simp [Bootstrap.Served, bareWorld]
  obtain ⟨result, final, hends⟩ := kit.ends 25 calm.cost (Follows.refl bareWorld) calm.faultless
    rfl served (Steady.le_refl _)
  have blank : Blank "yaks:edit" "tests" bareWorld :=
    ⟨by simp [bareWorld], by simp [bareWorld]⟩
  exact ⟨plan, agrees, agrees.prints _ _ a _ _ hparse hcommand rfl rfl rfl,
    (agrees.installs 25 bareWorld (calm.faultless.undisturbed _) blank
      (testsAreServed_of_ends kit hends)).1⟩

end Testbed.DryRun

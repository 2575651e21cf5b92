/-
The member agent: a delivery is validated as a whole before the first write, then its items are
applied in order, each with one read of the cluster and at most one write that presents what was
read. A run stands at one of these calls; it can be left there for any time.
-/
import Xscope.Base.Objects
import Xscope.Fleet.Op

namespace Xscope.Member

open Fleet

structure Config where
  clusterId : String
  nameSpace : String
  deriving DecidableEq

/-- A deployment in the cluster: the owner label, the version and digest annotations, and the spec. -/
structure ModelDeployment where
  owner : Option String
  version : Option Int
  digest : Option String
  spec : Json
  deriving DecidableEq

abbrev Current := Stored String ModelDeployment

abbrev Cluster := Objects String ModelDeployment

-- `model` reads a spec under a name: its deserialisation and validation, with the defaults
variable (env : Env) (model : String → Json → Option Json) (config : Config)

/-! ## Validation -/

def validateItem (names : List String) (item : DesiredDeployment) : Except ErrorCode (Option Json) :=
  if Fleet.name item.name = false ∨ item.name ∈ names then .error .invalidSpec
  else match item.spec with
  | some spec =>
    if item.deleteUid.isSome then .error .invalidSpec
    else match model item.name spec with
    | some desired => .ok (some desired)
    | none => .error .invalidSpec
  | none => if item.deleteUid.any bounded then .ok none else .error .invalidSpec

/-- Every item, with the names before it. -/
def validateItems (names : List String) : List DesiredDeployment → Except ErrorCode (List (Option Json))
  | [] => .ok []
  | item :: rest => do
    let desired ← validateItem model names item
    let models ← validateItems (item.name :: names) rest
    pure (desired :: models)

def validateDelivery (delivery : ClusterDelivery) : Except ErrorCode (List (Option Json)) :=
  if delivery.clusterId ≠ config.clusterId ∨ delivery.nameSpace ≠ config.nameSpace ∨ delivery.version ≤ 0 ∨
      delivery.leaseSeconds ≠ 60 ∨ 100 < delivery.deployments.length ∨
      payloadLimit < (env.encode delivery.deployments).utf8ByteSize ∨
        env.digest delivery.deployments ≠ delivery.sha256 then
    .error .invalidSpec
  else validateItems model [] delivery.deployments

/-! ## One item -/

inductive Mutation where
  | create (name : String) (content : ModelDeployment)
  | replace (current : Current) (content : ModelDeployment)
  | delete (current : Current)
  deriving DecidableEq

/-- The deployment under the labels and annotations of the delivery. -/
def applied (delivery : ClusterDelivery) (spec : Json) : ModelDeployment :=
  ⟨some config.clusterId, some delivery.version, some delivery.sha256, spec⟩

/-- The object may be written under the delivery. -/
def checkOwner (delivery : ClusterDelivery) (current : Current) : Except ErrorCode Unit :=
  if current.content.owner ≠ some config.clusterId then .error .ownershipConflict
  else match current.content.version with
  | none => .error .ownershipConflict
  | some version =>
    if delivery.version < version ∨ (version = delivery.version ∧ current.content.digest ≠ some delivery.sha256) then
      .error .ownershipConflict
    else .ok ()

/-- What is written for an item whose object was read as `current`. -/
def planItem (delivery : ClusterDelivery) (item : DesiredDeployment) (desired : Option Json)
    (current : Option Current) :
    Except ErrorCode (Option Mutation) :=
  if item.expectedUid.isSome ∧ current.map (·.uid) ≠ item.expectedUid then .error .identityMismatch
  else do
    match current with
    | some current =>
      checkOwner config delivery current
      match desired with
      | some spec => pure (some (.replace current (applied config delivery spec)))
      | none => if some current.uid = item.deleteUid then pure (some (.delete current)) else .error .ownershipConflict
    | none => match desired with
      | some spec => pure (some (.create item.name (applied config delivery spec)))
      | none => pure none

/-- The call to the cluster; a created object gets `uid`. -/
def Mutation.run (uid : String) (cluster : Cluster) : Mutation → Option Cluster
  | .create name content => cluster.create name uid content
  | .replace current content => cluster.replace current content
  | .delete current => cluster.remove current

/-! ## Runs -/

inductive Phase where
  | reading
  | writing (mutation : Mutation)
  | finished (result : Except ErrorCode Unit)

/-- A run of `apply`: the items it still has to apply, and the call it stands at. -/
structure Run where
  delivery : ClusterDelivery
  rest : List (DesiredDeployment × Option Json)
  phase : Phase

/-- After an item. -/
def proceed (rest : List (DesiredDeployment × Option Json)) : Phase :=
  if rest.isEmpty then .finished (.ok ()) else .reading

def Run.start (delivery : ClusterDelivery) : Run := match validateDelivery env model config delivery with
  | .error code => ⟨delivery, [], .finished (.error code)⟩
  | .ok models => ⟨delivery, delivery.deployments.zip models, proceed (delivery.deployments.zip models)⟩

/-- An item that was applied: the version of the run, what it found under the name, and whether it set
the spec or cleared the name. -/
structure Event where
  version : Int
  name : String
  found : Option Current
  sets : Bool
  deriving DecidableEq

def Mutation.event (version : Int) : Mutation → Event
  | .create name _ => ⟨version, name, none, true⟩
  | .replace current _ => ⟨version, current.name, some current, true⟩
  | .delete current => ⟨version, current.name, some current, false⟩

/-- The read of the next item, and what it leads to. A deletion that finds nothing is applied by it. -/
def Run.read (cluster : Cluster) (run : Run) : Run × Option Event := match run.phase, run.rest with
  | .reading, (item, desired) :: rest => match planItem config run.delivery item desired (cluster.get? item.name) with
    | .error code => ({ run with phase := .finished (.error code) }, none)
    | .ok none =>
      ({ run with rest := rest, phase := proceed rest }, some ⟨run.delivery.version, item.name, none, false⟩)
    | .ok (some mutation) => ({ run with phase := .writing mutation }, none)
  | _, _ => (run, none)

/-- The run after a call that was not answered. -/
def Run.failed (run : Run) : Run := match run.phase with
  | .finished _ => run
  | _ => { run with phase := .finished (.error .kubernetesUnavailable) }

/-- The run after its write was answered. -/
def Run.written (run : Run) : Run := { run with rest := run.rest.tail, phase := proceed run.rest.tail }

/-- A run that has applied its delivery. -/
def Run.completed (run : Run) : Bool := match run.phase with
  | .finished (.ok _) => true
  | _ => false

/-! ## The system -/

/-- The control plane, the objects of the cluster, the runs of its agents, and the items that were
applied, the last one first. -/
structure System where
  plane : State
  cluster : Cluster
  runs : List Run
  log : List Event

/-- The next step of the system. A run starts when its delivery is handed out; a write can take effect
although its answer is lost; others update the status of an object. -/
inductive Act where
  | plane (op : Op)
  | deliver (authAt now : Int) (lease token : String)
  | read (run : Nat)
  | write (run : Nat) (uid : String) (lost : Bool)
  | fail (run : Nat)
  | touch (name : String)

def System.deliver (system : System) (authAt now : Int) (lease token : String) : System :=
  match pollCluster env authAt now lease config.clusterId token system.plane with
  | .ok (polled, plane) =>
    { system with plane := plane, runs := system.runs ++ polled.delivery.toList.map (Run.start env model config) }
  | .error _ => system

def System.write (system : System) (i : Nat) (uid : String) (lost : Bool) : System := match system.runs[i]? with
  | none => system
  | some run => match run.phase with
    | .writing mutation => match mutation.run uid system.cluster with
      | none => { system with runs := system.runs.set i run.failed }
      | some cluster =>
        { system with
          cluster := cluster, runs := system.runs.set i (if lost then run.failed else run.written)
          log := mutation.event run.delivery.version :: system.log }
    | _ => system

def System.read (system : System) (i : Nat) : System := match system.runs[i]? with
  | none => system
  | some run =>
    { system with
      runs := system.runs.set i (run.read config system.cluster).1
      log := (run.read config system.cluster).2.toList ++ system.log }

def System.fail (system : System) (i : Nat) : System := match system.runs[i]? with
  | none => system
  | some run => { system with runs := system.runs.set i run.failed }

def Act.run (act : Act) (system : System) : System := match act with
  | .plane op => { system with plane := op.run env system.plane }
  | .deliver authAt now lease token => system.deliver env model config authAt now lease token
  | .read i => system.read config i
  | .write i uid lost => system.write i uid lost
  | .fail i => system.fail i
  | .touch name => { system with cluster := system.cluster.touch name }

def Act.runAll (acts : List Act) (system : System) : System :=
  acts.foldl (fun system act => act.run env model config system) system

/-- A control plane without clusters, a cluster with the objects it has, and no run. -/
def System.start (cluster : Cluster) : System := ⟨.empty, cluster, [], []⟩

end Xscope.Member

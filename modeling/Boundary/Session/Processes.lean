import Boundary.Bridge.Resident
import Boundary.Session.Steps
/-!
Sessions in one process: host code and native objects call each other, and every step is reported.

A native object lives as long as it has a name or a step uses it.
-/
namespace Boundary
namespace ProcessSession

inductive Origin where
  | resident
  | scripted
  deriving DecidableEq, Repr, Inhabited

structure Object where
  kind : Capability
  origin : Origin
  handle : HandleId
  deriving DecidableEq, Repr, Inhabited

/-- What stands for a callback in native hands. -/
structure Table where
  kind : Capability
  id : Int
  deriving DecidableEq, Repr, Inhabited

structure State where
  /-- All callbacks that there ever were; each is referred to by its place. -/
  lent : List (Lent Step)
  /-- The keys that callbacks keep. -/
  stores : Keyed CallbackRef KeyStore
  held : Names CallbackRef
  objects : Names Object
  /-- The objects that steps use, each as often as it is used. -/
  inUse : List HandleId
  tables : Names Table
  behaviours : Keyed Nat Behaviour
  /-- What was noticed so far during the step that runs. -/
  events : List (Event Report)

abbrev Action (α : Type) := Run (Process State) α

def State.start : State := ⟨[], [], [], [], [], [], [], []⟩

def state : Action State := return (← get).host

def note (e : Event Report) : Action Unit :=
  Process.setHost fun s => { s with events := s.events ++ [e] }

/-! Host code -/

/-- A new callback, which is held. -/
def lend (c : Lent Step) : Action CallbackRef := do
  let ref := (← state).lent.length
  Process.setHost fun s => { s with lent := s.lent ++ [c] }
  Process.hold ref
  return ref

def SignerAct.sign (payload : Bytes) : SignerAct → Action (Except DomainError Bytes)
  | .echo => return .ok payload
  | .join before => return .ok (before ++ payload)
  | .reverse => return .ok payload.reverse
  | .fixed signature => return .ok signature
  | .fail e => return .error e
  | .panic text => Run.raise (.panicked text)

def storeOf (ref : CallbackRef) : Action KeyStore :=
  return ((← state).stores.get? ref).getD .empty

def importInto (ref : CallbackRef) (key : Jwk) :
    KeyManagerAct Step → Action (Except DomainError Jwk)
  | .echo _ => return .ok key
  | .store => do
    let keys := (← storeOf ref).put key
    Process.setHost fun s => { s with stores := s.stores.put ref keys }
    return .ok key.toPublic
  | .fail e => return .error e
  | .panic text => Run.raise (.panicked text)

/-- The signer of a key that a callback keeps. -/
def signerOf (key : Jwk) : Lent Step :=
  .signer ⟨some ("key " ++ key.x), .join key.secret, [], []⟩

def signerFrom (ref : CallbackRef) (key : Jwk) :
    KeyManagerAct Step → Action (Except DomainError CallbackRef)
  | .echo signer => return .ok (← lend (.signer signer))
  | .store => do
    match (← storeOf ref).get? key.x with
    | some found => return .ok (← lend (signerOf found))
    | none => return .error ⟨"KeyManager", "NotFound", "unknown key"⟩
  | .fail e => return .error e
  | .panic text => Run.raise (.panicked text)

/-- The steps of a callback that is called. -/
def announce (report : Step → Action Report) (c : Callback Step A) (argument : CallArgument) :
    Action Unit := do
  let steps ← c.script.mapM report
  note (.called c.label argument steps)

def keyManagerAt (ref : CallbackRef) : Action (Callback Step (KeyManagerAct Step)) := do
  match (← state).lent[ref]? with
  | some (.keyManager c) => return c
  | _ => Run.abort

/-- Host code whose steps run as `report` says. -/
def hostBy (report : Step → Action Report) : Host State where
  sign ref payload := do
    match (← state).lent[ref]? with
    | some (.signer c) => do
      announce report c (.sign payload)
      c.act.sign payload
    | _ => Run.abort
  importKey ref key := do
    let c ← keyManagerAt ref
    announce report c (.importKey key)
    importInto ref key c.act
  signerFor ref key := do
    let c ← keyManagerAt ref
    announce report c (.signerFor key)
    signerFrom ref key c.act
  dropped ref := do
    match (← state).lent[ref]? with
    | none => return ()
    | some c => do
      let steps ← c.onDrop.mapM report
      note (.dropped c.label steps)

/-! Libraries -/

/-- A scripted entry point gives back what it should for the address. -/
def scriptedEntry (name : String) (reply : Behaviour → Reply α) (address : Nat) (argument : Bytes) :
    Action (Reply α) := do
  note (.native name address argument)
  return reply (((← state).behaviours.get? address).getD .silent)

def scriptedLibrary : Library (Process State) where
  core := Core.resident
  signer := {
    sign := fun address b => scriptedEntry "sign" Behaviour.sign address b.content
    free := fun address => scriptedEntry "free" Behaviour.free address []
    fromHost := none }
  keyManager := {
    new := scriptedEntry "new" Behaviour.new 0 []
    fromHost := none
    importKey := fun address b => scriptedEntry "import" Behaviour.importKey address b.content
    signerFor := fun address b => scriptedEntry "get_signer" Behaviour.signerFor address b.content
    free := fun address => scriptedEntry "free" Behaviour.free address [] }
  thumbprint b := scriptedEntry "thumbprint" Behaviour.thumbprint 0 b.content

def libraryOf (host : Host State) : Origin → Library (Process State)
  | .resident => host.library
  | .scripted => scriptedLibrary

def Construction.apply (lib : Library σ) : Construction → Library σ
  | .usual => lib
  | .unsupported =>
    { lib with
      signer := { lib.signer with fromHost := none }
      keyManager := { lib.keyManager with fromHost := none } }
  | .refuse status =>
    { lib with
      signer := { lib.signer with fromHost := some fun _ => return ⟨status, 0⟩ }
      keyManager := { lib.keyManager with fromHost := some fun _ => return ⟨status, 0⟩ } }

def remember (address : Nat) (b : Behaviour) : Action Unit :=
  Process.setHost fun s => { s with behaviours := s.behaviours.put address b }

/-- The library for a step, which is scripted if there is a behaviour for the null address. -/
def libraryFor (host : Host State) : Option Behaviour → Action (Origin × Library (Process State))
  | none => return (.resident, host.library)
  | some b => do
    remember 0 b
    return (.scripted, scriptedLibrary)

/-! Names -/

section
variable (host : Host State)

/-- Holds a callback under a name. Another one that was held under it is let go after that. -/
def keepHeld (name : String) (ref : CallbackRef) : Action Unit := do
  let old := (← state).held.get? name
  Process.setHost fun s => { s with held := s.held.put name ref }
  match old with
  | some ref => host.letGo ref
  | none => return ()

def freeTable (t : Table) : Action Unit := host.exportedFree t.kind t.id

def keepTable (name : String) (t : Table) : Action Unit := do
  let old := (← state).tables.get? name
  Process.setHost fun s => { s with tables := s.tables.put name t }
  match old with
  | some t => freeTable host t
  | none => return ()

/-- Ends an object that neither has a name nor is used. -/
def letGoObject (o : Object) : Action Unit := do
  let s ← state
  if s.inUse.contains o.handle || s.objects.any (·.2.handle = o.handle) then return ()
  else (libraryOf host o.origin).destroy o.kind o.handle

def keepObject (name : String) (o : Object) : Action Unit := do
  let old := (← state).objects.get? name
  Process.setHost fun s => { s with objects := s.objects.put name o }
  match old with
  | some o => letGoObject host o
  | none => return ()

def dropObject (name : String) : Action Bool := do
  match (← state).objects.get? name with
  | none => return false
  | some o => do
    Process.setHost fun s => { s with objects := s.objects.remove name }
    letGoObject host o
    return true

def dropTable (name : String) : Action Bool := do
  match (← state).tables.get? name with
  | none => return false
  | some t => do
    Process.setHost fun s => { s with tables := s.tables.remove name }
    freeTable host t
    return true

/-- Uses the object with the name, which lives until then. -/
def withObject (name : String) (use : Object → Action Answer) : Action Answer := do
  match (← state).objects.get? name with
  | none => return .missing
  | some o => do
    Process.setHost fun s => { s with inUse := o.handle :: s.inUse }
    Run.ensuring (use o) do
      Process.setHost fun s => { s with inUse := s.inUse.erase o.handle }
      letGoObject host o

def withKind (kind : Capability) (name : String)
    (use : Library (Process State) → Object → Action Answer) : Action Answer :=
  withObject host name fun o =>
    if o.kind = kind then use (libraryOf host o.origin) o else return .missing

/-- Uses a held callback, which is held until then. -/
def withHeld (name : String) (use : CallbackRef → Action Answer) : Action Answer := do
  match (← state).held.get? name with
  | none => return .missing
  | some ref => do
    Process.hold ref
    use ref

def withTarget (kind : Capability) (target : Target) (use : Int → Action Answer) :
    Action Answer := do
  match target with
  | .number id => use id
  | .table name =>
    match (← state).tables.get? name with
    | some t => if t.kind = kind then use t.id else return .missing
    | none => return .missing

end

/-! Steps -/

def Answer.ofResult (f : α → Answer) : Except DomainError α → Answer
  | .ok a => f a
  | .error e => .refused e

def Answer.ofRegistration : Except BridgeError Int → Answer
  | .ok id => .number (some id)
  | .error e => .failed e

/-- The key that raw calls find. -/
def sampleKey : Jwk := ⟨none, "", "", some "AQID", "k", none⟩

/-- Uses an object that is there for one call. -/
def withSample (o : ResidentObject) (use : Nat → Action Answer) : Action Answer := do
  let address ← Resident.add o
  Run.ensuring (use address) do let _ ← Resident.take address

def rawCall (lib : Library (Process State)) (entry : RawEntry) (argument : Buffer) :
    Action Answer := do
  let bytes (r : Except DomainError Buffer) : Answer :=
    Answer.ofResult (fun b => .bytes (some b.content)) r
  let manager := ResidentObject.keyManager (.own (KeyStore.empty.put sampleKey))
  match entry with
  | .thumbprint => return bytes (← lib.callOrError (lib.thumbprint argument))
  | .sign => withSample (.signer (.own sampleKey)) fun address => do
    return bytes (← lib.callOrError (lib.signer.sign address argument))
  | .importKey => withSample manager fun address => do
    return bytes (← lib.callOrError (lib.keyManager.importKey address argument))
  | .signerFor => withSample manager fun address => do
    match ← lib.callOrError (lib.keyManager.signerFor address argument) with
    | .error e => return .refused e
    | .ok signer => do
      lib.freeObject .signer signer
      return .flag true

def describe (o : Object) : Action Answer := do
  let h := (← get).handles.getD o.handle default
  return .text (o.kind.objectName ++ " \x7b handle: " ++ h.describe ++ " \x7d")

def run (host : Host State) : Step → Action Answer
  | .register c => do
    let ref ← lend c
    return .ofRegistration (← host.register c.kind ref)
  | .lookup kind id name => do
    match ← Process.lookup kind id, name with
    | none, _ => return .flag false
    | some ref, none => do
      host.letGo ref
      return .flag true
    | some ref, some name => do
      keepHeld host name ref
      return .flag true
  | .unregister kind id => do
    let _ ← Process.installedOrDefault
    return .flag (← host.unregister kind id)
  | .registerHeld name => withHeld name fun ref =>
    return .ofRegistration (← host.register .signer ref)
  | .signHeld name payload => withHeld name fun ref => do
    let signed ← Run.ensuring (host.sign ref payload) (host.letGo ref)
    return .ofResult (fun b => .bytes (some b)) signed
  | .letGo name => do
    match (← state).held.get? name with
    | none => return .flag false
    | some ref => do
      Process.setHost fun s => { s with held := s.held.remove name }
      host.letGo ref
      return .flag true
  | .dispatchSign id payload => return .bytes (← host.dispatchSign id payload)
  | .dispatchImport id key => return .key (← host.dispatchImport id key)
  | .dispatchSignerFor id key => return .issued (← host.dispatchSignerFor id key)
  | .install limit => do
    match ← Process.install (Callbacks.withLimit limit) with
    | .ok c => return .number (some c.signers.size)
    | .error e => return .failed e
  | .isInstalled => return .flag (← get).callbacks.isSome
  | .exportedSign target payload hasPlace => withTarget .signer target fun id =>
    return .signature (← host.exportedSign id payload hasPlace)
  | .exportedImport target argument => withTarget .keyManager target fun id => do
    match ← host.exportedImport id argument with
    | .null => return .bytes none
    | .region b _ => return .bytes (some b)
  | .exportedSignerFor target argument name => withTarget .keyManager target fun id => do
    let signer ← host.exportedSignerFor id argument
    if let some id := signer then keepTable host name ⟨.signer, id⟩
    return .number signer
  | .freeNothing => return .done
  | .table name kind id => do
    keepTable host name ⟨kind, id⟩
    return .done
  | .freeTable name => return .flag (← dropTable host name)
  | .newKeyManager name scripted => do
    let (origin, lib) ← libraryFor host scripted
    if let some b := scripted then remember b.new.value b
    keepObject host name ⟨.keyManager, origin, ← lib.newKeyManager⟩
    return .done
  | .fromHost name c construction => do
    let ref ← lend c
    match ← (construction.apply host.library).fromHost host c.kind ref with
    | .error e => return .failed e
    | .ok handle => do
      keepObject host name ⟨c.kind, .resident, handle⟩
      return .done
  | .sign object payload => withKind host .signer object fun lib o =>
    return .ofResult (fun b => .bytes (some b)) (← lib.sign o.handle payload)
  | .importKey object key => withKind host .keyManager object fun lib o =>
    return .ofResult (fun k => .key (some k)) (← lib.importKey o.handle key)
  | .signerFor object key name => withKind host .keyManager object fun lib o => do
    match ← lib.signerFor o.handle key with
    | .error e => return .refused e
    | .ok handle => do
      keepObject host name ⟨.signer, o.origin, handle⟩
      return .done
  | .destroy object => withObject host object fun o => do
    (libraryOf host o.origin).destroy o.kind o.handle
    return .done
  | .drop object => return .flag (← dropObject host object)
  | .describe object => withObject host object describe
  | .thumbprint key scripted => do
    let (_, lib) ← libraryFor host scripted
    return .text (← lib.thumbprintOf key)
  | .rawCall entry argument => do
    rawCall host.library entry (← Run.give (Buffer.ofContent argument))
  | .fromNothing kind => do
    let lib := host.library
    let made ← match kind with
      | .signer => lib.signer.fromHost.mapM fun make => lib.core.call (make none)
      | .keyManager => lib.keyManager.fromHost.mapM fun make => lib.core.call (make none)
    return .flag made.isSome
  | .craft name (.signer id) => do
    let lib := host.library
    let handle ← lib.construct .signer (Resident.fromHost .signer .signer (some (.foreign id)))
    keepObject host name ⟨.signer, .resident, handle⟩
    return .done
  | .craft name (.keyManager table) => do
    let lib := host.library
    let handle ← lib.construct .keyManager
      (Resident.fromHost .keyManager .keyManager (some (.foreign table)))
    keepObject host name ⟨.keyManager, .resident, handle⟩
    return .done
  | .adopt name kind o behaviour => do
    remember o.address behaviour
    keepObject host name ⟨kind, .scripted, ← Process.adopt kind o⟩
    return .done
  | .behave address behaviour => do
    remember address behaviour
    return .done

def setEvents (events : List (Event Report)) : Action Unit :=
  Process.setHost fun s => { s with events }

/-- Runs something on its own: its faults and what is noticed during it are told apart from the
rest. -/
def observe (x : Action α) : Action (Except Fault α × List (Event Report)) := do
  let before := (← state).events
  setEvents []
  let a ← Run.attempt x
  let events := (← state).events
  setEvents before
  return (a, events)

def report (host : Host State) (step : Step) : Action Report := do
  let (answer, events) ← observe (run host step)
  return .of answer events (← get).callbacks

/-- Host code whose calls go down `depth` levels at most; the process ends below that. -/
def hostWithin : (depth : Nat) → Host State
  | 0 => hostBy fun _ => Run.abort
  | depth + 1 => hostBy fun step => report (hostWithin depth) step

/-- More levels than the stack of a process has room for. -/
def maxDepth : Nat := 1000

/-- More objects than a session that ends can leave. -/
def maxLeft : Nat := 1000000

/-- Drops what has the least name as long as there is something. What a drop brings about is
dropped too. -/
def dropAll (least? : State → Option String) (drop : String → Action Bool) :
    (fuel : Nat) → Action Unit
  | 0 => Run.abort
  | fuel + 1 => do
    match least? (← state) with
    | none => return ()
    | some name => do
      let _ ← Run.attempt (drop name)
      dropAll least? drop fuel

/-- What is left is dropped: first objects, then what stands for callbacks, each by name. -/
def close (host : Host State) : Action Unit := do
  dropAll (·.objects.least?) (dropObject host) maxLeft
  dropAll (·.tables.least?) (dropTable host) maxLeft

structure Outcome where
  reports : List Report
  /-- What was noticed at the end and the callbacks after it, unless the process ended before. -/
  last : Option (List (Event Report) × Option Callbacks)

/-- The steps one after the other, and the end. -/
def runAll (host : Host State) : List Step → Process State → Outcome
  | [], p =>
    match observe (close host) p with
    | .ok (_, events) p => ⟨[], some (events, p.callbacks)⟩
    | .error _ _ => ⟨[], none⟩
  | step :: steps, p =>
    match report host step p with
    | .error _ _ => ⟨[], none⟩
    | .ok r p =>
      let rest := runAll host steps p
      { rest with reports := r :: rest.reports }

/-- A session in a process in which these callbacks are installed, if any. -/
def outcome (callbacks : Option Callbacks) (steps : List Step) : Outcome :=
  runAll (hostWithin maxDepth) steps { Process.start State.start with callbacks }

end ProcessSession
end Boundary

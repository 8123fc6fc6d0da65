import Boundary.Bytes
import Boundary.Contract
import Boundary.Error
import Boundary.Toml.Printer
/-!
Settings: the contract to verify and how many callbacks of a kind may be registered. They are kept
in a configuration file in which every setting is optional.
-/
namespace Boundary

structure Settings where
  contract : Contract
  /-- 0 stands for no limit. -/
  maxRegistered : Nat
  deriving DecidableEq, Repr, Inhabited

/-- What is found where the file of the settings should be. -/
inductive FoundFile where
  | nothing
  /-- Something that cannot be read as a file. -/
  | unreadable
  | content (b : Bytes)
  deriving DecidableEq, Repr, Inhabited

namespace Settings

def standard : Settings := ⟨Contract.current, 0⟩

/-- How a section finds its settings: by key in a table, by position in an array. A table is looked
at as a whole, an array only as far as there are settings. A date has nothing that is asked for. -/
def section? : Toml → Option (String → Nat → Option Toml)
  | .table entries =>
    if Toml.readableEntries entries then some fun key _ => entries.lookup key else none
  | .array items => some fun _ i => items[i]?
  | .datetime _ => some fun _ _ => none
  | _ => none

/-- A setting that is found has to be readable; one that is not has its standard value. -/
def setting (found : Option Toml) (read : Toml → Option α) (standard : α) : Option α :=
  match found with
  | none => some standard
  | some v => read v

def textOf? : Toml → Option String
  | .string s => some s
  | _ => none

def numberBelow? (bound : Nat) : Toml → Option Nat
  | .integer n => if 0 ≤ n ∧ n < bound then some n.toNat else none
  | _ => none

def checksumsOf? : Toml → Option Checksums
  | .table entries => do
    return .ofPairs (← entries.mapM fun (name, v) => return (name, ← numberBelow? 65536 v))
  | _ => none

def contractOf? (v : Toml) : Option Contract := do
  let find ← section? v
  return {
    space := ← setting (find "namespace" 0) textOf? Contract.current.space
    version := ← setting (find "version" 1) (numberBelow? 4294967296) Contract.current.version
    checksums := ← setting (find "checksums" 2) checksumsOf? Contract.current.checksums }

def limitOf? (v : Toml) : Option Nat := do
  let find ← section? v
  setting (find "max_registered" 0) (numberBelow? 18446744073709551616) standard.maxRegistered

/-- The settings of a document, with the standard ones for what it does not set. All that is not a
section has to be readable, though nothing is done with it. -/
def ofToml? (document : List (String × Toml)) : Option Settings := do
  let others := document.filter fun e => e.1 ≠ "contract" && e.1 ≠ "callbacks"
  if Toml.readableEntries others then
    return {
      contract := ← setting (document.lookup "contract") contractOf? standard.contract
      maxRegistered := ← setting (document.lookup "callbacks") limitOf? standard.maxRegistered }
  else none

def ofText? (s : String) : Option Settings := do ofToml? (← Toml.parse? s)

/-- The settings in a file. If there is none, they are the standard ones. -/
def load : FoundFile → Except BridgeError Settings
  | .nothing => .ok standard
  | .unreadable => .error .io
  | .content b =>
    match Bytes.toText? b with
    | none => .error .io
    | some s =>
      match ofText? s with
      | some settings => .ok settings
      | none => .error (.configuration "Failed to parse config file")

def toChars (s : Settings) : List Char :=
  "[contract]\n".toList
    ++ Toml.line "namespace" (Toml.stringText s.contract.space)
    ++ Toml.line "version" (Toml.numberText s.contract.version)
    ++ "\n[contract.checksums]\n".toList
    ++ s.contract.checksums.entries.flatMap (fun e => Toml.line e.1 (Toml.numberText e.2))
    ++ "\n[callbacks]\n".toList
    ++ Toml.line "max_registered" (Toml.numberText s.maxRegistered)

/-- What saving leaves in the file, unless there is no place to put it. -/
def save (s : Settings) (writable : Bool) : Except BridgeError Bytes :=
  if writable then .ok (Bytes.ofText (String.ofList s.toChars)) else .error .io

def validate (s : Settings) : Except BridgeError Unit :=
  if s.contract.space = "" then .error (.configuration "namespace must not be empty")
  else if s.contract.version = 0 then .error (.configuration "contract version must be > 0")
  else if s.contract.checksums.entries.any (·.1 = "") then
    .error (.configuration "checksum entries must name an entry point")
  else .ok ()

end Settings
end Boundary

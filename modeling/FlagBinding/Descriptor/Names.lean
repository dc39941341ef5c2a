import FlagBinding.Descriptor.Basic
import FlagBinding.Text.Trim

/-!
# Names of declarations

Every declaration has a full name: its scope and its own name, joined by a dot. The values of an
enumeration stand beside it, not in it. Only packages may be declared more than once. A name that
starts with a dot is a full name. Any other one is looked up in the scope of its use and then in the
scopes around it.

## Main definitions

* `Definition`, `File.definitions`: what a file declares under full names.
* `areDistinct`: whether no full name is declared twice.
* `visibleFiles`: the files whose declarations a file may use.
* `resolve?`: the declaration that a name refers to.
-/

namespace FlagBinding.Descriptor

open Text

/-- What a full name stands for. -/
inductive Entity
  | package
  | message
  | enumeration (e : Enumeration)
  | service
  /-- What holds no declarations and is no type: a field, a group of fields, a value, a method. -/
  | leaf

/-- A full name with what it stands for, and the file that declares it. -/
structure Definition where
  fullName : String
  file : String
  entity : Entity

namespace Entity

def isType : Entity → Bool
  | message => true
  | enumeration _ => true
  | _ => false

def isScope : Entity → Bool
  | leaf => false
  | _ => true

def isPackage : Entity → Bool
  | package => true
  | _ => false

end Entity

/-! ## Definitions of a file -/

def Enumeration.definitions (file scope : String) (e : Enumeration) : List Definition :=
  ⟨qualify scope e.name, file, .enumeration e⟩ ::
    e.values.map fun v => ⟨qualify scope v.name, file, .leaf⟩

def extensionDefinitions (file scope : String) (es : List Extension) : List Definition :=
  es.map fun e => ⟨qualify scope e.field.name, file, .leaf⟩

mutual

/-- What a message declares in a scope. -/
def Message.definitions (file scope : String) : Message → List Definition
  | ⟨name, fields, nested, enumerations, extensions, oneofs, _, _⟩ =>
    let inner := qualify scope name
    ⟨inner, file, .message⟩ ::
      (fields.map fun f => ⟨qualify inner f.name, file, .leaf⟩) ++
      (oneofs.map fun o => ⟨qualify inner o.name, file, .leaf⟩) ++
      Message.definitionsOfAll file inner nested ++
      enumerations.flatMap (Enumeration.definitions file inner) ++
      extensionDefinitions file inner extensions

def Message.definitionsOfAll (file scope : String) : List Message → List Definition
  | [] => []
  | m :: rest => m.definitions file scope ++ Message.definitionsOfAll file scope rest

end

def Service.definitions (file scope : String) (s : Service) : List Definition :=
  let inner := qualify scope s.name
  ⟨inner, file, .service⟩ :: s.methods.map fun m => ⟨qualify inner m.name, file, .leaf⟩

/-- The names that start with the first parts of a dotted name, the shortest first. -/
def enclosing (scope : String) : List String → List String
  | [] => []
  | part :: rest => qualify scope part :: enclosing (qualify scope part) rest

def File.packages (f : File) : List String :=
  if f.package.isEmpty then [] else enclosing "" (pieces '.' f.package)

def File.definitions (f : File) : List Definition :=
  (f.packages.map fun p => ⟨p, f.name, .package⟩) ++
    Message.definitionsOfAll f.name f.package f.messages ++
    f.enumerations.flatMap (Enumeration.definitions f.name f.package) ++
    f.services.flatMap (Service.definitions f.name f.package) ++
    extensionDefinitions f.name f.package f.extensions

/-- Whether no full name is declared twice, unless it is that of a package only. -/
def areDistinct (ds : List Definition) : Bool :=
  let (packages, others) := ds.partition (·.entity.isPackage)
  let names := others.map (·.fullName)
  decide names.Nodup && packages.all fun p => !names.contains p.fullName

/-! ## Visibility -/

/-- The dependencies of a file that its importers see as well. -/
def File.publicNames (f : File) : List String :=
  f.publicDependencies.filterMap fun i =>
    if i < 0 then none else f.dependencies[i.toNatClampNeg]?

/-- The files with one of some names, and those that they let their importers see. -/
def withPublic (files : List File) (names : List String) : List String :=
  names ++ ((files.filter fun f => names.contains f.name).flatMap File.publicNames).filter
    fun n => !names.contains n

/-- The files that are reached from some names in at most `steps` steps. -/
def reached (files : List File) : Nat → List String → List String
  | 0, names => names
  | steps + 1, names => reached files steps (withPublic files names)

/-- The files whose declarations a file may use: itself, its dependencies, and what they let their
importers see. -/
def visibleFiles (files : List File) (f : File) : List String :=
  f.name :: reached files files.length f.dependencies

/-! ## References -/

def find? (ds : List Definition) (fullName : String) : Option Definition :=
  ds.find? (·.fullName = fullName)

/-- The definition of a relative name, of which `first` is the first part and `more` says whether
there are others, as seen from one of the scopes, the innermost first. A name of one part must be a
type; otherwise its first part decides about the scope. -/
def resolveIn? (ds : List Definition) (name first : String) (more : Bool) :
    List String → Option Definition
  | [] => none
  | scope :: outer =>
    match find? ds (qualify scope first) with
    | some d =>
      if more then
        if d.entity.isScope then find? ds (qualify scope name)
        else resolveIn? ds name first more outer
      else if d.entity.isType then some d
      else resolveIn? ds name first more outer
    | none => resolveIn? ds name first more outer

/-- The definition that a name refers to in a scope, among the definitions that are visible. -/
def resolve? (ds : List Definition) (scope name : String) : Option Definition :=
  match name.toList with
  | '.' :: fullName => find? ds (String.ofList fullName)
  | _ =>
    let scopes := (enclosing "" (pieces '.' scope)).reverse ++ [""]
    match pieces '.' name with
    | first :: rest => resolveIn? ds name first (!rest.isEmpty) scopes
    | [] => none

end FlagBinding.Descriptor

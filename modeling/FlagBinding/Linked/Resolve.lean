import FlagBinding.Descriptor.Names
import FlagBinding.Linked.Basic
import FlagBinding.Options.Standard

/-!
# Linking

The descriptors of a list of files become linked files, if they fit together: files and declarations
have names of their own, every reference leads to a declaration that is visible, and the fields of a
message have numbers of their own.

## Main definitions

* `resolveField?`, `resolveMessage?`, `resolveFile?`: declarations with their references followed.
* `resolveFiles?`: all files, and the extensions that they declare.
-/

namespace FlagBinding.Linked

open Descriptor (Definition Edition Label resolve? qualify)
open Options (Target)
open Schema (EnumType)
open Wire (Bytes)

/-- The type of an enumeration with a full name. Its values come in the order of their numbers. -/
def enumType (fullName : String) (e : Descriptor.Enumeration) : EnumType :=
  let values := e.values.mergeSort fun a b => a.number ≤ b.number
  ⟨e.name, fullName, values.map fun v => ⟨v.name, v.number⟩⟩

def isFieldNumber (n : Int) : Bool :=
  1 ≤ n && n < 2 ^ 29 && !(19000 ≤ n && n < 20000)

/-- The type of a field of a scope. A name counts before anything else that is stated. -/
def resolveType? (ds : List Definition) (scope : String) (f : Descriptor.Field) :
    Option FieldType :=
  if f.typeName.isEmpty then
    match f.code with
    | .scalar kind => some (.scalar kind)
    | .bytes => some .bytes
    | _ => none
  else do
    let d ← resolve? ds scope f.typeName
    match d.entity with
    | .message => some (if f.code = .group then .group d.fullName else .message d.fullName)
    | .enumeration e => some (.enumeration (enumType d.fullName e))
    | _ => none

def resolveOneof? (oneofs : List Descriptor.Oneof) : Option Int32 → Option (Option String)
  | none => some none
  | some i => if i < 0 then none else (oneofs[i.toNatClampNeg]?).map fun o => some o.name

/-- The field of a scope that has some groups. -/
def resolveField? (ds : List Definition) (scope : String) (oneofs : List Descriptor.Oneof)
    (f : Descriptor.Field) : Option (Field Bytes) := do
  guard (isFieldNumber f.number.toInt)
  return {
    name := f.name
    number := f.number.toNatClampNeg
    label := f.label
    type := ← resolveType? ds scope f
    oneof := ← resolveOneof? oneofs f.oneofIndex
    proto3Optional := f.proto3Optional
    options := f.options }

def sortFields (fs : List (Field Bytes)) : List (Field Bytes) :=
  fs.mergeSort fun a b => a.number ≤ b.number

/-- The name of a field without underscores and without regard to case. -/
def foldedName (f : Field Bytes) : List Char :=
  (f.name.toList.filter (· ≠ '_')).map Char.toLower

/-- Whether the names of fields differ in more than case and underscores, as the newer edition
demands of them. -/
def haveDistinctNames (edition : Edition) (fs : List (Field Bytes)) : Bool :=
  edition = .proto2 || decide (fs.map foldedName).Nodup

/-- The fields of a scope, of which no two may have one number. -/
def resolveFields? (ds : List Definition) (edition : Edition) (scope : String)
    (oneofs : List Descriptor.Oneof) (fs : List Descriptor.Field) :
    Option (List (Field Bytes)) := do
  let fields ← fs.mapM (resolveField? ds scope oneofs)
  guard (decide (fields.map (·.number)).Nodup)
  guard (haveDistinctNames edition fields)
  return sortFields fields

/-- Whether options make a message stand for the entries of a map. -/
def isMapEntry? (options : Bytes) : Option Bool := do
  let r ← Options.standard.decode? Target.message.optionsType options
  return ((r.get? "map_entry").bind (·.bool?)).getD false

mutual

/-- The message of a scope. -/
def resolveMessage? (ds : List Definition) (edition : Edition) (scope : String) :
    Descriptor.Message → Option (Message Bytes)
  | ⟨name, fields, nested, _, _, oneofs, _, options⟩ => do
    let inner := qualify scope name
    return {
      name := name
      isMapEntry := ← isMapEntry? options
      fields := ← resolveFields? ds edition inner oneofs fields
      nested := ← resolveMessages? ds edition inner nested
      options := options }

def resolveMessages? (ds : List Definition) (edition : Edition) (scope : String) :
    List Descriptor.Message → Option (List (Message Bytes))
  | [] => some []
  | m :: rest => do
    return (← resolveMessage? ds edition scope m) :: (← resolveMessages? ds edition scope rest)

end

/-- The extension that a scope of a file declares. -/
def resolveExtension? (ds : List Definition) (edition : Edition) (scope : String)
    (e : Descriptor.Extension) : Option Extension := do
  let f ← resolveField? ds scope [] e.field
  let d ← resolve? ds scope e.extendee
  match d.entity with
  | .message => return ⟨qualify scope f.name, d.fullName, edition, { f with options := () }⟩
  | _ => none

/-- The extensions of scopes inside a file. -/
abbrev ScopedExtensions := List (String × Descriptor.Extension)

mutual

/-- The extensions that are declared in and under a message of a scope. -/
def extensionsIn (scope : String) : Descriptor.Message → ScopedExtensions
  | ⟨name, _, nested, _, extensions, _, _, _⟩ =>
    (extensions.map fun e => (qualify scope name, e)) ++
      extensionsInAll (qualify scope name) nested

def extensionsInAll (scope : String) : List Descriptor.Message → ScopedExtensions
  | [] => []
  | m :: rest => extensionsIn scope m ++ extensionsInAll scope rest

end

def extensionsOf (f : Descriptor.File) : ScopedExtensions :=
  extensionsInAll f.package f.messages ++ f.extensions.map fun e => (f.package, e)

/-- Whether the input and the output of a method are messages. -/
def checkMethod? (ds : List Definition) (scope : String) (m : Descriptor.Method) :
    Option Unit := do
  for name in [m.input, m.output] do
    match (← resolve? ds scope name).entity with
    | .message => pure ()
    | _ => none

/-- Whether the methods of a service of a scope have messages as their inputs and outputs. -/
def checkService? (ds : List Definition) (scope : String) (s : Descriptor.Service) :
    Option Unit :=
  s.methods.forM (checkMethod? ds (qualify scope s.name))

/-- The file, and the extensions that it declares. -/
def resolveFile? (files : List Descriptor.File) (ds : List Definition) (f : Descriptor.File) :
    Option (File Bytes × List Extension) := do
  let edition ← Edition.ofWord? f.edition
  guard (f.dependencies.all fun name => files.any (·.name = name))
  guard (f.publicDependencies.all fun i => 0 ≤ i && i.toNatClampNeg < f.dependencies.length)
  let visible := Descriptor.visibleFiles files f
  let ds := ds.filter fun d => d.entity.isPackage || visible.contains d.file
  f.services.forM (checkService? ds f.package)
  let messages ← resolveMessages? ds edition f.package f.messages
  let extensions ← (extensionsOf f).mapM fun (scope, e) => resolveExtension? ds edition scope e
  return (⟨f.name, f.package, edition, messages⟩, extensions)

def resolveFiles? (files : List Descriptor.File) : Option (List (File Bytes) × List Extension) := do
  let ds := files.flatMap (·.definitions)
  guard (decide (files.map (·.name)).Nodup)
  guard (Descriptor.areDistinct ds)
  let resolved ← files.mapM (resolveFile? files ds)
  return (resolved.map (·.1), resolved.flatMap (·.2))

end FlagBinding.Linked

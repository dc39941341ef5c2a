import FlagBinding.Binding.Wrap
import FlagBinding.NamingScheme
import FlagBinding.Registry.CommandLine

/-!
# Binding messages to flags

The plan of a message is carried out on a record and a set of flags: its flags are registered with
cells around the fields, and a nested message is created if it is missing and bound in turn. The
first failure ends the binding, and what was done before it stays.

## Main definitions

* `bindMessage`: the binding of a record.
* `assignDefaults`: the declared defaults of a record.
* `Bound.collect`: the record with what its flags hold.
-/

namespace FlagBinding.Binding

open Schema Emit

/-- A flag together with the field, inside of messages, whose content it holds. -/
structure Bound where
  path : List String
  flag : String
  deriving DecidableEq

/-- Why a binding ends early. -/
inductive BindFault
  | flag (error : FlagError)
  /-- The cell of a flag does not fit its field. -/
  | storage (field : String)
  deriving DecidableEq

/-- How far a binding has come. -/
structure Progress where
  record : Record
  registry : Registry
  bound : List Bound
  fault : Option BindFault := none

namespace Progress

/-- The progress that has ended with a fault. -/
def stop (p : Progress) (fault : BindFault) : Progress :=
  { p with fault := some fault }

/-- The progress after a change of the flags that may fail. -/
def change (p : Progress) : Except FlagError Registry → Progress
  | .ok registry => { p with registry }
  | .error e => p.stop (.flag e)

/-- The progress after a step, which is not taken once there is a fault. -/
def andThen (p : Progress) (step : Progress → Progress) : Progress :=
  if p.fault.isSome then p else step p

end Progress

/-- Register the flag of a field, with its marks. -/
def register (scheme : NamingScheme) (r : Registration) (p : Progress) : Progress :=
  match (p.record.get? r.field).bind (wrap? r.cell) with
  | none => p.stop (.storage r.field)
  | some cell =>
    let name := scheme.build r.flag
    let flag : Flag := { name, short := r.short, usage := r.usage, cell }
    match p.registry.add flag with
    | .error e => p.stop (.flag e)
    | .ok registry =>
      let p : Progress := { p with registry, bound := p.bound ++ [Bound.mk [r.field] name] }
      let p := if r.hidden then p.change (p.registry.markHidden name) else p
      p.andThen fun p =>
        match r.deprecation with
        | some hint => p.change (p.registry.markDeprecated name hint)
        | none => p

/-- The record in a field; a blank one if there is none. -/
def nestedRecord (s : Schema) (target : String) : Option Content → Option (Message × Record)
  | some (.message inner) =>
    (s.findMessage? target).map fun m => (m, inner.getD (Record.blank m))
  | _ => none

theorem nestedRecord_eq {s : Schema} {target : String} {m : Message} {held : Option Record}
    (found : s.findMessage? target = some m) :
    nestedRecord s target (some (.message held)) = some (m, held.getD (Record.blank m)) := by
  simp [nestedRecord, found]

/-- Bind a record of a message. `depth` bounds how deep messages are nested. -/
def bindMessage (s : Schema) :
    Nat → NamingScheme → Message → Record → Registry → Progress
  | 0, _, _, record, registry => ⟨record, registry, [], none⟩
  | depth + 1, scheme, m, record, registry =>
    (Plan.ofMessage m).steps.foldl (fun p step => p.andThen fun p =>
      match step with
      | .register r => register scheme r p
      | .nest field segment target =>
        match nestedRecord s target (p.record.get? field) with
        | none => p.stop (.storage field)
        | some (inner, innerRecord) =>
          let q := bindMessage s depth (scheme.nested segment) inner innerRecord p.registry
          { record := p.record.put field (.message (some q.record))
            registry := q.registry
            bound := p.bound ++ q.bound.map fun b => { b with path := field :: b.path }
            fault := q.fault })
      ⟨record, registry, [], none⟩

/-- The value of a declared default. -/
def defaultDatum : DefaultValue → Datum
  | .single x => .single x
  | .double x => .double x
  | .int32 n => .int32 n
  | .int64 n => .int64 n
  | .uint32 n => .uint32 n
  | .uint64 n => .uint64 n
  | .bool b => .bool b

/-- Assign the declared defaults of a message to a record. `depth` bounds how deep messages are
nested. -/
def assignDefaults (s : Schema) : Nat → Message → Record → Record
  | 0, _, record => record
  | depth + 1, m, record =>
    (Plan.ofMessage m).defaults.foldl (fun record step =>
      match step with
      | .assign field mayBeMissing value =>
        let d := defaultDatum value
        record.put field (if mayBeMissing then .optional (some d) else .plain d)
      | .nest field target =>
        match nestedRecord s target (record.get? field) with
        | none => record
        | some (inner, innerRecord) =>
          record.put field (.message (some (assignDefaults s depth inner innerRecord))))
      record

/-- A depth that nested messages do not exceed unless a message nests itself. -/
def depthOf (s : Schema) : Nat :=
  s.messages.length + 1

/-- The record with what the flags hold that are bound to its fields. -/
def Bound.collect (registry : Registry) (bound : List Bound) (record : Record) : Record :=
  bound.foldl (fun record b =>
    match registry.lookup? b.flag with
    | some flag => record.putAt (unwrap flag.cell) b.path
    | none => record) record

end FlagBinding.Binding

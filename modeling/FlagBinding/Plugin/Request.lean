import FlagBinding.Journal
import FlagBinding.Linked.Schema

/-!
# Requests

A compiler of message definitions asks for code with a request: the names of the files for which
code is wanted, a parameter, and the descriptors of these files and of all that they depend on.

## Main definitions

* `RawRequest`: a request with its descriptors as bytes; `RawRequest.read?` reads it.
* `Request`: a request whose descriptors form a pool; `Request.read` reads it.
* `Request.schema`: the schema of a request.
-/

namespace FlagBinding

open Wire (Bytes Entry Payload)

/-- A request with its descriptors as bytes. -/
structure RawRequest where
  filesToGenerate : List String
  parameter : Option String
  files : List Bytes

/-- The request of a byte string, unless it is malformed. -/
def RawRequest.read? (bytes : Bytes) : Option RawRequest := do
  let es ← Entry.readAll? bytes
  return {
    filesToGenerate := ← Wire.Known.all? Payload.text? 1 es
    parameter := ← Wire.Known.last? Payload.text? 2 es
    files := ← Wire.Known.all? Payload.bytes? 15 es }

/-- A request. -/
structure Request where
  filesToGenerate : List String
  parameter : Option String
  pool : Pool

namespace Request

/-- The names of all files, wanted or not. -/
def fileNames (r : Request) : List String :=
  r.pool.files.map (·.name)

/-- The request of a byte string, or why it is refused. Every wanted file has to be among the
files. -/
def read (bytes : Bytes) : Except CompileError Request := do
  let some raw := RawRequest.read? bytes | .error .request
  let some pool := Pool.read? raw.files | .error .descriptors
  let r : Request := ⟨raw.filesToGenerate, raw.parameter, pool⟩
  match r.filesToGenerate.find? fun name => !r.fileNames.contains name with
  | some name => .error (.missingFile name)
  | none => .ok r

def schema (r : Request) : Schema :=
  r.pool.schema r.filesToGenerate

end Request

end FlagBinding

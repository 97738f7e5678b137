import AccessFix.Config
import AccessFix.Document
import AccessFix.Yaml

/-! Settings from a YAML file. A file that does not exist leaves every setting at its default. -/
namespace AccessFix

inductive ValueFault where
  | integer (shown : String)
  | tooManyDigits (count : Nat)
  | decimal (shown : String)
  | notInteger (kind : String)
  | notDecimal (kind : String)
  | notIterable (kind : String)
  | nanToInteger
  | infinityToInteger
  | hugeInteger
  | literal (fault : LiteralFault)
  deriving DecidableEq, Repr

def ValueFault.message : ValueFault → String
  | .integer s => "invalid literal for int() with base 10: " ++ Text.take 200 s
  | .tooManyDigits count => Text.tooManyDigits count
  | .decimal s => "could not convert string to float: " ++ s
  | .notInteger kind =>
    "int() argument must be a string, a bytes-like object or a real number, not '" ++ kind ++ "'"
  | .notDecimal kind => "float() argument must be a string or a real number, not '" ++ kind ++ "'"
  | .notIterable kind => "'" ++ kind ++ "' object is not iterable"
  | .nanToInteger => "cannot convert float NaN to integer"
  | .infinityToInteger => "cannot convert float infinity to integer"
  | .hugeInteger => "int too large to convert to float"
  | .literal .tooManyDigits => Text.tooManyDigitsToWrite
  | .literal .tooDeep => Yaml.Fault.tooDeep.message

inductive ConfigFault where
  | malformed (path : String) (fault : Yaml.Fault)
  | notMapping (path : String)
  | missing (path : String)
  | sectionNotMapping (name path : String)
  | value (path : String) (fault : ValueFault)
  | outOfRange (problems : List RangeProblem)
  deriving DecidableEq, Repr

def ConfigFault.message : ConfigFault → String
  | .malformed path fault => "Failed to parse '" ++ path ++ "': " ++ fault.message
  | .notMapping path => "'" ++ path ++ "' must be a YAML mapping at the top level."
  | .missing path => "Config file not found: '" ++ path ++ "'\nRun " ++ command ++ " to generate a template."
  | .sectionNotMapping name path => "'" ++ name ++ "' in '" ++ path ++ "' must be a mapping."
  | .value path fault => "Invalid value in '" ++ path ++ "': " ++ fault.message
  | .outOfRange problems => "Invalid configuration:\n" ++ "\n".intercalate (problems.map RangeProblem.message)
where
  command : String := String.ofList [Char.ofNat 96] ++ "python -m react_a11y_ai init" ++ String.ofList [Char.ofNat 96]

inductive LoadFault where
  | config (fault : ConfigFault)
  | unreadable (fault : OpenFault)
  | scalar (fault : Yaml.Fault)
  | overflow (fault : ValueFault)
  deriving DecidableEq, Repr

def LoadFault.message : LoadFault → String
  | .config f => f.message
  | .unreadable f => f.message
  | .scalar f => f.message
  | .overflow f => f.message

def LoadFault.ofYaml (path : String) : Yaml.Fault → LoadFault
  | .malformed => .config (.malformed path .malformed)
  | .encoding f => .unreadable (.encoding f)
  | f => .scalar f

def LoadFault.ofValue (path : String) : ValueFault → LoadFault
  | .infinityToInteger => .overflow .infinityToInteger
  | .hugeInteger => .overflow .hugeInteger
  | .literal .tooDeep => .scalar .tooDeep
  | f => .config (.value path f)

namespace Value

def asciiText (bs : List UInt8) : String :=
  String.ofList (bs.map fun b => if b < 128 then Char.ofNat b.toNat else Char.ofNat 0xFFFD)

def integerOf (text : Letters) (shown : String) : Except ValueFault Int :=
  (Text.readInt text).mapError fun
    | .malformed => .integer shown
    | .tooManyDigits n => .tooManyDigits n

def toInt (heap : Heap) (v : Value) : Except ValueFault Int :=
  match v with
  | .string s => integerOf s (Text.quoted s)
  | .octets bs => integerOf (asciiText bs) (Text.quotedOctets bs)
  | _ =>
    match v.number? with
    | some (.int n) => .ok n
    | some (.real (.infinite _)) => .error .infinityToInteger
    | some (.real x) => x.truncate?.elim (.error .nanToInteger) .ok
    | none => .error (.notInteger (heap.kind v))

def doubleOf (text : Letters) (shown : String) : Except ValueFault Double :=
  (Text.readDouble? text).elim (.error (.decimal shown)) .ok

def toDouble (heap : Heap) (v : Value) : Except ValueFault Double :=
  match v with
  | .string s => doubleOf s (Text.quoted s)
  | .octets bs => doubleOf (asciiText bs) (Text.quotedOctets bs)
  | _ =>
    match v.number? with
    | some (.int n) => (Double.ofInt? n).elim (.error .hugeInteger) .ok
    | some (.real x) => .ok x
    | none => .error (.notDecimal (heap.kind v))

def toText (heap : Heap) (v : Value) : Except ValueFault Letters := (heap.text v).mapError .literal

def toTexts (heap : Heap) (v : Value) : Except ValueFault (List Letters) :=
  match heap.items? v with
  | some items => items.mapM (toText heap)
  | none => .error (.notIterable (heap.kind v))

def toCommand (heap : Heap) : Value → Except ValueFault (List Letters)
  | .string s => .ok (Text.words s)
  | v => v.toTexts heap

def toPatterns (heap : Heap) : Value → Except ValueFault (List Letters)
  | .string s => .ok [s]
  | v => v.toTexts heap

end Value

namespace Config

structure Part where
  heap : Heap
  entries : List (Value × Value)
  deriving Repr

namespace Part

def get? (part : Part) (name : Letters) : Option Value := Collection.entry? part.entries name

def present? (part : Part) (name : Letters) : Option Value := (part.get? name).filter part.heap.isPresent

def part? (part : Part) (name path : String) : Except ConfigFault Part :=
  match part.present? name with
  | none => .ok ⟨part.heap, []⟩
  | some v => (part.heap.entries? v).elim (.error (.sectionNotMapping name path)) fun es => .ok ⟨part.heap, es⟩

def convert {α : Type} (part : Part) (name : Letters) (f : Heap → Value → Except ValueFault α) (missing : α) :
    Except ValueFault α :=
  ((part.get? name).map (f part.heap)).getD (.ok missing)

def convertPresent {α : Type} (part : Part) (name : Letters) (f : Heap → Value → Except ValueFault α) (missing : α) :
    Except ValueFault α :=
  ((part.present? name).map (f part.heap)).getD (.ok missing)

end Part

def limitOf (heap : Heap) : Value → Except ValueFault (Option Number)
  | .null => .ok none
  | v => (v.toDouble heap).map fun x => some (.real x)

def ofParts (outerKey : Letters) (model lint : Part) : Except ValueFault Config := do
  let defaults : Config := {}
  let text (name missing : Letters) : Except ValueFault Letters :=
    (model.convertPresent name Value.toText missing).map Text.trim
  return {
    apiKey := ← if outerKey.isEmpty then text "api_key" [] else .ok (Text.trim outerKey)
    endpoint := ← text "endpoint" defaults.endpoint
    model := ← text "model" defaults.model
    maxTokens := ← model.convert "max_tokens" Value.toInt defaults.maxTokens
    temperature := ← model.convert "temperature" (fun heap v => (v.toDouble heap).map .real) defaults.temperature
    timeout := ← model.convert "timeout" limitOf none
    eslintCommand := ← lint.convert "command" Value.toCommand defaults.eslintCommand
    patterns := ← lint.convertPresent "patterns" Value.toPatterns defaults.patterns }

def validate (config : Config) : Except ConfigFault Unit :=
  if config.problems.isEmpty then .ok () else .error (.outOfRange config.problems)

def ofData (outerKey : Letters) (path : String) (data : Data) : Except LoadFault Config := do
  let root : Part ←
    if !data.heap.isPresent data.root then pure ⟨data.heap, []⟩
    else
      match data.heap.entries? data.root with
      | some entries => pure ⟨data.heap, entries⟩
      | none => throw (.config (.notMapping path))
  let model ← (root.part? "openai" path).mapError .config
  let lint ← (root.part? "eslint" path).mapError .config
  let config ← (ofParts outerKey model lint).mapError (LoadFault.ofValue path)
  (config.validate).mapError .config
  return config

def readData (files : Files) (path : String) : Except LoadFault Data := do
  let octets ← (files.read (Path.normal path)).mapError fun f => .unreadable (.file f)
  (Yaml.read octets).mapError (LoadFault.ofYaml path)

def load (files : Files) (outerKey : Letters) (path : String) (required : Bool) : Except LoadFault Config :=
  match files.find? (Path.normal path) with
  | .error fault => .error (.unreadable (.file fault))
  | .ok (some _) => do ofData outerKey path (← readData files path)
  | .ok none => if required then .error (.config (.missing path)) else ofData outerKey path ⟨.null, #[]⟩

end Config

end AccessFix
